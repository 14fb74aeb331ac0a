import AppServer.Http.Message
import AppServer.Text.Blank
import AppServer.Text.Cut

/-!
# Cookies

The pairs of `Cookie` headers and the `Set-Cookie` texts of the session cookie.
A pair is what stands between semicolons, without the blanks around it, cut at
its first equals sign; headers that are not readable are passed over.
-/

namespace AppServer.Http

abbrev Cookie := String × String

/-- The pair of an item between semicolons; an item without an equals sign is none. -/
def cookieOfItem? (item : List Char) : Option Cookie :=
  (Text.cutFirst '=' (Text.trimChars item)).map fun (name, value) =>
    (String.ofList name, String.ofList value)

def cookiesOfText (text : String) : List Cookie :=
  (Text.cutAll ';' text.toList).filterMap cookieOfItem?

/-- The cookies of all readable `Cookie` headers in order. -/
def Headers.cookies (headers : Headers) : List Cookie :=
  ((headers.all "cookie").filterMap readable?).flatMap cookiesOfText

def Headers.cookie? (headers : Headers) (name : String) : Option String :=
  headers.cookies.lookup name

def issueCookie (name id : String) : String := name ++ "=" ++ id ++ "; Path=/; HttpOnly; SameSite=Lax"

def expireCookie (name : String) : String := name ++ "=; Path=/; HttpOnly; SameSite=Lax; Max-Age=0"

/-- Adds a `Set-Cookie` header, unless the text cannot be a header value. -/
def Response.setCookie (r : Response) (text : String) : Response :=
  match headerValue? text with
  | some value => r.addHeader "set-cookie" value
  | none => r

end AppServer.Http
