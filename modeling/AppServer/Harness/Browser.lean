import Std.Data.TreeMap
import AppServer.Harness.Error
import AppServer.Http.Cookie
import AppServer.Json.Writer
import AppServer.Url.Basic

/-!
# Browsers

A browser sends messages to URLs through a client, and the cookies that come back
go into its jar. Which kinds of jars and clients these are is left open; with plain
ones a browser is enough for a site of its own. A closed browser sends nothing and
keeps what it has; only its cookies can still be looked at.
-/

namespace AppServer.Harness

open Http

/-! ### Cookie jars -/

/-- Cookies with the hosts they belong to, one for each host and name. -/
structure CookieJar where
  entries : List (String × Cookie) := []
deriving DecidableEq, Repr

namespace CookieJar

def cookies (jar : CookieJar) (host : String) : List Cookie :=
  (jar.entries.filter fun entry => entry.1 = host).map (·.2)

def forget (jar : CookieJar) (host name : String) : CookieJar :=
  ⟨jar.entries.filter fun entry => !(entry.1 = host && entry.2.1 = name)⟩

def keep (jar : CookieJar) (host : String) (cookie : Cookie) : CookieJar :=
  ⟨(jar.forget host cookie.1).entries ++ [(host, cookie)]⟩

/-- Whether the attributes of a cookie say that it is to be forgotten at once. -/
def isExpired (attributes : List Cookie) : Bool :=
  attributes.any fun item =>
    lowerName item.1 = "max-age" && (item.2 = "0" || item.2.toList.head? = some '-')

/-- Takes in the text of a `Set-Cookie` header. -/
def take (jar : CookieJar) (host text : String) : CookieJar :=
  match Text.cutAll ';' text.toList with
  | [] => jar
  | first :: attributes =>
    match cookieOfItem? first with
    | none => jar
    | some cookie =>
      if isExpired (attributes.filterMap cookieOfItem?) then jar.forget host cookie.1 else jar.keep host cookie

def headerText? (jar : CookieJar) (host : String) : Option String :=
  match jar.cookies host with
  | [] => none
  | cookies => some (Text.join "; " (cookies.map fun cookie => cookie.1 ++ "=" ++ cookie.2))

end CookieJar

/-- The cookies that the text of a `Cookie` header holds, by name; the last of a name counts. -/
def cookieMap (text : String) : Std.TreeMap String String :=
  (cookiesOfText text).foldl (fun held cookie => held.insert cookie.1 cookie.2) {}

def cookiesOfHeader (value : Bytes) : Std.TreeMap String String := cookieMap ((readable? value).getD "")

/-! ### Responses -/

structure BrowserResponse where
  status : Nat
  headers : Headers
  body : String

def BrowserResponse.isSuccess (r : BrowserResponse) : Bool := 200 ≤ r.status && r.status < 300

def BrowserResponse.header? (r : BrowserResponse) (name : String) : Option String := r.headers.text? name

/-! ### Jars and clients -/

/-- A response that has come to a client, as far as it bears on cookies: from where, with which headers, and when. -/
structure Arrival where
  url : Url
  headers : Headers
  moment : Nat

/-- Kinds of jars. What is in a jar may run out, so a jar is asked at a moment. -/
class Jar (J : Type) where
  empty : J
  take : J → Arrival → J
  /-- The value of the `Cookie` header for a URL; none when there are no cookies for it. -/
  header? : J → Url → Nat → Option Bytes

namespace Browser

structure Message where
  method : String
  headers : Headers := []
  body : Bytes := []

end Browser

/-- What comes of a message that a client was to send: the responses that came, in turn, the last of them as a whole
if it could be had, and the world afterwards. -/
structure Conversation (σ : Type) where
  arrivals : List Arrival
  result : Except String BrowserResponse
  world : σ

/-- Sends a message to a URL with the cookies of a jar, in a world `σ`. It may ask elsewhere before it is done, and it
may give up. -/
abbrev Client (J σ : Type) := J → Duration → Url → Browser.Message → σ → Conversation σ

/-! ### Browsers -/

structure Browser (J : Type) where
  isClosed : Bool := false
  jar : J
  timeout : Duration

namespace Browser

variable {J σ : Type} [Jar J]

/-- A browser with a timeout; `env` is the text of the timeout's variable. -/
def create (requested : Duration) (env : Option String) : Except BrowserError (Browser J) :=
  match resolveTimeout requested env with
  | .ok timeout => .ok { jar := Jar.empty, timeout }
  | .error e => .error (.timeout e)

theorem create_eq_ok_iff {requested : Duration} {env : Option String} {b : Browser J} :
    create requested env = .ok b ↔
      ∃ d, resolveTimeout requested env = .ok d ∧ b = { jar := Jar.empty, timeout := d } := by
  rw [create]
  cases resolveTimeout requested env with
  | error e => exact iff_of_false nofun fun ⟨d, hd, _⟩ => nomatch hd
  | ok timeout => simp [eq_comm]

theorem create_eq_error_iff {requested : Duration} {env : Option String} {e : BrowserError} :
    (create requested env : Except BrowserError (Browser J)) = .error e ↔
      ∃ cause, resolveTimeout requested env = .error cause ∧ e = .timeout cause := by
  rw [create]
  cases resolveTimeout requested env with
  | error cause => simp [eq_comm]
  | ok timeout => exact iff_of_false nofun fun ⟨cause, hcause, _⟩ => nomatch hcause

def urlOf (url : String) : Except BrowserError Url :=
  match Url.parse url with
  | .ok u => .ok u
  | .error e => .error (.invalidUrl url e.message)

theorem urlOf_of_ok {url : String} {u : Url} (h : Url.parse url = .ok u) : urlOf url = .ok u := by
  rw [urlOf, h]

theorem urlOf_of_error {url : String} {e : Url.UrlError} (h : Url.parse url = .error e) :
    urlOf url = .error (.invalidUrl url e.message) := by
  rw [urlOf, h]

def cookieHost (u : Url) : String := u.host.elim "" Url.Host.text

/-! ### Requests -/

def isHeaderName (name : String) : Bool :=
  name ≠ "" && name.toList.all fun c =>
    c.isAlphanum || c ∈ ['!', '#', '$', '%', '&', '\'', '*', '+', '-', '.', '^', '_', '`', '|', '~']

/-- The message that asks for a page, with further headers; none when one of them cannot be sent. -/
def getMessage? (headers : List (String × String)) : Option Message := do
  let headers ← headers.mapM fun (header : String × String) =>
    if isHeaderName header.1 then (headerValue? header.2).map fun value => (header.1, value) else none
  some { method := "GET", headers }

def formMessage (fields : List (String × String)) : Message :=
  { method := "POST"
    headers := [("content-type", Bytes.ofText "application/x-www-form-urlencoded")]
    body := Form.encode fields }

def jsonMessage (value : Json) : Message :=
  { method := "POST"
    headers := [("content-type", Bytes.ofText "application/json")]
    body := Bytes.ofText (Json.write value) }

def takeIn (b : Browser J) (arrivals : List Arrival) : Browser J := { b with jar := arrivals.foldl Jar.take b.jar }

def send (b : Browser J) (url : String) (message : Option Message) (client : Client J σ) (world : σ) :
    Except BrowserError BrowserResponse × Browser J × σ :=
  if b.isClosed then (.error .closed, b, world)
  else match urlOf url, message with
    | .error e, _ => (.error e, b, world)
    | .ok _, none => (.error (.request url "builder error"), b, world)
    | .ok u, some message =>
      let talk := client b.jar b.timeout u message world
      (talk.result.mapError (.request url), b.takeIn talk.arrivals, talk.world)

def decode (url : String) (response : BrowserResponse) : Except BrowserError Json :=
  match Json.read? response.body with
  | some value => .ok value
  | none => .error (.decode url "malformed json")

def ask {α : Type} (b : Browser J) (url : String) (message : Option Message)
    (read : BrowserResponse → Except BrowserError α) (client : Client J σ) (world : σ) :
    Except BrowserError α × Browser J × σ :=
  let (result, b, world) := b.send url message client world
  (result.bind read, b, world)

def get (b : Browser J) (url : String) (client : Client J σ) (world : σ) :
    Except BrowserError BrowserResponse × Browser J × σ :=
  b.send url (getMessage? []) client world

def getText (b : Browser J) (url : String) (client : Client J σ) (world : σ) :
    Except BrowserError String × Browser J × σ :=
  b.ask url (getMessage? []) (fun response => .ok response.body) client world

def getTextWithHeaders (b : Browser J) (url : String) (headers : List (String × String)) (client : Client J σ)
    (world : σ) : Except BrowserError String × Browser J × σ :=
  b.ask url (getMessage? headers) (fun response => .ok response.body) client world

def getJson (b : Browser J) (url : String) (client : Client J σ) (world : σ) :
    Except BrowserError Json × Browser J × σ :=
  b.ask url (getMessage? []) (decode url) client world

def postForm (b : Browser J) (url : String) (fields : List (String × String)) (client : Client J σ) (world : σ) :
    Except BrowserError BrowserResponse × Browser J × σ :=
  b.send url (some (formMessage fields)) client world

def postJson (b : Browser J) (url : String) (value : Json) (client : Client J σ) (world : σ) :
    Except BrowserError BrowserResponse × Browser J × σ :=
  b.send url (some (jsonMessage value)) client world

/-! ### Cookies -/

/-- The cookies that would be sent to a URL at a moment, by name. -/
def cookies (b : Browser J) (url : String) (now : Nat) : Except BrowserError (Std.TreeMap String String) := do
  let u ← urlOf url
  match Jar.header? b.jar u now with
  | none => .ok {}
  | some value => .ok (cookiesOfHeader value)

def cookie? (b : Browser J) (url name : String) (now : Nat) : Except BrowserError (Option String) := do
  let cookies ← b.cookies url now
  .ok cookies[name]?

def clearCookies (b : Browser J) : Except BrowserError Unit × Browser J :=
  if b.isClosed then (.error .closed, b) else (.ok (), { b with jar := Jar.empty })

def shutdown (b : Browser J) : Except BrowserError Unit × Browser J := (.ok (), { b with isClosed := true })

end Browser

/-! ### Plain jars and plain clients

A plain jar is enough for a site whose cookies are for all of its paths and stay until they are removed. A plain
client asks once and follows nothing. -/

instance : Jar CookieJar where
  empty := {}
  take jar arrival :=
    let texts := (arrival.headers.all "set-cookie").filterMap readable?
    texts.foldl (fun jar text => jar.take (Browser.cookieHost arrival.url) text) jar
  header? jar u _ := (jar.headerText? (Browser.cookieHost u)).map Bytes.ofText

namespace Browser

/-- The request that carries a message to a URL, with the cookies that belong to it. -/
def requestFor (b : Browser CookieJar) (u : Url) (message : Message) : Request :=
  let cookie := match message.headers.first? "cookie", b.jar.headerText? (cookieHost u) with
    | none, some text => [("cookie", Bytes.ofText text)]
    | _, _ => []
  { method := message.method, target := ⟨none, u.path, u.query⟩, headers := message.headers ++ cookie
    body := message.body }

def receive (b : Browser CookieJar) (u : Url) (response : Response) : Browser CookieJar :=
  b.takeIn [⟨u, response.headers, 0⟩]

end Browser

/-- Carries a request to where a URL points, in a world `σ`; without a response none comes back. -/
abbrev Transport (σ : Type) := Url → Request → σ → Option Response × σ

def Transport.client {σ : Type} (transport : Transport σ) : Client CookieJar σ := fun jar timeout u message world =>
  let b : Browser CookieJar := { jar, timeout }
  match transport u (b.requestFor u message) world with
  | (none, world) => ⟨[], .error "error sending request", world⟩
  | (some response, world) =>
    ⟨[⟨u, response.headers, 0⟩], .ok ⟨response.status, response.headers, Bytes.toTextLenient response.body⟩, world⟩

end AppServer.Harness
