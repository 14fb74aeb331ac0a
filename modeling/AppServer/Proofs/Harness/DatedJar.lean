import AppServer.Harness.Browser
import AppServer.Text.Number

/-!
# Dated jars

Jars whose cookies are for the paths below one, and may run out. They hold cookies of one name
for different paths, and what they would send changes with time.
-/

namespace AppServer.Harness

open Http

structure DatedCookie where
  host : String
  path : String
  cookie : Cookie
  /-- The moment from which on the cookie is not sent any more. -/
  until? : Option Nat
deriving DecidableEq

structure DatedJar where
  entries : List DatedCookie
deriving DecidableEq

namespace DatedJar

def attribute? (attributes : List Cookie) (name : String) : Option String :=
  (attributes.find? fun item => lowerName item.1 = name).map (·.2)

def cookie? (host text : String) (moment : Nat) : Option DatedCookie :=
  match Text.cutAll ';' text.toList with
  | [] => none
  | first :: attributes => do
    let cookie ← cookieOfItem? first
    let said := attributes.filterMap cookieOfItem?
    let age? := (attribute? said "max-age").bind (Text.readUnsigned (Nat.pow 10 9))
    some ⟨host, (attribute? said "path").getD "/", cookie, age?.map (moment + ·)⟩

def keep (jar : DatedJar) (dated : DatedCookie) : DatedJar :=
  ⟨jar.entries.filter (fun entry =>
    !(entry.host = dated.host && entry.path = dated.path && entry.cookie.1 = dated.cookie.1)) ++ [dated]⟩

def take (jar : DatedJar) (host : String) (moment : Nat) (texts : List String) : DatedJar :=
  (texts.filterMap (cookie? host · moment)).foldl keep jar

def isBelow (path place : List Char) : Bool :=
  place.isPrefixOf path && (place.getLast? = some '/' || (path.drop place.length).head?.all (· = '/'))

def isSent (dated : DatedCookie) (host path : String) (now : Nat) : Bool :=
  dated.host = host && isBelow path.toList dated.path.toList && dated.until?.all (now < ·)

def headerText? (jar : DatedJar) (host path : String) (now : Nat) : Option String :=
  match jar.entries.filter (isSent · host path now) with
  | [] => none
  | sent => some (Text.join "; " (sent.map fun dated => dated.cookie.1 ++ "=" ++ dated.cookie.2))

instance : Jar DatedJar where
  empty := ⟨[]⟩
  take jar arrival := jar.take (Browser.cookieHost arrival.url) arrival.moment
    ((arrival.headers.all "set-cookie").filterMap readable?)
  header? jar u now := (jar.headerText? (Browser.cookieHost u) u.path now).map Bytes.ofText

theorem foldl_take_singleton {arrival : Arrival} {host : String} (hhost : Browser.cookieHost arrival.url = host) :
    [arrival].foldl Jar.take (Jar.empty : DatedJar) =
      take ⟨[]⟩ host arrival.moment ((arrival.headers.all "set-cookie").filterMap readable?) := by
  rw [← hhost]
  rfl

theorem header?_eq {jar : DatedJar} {u : Url} {host path : String} (hhost : Browser.cookieHost u = host)
    (hpath : u.path = path) (now : Nat) : Jar.header? jar u now = (jar.headerText? host path now).map Bytes.ofText := by
  rw [← hhost, ← hpath]
  rfl

end DatedJar

end AppServer.Harness
