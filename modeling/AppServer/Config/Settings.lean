import AppServer.Config.Ipv6
import AppServer.Config.Properties

/-!
# Server settings

The settings of a server that its properties hold: host, port, context path and
the prefix of the session cookie. They are read in that order, and the first
that is malformed is reported. Resolved settings are in normal form: a host
without brackets, a context path that is empty or starts with a slash and does
not end with one.
-/

namespace AppServer

structure ServerSettings where
  host : Option String
  port : Option Nat
  /-- The path below which the application is served; empty at the root. -/
  contextPath : String
  cookiePrefix : String
deriving DecidableEq, Repr

namespace ServerSettings

def hostKey : String := "server.host"

def portKey : String := "server.port"

def contextPathKey : String := "server.context_path"

def cookiePrefixKey : String := "application.cookie_prefix"

def defaultCookiePrefix : String := "TRELLIS"

def defaultHost : String := "localhost"

/-! ### Normal forms -/

def unbracket? (s : String) : Option String :=
  match s.toList with
  | '[' :: rest => (Text.dropEnd? [']'] rest).map String.ofList
  | _ => none

def normalizeHost (raw : String) : Except ConfigError String :=
  match unbracket? raw with
  | some inner => if Ipv6.isLiteral inner then .ok inner else .error (.hostNotLiteral hostKey raw)
  | none =>
    if raw.toList.any fun c => c = '[' || c = ']' || c = '/' then .error (.hostNotName hostKey raw)
    else .ok raw

/-- A context path without blanks around it; a lone slash is the root. -/
def normalizeContextPath (raw : String) : Except ConfigError String :=
  let path := Text.trim raw
  if path = "" ∨ path = "/" then .ok ""
  else if path.toList.head? ≠ some '/' then .error (.contextPathStart contextPathKey)
  else if path.toList.getLast? = some '/' then .error (.contextPathEnd contextPathKey)
  else .ok path

def isPrefixChar (c : Char) : Bool := c.isAlphanum || c = '_' || c = '-'

def normalizeCookiePrefix (raw : String) : Except ConfigError String :=
  let token := Text.trim raw
  if token ≠ "" ∧ token.toList.all isPrefixChar then .ok token
  else .error (.cookiePrefix cookiePrefixKey)

/-! ### From properties -/

/-- The host that properties set; a blank one counts as none. -/
def hostOf (p : Properties) : Except ConfigError (Option String) :=
  match p.get? hostKey with
  | none => .ok none
  | some raw =>
    let host := Text.trim raw
    if host = "" then .ok none else (normalizeHost host).map some

def ofProperties (p : Properties) : Except ConfigError ServerSettings := do
  let host ← hostOf p
  let port ← p.getPort portKey
  let contextPath ← normalizeContextPath (p.getD contextPathKey "")
  let cookiePrefix ← normalizeCookiePrefix (p.getD cookiePrefixKey defaultCookiePrefix)
  .ok ⟨host, port, contextPath, cookiePrefix⟩

/-! ### Addresses -/

/-- Host and port in one text, with brackets around an IPv6 literal. -/
def authority (host : String) (port : Nat) : String :=
  (if Ipv6.isLiteral host then "[" ++ host ++ "]" else host) ++ ":" ++ Text.decimal port

def advertisedHost (s : ServerSettings) : String := s.host.getD defaultHost

def advertisedAuthority (s : ServerSettings) (port : Nat) : String :=
  authority s.advertisedHost port

def bindAddress (s : ServerSettings) (host : String) (port : Nat) : String :=
  authority (s.host.getD host) port

def sessionCookieName (s : ServerSettings) : String := s.cookiePrefix ++ "_SESSION"

end ServerSettings

end AppServer
