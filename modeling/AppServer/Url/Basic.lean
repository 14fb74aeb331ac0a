import AppServer.Url.Host

/-!
# URLs

A URL is a scheme and what follows it. The schemes of the web always have a
host and a path, on which `.` and `..` are resolved; for other schemes both are
optional. Only absolute texts are read.
-/

namespace AppServer

open Url

structure Url where
  scheme : String
  /-- The user name and, behind a colon, the password, in escaped form. -/
  userInfo : Option String := none
  host : Option Host := none
  /-- The port, unless it is the usual one of the scheme. -/
  port : Option Nat := none
  path : String
  query : Option String := none
  fragment : Option String := none
deriving DecidableEq, Repr

namespace Url

/-! ### Schemes -/

def usualPorts : List (String × Nat) := [("http", 80), ("ws", 80), ("https", 443), ("wss", 443), ("ftp", 21)]

def isWebScheme (scheme : String) : Bool := (usualPorts.lookup scheme).isSome

def readScheme (cs : List Char) : Option (String × List Char) :=
  let isSchemeChar (c : Char) : Bool := c.isAlphanum || c = '+' || c = '-' || c = '.'
  match cs.head?.any Char.isAlpha, cs.dropWhile isSchemeChar with
  | true, ':' :: rest => some (String.ofList ((cs.takeWhile isSchemeChar).map Char.toLower), rest)
  | _, _ => none

/-! ### Characters -/

/-- A text without the blanks around it and the tabs and line breaks inside it. -/
def clean (s : String) : List Char :=
  let isOuter (c : Char) : Bool := c.toNat ≤ 0x20
  let inner := ((s.toList.dropWhile isOuter).reverse.dropWhile isOuter).reverse
  inner.filter fun c => c ≠ '\t' ∧ c ≠ '\n' ∧ c ≠ '\r'

/-- A slash of a path; a backslash counts as one in the schemes of the web. -/
def isSlash (web : Bool) (c : Char) : Bool := c = '/' || (web && c = '\\')

def endsAuthority (web : Bool) (c : Char) : Bool := isSlash web c || c = '?' || c = '#'

def pathEscapes : List Char := [' ', '"', '<', '>', '`', '#', '?', '{', '}']

/-- The characters that a query holds only in escaped form; a quote only for some schemes. -/
def queryEscapes (scheme : String) : List Char :=
  [' ', '"', '<', '>', '#'] ++ (if isWebScheme scheme || scheme = "file" then ['\''] else [])

def fragmentEscapes : List Char := [' ', '"', '<', '>', '`']

def userEscapes : List Char := pathEscapes ++ ['/', ':', ';', '=', '@', '[', '\\', ']', '^', '|']

/-! ### Paths -/

/-- A part of a path with its escaped points in plain form. -/
def plainPoints : List Char → List Char
  | '%' :: '2' :: 'e' :: rest | '%' :: '2' :: 'E' :: rest => '.' :: plainPoints rest
  | c :: rest => c :: plainPoints rest
  | [] => []

/-- The parts of a path with `.` and `..` resolved; `done` is what precedes, last part first. -/
def resolveParts : List (List Char) → List (List Char) → List (List Char)
  | done, [] => done.reverse
  | done, part :: rest =>
    if plainPoints part = ['.', '.'] then
      resolveParts (if rest = [] then [] :: done.drop 1 else done.drop 1) rest
    else if plainPoints part = ['.'] then resolveParts (if rest = [] then [] :: done else done) rest
    else resolveParts (part :: done) rest

def cutPath (web : Bool) (cs : List Char) : List (List Char) :=
  Text.cutAll '/' (cs.map fun c => if isSlash web c then '/' else c)

/-- The path of a URL with an authority; one of the web always has a path. -/
def readPath (web : Bool) (cs : List Char) : String :=
  match cs with
  | [] => if web then "/" else ""
  | c :: rest =>
    let parts := resolveParts [] (cutPath web (if isSlash web c then rest else c :: rest))
    String.ofList (parts.flatMap fun part => '/' :: percentEncode pathEscapes part)

/-! ### Reading -/

def withRest (u : Url) (cs : List Char) : Url :=
  let beforeFragment := cs.takeWhile (· ≠ '#')
  let fragment := match cs.dropWhile (· ≠ '#') with
    | _ :: rest => some (String.ofList (percentEncode fragmentEscapes rest))
    | [] => none
  let query := match beforeFragment with
    | _ :: rest => some (String.ofList (percentEncode (queryEscapes u.scheme) rest))
    | [] => none
  { u with query, fragment }

/-- The port of a URL, none for the usual one of its scheme. -/
def readPort (scheme : String) (cs : List Char) : Except UrlError (Option Nat × List Char) :=
  let digits := cs.takeWhile Char.isDigit
  let rest := cs.dropWhile Char.isDigit
  if 65535 < Text.digitsValue digits then .error .badPort
  else if !(rest.head?.all (endsAuthority true)) then .error .badPort
  else if digits = [] ∨ usualPorts.lookup scheme = some (Text.digitsValue digits) then .ok (none, rest)
  else .ok (some (Text.digitsValue digits), rest)

/-- The host in an authority: up to a colon outside brackets. -/
def hostChars : Bool → List Char → List Char
  | _, [] => []
  | inBrackets, c :: rest =>
    if c = ':' ∧ !inBrackets then []
    else c :: hostChars (if c = '[' then true else if c = ']' then false else inBrackets) rest

def cutUser (cs : List Char) : Option (List Char × List Char) :=
  if '@' ∈ cs then
    let after := (cs.reverse.takeWhile (· ≠ '@')).reverse
    some ((cs.take (cs.length - after.length)).dropLast, after)
  else none

/-- The user name and password of an authority; an empty password is left out with its colon. -/
def readUser? (cs : List Char) : Option String :=
  let name := cs.takeWhile (· ≠ ':')
  let password := cs.drop (name.length + 1)
  if name = [] ∧ password = [] then none
  else
    let encoded := percentEncode userEscapes
    some (String.ofList (encoded name ++ (if password = [] then [] else ':' :: encoded password)))

def readAuthority (scheme : String) (cs : List Char) : Except UrlError Url := do
  let web := isWebScheme scheme
  let authority := cs.takeWhile fun c => !endsAuthority web c
  let rest := cs.dropWhile fun c => !endsAuthority web c
  let (user, place) := match cutUser authority with
    | some (user, place) => (some user, place)
    | none => (none, authority)
  let name := hostChars false place
  let behind := place.drop name.length
  let userInfo := user.bind readUser?
  if name = [] ∧ (web ∨ behind ≠ [] ∨ userInfo.isSome ∨ (user = some [] ∧ rest ≠ [])) then .error .emptyHost
  else
    let host ← readHost web name
    let (port, rest) ← match behind with
      | _ :: digits => readPort scheme (digits ++ rest)
      | [] => .ok (none, rest)
    let path := rest.takeWhile fun c => c ≠ '?' ∧ c ≠ '#'
    let u : Url :=
      { scheme
        userInfo
        host
        port
        path := readPath web path }
    .ok (u.withRest (rest.drop path.length))

def readFile (cs : List Char) : Except UrlError Url := do
  let (name, rest) := match cs with
    | a :: b :: rest =>
      if isSlash true a ∧ isSlash true b then
        (rest.takeWhile fun c => !endsAuthority true c, rest.dropWhile fun c => !endsAuthority true c)
      else ([], cs)
    | _ => ([], cs)
  let isDrive := match name with
    | [letter, mark] => letter.isAlpha && (mark = ':' || mark = '|')
    | _ => false
  let host ← if name = [] ∨ isDrive then .ok none
    else match readHost true name with
      | .ok (.name "localhost") => .ok none
      | .ok host => .ok (some host)
      | .error e => .error e
  let rest := if isDrive then name ++ rest else rest
  let path := rest.takeWhile fun c => c ≠ '?' ∧ c ≠ '#'
  let u : Url := { scheme := "file", host, path := readPath true path }
  .ok (u.withRest (rest.drop path.length))

def parse (s : String) : Except UrlError Url :=
  match readScheme (clean s) with
  | none => .error .noScheme
  | some (scheme, rest) =>
    if scheme = "file" then readFile rest
    else if isWebScheme scheme then readAuthority scheme (rest.dropWhile (isSlash true))
    else match Text.dropStart? ['/', '/'] rest with
      | some rest => readAuthority scheme rest
      | none =>
        let path := rest.takeWhile fun c => c ≠ '?' ∧ c ≠ '#'
        let text := if path.head? = some '/' then readPath false path else String.ofList (percentEncode [] path)
        let u : Url := { scheme, path := text }
        .ok (u.withRest (rest.drop path.length))

/-! ### Writing -/

def text (u : Url) : String :=
  let authority := match u.host with
    | some host =>
      "//" ++ (u.userInfo.elim "" (· ++ "@")) ++ host.text ++ (u.port.elim "" fun n => ":" ++ Text.decimal n)
    | none => if u.scheme = "file" then "//" else ""
  u.scheme ++ ":" ++ authority ++ u.path ++ (u.query.elim "" ("?" ++ ·)) ++ (u.fragment.elim "" ("#" ++ ·))

end Url

end AppServer
