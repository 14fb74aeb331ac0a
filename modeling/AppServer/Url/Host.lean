import AppServer.Config.Ipv6
import AppServer.Url.Domain
import AppServer.Url.Escape

/-!
# Hosts of URLs

The host of a URL is a domain name or an address. A name whose last label is a
number is an IPv4 address, which may have fewer than four parts and parts in
hexadecimal or octal digits; an IPv6 address stands in brackets.
-/

namespace AppServer.Url

inductive UrlError where
  | noScheme
  | emptyHost
  | badPort
  | badIpv4
  | badIpv6
  | badDomain
  | badHostCharacter
deriving DecidableEq, Repr

def UrlError.message : UrlError → String
  | .noScheme => "relative URL without a base"
  | .emptyHost => "empty host"
  | .badPort => "invalid port number"
  | .badIpv4 => "invalid IPv4 address"
  | .badIpv6 => "invalid IPv6 address"
  | .badDomain => "invalid international domain name"
  | .badHostCharacter => "invalid domain character"

inductive Host where
  /-- A domain name, or the name that a scheme of its own gives to a host. -/
  | name (text : String)
  | ipv4 (address : Nat)
  | ipv6 (groups : List Nat)
deriving DecidableEq, Repr

/-! ### IPv4 addresses -/

def partDigits : List Char → Nat × List Char
  | '0' :: 'x' :: rest | '0' :: 'X' :: rest => (16, rest)
  | '0' :: c :: rest => (8, c :: rest)
  | cs => (10, cs)

/-- The value of a part of an IPv4 address; no digits behind the mark of the base are zero. -/
def partValue? (cs : List Char) : Option Nat :=
  if cs = [] then none
  else
    let (base, digits) := partDigits cs
    digits.foldlM (fun n c => (Json.hexValue c).bind fun d => if d < base then some (base * n + d) else none) 0

/-- The labels of a name; one empty label at the end does not count. -/
def labels (cs : List Char) : List (List Char) :=
  let all := Text.cutAll '.' cs
  if all.getLast? = some [] ∧ 1 < all.length then all.dropLast else all

def endsInNumber (cs : List Char) : Bool :=
  match (labels cs).getLast? with
  | some last => last ≠ [] && (last.all Char.isDigit || (partValue? last).isSome)
  | none => false

/-- The IPv4 address of a name: the last part fills the bytes that the others leave. -/
def readAddress? (cs : List Char) : Option Nat := do
  let parts := labels cs
  if 4 < parts.length then none
  else
    let values ← parts.mapM partValue?
    let last ← values.getLast?
    let front := values.dropLast
    if front.any (255 < ·) ∨ Nat.pow 256 (4 - front.length) ≤ last then none
    else some (front.zipIdx.foldl (fun n (value, i) => n + value * Nat.pow 256 (3 - i)) last)

/-! ### Names -/

def isForbiddenInHost (c : Char) : Bool :=
  c ∈ ['\x00', '\t', '\n', '\r', ' ', '#', '/', ':', '<', '>', '?', '@', '[', '\\', ']', '^', '|']

def domain? (cs : List Char) : Option (List Char) := do
  let text ← Bytes.toText? (Http.Form.percentDecode (Bytes.ofText (String.ofList cs)))
  Domain.ascii? text.toList

/-! ### Reading and writing -/

def readBracketed (inner : List Char) : Except UrlError Host :=
  match (Text.dropEnd? [']'] inner).bind fun cs => Ipv6.parse? (String.ofList cs) with
  | some groups => .ok (.ipv6 groups)
  | none => .error .badIpv6

/-- The host of a URL whose scheme has hosts of its own kind only if `special` is false. -/
def readHost (special : Bool) (cs : List Char) : Except UrlError Host :=
  match cs with
  | '[' :: inner => readBracketed inner
  | _ =>
    if !special then
      if cs.any isForbiddenInHost then .error .badHostCharacter else .ok (.name (String.ofList (percentEncode [] cs)))
    else match domain? cs with
      | none => .error .badDomain
      | some [] => .error .emptyHost
      | some name =>
        if !endsInNumber name then .ok (.name (String.ofList name))
        else match readAddress? name with
          | some address => .ok (.ipv4 address)
          | none => .error .badIpv4

def groupText (n : Nat) : String := String.ofList (Nat.toDigits 16 n)

def groupsText (groups : List Nat) : String := Text.join ":" (groups.map groupText)

/-- The start of the longest run of at least so many zeros, the first of several. -/
def zeroRun? (groups : List Nat) (length : Nat) : Option Nat :=
  (List.range (groups.length + 1 - length)).find? fun i =>
    (groups.drop i).take length = List.replicate length 0

/-- The text of an IPv6 address; two colons stand for the longest run of several zeros. -/
def ipv6Text (groups : List Nat) : String :=
  let run := [8, 7, 6, 5, 4, 3, 2].findSome? fun length =>
    (zeroRun? groups length).map fun start => (start, length)
  match run with
  | some (start, length) => groupsText (groups.take start) ++ "::" ++ groupsText (groups.drop (start + length))
  | none => groupsText groups

def Host.text : Host → String
  | .name text => text
  | .ipv4 address =>
    Text.join "." ([3, 2, 1, 0].map fun i => Text.decimal (address / Nat.pow 256 i % 256))
  | .ipv6 groups => "[" ++ ipv6Text groups ++ "]"

end AppServer.Url
