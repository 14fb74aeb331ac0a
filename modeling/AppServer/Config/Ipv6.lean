import AppServer.Json.Reader
import AppServer.Text.Cut
import AppServer.Text.Number

/-!
# IPv6 literals

The texts that write an IPv6 address: eight groups of one to four hexadecimal
digits, of which one run may be left out with two colons, and of which the last
two may be written as an IPv4 address. Neither brackets nor a zone belong to it.
-/

namespace AppServer.Ipv6

def readGroup (cs : List Char) : Option Nat :=
  if cs = [] ∨ 4 < cs.length then none
  else cs.foldlM (fun n c => (Json.hexValue c).map (16 * n + ·)) 0

/-- A part of an IPv4 address: up to three digits, no leading zero, at most 255. -/
def readPart (cs : List Char) : Option Nat :=
  if cs = [] ∨ 3 < cs.length ∨ !cs.all Char.isDigit ∨ (cs.head? = some '0' ∧ 1 < cs.length) then none
  else if Text.digitsValue cs ≤ 255 then some (Text.digitsValue cs) else none

def readIpv4 (cs : List Char) : Option (List Nat) :=
  match Text.cutAll '.' cs with
  | [a, b, c, d] => do some [← readPart a, ← readPart b, ← readPart c, ← readPart d]
  | _ => none

/-- The groups of a text between colons; the last may be an IPv4 address, which makes two. -/
def readGroups (mayEndInIpv4 : Bool) : List (List Char) → Option (List Nat)
  | [] => some []
  | [part] =>
    match readGroup part with
    | some group => some [group]
    | none =>
      if mayEndInIpv4 then
        match readIpv4 part with
        | some [a, b, c, d] => some [256 * a + b, 256 * c + d]
        | _ => none
      else none
  | part :: rest => do
    let group ← readGroup part
    some (group :: (← readGroups mayEndInIpv4 rest))

def readSide (mayEndInIpv4 : Bool) (cs : List Char) : Option (List Nat) :=
  if cs = [] then some [] else readGroups mayEndInIpv4 (Text.cutAll ':' cs)

/-- The parts before and after the first two colons in a row. -/
def cutGap : List Char → Option (List Char × List Char)
  | ':' :: ':' :: rest => some ([], rest)
  | c :: rest => (cutGap rest).map fun (before, after) => (c :: before, after)
  | [] => none

def parse? (s : String) : Option (List Nat) :=
  match cutGap s.toList with
  | none => do
    let groups ← readSide true s.toList
    if groups.length = 8 then some groups else none
  | some (before, after) => do
    let front ← readSide false before
    let back ← readSide true after
    if front.length + back.length < 8 then
      some (front ++ List.replicate (8 - front.length - back.length) 0 ++ back)
    else none

def isLiteral (s : String) : Bool := (parse? s).isSome

end AppServer.Ipv6
