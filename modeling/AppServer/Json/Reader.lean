import AppServer.Json.Basic
import AppServer.Text.Cut
import AppServer.Text.Number

/-!
# Reading JSON

The value of a JSON text. `Json.readExact?` keeps every integer as it is
written; `Json.read?` keeps the integers of 64 bits, signed or unsigned, and
approximates all others. A number too large to approximate, a text nested more
than 127 deep and anything after the value are refused.
-/

namespace AppServer.Json

def isSpace (c : Char) : Bool := c = ' ' || c = '\n' || c = '\t' || c = '\r'

/-- A text from its first character that is no blank. -/
def skipSpace (cs : List Char) : List Char := cs.dropWhile isSpace

/-! ### Strings -/

def hexValue (c : Char) : Option Nat :=
  if '0' ≤ c ∧ c ≤ '9' then some (c.toNat - 48)
  else if 'a' ≤ c ∧ c ≤ 'f' then some (c.toNat - 87)
  else if 'A' ≤ c ∧ c ≤ 'F' then some (c.toNat - 55)
  else none

def readHex4 : List Char → Option (Nat × List Char)
  | a :: b :: c :: d :: rest => do
    let value := 4096 * (← hexValue a) + 256 * (← hexValue b) + 16 * (← hexValue c) + (← hexValue d)
    some (value, rest)
  | _ => none

/-- The character of an escape with four digits; two surrogates make one character. -/
def readUnicode (cs : List Char) : Option (Char × List Char) := do
  let (first, rest) ← readHex4 cs
  if 0xDC00 ≤ first ∧ first ≤ 0xDFFF then none
  else if 0xD800 ≤ first ∧ first ≤ 0xDBFF then
    let rest ← Text.dropStart? ['\\', 'u'] rest
    let (second, rest) ← readHex4 rest
    if 0xDC00 ≤ second ∧ second ≤ 0xDFFF then
      some (Char.ofNat (0x10000 + (first - 0xD800) * 0x400 + (second - 0xDC00)), rest)
    else none
  else some (Char.ofNat first, rest)

def simpleEscape (c : Char) : Option Char :=
  if c = '"' ∨ c = '\\' ∨ c = '/' then some c
  else if c = 'b' then some '\x08'
  else if c = 'f' then some '\x0c'
  else if c = 'n' then some '\n'
  else if c = 'r' then some '\r'
  else if c = 't' then some '\t'
  else none

/-- The characters of a string up to its closing quote; `fuel` bounds their number. -/
def readStringBody : Nat → List Char → List Char → Option (String × List Char)
  | 0, _, _ => none
  | _, _, [] => none
  | fuel + 1, done, '\\' :: 'u' :: rest => do
    let (c, rest) ← readUnicode rest
    readStringBody fuel (c :: done) rest
  | fuel + 1, done, '\\' :: e :: rest => do
    let c ← simpleEscape e
    readStringBody fuel (c :: done) rest
  | fuel + 1, done, c :: rest =>
    if c = '"' then some (String.ofList done.reverse, rest)
    else if c.toNat < 0x20 ∨ c = '\\' then none
    else readStringBody fuel (c :: done) rest

def readString (cs : List Char) : Option (String × List Char) := readStringBody (cs.length + 1) [] cs

/-! ### Numbers -/

/-- The parts of a number as they are written. -/
structure Numeral where
  negative : Bool
  whole : List Char
  /-- The digits after the point, if there is one. -/
  fraction : Option (List Char)
  exponent : Option Int

def readDigits (cs : List Char) : Option ((List Char) × List Char) :=
  match cs.takeWhile Char.isDigit with
  | [] => none
  | digits => some (digits, cs.dropWhile Char.isDigit)

def readExponent (cs : List Char) : Option (Int × List Char) := do
  let (sign, cs) := match cs with
    | '-' :: rest => ((-1 : Int), rest)
    | '+' :: rest => (1, rest)
    | _ => (1, cs)
  let (digits, rest) ← readDigits cs
  some (sign * Text.digitsValue digits, rest)

/-- A number; a leading zero must stand alone. -/
def readNumeral (cs : List Char) : Option (Numeral × List Char) := do
  let (negative, cs) := match cs with
    | '-' :: rest => (true, rest)
    | _ => (false, cs)
  let (whole, cs) ← readDigits cs
  if whole.head? = some '0' ∧ 1 < whole.length then none
  else
    let (fraction, cs) ← match cs with
      | '.' :: rest => (readDigits rest).map fun (digits, rest) => (some digits, rest)
      | _ => some (none, cs)
    let (exponent, cs) ← match cs with
      | 'e' :: rest | 'E' :: rest => (readExponent rest).map fun (e, rest) => (some e, rest)
      | _ => some (none, cs)
    some (⟨negative, whole, fraction, exponent⟩, cs)

def maxUnsigned : Nat := Nat.pow 2 64 - 1

/-- The significand of a number: the longest run of its digits, `kept` so far, that fits 64 bits. -/
def fitDigits : Nat → List Char → Nat × List Char
  | kept, [] => (kept, [])
  | kept, c :: rest =>
    let next := 10 * kept + (c.toNat - 48)
    if next ≤ maxUnsigned then fitDigits next rest else (kept, c :: rest)

/-- `f * 10 ^ exponent` for a nonnegative `f`, none when it is too large; `fuel` bounds the divisions. -/
def scale : Nat → Float → Int → Option Float
  | fuel, f, exponent =>
    if 0 ≤ exponent then
      if exponent ≤ 308 then
        let scaled := f * Float.ofScientific 1 false exponent.toNat
        if scaled.isInf then none else some scaled
      else if f == 0 then some f else none
    else if -308 ≤ exponent then some (f / Float.ofScientific 1 false exponent.natAbs)
    else if f == 0 then some f
    else match fuel with
      | 0 => some 0
      | fuel + 1 => scale fuel (f / Float.ofScientific 1 false 308) (exponent + 308)

/-- The approximation of a number from its first digits that fit 64 bits. Each further digit of the
whole part counts as a power of ten; the fraction still adds the digits that fit. -/
def Numeral.approximate (n : Numeral) : Option Float := do
  let fraction := n.fraction.getD []
  let (kept, dropped) := fitDigits 0 n.whole
  let (kept, unread) := fitDigits kept fraction
  let scaleBy := (dropped.length : Int) + unread.length - fraction.length
  let magnitude ← scale 12 (Float.ofNat kept) (scaleBy + n.exponent.getD 0)
  some (if n.negative then -magnitude else magnitude)

def Numeral.exact? (n : Numeral) : Option JsonNumber :=
  match n.fraction, n.exponent with
  | none, none =>
    if n.negative ∧ Text.digitsValue n.whole = 0 then some (.real (-0.0))
    else
      let value : Int := Text.digitsValue n.whole
      some (.integer (if n.negative then -value else value))
  | _, _ => n.approximate.map .real

/-- The number with integers outside 64 bits approximated. -/
def Numeral.value? (n : Numeral) : Option JsonNumber := do
  match ← n.exact? with
  | .integer i =>
    if -(Nat.pow 2 63 : Int) ≤ i ∧ i ≤ maxUnsigned then some (.integer i) else n.approximate.map .real
  | .real f => some (.real f)

/-! ### Values -/

def readWord (cs : List Char) : Option (Json × List Char) :=
  match Text.dropStart? "null".toList cs with
  | some rest => some (.null, rest)
  | none => match Text.dropStart? "true".toList cs with
    | some rest => some (.bool true, rest)
    | none => (Text.dropStart? "false".toList cs).map fun rest => (.bool false, rest)

mutual

/-- A value nested at most `depth` deep, its numbers read by `number`; `fuel` bounds the steps. -/
def readValue (number : Numeral → Option JsonNumber) : Nat → Nat → List Char → Option (Json × List Char)
  | 0, _, _ => none
  | fuel + 1, depth, cs =>
    match skipSpace cs with
    | '"' :: rest => (readString rest).map fun (s, rest) => (.string s, rest)
    | '[' :: rest =>
      match depth, skipSpace rest with
      | 0, _ => none
      | _, ']' :: rest => some (.array [], rest)
      | depth + 1, rest => readItems number fuel depth [] rest
    | '{' :: rest =>
      match depth, skipSpace rest with
      | 0, _ => none
      | _, '}' :: rest => some (.object [], rest)
      | depth + 1, rest => readFields number fuel depth [] rest
    | c :: rest =>
      if c = '-' ∨ c.isDigit then do
        let (n, rest) ← readNumeral (c :: rest)
        some (.number (← number n), rest)
      else readWord (c :: rest)
    | [] => none

/-- The items of an array after those in `done`. -/
def readItems (number : Numeral → Option JsonNumber) :
    Nat → Nat → List Json → List Char → Option (Json × List Char)
  | 0, _, _, _ => none
  | fuel + 1, depth, done, cs => do
    let (item, rest) ← readValue number fuel depth cs
    match skipSpace rest with
    | ',' :: rest => readItems number fuel depth (item :: done) rest
    | ']' :: rest => some (.array (item :: done).reverse, rest)
    | _ => none

def readFields (number : Numeral → Option JsonNumber) :
    Nat → Nat → List (String × Json) → List Char → Option (Json × List Char)
  | 0, _, _, _ => none
  | fuel + 1, depth, done, cs =>
    match skipSpace cs with
    | '"' :: rest => do
      let (name, rest) ← readString rest
      match skipSpace rest with
      | ':' :: rest =>
        let (value, rest) ← readValue number fuel depth rest
        match skipSpace rest with
        | ',' :: rest => readFields number fuel depth ((name, value) :: done) rest
        | '}' :: rest => some (ofFields ((name, value) :: done).reverse, rest)
        | _ => none
      | _ => none
    | _ => none

end

def maxDepth : Nat := 127

def readWith (number : Numeral → Option JsonNumber) (s : String) : Option Json := do
  let cs := s.toList
  let (value, rest) ← readValue number (2 * cs.length + 2) maxDepth cs
  if skipSpace rest = [] then some value else none

/-- The value of a JSON text, with integers of any size. -/
def readExact? (s : String) : Option Json := readWith Numeral.exact? s

def read? (s : String) : Option Json := readWith Numeral.value? s

/-! ### Names of alternatives -/

/-- The name in a text that is a string, or an object with one field that is null; both ways name an
alternative without contents. -/
def readVariant? (s : String) : Option String := do
  let (name, rest) ← match skipSpace s.toList with
    | '"' :: rest => readString rest
    | '{' :: rest =>
      match skipSpace rest with
      | '"' :: rest => do
        let (name, rest) ← readString rest
        let rest ← Text.dropStart? [':'] (skipSpace rest)
        let rest ← Text.dropStart? "null".toList (skipSpace rest)
        let rest ← Text.dropStart? ['\x7d'] (skipSpace rest)
        some (name, rest)
      | _ => none
    | _ => none
  if skipSpace rest = [] then some name else none

end AppServer.Json
