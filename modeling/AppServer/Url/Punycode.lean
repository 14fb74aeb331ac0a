import AppServer.Text.Cut

/-!
# Punycode

Labels in which characters beyond ASCII are written with letters and digits: the
plain characters first, then a number for each other character that tells how
far the pair of code point and position moves on.
-/

namespace AppServer.Url.Punycode

/-! ### Numbers -/

def digitValue? (c : Char) : Option Nat :=
  if c.isLower then some (c.toNat - 97)
  else if c.isUpper then some (c.toNat - 65)
  else if c.isDigit then some (c.toNat - 48 + 26)
  else none

def scaleDown : Nat → Nat → Nat → Nat
  | 0, k, delta => k + 36 * delta / (delta + 38)
  | fuel + 1, k, delta =>
    if 455 < delta then scaleDown fuel (k + 36) (delta / 35) else k + 36 * delta / (delta + 38)

/-- The bias after a number; `first` tells that no character has been put before others. -/
def adapt (delta count : Nat) (first : Bool) : Nat :=
  let delta := if first then delta / 700 else delta / 2
  scaleDown 20 0 (delta + delta / count)

def threshold (k bias : Nat) : Nat := min 26 (max 1 (k - bias))

theorem one_le_threshold (k bias : Nat) : 1 ≤ threshold k bias := by
  simp only [threshold]
  omega

/-- A number of variable length: its value and the text behind it. -/
def readNumber (bias : Nat) : Nat → Nat → Nat → List Char → Option (Nat × List Char)
  | _, _, _, [] => none
  | k, weight, value, c :: rest => do
    let digit ← digitValue? c
    let value := value + digit * weight
    if Nat.pow 2 32 ≤ value then none
    else
      let t := threshold k bias
      if digit < t then some (value, rest)
      else readNumber bias (k + 36) (weight * (36 - t)) value rest

def digit (value : Nat) : Char := Char.ofNat (if value < 26 then 97 + value else 22 + value)

def writeNumber (bias k value : Nat) : List Char :=
  let t := threshold k bias
  if h : value < t then [digit value]
  else
    have : (value - t) / (36 - t) < value := by
      have ht : 1 ≤ t := one_le_threshold k bias
      have := Nat.div_le_self (value - t) (36 - t)
      omega
    digit (t + (value - t) % (36 - t)) :: writeNumber bias (k + 36) ((value - t) / (36 - t))
termination_by value

/-! ### Reading -/

def insertAll : Nat → List Char → Nat → Nat → Nat → List Char → Option (List Char)
  | _, done, _, _, _, [] => some done
  | 0, _, _, _, _, _ => none
  | fuel + 1, done, code, position, bias, cs => do
    let (delta, rest) ← readNumber bias 36 1 0 cs
    let count := done.length + 1
    let index := position + delta
    let code := code + index / count
    let place := index % count
    if 0x10FFFF < code ∨ (0xD800 ≤ code ∧ code < 0xE000) then none
    else
      insertAll fuel (done.take place ++ Char.ofNat code :: done.drop place) code (place + 1)
        (adapt delta count (position = 0)) rest

def decode? (label : List Char) : Option (List Char) :=
  let tail := (label.reverse.takeWhile (· ≠ '-')).reverse
  let plain := (label.take (label.length - tail.length)).dropLast
  if plain.any fun c => 0x80 ≤ c.toNat then none
  else insertAll (label.length + 1) plain 128 0 72 tail

/-! ### Writing -/

structure Writing where
  delta : Nat
  bias : Nat
  count : Nat
  /-- The numbers so far, last digit first. -/
  output : List Char

/-- Passes a character of the text while those with a code point are written, the first of all behind
`plain` characters. -/
def Writing.pass (plain code : Nat) (w : Writing) (c : Char) : Writing :=
  if c.toNat < code then { w with delta := w.delta + 1 }
  else if c.toNat = code then
    { delta := 0, bias := adapt w.delta (w.count + 1) (w.count = plain), count := w.count + 1
      output := (writeNumber w.bias 36 w.delta).reverse ++ w.output }
  else w

/-- Writes the characters from a code point on; `fuel` bounds how many different ones there are. -/
def writeFrom (text : List Char) (plain : Nat) : Nat → Nat → Writing → Writing
  | 0, _, w => w
  | fuel + 1, code, w =>
    match ((text.map Char.toNat).filter (code ≤ ·)).min? with
    | none => w
    | some next =>
      let w := { w with delta := w.delta + (next - code) * (w.count + 1) }
      let w := text.foldl (Writing.pass plain next) w
      writeFrom text plain fuel (next + 1) { w with delta := w.delta + 1 }

def encode (text : List Char) : List Char :=
  let plain := text.filter fun c => c.toNat < 0x80
  let start : Writing := ⟨0, 72, plain.length, []⟩
  let written := writeFrom text plain.length text.length 128 start
  plain ++ (if plain = [] then [] else ['-']) ++ written.output.reverse

end AppServer.Url.Punycode
