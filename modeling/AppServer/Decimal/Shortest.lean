/-!
# Shortest decimal digits

Among the decimal numbers that round to a given binary number, those with the
fewest digits, and of these the nearest one. The search is exact: it compares
integers, for one digit, two digits and so on up to seventeen, and on each
decimal grid only the two neighbours of the number can lie in its rounding
interval if any grid point does. Where both are equally near, a choice is given.
-/

namespace AppServer.Decimal

/-! ### Binary numbers -/

/-- A positive number `significand * 2 ^ exponent` with the interval of the reals that round to it. -/
structure Binary where
  significand : Nat
  exponent : Int
  /-- Whether the next lower number is only half as far away as the next higher one. -/
  atPowerOfTwo : Bool

inductive Class where
  | nan
  | infinite
  | zero
  | finite (magnitude : Binary)

def isNegative (f : Float) : Bool := f.toBits.toNat / Nat.pow 2 63 = 1

/-- Reads a number from its bits: eleven of exponent, fifty-two of fraction. -/
def classify (f : Float) : Class :=
  let bits := f.toBits.toNat % Nat.pow 2 63
  let fraction : Nat := bits % Nat.pow 2 52
  let biased : Nat := bits / Nat.pow 2 52
  if biased = 2047 then (if fraction = 0 then .infinite else .nan)
  else if biased = 0 then (if fraction = 0 then .zero else .finite ⟨fraction, -1074, false⟩)
  else .finite ⟨fraction + Nat.pow 2 52, (biased : Int) - 1075, fraction = 0 ∧ 1 < biased⟩

/-! ### The search -/

/-- The digits of a decimal number, `digits * 10 ^ exponent`. -/
structure Digits where
  digits : Nat
  exponent : Int

def ratio (base : Nat) (e : Int) : Nat × Nat := (Nat.pow base e.toNat, Nat.pow base (-e).toNat)

inductive Tie where
  | toEven
  | away
deriving DecidableEq, Repr

/-- Whether the nearer to zero of two neighbours is taken. -/
def Tie.keepsLower (tie : Tie) (lower : Nat) : Bool :=
  match tie with
  | .toEven => lower % 2 = 0
  | .away => false

namespace Binary

/-- The number in units of `2 ^ (exponent - 2)`. -/
def middle (b : Binary) : Nat := 4 * b.significand

def lower (b : Binary) : Nat := if b.atPowerOfTwo then b.middle - 1 else b.middle - 2

def upper (b : Binary) : Nat := b.middle + 2

def endsIncluded (b : Binary) : Bool := b.significand % 2 = 0

/-- The number of digits before the decimal point, negative when zeros follow the point. -/
def magnitude (b : Binary) : Int :=
  let (num, den) := ratio 2 b.exponent
  let num := num * b.significand
  if den ≤ num then ((Nat.toDigits 10 (num / den)).length : Nat)
  else
    let zeros := (List.range 400).find? fun j => den ≤ num * Nat.pow 10 j
    1 - (zeros.getD 0 : Nat)

/-- The nearest grid point inside the rounding interval, for the grid of multiples of `10 ^ e`. -/
def onGrid? (b : Binary) (tie : Tie) (e : Int) : Option Digits :=
  let (num2, den2) := ratio 2 (b.exponent - 2)
  let (num10, den10) := ratio 10 e
  let point (c : Nat) := c * num10 * den2
  let scale (x : Nat) := x * num2 * den10
  let inside (c : Nat) : Bool :=
    if b.endsIncluded then scale b.lower ≤ point c ∧ point c ≤ scale b.upper
    else scale b.lower < point c ∧ point c < scale b.upper
  let below := scale b.middle / (num10 * den2)
  let above := below + 1
  match inside below, inside above with
  | false, false => none
  | true, false => some ⟨below, e⟩
  | false, true => some ⟨above, e⟩
  | true, true =>
    let toBelow := scale b.middle - point below
    let toAbove := point above - scale b.middle
    if toBelow < toAbove ∨ (toBelow = toAbove ∧ tie.keepsLower below) then some ⟨below, e⟩
    else some ⟨above, e⟩

def shortest (b : Binary) (tie : Tie) : Digits :=
  let top := b.magnitude
  ((List.range 17).findSome? fun n : Nat => b.onGrid? tie (top - (n + 1 : Nat))).getD ⟨0, 0⟩

end Binary

end AppServer.Decimal
