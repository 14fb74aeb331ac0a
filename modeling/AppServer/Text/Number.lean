/-!
# Unsigned decimal numbers

The reading of an unsigned number from a text: an optional plus sign, one or
more ASCII digits, and a value up to a bound. Leading zeros are allowed.
-/

namespace AppServer.Text

def digitsValue (cs : List Char) : Nat := cs.foldl (fun n c => 10 * n + (c.toNat - 48)) 0

def unsignedDigits : List Char → List Char
  | '+' :: rest => rest
  | cs => cs

def readUnsigned (bound : Nat) (s : String) : Option Nat :=
  let digits := unsignedDigits s.toList
  if digits ≠ [] ∧ digits.all Char.isDigit ∧ digitsValue digits ≤ bound then
    some (digitsValue digits)
  else none

theorem readUnsigned_le {bound : Nat} {s : String} {n : Nat} (h : readUnsigned bound s = some n) :
    n ≤ bound := by
  simp only [readUnsigned, Option.ite_none_right_eq_some, Option.some.injEq] at h
  exact h.2 ▸ h.1.2.2

def decimal (n : Nat) : String := String.ofList (Nat.toDigits 10 n)

def decimalInt (i : Int) : String :=
  if i < 0 then "-" ++ decimal i.natAbs else decimal i.natAbs

end AppServer.Text
