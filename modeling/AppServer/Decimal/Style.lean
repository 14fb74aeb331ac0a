import AppServer.Decimal.Shortest
import AppServer.Text.Number

/-!
# Styles of decimal text

How the shortest digits of a binary number are laid out: which of two equally
near ones are taken, where positional writing ends, whether a whole number
keeps `.0`, and the names of the values that have no digits. A style is a record; `Style.write` applies it.
-/

namespace AppServer.Decimal

structure Style where
  tie : Tie
  /-- The least and the greatest number of digits before the point that are written positionally. -/
  positional : Option (Int × Int)
  keepPoint : Bool
  /-- The text of a value that is not a number. -/
  nan : String
  infinite : String

/-- Positional at any size; a whole number has no point. Of two equally near digits the greater is taken. -/
def Style.plain : Style := ⟨.away, none, false, "NaN", "inf"⟩

/-- Positional between `1e-5` and `1e16`, then with an exponent; a whole number keeps `.0`. Of two equally
near digits the even one is taken. -/
def Style.scientific : Style := ⟨.toEven, some (-4, 16), true, "null", "null"⟩

/-- Digits without trailing zeros, and the exponent that goes with them; `fuel` bounds the zeros. -/
def stripZeros : Nat → Digits → Digits
  | 0, d => d
  | fuel + 1, d =>
    if d.digits ≠ 0 ∧ d.digits % 10 = 0 then stripZeros fuel ⟨d.digits / 10, d.exponent + 1⟩ else d

def positionalText (keepPoint : Bool) (digits : List Char) (exponent : Int) : List Char :=
  let whole := (digits.length : Int) + exponent
  if 0 ≤ exponent then
    digits ++ List.replicate exponent.toNat '0' ++ if keepPoint then ['.', '0'] else []
  else if 0 < whole then digits.take whole.toNat ++ '.' :: digits.drop whole.toNat
  else '0' :: '.' :: List.replicate (-whole).toNat '0' ++ digits

def exponentText (digits : List Char) (exponent : Int) : List Char :=
  let power := exponent + digits.length - 1
  let tail := 'e' :: (if 0 ≤ power then ['+'] else []) ++ (Text.decimalInt power).toList
  match digits with
  | [] => tail
  | [d] => d :: tail
  | d :: rest => d :: '.' :: rest ++ tail

def Style.write (style : Style) (f : Float) : String :=
  let sign := if isNegative f then "-" else ""
  match classify f with
  | .nan => style.nan
  | .infinite => sign ++ style.infinite
  | .zero => sign ++ if style.keepPoint then "0.0" else "0"
  | .finite magnitude =>
    let short := stripZeros 20 (magnitude.shortest style.tie)
    let digits := Nat.toDigits 10 short.digits
    let whole := (digits.length : Int) + short.exponent
    let isPositional := match style.positional with
      | none => true
      | some (least, greatest) => least ≤ whole && whole ≤ greatest
    sign ++ String.ofList
      (if isPositional then positionalText style.keepPoint digits short.exponent
      else exponentText digits short.exponent)

end AppServer.Decimal
