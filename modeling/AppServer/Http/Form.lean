import AppServer.Json.Reader
import AppServer.Text.Bytes

/-!
# URL-encoded forms

The fields of a form body: pairs between ampersands, a name and a value around
the first equals sign, a plus sign for each space and two hexadecimal digits
after a percent sign for any other byte. Decoding never fails; a percent sign
without two digits stands for itself.
-/

namespace AppServer.Http.Form

def hexByte? (b : UInt8) : Option UInt8 :=
  (Json.hexValue (Char.ofNat b.toNat)).map Nat.toUInt8

/-- Bytes with their escapes replaced. -/
def percentDecode : Bytes → Bytes
  | [] => []
  | 37 :: a :: b :: rest =>
    match hexByte? a, hexByte? b with
    | some high, some low => (16 * high + low) :: percentDecode rest
    | _, _ => 37 :: percentDecode (a :: b :: rest)
  | b :: rest => b :: percentDecode rest

def decodePart (bytes : Bytes) : String :=
  Bytes.toTextLenient (percentDecode (bytes.map fun b => if b = 43 then 32 else b))

def cutAll (sep : UInt8) : Bytes → List Bytes
  | [] => [[]]
  | b :: rest =>
    if b = sep then [] :: cutAll sep rest
    else match cutAll sep rest with
      | [] => [[b]]
      | part :: parts => (b :: part) :: parts

def field (pair : Bytes) : String × String :=
  (decodePart (pair.takeWhile (· ≠ 61)), decodePart ((pair.dropWhile (· ≠ 61)).drop 1))

/-- The fields of a form body in order; empty pairs do not count. -/
def decode (body : Bytes) : List (String × String) :=
  ((cutAll 38 body).filter (· ≠ [])).map field

/-! ### Writing -/

def isPlainByte (b : UInt8) : Bool :=
  (48 ≤ b && b ≤ 57) || (65 ≤ b && b ≤ 90) || (97 ≤ b && b ≤ 122) || b = 42 || b = 45 || b = 46 ||
    b = 95

def upperHex (n : Nat) : UInt8 := if n < 10 then (48 + n).toUInt8 else (55 + n).toUInt8

def encodeByte (b : UInt8) : Bytes :=
  if isPlainByte b then [b]
  else if b = 32 then [43]
  else [37, upperHex (b.toNat / 16), upperHex (b.toNat % 16)]

def encodePart (text : String) : Bytes := (Bytes.ofText text).flatMap encodeByte

def encode (fields : List (String × String)) : Bytes :=
  List.intercalate [38] (fields.map fun field => encodePart field.1 ++ 61 :: encodePart field.2)

end AppServer.Http.Form
