import AppServer.Decimal.Shortest
import AppServer.Json.Reader
import AppServer.Json.Writer
import AppServer.Template.Error

/-!
# Values in templates

How a value of the data is shown, when it counts as true, how two values
compare, and what is found under a name.
-/

namespace AppServer.Template

/-! ### Text of a value -/

mutual

/-- The text of a value: nothing for null, the items of an array between brackets. -/
def display : Json → String
  | .null => ""
  | .bool b => if b then "true" else "false"
  | .number n => Json.numberText n
  | .string s => s
  | .array items => "[" ++ Text.join ", " (displayAll items) ++ "]"
  | .object _ => "[object]"

def displayAll : List Json → List String
  | [] => []
  | item :: rest => display item :: displayAll rest

end

def escapeChar (c : Char) : List Char :=
  match c with
  | '<' => "&lt;".toList
  | '>' => "&gt;".toList
  | '"' => "&quot;".toList
  | '&' => "&amp;".toList
  | '\'' => "&#x27;".toList
  | '`' => "&#x60;".toList
  | '=' => "&#x3D;".toList
  | c => [c]

def escape (s : String) : String := String.ofList (s.toList.flatMap escapeChar)

/-! ### Truth -/

/-- A number with a full significand: neither zero nor tiny nor infinite nor undefined. -/
def isNormal : JsonNumber → Bool
  | .integer i => i ≠ 0
  | .real f =>
    let biased := f.toBits.toNat / Nat.pow 2 52 % Nat.pow 2 11
    0 < biased && biased < 2047

def isDefined : JsonNumber → Bool
  | .integer _ => true
  | .real f => !f.isNaN

/-- Whether a value counts as true; `includeZero` lets every number do so. -/
def isTruthy (includeZero : Bool) : Json → Bool
  | .null => false
  | .bool b => b
  | .number n => if includeZero then isDefined n else isNormal n
  | .string s => s ≠ ""
  | .array items => !items.isEmpty
  | .object fields => !fields.isEmpty

/-! ### Order -/

def binaryForm? : JsonNumber → Option (Int × Int)
  | .integer i => some (i, 0)
  | .real f =>
    match Decimal.classify f with
    | .zero => some (0, 0)
    | .finite b =>
      let significand : Int := b.significand
      some (if Decimal.isNegative f then -significand else significand, b.exponent)
    | .nan | .infinite => none

def compareNumbers (a b : JsonNumber) : Option Ordering := do
  let (m, p) ← binaryForm? a
  let (n, q) ← binaryForm? b
  let least := min p q
  some (compare (m * Nat.pow 2 (p - least).toNat) (n * Nat.pow 2 (q - least).toNat))

def numberOf? (s : String) : Option JsonNumber := do
  let (numeral, rest) ← Json.readNumeral s.toList
  if rest = [] then numeral.value? else none

/-- The order of two values, if they have one: numbers, texts, truth values, and a number with the
text of a number. -/
def compareValues : Json → Json → Option Ordering
  | .number a, .number b => compareNumbers a b
  | .string a, .string b => some (compare a b)
  | .bool a, .bool b => some (compare a.toNat b.toNat)
  | .number a, .string b => (numberOf? b).bind (compareNumbers a)
  | .string a, .number b => (numberOf? a).bind (compareNumbers · b)
  | _, _ => none

/-! ### Members -/

/-- What is found in a value under a name: an item by its index, a field by its name. -/
def member? (name : String) : Json → Except RenderError (Option Json)
  | .array items =>
    match Text.readUnsigned Json.maxUnsigned name with
    | some index => .ok items[index]?
    | none => .error (.badIndex name)
  | .object fields => .ok (fields.lookup name)
  | _ => .ok none

/-- What is found in a value by following names; nothing is found in nothing. -/
def follow : List String → Option Json → Except RenderError (Option Json)
  | [], value => .ok value
  | _ :: _, none => .ok none
  | name :: rest, some value => do follow rest (← member? name value)

/-- A value with further fields put over its own. An array or a text gives its parts their indices as
names. -/
def withFields (fields : List (String × Json)) (value : Json) : Json :=
  let own := match value with
    | .object own => own
    | .array items => items.mapIdx fun i item => (Text.decimal i, item)
    | .string s => s.toList.mapIdx fun i c => (Text.decimal i, .string c.toString)
    | _ => []
  Json.ofFields (own ++ fields)

/-- What the lookup of a value in another one finds: an item by a natural number, a field by a text. -/
def lookupValue (collection index : Json) : Json :=
  match collection, index with
  | .array items, .number (.integer i) => if 0 ≤ i then (items[i.toNat]?).getD .null else .null
  | .object fields, .string name => (fields.lookup name).getD .null
  | _, _ => .null

/-- The size of a value: items, fields, or bytes of a text. -/
def sizeOfValue : Json → Nat
  | .array items => items.length
  | .object fields => fields.length
  | .string s => s.utf8ByteSize
  | _ => 0

end AppServer.Template
