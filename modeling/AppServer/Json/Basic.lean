/-!
# JSON values

A value of JSON data. An object is a list of fields in the order of their
names with no name twice; `Json.object` is built through `Json.ofFields`, which
keeps that form and lets the last field of a name win.
-/

namespace AppServer

/-- A number of JSON data: an integer, or a binary approximation of any other number. -/
inductive JsonNumber where
  | integer (value : Int)
  /-- A number with a fraction or an exponent, or outside the integers kept exactly. -/
  | real (value : Float)

inductive Json where
  | null
  | bool (value : Bool)
  | number (value : JsonNumber)
  | string (value : String)
  | array (items : List Json)
  /-- Named values, in the order of their names. -/
  | object (fields : List (String × Json))

namespace Json

instance : Inhabited Json := ⟨.null⟩

def nat (n : Nat) : Json := .number (.integer n)

def opt (f : α → Json) : Option α → Json
  | none => .null
  | some a => f a

/-! ### Fields -/

def insertField (name : String) (value : Json) : List (String × Json) → List (String × Json)
  | [] => [(name, value)]
  | (other, held) :: rest =>
    if name < other then (name, value) :: (other, held) :: rest
    else if name = other then (name, value) :: rest
    else (other, held) :: insertField name value rest

/-- The object with the given fields; of two fields with one name the later counts. -/
def ofFields (fields : List (String × Json)) : Json :=
  .object (fields.foldl (fun held field => insertField field.1 field.2 held) [])

def field? (name : String) : Json → Option Json
  | .object fields => fields.lookup name
  | _ => none

/-! ### Equality -/

/-- Two numbers are equal when they are of one kind and have one value. -/
def sameNumber : JsonNumber → JsonNumber → Bool
  | .integer a, .integer b => a = b
  | .real a, .real b => a == b
  | _, _ => false

mutual

def same : Json → Json → Bool
  | .null, .null => true
  | .bool a, .bool b => a = b
  | .number a, .number b => sameNumber a b
  | .string a, .string b => a = b
  | .array a, .array b => sameItems a b
  | .object a, .object b => sameFields a b
  | _, _ => false

def sameItems : List Json → List Json → Bool
  | [], [] => true
  | a :: as, b :: bs => same a b && sameItems as bs
  | _, _ => false

def sameFields : List (String × Json) → List (String × Json) → Bool
  | [], [] => true
  | (m, a) :: as, (n, b) :: bs => m = n && same a b && sameFields as bs
  | _, _ => false

end

end Json

end AppServer
