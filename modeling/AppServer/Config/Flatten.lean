import AppServer.Toml.Value

/-!
# Flattening a document

The leaves of a document under dotted keys, in depth-first order with the keys
of each table in their order. Flattening stops at the first list, whose path is
reported beside the leaves that precede it.
-/

namespace AppServer.Toml

/-- The leaves of a document up to the first list. -/
structure Flattened where
  leaves : List (String × String)
  /-- The dotted key of the first list. -/
  arrayAt : Option String
deriving DecidableEq, Repr

/-- The leaves of one part followed by those of the next, which is not reached behind a list. -/
def Flattened.append (a : Flattened) (b : Flattened) : Flattened :=
  match a.arrayAt with
  | some _ => a
  | none => ⟨a.leaves ++ b.leaves, b.arrayAt⟩

/-- The dotted key of a name in a table; a separator follows a nonempty key only. -/
def dottedKey (outer name : String) : String :=
  if outer = "" then name else outer ++ "." ++ name

mutual

def Value.flatten (key : String) : Value → Flattened
  | .table entries => flattenEntries key entries
  | .array _ => ⟨[], some key⟩
  | .text s => ⟨[(key, s)], none⟩
  | .integer i => ⟨[(key, Text.decimalInt i)], none⟩
  | .float f => ⟨[(key, Decimal.Style.plain.write f)], none⟩
  | .boolean b => ⟨[(key, if b then "true" else "false")], none⟩
  | .datetime d => ⟨[(key, d.text)], none⟩

def flattenEntries (key : String) : List (String × Value) → Flattened
  | [] => ⟨[], none⟩
  | (name, value) :: rest =>
    (value.flatten (dottedKey key name)).append (flattenEntries key rest)

end

def Table.flatten (table : Table) : Flattened := flattenEntries "" table

end AppServer.Toml
