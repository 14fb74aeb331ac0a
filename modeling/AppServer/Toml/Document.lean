import AppServer.Toml.Statement

/-!
# Configuration documents

What the statements of a document amount to. While it is built, each table
remembers how it came to be: implied by a longer key in a header, made by a
dotted key, or named by a header of its own. That decides which later
statements may add to it, so that no table and no entry is defined twice.
-/

namespace AppServer.Toml

inductive Origin where
  | implied
  | dotted
  | header
deriving DecidableEq, Repr

inductive Node where
  | value (value : Value)
  | table (origin : Origin) (entries : List (String × Node))
  /-- A list of tables, of which the last may still grow. -/
  | tables (earlier : List (List (String × Node))) (last : List (String × Node))

/-- A table under construction, its latest entry first. -/
abbrev Nodes := List (String × Node)

def Nodes.replace (name : String) (node : Node) : Nodes → Nodes
  | [] => []
  | (other, held) :: rest =>
    if other = name then (name, node) :: rest else (other, held) :: Nodes.replace name node rest

/-! ### Entries -/

/-- Adds an entry under a dotted key. The table that takes it is made by dotted keys alone; the way there
may lead through implied tables and the last table of a list, but not through the table of a header. -/
def Nodes.addEntry (value : Value) : Key → Nodes → Option Nodes
  | [], _ => none
  | [name], nodes =>
    match nodes.lookup name with
    | none => some ((name, .value value) :: nodes)
    | some _ => none
  | name :: rest, nodes =>
    match nodes.lookup name with
    | none => (addEntry value rest []).map fun inner => (name, .table .dotted inner) :: nodes
    | some (.table .dotted inner) =>
      (addEntry value rest inner).map fun inner => nodes.replace name (.table .dotted inner)
    | some (.table .implied inner) =>
      if rest.length ≤ 1 then none
      else (addEntry value rest inner).map fun inner => nodes.replace name (.table .implied inner)
    | some (.tables earlier last) =>
      if rest.length ≤ 1 then none
      else (addEntry value rest last).map fun last => nodes.replace name (.tables earlier last)
    | some _ => none

/-! ### Headers -/

/-- Applies a change at a path of tables; a missing table is implied, and a list of tables stands for
its last one. -/
def Nodes.within (change : Nodes → Option Nodes) : Key → Nodes → Option Nodes
  | [], nodes => change nodes
  | name :: rest, nodes =>
    match nodes.lookup name with
    | none => (within change rest []).map fun inner => (name, .table .implied inner) :: nodes
    | some (.table origin inner) =>
      (within change rest inner).map fun inner => nodes.replace name (.table origin inner)
    | some (.tables earlier last) =>
      (within change rest last).map fun last => nodes.replace name (.tables earlier last)
    | some (.value _) => none

/-- Opens the table of a header; only an implied table may have been there before. -/
def Nodes.openTable (name : String) (nodes : Nodes) : Option Nodes :=
  match nodes.lookup name with
  | none => some ((name, .table .header []) :: nodes)
  | some (.table .implied inner) => some (nodes.replace name (.table .header inner))
  | some _ => none

def Nodes.openItem (name : String) (nodes : Nodes) : Option Nodes :=
  match nodes.lookup name with
  | none => some ((name, .tables [] []) :: nodes)
  | some (.tables earlier last) => some (nodes.replace name (.tables (last :: earlier) []))
  | some _ => none

/-! ### From nodes to values -/

def sortEntries (entries : List (String × Value)) : Table :=
  entries.mergeSort fun a b => a.1 ≤ b.1

mutual

def Node.toValue : Node → Value
  | .value v => v
  | .table _ entries => .table (sortEntries (entryValues entries))
  | .tables earlier last =>
    .array ((tableValues earlier).reverse ++ [.table (sortEntries (entryValues last))])

def entryValues : List (String × Node) → List (String × Value)
  | [] => []
  | (name, node) :: rest => (name, node.toValue) :: entryValues rest

def tableValues : List (List (String × Node)) → List Value
  | [] => []
  | entries :: rest => .table (sortEntries (entryValues entries)) :: tableValues rest

end

def Nodes.toTable (nodes : Nodes) : Table := sortEntries (entryValues nodes)

/-! ### Expressions -/

mutual

/-- The value of an expression, unless a table in it defines something twice. -/
def Expr.eval : Expr → Option Value
  | .scalar v => some v
  | .array items => (evalItems items).map .array
  | .inline entries => (evalInline entries []).map fun nodes => .table nodes.toTable

def evalItems : List Expr → Option (List Value)
  | [] => some []
  | item :: rest => do
    let value ← item.eval
    some (value :: (← evalItems rest))

def evalInline : List (Key × Expr) → Nodes → Option Nodes
  | [], nodes => some nodes
  | (key, expr) :: rest, nodes => do
    let value ← expr.eval
    evalInline rest (← nodes.addEntry value key)

end

/-! ### Statements -/

structure Draft where
  root : Nodes
  /-- The key of the table that takes the next entries. -/
  current : Key

def Key.split? (key : Key) : Option (Key × String) :=
  key.getLast?.map fun name => (key.dropLast, name)

def Draft.add (draft : Draft) : Statement → Option Draft
  | .table key => do
    let (path, name) ← key.split?
    some ⟨← draft.root.within (Nodes.openTable name) path, key⟩
  | .tableItem key => do
    let (path, name) ← key.split?
    some ⟨← draft.root.within (Nodes.openItem name) path, key⟩
  | .entry key expr => do
    let value ← expr.eval
    some { draft with root := ← draft.root.within (Nodes.addEntry value key) draft.current }

def Table.ofStatements? (statements : List Statement) : Option Table :=
  (statements.foldlM Draft.add ⟨[], []⟩).map fun draft => draft.root.toTable

def Table.parse? (s : String) : Option Table := do
  Table.ofStatements? (← Statement.readAll? s)

end AppServer.Toml
