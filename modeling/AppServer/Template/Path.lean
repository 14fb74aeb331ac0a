import AppServer.Text.Cut

/-!
# Paths of templates

A path names a value: from the current context, from an enclosing one, from the
outermost data, or among the variables that a block provides. Its parts are
separated by a point or a slash; a part in brackets may hold any characters.
-/

namespace AppServer.Template

inductive PathStart where
  | context (ups : Nat)
  | root
  | variable (ups : Nat)
deriving DecidableEq, Repr

structure Path where
  raw : String
  start : PathStart
  names : List String
deriving DecidableEq, Repr

def Path.ofName (name : String) : Path := ⟨name, .context 0, [name]⟩

/-! ### Reading -/

def isTagSpace (c : Char) : Bool := c = ' ' || c = '\t' || c = '\n' || c = '\r'

def isSymbol (c : Char) : Bool :=
  c.isAlphanum || c ∈ ['-', '_', '$', ':'] || 0x80 ≤ c.toNat

def startsWithSymbol (cs : List Char) : Bool := cs.head?.any isSymbol

def readIdentifier (cs : List Char) : Option (String × List Char) :=
  match cs.takeWhile isSymbol with
  | [] => none
  | name => some (String.ofList name, cs.dropWhile isSymbol)

def afterSeparator? : List Char → Option (List Char)
  | '.' :: rest => some rest
  | '/' :: rest => some rest
  | _ => none

def afterWord? (word : String) (cs : List Char) : Option (List Char) :=
  (Text.dropStart? word.toList cs).bind afterSeparator?

def readPart : List Char → Option (String × List Char)
  | '[' :: rest =>
    match rest.dropWhile (· ≠ ']') with
    | [] => none
    | _ :: after => some (String.ofList (rest.takeWhile (· ≠ ']')), after)
  | cs => readIdentifier cs

/-- The parts of a path; a separator without a part after it does not belong to the path. `fuel` bounds
their number. -/
def readParts : Nat → List Char → Option (List String × List Char)
  | 0, _ => none
  | fuel + 1, cs => do
    let (part, rest) ← readPart cs
    match (afterSeparator? rest).bind (readParts fuel) with
    | some (parts, rest) => some (part :: parts, rest)
    | none => some ([part], rest)

def readUps : Nat → List Char → Nat × List Char
  | 0, cs => (0, cs)
  | fuel + 1, cs =>
    match afterWord? ".." cs with
    | some rest =>
      let (ups, rest) := readUps fuel rest
      (ups + 1, rest)
    | none => (0, cs)

def readPath (cs : List Char) : Option (Path × List Char) := do
  let rest := (afterWord? "this" cs).getD ((Text.dropStart? "./".toList cs).getD cs)
  let (isRoot, rest) := match afterWord? "@root" rest with
    | some rest => (true, rest)
    | none => (false, rest)
  let (isVariable, rest) := match rest with
    | '@' :: rest => (true, rest)
    | _ => (false, rest)
  let (ups, rest) := readUps rest.length rest
  let (parts, rest) ← readParts (rest.length + 1) rest
  let names := parts.filter (· ≠ "this")
  let start :=
    if isRoot then PathStart.root
    else if isVariable ∧ names ≠ [] then .variable ups
    else if isVariable then .context 0
    else .context ups
  some (⟨String.ofList (cs.take (cs.length - rest.length)), start, names⟩, rest)

end AppServer.Template
