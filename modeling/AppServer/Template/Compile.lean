import AppServer.Template.Tag
import AppServer.Text.Blank

/-!
# Compiling templates

The pieces of a source are put together into elements. A source whose blocks
are not properly nested is refused as a whole; after that the first tag with a
bad literal, or the first end tag that names another block, is the error.

A tag other than a value that stands on a line of its own takes the whole line
with it: the blanks in front of it, and the line break behind it.
-/

namespace AppServer.Template

inductive SyntaxError where
  | malformed
  | badLiteral
  | mismatchedBlock (opened closed : String)
  | mismatchedDecorator (opened closed : String)
deriving DecidableEq, Repr

/-! ### Nesting -/

inductive Expected where
  /-- Further conditions, the alternative, or the end. -/
  | clause
  /-- Nothing but the end, with the name of a template or of a helper. -/
  | close (ofTemplate : Bool)
deriving DecidableEq, Repr

def Tag.closesBlock (tag : Tag) : Bool := (tag.head.nameText?.getD "").toList.all isSymbol

def Tag.closesInclusion (tag : Tag) : Bool :=
  match (tag.head.nameText?.getD "").toList with
  | '\'' :: _ => true
  | name => name.all isTemplateSymbol

def Tag.nest (tag : Tag) (opened : List Expected) : Option (List Expected) :=
  match tag.kind, opened with
  | .openBlock, _ => some (.clause :: opened)
  | .openRaw, _ | .openDecorator, _ => some (.close false :: opened)
  | .openInclusion, _ => some (.close true :: opened)
  | .elseIf, .clause :: _ => some opened
  | .elseIf, _ => none
  | .otherwise, .clause :: rest => some (.close false :: rest)
  | .otherwise, _ => none
  | .close, .close true :: rest => if tag.closesInclusion then some rest else none
  | .close, _ :: rest => if tag.closesBlock then some rest else none
  | .close, [] => none
  | .output _, _ | .decorator, _ | .inclusion, _ | .comment, _ => some opened

def wellNested : List Expected → List Piece → Bool
  | opened, [] => opened.isEmpty
  | opened, .tag tag _ _ :: rest =>
    match tag.nest opened with
    | some opened => wellNested opened rest
    | none => false
  | opened, .text _ _ :: rest => wellNested opened rest

/-! ### Bad literals -/

mutual

def Argument.wellFormed : Argument → Bool
  | .literal _ | .path _ => true
  | .malformed _ => false
  | .call name params hash => name.wellFormed && paramsWellFormed params && hashWellFormed hash

def paramsWellFormed : List Argument → Bool
  | [] => true
  | a :: rest => a.wellFormed && paramsWellFormed rest

def hashWellFormed : List (String × Argument) → Bool
  | [] => true
  | (_, a) :: rest => a.wellFormed && hashWellFormed rest

end

def Head.wellFormed (head : Head) : Bool :=
  head.name.wellFormed && paramsWellFormed head.params && hashWellFormed head.hash

/-! ### Lines -/

def isLineBlank (c : Char) : Bool := c = ' ' || c = '\t'

def isLineEnd (c : Char) : Bool := c = '\n' || c = '\r'

/-- Whether the line ends here, or the text does. -/
def endsLine (after : List Char) : Bool :=
  after.isEmpty || (after.dropWhile isLineBlank).head?.any isLineEnd

/-- Whether nothing but blanks stands on the line so far; the text is given last character first. -/
def startsLine (before : List Char) : Bool :=
  match before.dropWhile isLineBlank with
  | [] => true
  | c :: _ => isLineEnd c

def dropLineEnd (cs : List Char) : List Char :=
  match cs.dropWhile isLineBlank with
  | '\r' :: '\n' :: rest => rest
  | '\n' :: rest => rest
  | rest => rest

def dropTrailing (p : Char → Bool) (s : String) : String :=
  String.ofList (s.toList.reverse.dropWhile p).reverse

def trimLast (p : Char → Bool) : List Element → List Element
  | .text s :: rest => .text (dropTrailing p s) :: rest
  | elements => elements

/-! ### Building -/

structure Clause where
  head : Head
  fresh : Bool
  body : List Element

/-- The block of a chain of branches: each further one is the alternative of the one before. -/
def Clause.chain (first : Clause) : List Clause → Option (List Element) → Element
  | [], alternative => .block first.head first.fresh first.body alternative
  | next :: rest, alternative => .block first.head first.fresh first.body (some [next.chain rest alternative])

inductive Opened where
  /-- A block with its finished branches and the head of the one that is read; none in the alternative. -/
  | block (name : String) (done : List Clause) (current : Option (Head × Bool))
  | decorator (head : Head)
  | inclusion (head : Head) (fresh : Bool)

structure Draft where
  /-- The elements of the innermost block, last first. -/
  elements : List Element := []
  /-- What is open, innermost first, each with the elements before it, last first. -/
  opened : List (Opened × List Element) := []
  /-- Blanks at the start of the next texts are left out. -/
  omitBlanks : Bool := false
  /-- The rest of the line at the start of the next text is left out. -/
  trimLine : Bool := false

namespace Draft

def add (d : Draft) (element : Element) : Draft := { d with elements := element :: d.elements }

def addText (d : Draft) (cs : List Char) : Draft :=
  let kept :=
    if d.omitBlanks then Text.trimStart cs
    else if d.trimLine then dropLineEnd cs
    else cs
  { d.add (.text (String.ofList kept)) with trimLine := false }

def enter (d : Draft) (opened : Opened) : Draft :=
  { d with elements := [], opened := (opened, d.elements) :: d.opened }

def branch (d : Draft) (next : Option (Head × Bool)) : Except SyntaxError Draft :=
  match d.opened with
  | (.block name done (some (head, fresh)), outer) :: rest =>
    let clause : Clause := ⟨head, fresh, d.elements.reverse⟩
    .ok { d with elements := [], opened := (.block name (done ++ [clause]) next, outer) :: rest }
  | _ => .error .malformed

/-- Closes the innermost block, which the end tag calls `name`. The end of a decorator or an inclusion may
leave the name out. -/
def leave (d : Draft) (name : String) : Except SyntaxError Draft :=
  let body := d.elements.reverse
  let closed (element : Element) (outer : List Element) (rest : List (Opened × List Element)) : Draft :=
    { d with elements := element :: outer, opened := rest }
  match d.opened with
  | [] => .error .malformed
  | (.block opened done current, outer) :: rest =>
    if opened ≠ name then .error (.mismatchedBlock opened name)
    else
      let (done, alternative) := match current with
        | some (head, fresh) => (done ++ [Clause.mk head fresh body], none)
        | none => (done, some body)
      match done with
      | first :: further => .ok (closed (first.chain further alternative) outer rest)
      | [] => .error .malformed
  | (.decorator head, outer) :: rest =>
    let opened := head.nameText?.getD ""
    if name ≠ "" ∧ opened ≠ name then .error (.mismatchedDecorator opened name)
    else .ok (closed (.decorator head (some body)) outer rest)
  | (.inclusion head fresh, outer) :: rest =>
    let opened := head.nameText?.getD ""
    if name ≠ "" ∧ opened ≠ name then .error (.mismatchedDecorator opened name)
    else .ok (closed (.inclusion head none fresh (some body)) outer rest)

/-- Takes the line with the tag that stands alone on it. -/
def settleLine (d : Draft) (tag : Tag) (before after : List Char) : Draft :=
  match tag.kind with
  | .output _ => d
  | _ =>
    if endsLine after then
      if startsLine before then { d with elements := trimLast isLineBlank d.elements, trimLine := true }
      else { d with trimLine := false }
    else { d with trimLine := false }

def settleBlanks (d : Draft) (tag : Tag) : Draft :=
  match tag.kind with
  | .comment => d
  | _ =>
    { d with
      elements := if tag.trimBefore then trimLast Text.isBlank d.elements else d.elements
      omitBlanks := tag.trimAfter }

/-- The blanks in front of an inclusion, by which its lines are indented. -/
def indentOf (tag : Tag) (before : List Char) : Option String :=
  match tag.trimBefore, before.takeWhile isLineBlank with
  | true, _ | _, [] => none
  | false, blanks => some (String.ofList blanks.reverse)

def addTag (d : Draft) (tag : Tag) (before after : List Char) : Except SyntaxError Draft :=
  if !tag.head.wellFormed then .error .badLiteral
  else
    let d := (d.settleBlanks tag).settleLine tag before after
    let head := tag.head
    let fresh := d.trimLine && !tag.trimBefore
    match tag.kind with
    | .output escaped => .ok (d.add (.output escaped head))
    | .openBlock | .openRaw => .ok (d.enter (.block (head.nameText?.getD "") [] (some (head, fresh))))
    | .elseIf => d.branch (some (head, fresh))
    | .otherwise => d.branch none
    | .decorator => .ok (d.add (.decorator head none))
    | .openDecorator => .ok (d.enter (.decorator head))
    | .inclusion => .ok (d.add (.inclusion head (indentOf tag before) fresh none))
    | .openInclusion => .ok (d.enter (.inclusion head fresh))
    | .close => d.leave (head.nameText?.getD "")
    | .comment => .ok (d.add .comment)

/-- Adds a piece. Blanks between two tags are no text where blanks are left out. -/
def addPiece (d : Draft) : Piece → Except SyntaxError Draft
  | .text value plain => .ok (if !plain && d.omitBlanks then d else d.addText value)
  | .tag tag before after => d.addTag tag before after

end Draft

def compile (source : String) : Except SyntaxError Compiled := do
  let cs := source.toList
  match readPieces (cs.length + 1) [] cs with
  | none => .error .malformed
  | some pieces =>
    if !wellNested [] pieces then .error .malformed
    else
      let draft ← pieces.foldlM Draft.addPiece {}
      .ok ⟨draft.elements.reverse⟩

end AppServer.Template
