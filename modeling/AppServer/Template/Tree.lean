import AppServer.Json.Basic
import AppServer.Template.Path

/-!
# Template trees

A template is a list of elements: text, values to be written, blocks with a
body, and inclusions of other templates. An argument is a literal, a path, or a
call whose result counts.
-/

namespace AppServer.Template

inductive Argument where
  | literal (value : Json)
  /-- A literal that is no JSON text; no compiled template holds one. -/
  | malformed (text : String)
  | path (path : Path)
  | call (name : Argument) (params : List Argument) (hash : List (String × Argument))

instance : Inhabited Argument := ⟨.literal .null⟩

/-- What a tag says: a name, arguments, and the names it gives to what its block provides. -/
structure Head where
  name : Argument
  params : List Argument := []
  hash : List (String × Argument) := []
  blockParams : List String := []

def Head.isBare (h : Head) : Bool := h.params.isEmpty && h.hash.isEmpty

def Head.nameText? (h : Head) : Option String :=
  match h.name with
  | .path p => some p.raw
  | _ => none

inductive Element where
  | text (value : String)
  /-- Nothing; it only separates what stands around it. -/
  | comment
  /-- The value or the helper that a tag names, escaped or as it is. -/
  | output (escaped : Bool) (head : Head)
  /-- A helper with a body, and with an alternative if there is one. `fresh` tells that it stands on a
  line of its own. -/
  | block (head : Head) (fresh : Bool) (body : List Element) (alternative : Option (List Element))
  /-- A decorator, with a body if it has one. -/
  | decorator (head : Head) (body : Option (List Element))
  /-- The inclusion of another template, with a body if it has one; its lines are indented by `indent`. -/
  | inclusion (head : Head) (indent : Option String) (fresh : Bool) (body : Option (List Element))

structure Compiled where
  elements : List Element
deriving Inhabited

end AppServer.Template
