import Std.Data.TreeMap
import AppServer.Files
import AppServer.Session.Entropy
import AppServer.Template.Render

/-!
# The template engine

A set of templates under their names. A template is compiled when it is
registered; one that is refused leaves the set as it was. Rendering reads the
authenticity token of the session only where a template asks for it.
-/

namespace AppServer

open Template

structure TemplateEngine where
  templates : Std.TreeMap String Compiled

namespace TemplateEngine

def empty : TemplateEngine := ⟨{}⟩

instance : Inhabited TemplateEngine := ⟨empty⟩

def get? (engine : TemplateEngine) (name : String) : Option Compiled := engine.templates[name]?

def has (engine : TemplateEngine) (name : String) : Bool := (engine.get? name).isSome

def put (engine : TemplateEngine) (name : String) (template : Compiled) : TemplateEngine :=
  ⟨engine.templates.insert name template⟩

theorem get?_empty (name : String) : empty.get? name = none := by simp [get?, empty]

theorem get?_put (engine : TemplateEngine) (name other : String) (template : Compiled) :
    (engine.put name template).get? other = if name = other then some template else engine.get? other := by
  simp [get?, put, Std.TreeMap.getElem?_insert, Std.LawfulEqCmp.compare_eq_iff_eq]

def register (engine : TemplateEngine) (name source : String) : Except SyntaxError TemplateEngine :=
  (compile source).map (engine.put name)

/-! ### Loading -/

def fileExtension : String := "hbs"

/-- The name of the template in a file: what precedes the last point of the file's name, if the rest is
the extension of templates. A file name that starts with its only point has no extension. -/
def nameOfFile? (file : Bytes) : Option String := do
  let stem ← Text.dropEnd? (Bytes.ofText ("." ++ fileExtension)) file
  if stem = [] then none else Bytes.toText? stem

def loadFile (engine : TemplateEngine) (files : Files) (dir name : String) :
    Except LoadError TemplateEngine :=
  let path := Files.join dir (name ++ "." ++ fileExtension)
  match files.readText path with
  | .error e => .error (.io (path ++ ": " ++ e.message))
  | .ok source => (engine.register name source).mapError .badSource

/-- Registers the templates of these names in turn; those before the first that fails stay. -/
def loadAll (engine : TemplateEngine) (files : Files) (dir : String) :
    List String → TemplateEngine × Except LoadError Unit
  | [] => (engine, .ok ())
  | name :: rest =>
    match engine.loadFile files dir name with
    | .ok engine => loadAll engine files dir rest
    | .error e => (engine, .error e)

def loadDirectory (engine : TemplateEngine) (files : Files) (dir : String) :
    TemplateEngine × Except LoadError Nat :=
  match files.list dir with
  | .error e => (engine, .error (.io (dir ++ ": " ++ e.message)))
  | .ok entries =>
    let names := entries.filterMap nameOfFile?
    let (engine, outcome) := engine.loadAll files dir names
    (engine, outcome.map fun _ => names.length)

/-! ### Rendering -/

def maxDepth : Nat := 1000

structure Rendered (σ : Type) where
  outcome : Except RenderError String
  session : σ
  /-- What was done, in turn. -/
  journal : List Entry := []

variable {σ : Type}

/-- Renders elements, from the template of a name if they have one. -/
def renderedElements (engine : TemplateEngine) (data : Json) (readToken : σ → String × σ) (session : σ)
    (name : Option String) (elements : List Element) : Rendered σ :=
  let env : Env σ := { data, template? := engine.get?, readToken }
  let start : Progress σ := { session, scopes := [{ current := data }], template := name }
  let (outcome, done) := (env.render maxDepth elements).run.run start
  ⟨outcome.map fun _ => done.text, done.session, done.journal.reverse⟩

def rendered (engine : TemplateEngine) (name : String) (data : Json) (readToken : σ → String × σ)
    (session : σ) : Rendered σ :=
  match engine.get? name with
  | none => ⟨.error (.templateNotFound name), session, []⟩
  | some template => engine.renderedElements data readToken session (some name) template.elements

def renderedSource (engine : TemplateEngine) (source : String) (data : Json) (readToken : σ → String × σ)
    (session : σ) : Rendered σ :=
  match compile source with
  | .error reason => ⟨.error (.badSource reason), session, []⟩
  | .ok template => engine.renderedElements data readToken session none template.elements

def render (engine : TemplateEngine) (name : String) (data : Json) (readToken : σ → String × σ)
    (session : σ) : Except RenderError String × σ :=
  let done := engine.rendered name data readToken session
  (done.outcome, done.session)

def renderSource (engine : TemplateEngine) (source : String) (data : Json) (readToken : σ → String × σ)
    (session : σ) : Except RenderError String × σ :=
  let done := engine.renderedSource source data readToken session
  (done.outcome, done.session)

end TemplateEngine

end AppServer
