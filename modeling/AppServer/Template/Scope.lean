import AppServer.Template.Value

/-!
# Scopes of rendering

The contexts in which paths are followed. Each block that enters a value, and
each inclusion, adds a scope with that value, the variables it provides, the
names given to values, and the templates defined in it. What an outer scope
provides is seen from the inner ones until one of them hides it; a scope with
variables hides all those of the outer ones.
-/

namespace AppServer.Template

structure Scope where
  current : Json
  locals : List (String × Json) := []
  named : List (String × Json) := []
  /-- The templates defined here, newest first. -/
  inlines : List (String × List Element) := []

def named? (name : String) (scopes : List Scope) : Option Json :=
  scopes.findSome? fun scope => scope.named.lookup name

/-- The variable of a name in the innermost scope that has variables. -/
def localValue? (name : String) (scopes : List Scope) : Option Json := do
  let scope ← scopes.find? fun scope => !scope.locals.isEmpty
  scope.locals.lookup name

def inline? (name : String) (scopes : List Scope) : Option (List Element) :=
  scopes.findSome? fun scope => scope.inlines.lookup name

def defineInline (name : String) (body : List Element) : List Scope → List Scope
  | [] => []
  | scope :: outer => { scope with inlines := (name, body) :: scope.inlines } :: outer

/-- The scope so many blocks outwards; the innermost one if there are not so many. -/
def scopeAt? (ups : Nat) (scopes : List Scope) : Option Scope :=
  scopes[ups]?.or scopes.head?

/-- What a path leads to; `data` is what is rendered. A given name hides the fields of that name, however
many steps outwards the path starts. -/
def resolve (data : Json) (scopes : List Scope) (path : Path) : Except RenderError (Option Json) :=
  match path.start, path.names with
  | .root, names => follow names (some data)
  | .variable ups, name :: _ => .ok (localValue? name (scopes.drop ups))
  | .variable _, [] => .ok none
  | .context ups, [] => .ok ((scopeAt? ups scopes).map Scope.current)
  | .context ups, name :: rest =>
    match named? name scopes with
    | some value => follow rest (some value)
    | none => match scopeAt? ups scopes with
      | some scope => follow (name :: rest) (some scope.current)
      | none => .ok none

end AppServer.Template
