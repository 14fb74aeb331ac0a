import AppServer.Template.Output

/-!
# Rendering templates

The elements of a template write their text in turn. The authenticity helpers
are the only ones that read a token, once each time they run; they refuse
arguments and loop variables before they read it.
-/

namespace AppServer.Template

structure Env (σ : Type) where
  data : Json
  template? : String → Option Compiled
  readToken : σ → String × σ

structure Call (σ : Type) extends Invocation where
  body : Option (Rendering σ Unit) := none
  alternative : Option (Rendering σ Unit) := none

variable {σ : Type}

def perform : Option (Rendering σ Unit) → Rendering σ Unit
  | some step => step
  | none => pure ()

/-! ### The authenticity helpers -/

def Invocation.requireBare (call : Invocation) : Except RenderError Unit :=
  if !call.params.isEmpty || !call.hash.isEmpty then .error (.rejectsParameters call.name)
  else if !call.blockParams.isEmpty then .error (.rejectsLoopVariables call.name)
  else .ok ()

def Env.token (env : Env σ) : Rendering σ String := do
  let before ← get
  let (token, session) := env.readToken before.session
  set ({ before with session := session }.note (.read token))
  pure token

def hiddenField (token : String) : String :=
  "<input type=\"hidden\" value=\"" ++ token ++ "\" name=\"authenticityToken\" />"

/-- Writes what `wrap` makes of the token, for a call that brings nothing. -/
def Call.writeToken (env : Env σ) (call : Call σ) (wrap : String → String) : Rendering σ Unit := do
  call.requireBare
  let token ← env.token
  modify (·.write (wrap token))

/-! ### Blocks -/

/-- The names that a block gives to a part of a value and to its index or key. -/
def namedParts (blockParams : List String) (part index : Json) : List (String × Json) :=
  match blockParams with
  | [] => []
  | [first] => [(first, part)]
  | first :: second :: _ => [(second, index), (first, part)]

/-- The scope of one part of a value: the part, its variables, and the names given to it. -/
def partScope (blockParams : List String) (count position : Nat) (key : Option String) (part : Json) :
    Scope where
  current := part
  locals := [("first", .bool (position = 0)), ("last", .bool (position + 1 = count)),
    ("index", .nat position)] ++ (key.map fun name => ("key", Json.string name)).toList
  named := namedParts blockParams part (match key with
    | some name => .string name
    | none => .nat position)

def partsOf? : Json → Option (List (Option String × Json))
  | .array items => some (items.map fun item => (none, item))
  | .object fields => some (fields.map fun field => (some field.1, field.2))
  | _ => none

/-- Renders the body for each part of a value, or the alternative if there is none. What one turn defines
is there in the next ones. -/
def Call.runEach (call : Call σ) : Rendering σ Unit := do
  match call.body, partsOf? (← call.param "each" 0) with
  | none, _ => pure ()
  | some _, none => perform call.alternative
  | some body, some parts =>
    if parts.isEmpty then perform call.alternative
    else
      let turn (inlines : List (String × List Element)) : (Option String × Json) × Nat → Rendering σ _ :=
        fun ((key, part), position) => do
          let scope := partScope call.blockParams parts.length position key part
          pure (← inScope { scope with inlines } body).inlines
      discard (parts.zipIdx.foldlM turn [])

/-- Renders the body in the context of a value, or the alternative if the value does not count as
true. -/
def Call.runWithin (call : Call σ) : Rendering σ Unit := do
  let value ← call.param "with" 0
  if isTruthy false value then
    let named := match call.blockParams with
      | [name] => [(name, value)]
      | _ => []
    discard (inScope { current := value, named := named } (perform call.body))
  else perform call.alternative

def Call.runConditional (call : Call σ) (positive : Bool) : Rendering σ Unit := do
  let value ← call.param "if" 0
  let includeZero := match call.hash.lookup "includeZero" with
    | some (.bool b) => b
    | _ => false
  if isTruthy includeZero value == positive then perform call.body else perform call.alternative

/-! ### Calls -/

def Action.run (env : Env σ) (call : Call σ) : Action → Rendering σ Unit
  | .authenticityForm => call.writeToken env hiddenField
  | .authenticityToken => call.writeToken env id
  | .conditional positive => call.runConditional positive
  | .each => call.runEach
  | .within => call.runWithin
  | .raw => perform call.body
  | .log => call.loggingLevel

/-- Runs a helper; one that computes a value writes it, and a test does so where it has no body to
choose. The indentation does not apply to the value of a test. -/
def Helper.run (env : Env σ) (call : Call σ) : Helper → Rendering σ Unit
  | .action a => a.run env call
  | .test t => do
    let holds ← t.holds call.name call.toInputs
    if call.body.isNone then modify (·.write (display (.bool holds)))
    else perform (if holds then call.body else call.alternative)
  | .function f => do
    let value ← f.apply call.name call.toInputs
    modify (·.writeValue value)

def Call.note (call : Call σ) (place : Place) : Rendering σ Unit :=
  modify (·.note (.called place call.toInvocation))

/-- Runs the helper of a call where a tag stands; `fresh` tells that the tag has a line of its own. -/
def Call.run (env : Env σ) (call : Call σ) (fresh : Bool) : Rendering σ Unit := do
  match Helper.ofName? call.name with
  | none => throw (.helperNotFound call.name)
  | some helper =>
    startingLine (fun p => p.pendingIndent || (fresh && p.afterNewline)) do
      call.note .tag
      helper.run env call

/-- The value of a call: what the helper computes, or else the text that it writes. -/
def Call.compute (env : Env σ) (call : Call σ) : Rendering σ Json := do
  match Helper.ofName? call.name with
  | none => throw (.helperNotFound call.name)
  | some (.function f) => do
    call.note .argument
    f.apply call.name call.toInputs
  | some (.test t) => do
    call.note .argument
    pure (.bool (← t.holds call.name call.toInputs))
  | some (.action a) => do
    let text ← capture true do
      call.note .argument
      a.run env call
    pure (.string text)

/-! ### Arguments -/

/-- The value that a path leads to from where the rendering is, null if it leads nowhere. -/
def Env.valueAt (env : Env σ) (path : Path) : Rendering σ Json := do
  let found ← resolve env.data (← get).scopes path
  pure (found.getD .null)

mutual

def Env.value (env : Env σ) : Argument → Rendering σ Json
  | .literal value => pure value
  | .malformed _ => pure .null
  | .path path => env.valueAt path
  | .call name params hash => do
    let name ← match name with
      | .path path => pure path.raw
      | _ => do pure (display (← env.value name))
    let params ← env.values params
    let hash ← env.namedValues hash
    Call.compute env { name, params, hash }

def Env.values (env : Env σ) : List Argument → Rendering σ (List Json)
  | [] => pure []
  | a :: rest => do
    let value ← env.value a
    pure (value :: (← env.values rest))

/-- The values of named arguments; of two with one name the later counts. -/
def Env.namedValues (env : Env σ) : List (String × Argument) → Rendering σ (List (String × Json))
  | [] => pure []
  | (name, a) :: rest =>
    if (rest.lookup name).isSome then env.namedValues rest
    else do
      let value ← env.value a
      pure ((name, value) :: (← env.namedValues rest))

end

def Env.nameOf (env : Env σ) (head : Head) : Rendering σ String :=
  match head.nameText? with
  | some name => pure name
  | none => do pure (display (← env.value head.name))

def Env.callOf (env : Env σ) (head : Head) : Rendering σ (Call σ) := do
  let name ← env.nameOf head
  let params ← env.values head.params
  let hash ← env.namedValues head.hash
  pure { name, params, hash, blockParams := head.blockParams }

/-! ### Elements -/

def Env.renderOutput (env : Env σ) (head : Head) : Rendering σ Unit := do
  if head.isBare && (Helper.ofName? (← env.nameOf head)).isNone then
    let value ← env.value head.name
    modify (·.writeValue value)
  else (← env.callOf head).run env false

def Env.decorate (env : Env σ) (head : Head) (body : Option (List Element)) : Rendering σ Unit := do
  let call ← env.callOf head
  if call.name ≠ "inline" then throw (.decoratorNotFound call.name)
  match ← call.param "inline" 0, body with
  | .string name, some body => modify fun p => { p with scopes := defineInline name body p.scopes }
  | .string _, none => throw .missingBody
  | _, _ => throw (.badArgumentType "String")

/-! ### Inclusions -/

/-- The scope of an included template: its argument is the current value, or else the value where the
inclusion stands. Named arguments are put over the fields of that value, and are seen from inner blocks
as well. -/
def inclusionScope (inputs : Inputs) (outer : Json) : Scope :=
  let current := inputs.params.head?.getD outer
  { current := if inputs.hash.isEmpty then current else withFields inputs.hash current
    named := inputs.hash }

/-- The name under which the body of an inclusion is rendered. -/
def bodyName : String := "@partial-block"

/-- The elements of the template that an inclusion names, with the name if the template is a registered
one. -/
def Env.included? (env : Env σ) (scopes : List Scope) (name : String) :
    Option (Option String × List Element) :=
  let registered := (env.template? name).map fun template => (some name, template.elements)
  ((inline? name scopes).map (none, ·)).or registered

/-- Renders what stands in a block; it belongs to no template. -/
def insideBlock (step : Rendering σ Unit) : Rendering σ Unit := do
  modify fun p => { p with template := none }
  step

/-- Renders the template that an inclusion names. The body is rendered first, once, for all places where
the template asks for it; without a template it takes its place. -/
def Env.renderIncluded (env : Env σ) (render : List Element → Rendering σ Unit) (name : String)
    (content : Option (Rendering σ Unit)) : Rendering σ Unit := do
  let before ← get
  match env.included? before.scopes name, content with
  | none, none => throw (.inclusionNotFound name)
  | none, some content =>
    modify fun p => { p with body := none }
    content
  | some (template, elements), content =>
    let text ← match content with
      | some content => do pure (some (← capture before.unescaped content))
      | none => pure none
    modify fun p => { p with body := text, template := template }
    render elements

/-- Renders an inclusion: `content` writes its body, `render` the elements of another template. Under the
name of bodies it writes the text of the body around it as it is, or renders its own body where it stands
if there is no such text. -/
def Env.renderInclusion (env : Env σ) (render : List Element → Rendering σ Unit) (call : Call σ)
    (indent : Option String) (fresh : Bool) (content : Option (Rendering σ Unit)) : Rendering σ Unit :=
  startingLine (fun p => fresh && (p.afterNewline || indent.isSome)) do
    let before ← get
    if call.name = bodyName then
      match before.body, content with
      | some text, _ => modify (·.write text)
      | none, some content => content
      | none, none => throw .bodyNotFound
    else
      if before.template = some call.name then throw .includesItself
      let outer := (before.scopes.head?.map Scope.current).getD .null
      modify fun p => { p with indent := p.indent ++ indent.getD "" }
      discard (inScope (inclusionScope call.toInputs outer) (env.renderIncluded render call.name content))
    modify fun p => { p with body := before.body, template := before.template, indent := before.indent }

mutual

/-- Renders an element; `render` renders the elements of another template. -/
def Env.renderElement (env : Env σ) (render : List Element → Rendering σ Unit) :
    Element → Rendering σ Unit
  | .text value => modify (·.writeIndented value)
  | .comment => pure ()
  | .output escaped head => do
    if escaped then env.renderOutput head
    else
      modify fun p => { p with unescaped := true }
      env.renderOutput head
      modify fun p => { p with unescaped := false }
  | .block head fresh body alternative => do
    let call ← env.callOf head
    let call := { call with
      body := some (insideBlock (env.renderElements render body))
      alternative := env.renderBlock? render alternative }
    call.run env fresh
  | .decorator head body => env.decorate head body
  | .inclusion head indent fresh body => do
    let call ← env.callOf head
    env.renderInclusion render call indent fresh (env.renderBlock? render body)

def Env.renderElements (env : Env σ) (render : List Element → Rendering σ Unit) :
    List Element → Rendering σ Unit
  | [] => pure ()
  | element :: rest => do
    env.renderElement render element
    env.renderElements render rest

def Env.renderBlock? (env : Env σ) (render : List Element → Rendering σ Unit) :
    Option (List Element) → Option (Rendering σ Unit)
  | none => none
  | some elements => some (insideBlock (env.renderElements render elements))

end

/-- Renders elements; `depth` bounds how deep inclusions are nested. -/
def Env.render (env : Env σ) : Nat → List Element → Rendering σ Unit
  | 0, _ => throw .tooDeep
  | depth + 1, elements => env.renderElements (env.render depth) elements

end AppServer.Template
