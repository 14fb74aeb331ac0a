import AppServer.Proofs.Except
import AppServer.Proofs.Template.Journal

/-!
# Executions of templates

What is done when a template is rendered, said of the template and not of the renderer:
which elements are executed, in which order, and what each of them does. A tag that is
executed writes a value or calls a helper; a block executes its body, its alternative, or its
body for each part of a value, as its helper plans; an inclusion executes another template.
An authenticity helper that is called with nothing reads the token and writes it, whatever
the data are. How texts are laid out in lines is left open.
-/

namespace AppServer.Template

variable {σ : Type}

/-! ### Plans of helpers -/

/-- What a helper is going to do where a tag stands. -/
inductive Plan where
  /-- To read the token and to write what is made of it. -/
  | token
  | value
  | nothing
  | body
  | alternative
  | within (scope : Scope)
  /-- The body in each scope in turn. -/
  | each (scopes : List Scope)

/-- The scopes of the parts of a value, in turn. -/
def partScopes (blockParams : List String) (parts : List (Option String × Json)) : List Scope :=
  parts.zipIdx.map fun ((key, part), position) => partScope blockParams parts.length position key part

namespace Invocation

def chooses (isBody : Bool) : Plan := if isBody then .body else .alternative

def planEach (call : Invocation) : Except RenderError Plan := do
  match partsOf? (← call.param "each" 0) with
  | some (part :: parts) => .ok (.each (partScopes call.blockParams (part :: parts)))
  | some [] | none => .ok .alternative

def planWithin (call : Invocation) : Except RenderError Plan := do
  let value ← call.param "with" 0
  .ok (if isTruthy false value then
    .within { current := value, named := match call.blockParams with
      | [name] => [(name, value)]
      | _ => [] }
  else .alternative)

def planConditional (call : Invocation) (positive : Bool) : Except RenderError Plan := do
  let value ← call.param "if" 0
  let includeZero := match call.hash.lookup "includeZero" with
    | some (.bool b) => b
    | _ => false
  .ok (chooses (isTruthy includeZero value == positive))

/-- What a helper does with a call; why it does not do it otherwise. -/
def plan (call : Invocation) (hasBody : Bool) : Helper → Except RenderError Plan
  | .action .authenticityForm | .action .authenticityToken =>
    if call.isBare then .ok .token else .error call.refusal
  | .action (.conditional positive) => call.planConditional positive
  | .action .each => do
    let plan ← call.planEach
    .ok (if hasBody then plan else .nothing)
  | .action .within => call.planWithin
  | .action .raw => .ok .body
  | .action .log => do
    call.loggingLevel
    .ok .nothing
  | .test t => do
    let holds ← t.holds call.name call.toInputs
    .ok (if hasBody then chooses holds else .value)
  | .function f => do
    let _ ← f.apply call.name call.toInputs
    .ok .value

/-- What a value and a body define: the elements under the name that the value is. -/
def inlined : Json → Option (List Element) → Except RenderError (String × List Element)
  | .string name, some body => .ok (name, body)
  | .string _, none => .error .missingBody
  | _, _ => .error (.badArgumentType "String")

def definition (call : Invocation) (body : Option (List Element)) : Except RenderError (String × List Element) := do
  if call.name ≠ "inline" then .error (.decoratorNotFound call.name)
  else inlined (← call.param "inline" 0) body

end Invocation

theorem asks_eq_false {call : Invocation} {helper : Helper} (h : Helper.ofName? call.name = some helper)
    (hform : helper ≠ .action .authenticityForm) (htoken : helper ≠ .action .authenticityToken) :
    call.asks = false := by
  rw [Invocation.asks, Bool.or_eq_false_iff, decide_eq_false_iff_not, decide_eq_false_iff_not]
  constructor
  · intro hname
    rw [hname] at h
    exact hform (Option.some.inj h.symm)
  · intro hname
    rw [hname] at h
    exact htoken (Option.some.inj h.symm)

theorem mem_helpers_of_ofName? {name : String} {helper : Helper} (h : Helper.ofName? name = some helper) :
    (name, helper) ∈ helpers := by
  obtain ⟨before, after, hhelpers, -⟩ := List.lookup_eq_some_iff.mp h
  rw [hhelpers]
  exact List.mem_append_right before List.mem_cons_self

theorem name_of_authenticityForm {name : String} (h : Helper.ofName? name = some (.action .authenticityForm)) :
    name = authenticityFormName := by
  simpa [helpers] using mem_helpers_of_ofName? h

theorem name_of_authenticityToken {name : String} (h : Helper.ofName? name = some (.action .authenticityToken)) :
    name = authenticityTokenName := by
  simpa [helpers] using mem_helpers_of_ofName? h

theorem plan_of_asks {call : Invocation} {helper : Helper} (hname : Helper.ofName? call.name = some helper)
    (hasks : call.asks = true) (hasBody : Bool) :
    call.plan hasBody helper = if call.isBare then .ok .token else .error call.refusal := by
  rw [Invocation.asks, Bool.or_eq_true, decide_eq_true_iff, decide_eq_true_iff] at hasks
  rcases hasks with hform | htoken
  · rw [hform] at hname
    cases hname
    rfl
  · rw [htoken] at hname
    cases hname
    rfl

theorem chooses_ne_token (isBody : Bool) : Invocation.chooses isBody ≠ .token := by
  cases isBody <;> exact nofun

theorem plan_ne_token {call : Invocation} {helper : Helper} (hname : Helper.ofName? call.name = some helper)
    (hquiet : call.asks = false) {hasBody : Bool} {plan : Plan} (hplan : call.plan hasBody helper = .ok plan) :
    plan ≠ .token := by
  cases helper with
  | action a =>
    cases a with
    | authenticityForm =>
      rw [Invocation.asks, name_of_authenticityForm hname] at hquiet
      cases hquiet
    | authenticityToken =>
      rw [Invocation.asks, name_of_authenticityToken hname] at hquiet
      cases hquiet
    | conditional positive =>
      obtain ⟨value, -, hchosen⟩ := bind_eq_ok_iff.mp hplan
      cases hchosen
      exact chooses_ne_token _
    | each =>
      obtain ⟨planned, hplanned, hchosen⟩ := bind_eq_ok_iff.mp hplan
      obtain ⟨value, -, hparts⟩ := bind_eq_ok_iff.mp hplanned
      cases hchosen
      split
      · split at hparts <;> cases hparts <;> exact nofun
      · exact nofun
    | within =>
      obtain ⟨value, -, hchosen⟩ := bind_eq_ok_iff.mp hplan
      cases hchosen
      split <;> exact nofun
    | raw =>
      cases hplan
      exact nofun
    | log =>
      obtain ⟨_, -, hchosen⟩ := bind_eq_ok_iff.mp hplan
      cases hchosen
      exact nofun
  | test t =>
    obtain ⟨holds, -, hchosen⟩ := bind_eq_ok_iff.mp hplan
    cases hchosen
    split
    · exact chooses_ne_token holds
    · exact nofun
  | function f =>
    obtain ⟨value, -, hchosen⟩ := bind_eq_ok_iff.mp hplan
    cases hchosen
    exact nofun

/-! ### Arguments -/

/-- What happens between two sessions: what is told, and what comes of it. -/
abbrev Doing (σ α : Type) := σ → List Entry → Except RenderError α → σ → Prop

/-- What comes of a call for an argument: the value that its helper computes, or the text that it writes. There is no
block, so nothing but the token is written. -/
inductive Computes (readToken : σ → String × σ) (call : Invocation) : Doing σ Json where
  | unknown {s : σ} (unnamed : Helper.ofName? call.name = none) :
      Computes readToken call s [] (.error (.helperNotFound call.name)) s
  | function {s : σ} {f : Function} (named : Helper.ofName? call.name = some (.function f)) :
      Computes readToken call s [.called .argument call] (f.apply call.name call.toInputs) s
  | test {s : σ} {t : Test} (named : Helper.ofName? call.name = some (.test t)) :
      Computes readToken call s [.called .argument call] ((t.holds call.name call.toInputs).map .bool) s
  | failed {s : σ} {a : Action} {e : RenderError} (named : Helper.ofName? call.name = some (.action a))
      (plan : call.plan false (.action a) = .error e) :
      Computes readToken call s [.opened, .called .argument call] (.error e) s
  | token {s : σ} {a : Action} (named : Helper.ofName? call.name = some (.action a))
      (plan : call.plan false (.action a) = .ok .token) :
      Computes readToken call s
        [.opened, .called .argument call, .read (readToken s).1, .wrote (call.markup (readToken s).1),
          .closed (call.markup (readToken s).1)]
        (.ok (.string (call.markup (readToken s).1))) (readToken s).2
  | silent {s : σ} {a : Action} {plan : Plan} (named : Helper.ofName? call.name = some (.action a))
      (plans : call.plan false (.action a) = .ok plan) (other : plan ≠ .token) :
      Computes readToken call s [.opened, .called .argument call, .closed ""] (.ok (.string "")) s

mutual

inductive Evaluates (env : Env σ) (scopes : List Scope) : Argument → Doing σ Json where
  | literal {s} (value : Json) : Evaluates env scopes (.literal value) s [] (.ok value) s
  | malformed {s} (text : String) : Evaluates env scopes (.malformed text) s [] (.ok .null) s
  | path {s} (path : Path) :
      Evaluates env scopes (.path path) s [] ((resolve env.data scopes path).map fun found => found.getD .null) s
  | uncalled {s t log e name params hash} (invokes : Invokes env scopes { name, params, hash } s log (.error e) t) :
      Evaluates env scopes (.call name params hash) s log (.error e) t
  | call {s t u log more call result name params hash}
      (invokes : Invokes env scopes { name, params, hash } s log (.ok call) t)
      (computes : Computes env.readToken call t more result u) :
      Evaluates env scopes (.call name params hash) s (log ++ more) result u

inductive EvaluatesAll (env : Env σ) (scopes : List Scope) : List Argument → Doing σ (List Json) where
  | nil {s} : EvaluatesAll env scopes [] s [] (.ok []) s
  | failed {s t log e first rest} (evaluates : Evaluates env scopes first s log (.error e) t) :
      EvaluatesAll env scopes (first :: rest) s log (.error e) t
  | cons {s t u log more value values first rest} (evaluates : Evaluates env scopes first s log (.ok value) t)
      (later : EvaluatesAll env scopes rest t more values u) :
      EvaluatesAll env scopes (first :: rest) s (log ++ more) (values.map (value :: ·)) u

/-- The values of named arguments; one that a later one replaces is not asked for. -/
inductive EvaluatesNamed (env : Env σ) (scopes : List Scope) :
    List (String × Argument) → Doing σ (List (String × Json)) where
  | nil {s} : EvaluatesNamed env scopes [] s [] (.ok []) s
  | replaced {s t log values name first rest} (again : (rest.lookup name).isSome)
      (later : EvaluatesNamed env scopes rest s log values t) :
      EvaluatesNamed env scopes ((name, first) :: rest) s log values t
  | failed {s t log e name first rest} (once : ¬(rest.lookup name).isSome)
      (evaluates : Evaluates env scopes first s log (.error e) t) :
      EvaluatesNamed env scopes ((name, first) :: rest) s log (.error e) t
  | cons {s t u log more value values name first rest} (once : ¬(rest.lookup name).isSome)
      (evaluates : Evaluates env scopes first s log (.ok value) t)
      (later : EvaluatesNamed env scopes rest t more values u) :
      EvaluatesNamed env scopes ((name, first) :: rest) s (log ++ more) (values.map ((name, value) :: ·)) u

/-- The name that an argument is: a path as it is written, or else the text of its value. -/
inductive Names (env : Env σ) (scopes : List Scope) : Argument → Doing σ String where
  | path {s} (path : Path) : Names env scopes (.path path) s [] (.ok path.raw) s
  | value {s t log result name} (computed : ∀ path, name ≠ .path path)
      (evaluates : Evaluates env scopes name s log result t) : Names env scopes name s log (result.map display) t

/-- What a tag calls a helper with: its name, its arguments and its named arguments, in turn. -/
inductive Invokes (env : Env σ) (scopes : List Scope) : Head → Doing σ Invocation where
  | unnamed {s t log e} {head : Head} (names : Names env scopes head.name s log (.error e) t) :
      Invokes env scopes head s log (.error e) t
  | failed {s t u log more e name} {head : Head} (names : Names env scopes head.name s log (.ok name) t)
      (params : EvaluatesAll env scopes head.params t more (.error e) u) :
      Invokes env scopes head s (log ++ more) (.error e) u
  | invoked {s t u v log more last name params hash} {head : Head}
      (names : Names env scopes head.name s log (.ok name) t)
      (evaluates : EvaluatesAll env scopes head.params t more (.ok params) u)
      (named : EvaluatesNamed env scopes head.hash u last hash v) :
      Invokes env scopes head s (log ++ (more ++ last))
        (hash.map fun hash => ⟨⟨params, hash⟩, name, head.blockParams⟩) v

end

/-! ### Frames -/

/-- Where an execution is: what decides which elements are executed and what they do. -/
structure Frame (σ : Type) where
  session : σ
  scopes : List Scope
  body : Option String := none
  template : Option String := none

namespace Frame

def enter (f : Frame σ) (scope : Scope) : Frame σ := { f with scopes := scope :: f.scopes }

def current (f : Frame σ) : Json := (f.scopes.head?.map Scope.current).getD .null

end Frame

/-- How an execution ends. -/
inductive Finish (σ : Type) where
  | done (frame : Frame σ)
  | failed (reason : RenderError) (session : σ)

namespace Finish

def leave (outer : Frame σ) : Finish σ → Finish σ
  | done f => done { f with scopes := outer.scopes }
  | failed e s => failed e s

/-- Goes back to the template around an inclusion. -/
def resume (outer : Frame σ) : Finish σ → Finish σ
  | done f => done { f with body := outer.body, template := outer.template }
  | failed e s => failed e s

end Finish

/-! ### Elements -/

/-- What there is to be executed: a template and what it consists of, and what its tags become. -/
inductive Work where
  | template (elements : List Element)
  | elements (elements : List Element)
  | element (element : Element)
  /-- What stands in a block, if there is anything. -/
  | block (elements : Option (List Element))
  /-- A helper that is called where a tag stands. -/
  | call (call : Invocation) (body alternative : Option (List Element))
  | plan (call : Invocation) (plan : Plan) (body alternative : Option (List Element))
  /-- A block in each scope in turn, with the templates that the turns before have defined. -/
  | each (scopes : List Scope) (inlines : List (String × List Element)) (body : Option (List Element))
  | inclusion (call : Invocation) (body : Option (List Element))
  /-- The template that an inclusion names, where it is included. -/
  | included (name : String) (body : Option (List Element))

def Element.head? : Element → Option Head
  | .block head .. | .decorator head .. | .inclusion head .. => some head
  | .text _ | .comment | .output .. => none

/-- A text or a value is written, unless there is nothing to write. -/
def WritesText (log : List Entry) : Prop := log = [] ∨ ∃ text, log = [.wrote text]

/-- A name that stands for a value and for no helper. -/
def Head.IsValue (head : Head) (name : String) : Prop := head.isBare = true ∧ Helper.ofName? name = none

/-- From one frame on something is executed, and so it ends; inclusions are nested no deeper than is said. -/
inductive Executes (env : Env σ) : Nat → Frame σ → Work → List Entry → Finish σ → Prop where
  | tooDeep {elements} {f : Frame σ} : Executes env 0 f (.template elements) [] (.failed .tooDeep f.session)
  | template {depth elements log ending} {f : Frame σ} (inside : Executes env depth f (.elements elements) log ending) :
      Executes env (depth + 1) f (.template elements) log ending
  | finished {depth} {f : Frame σ} : Executes env depth f (.elements []) [] (.done f)
  | broken {depth rest log e s} {f : Frame σ} {first : Element}
      (now : Executes env depth f (.element first) log (.failed e s)) :
      Executes env depth f (.elements (first :: rest)) log (.failed e s)
  | inTurn {depth rest log more ending} {f g : Frame σ} {first : Element}
      (now : Executes env depth f (.element first) log (.done g))
      (later : Executes env depth g (.elements rest) more ending) :
      Executes env depth f (.elements (first :: rest)) (log ++ more) ending
  | empty {depth} {f : Frame σ} : Executes env depth f (.block none) [] (.done f)
  | block {depth elements log ending} {f : Frame σ}
      (inside : Executes env depth { f with template := none } (.elements elements) log ending) :
      Executes env depth f (.block (some elements)) log ending
  -- elements
  | text {depth value log} {f : Frame σ} (writes : WritesText log) :
      Executes env depth f (.element (.text value)) log (.done f)
  | comment {depth} {f : Frame σ} : Executes env depth f (.element .comment) [] (.done f)
  | unnamed {depth escaped log e s} {f : Frame σ} {head : Head}
      (names : Names env f.scopes head.name f.session log (.error e) s) :
      Executes env depth f (.element (.output escaped head)) log (.failed e s)
  | valueless {depth escaped name log more e s t} {f : Frame σ} {head : Head}
      (names : Names env f.scopes head.name f.session log (.ok name) s) (isValue : head.IsValue name)
      (evaluates : Evaluates env f.scopes head.name s more (.error e) t) :
      Executes env depth f (.element (.output escaped head)) (log ++ more) (.failed e t)
  | value {depth escaped name log more last value s t} {f : Frame σ} {head : Head}
      (names : Names env f.scopes head.name f.session log (.ok name) s) (isValue : head.IsValue name)
      (evaluates : Evaluates env f.scopes head.name s more (.ok value) t) (writes : WritesText last) :
      Executes env depth f (.element (.output escaped head)) (log ++ (more ++ last)) (.done { f with session := t })
  | untagged {depth escaped name log more e s t} {f : Frame σ} {head : Head}
      (names : Names env f.scopes head.name f.session log (.ok name) s) (isCall : ¬head.IsValue name)
      (invokes : Invokes env f.scopes head s more (.error e) t) :
      Executes env depth f (.element (.output escaped head)) (log ++ more) (.failed e t)
  | tag {depth escaped name log more last s t ending} {f : Frame σ} {head : Head} {call : Invocation}
      (names : Names env f.scopes head.name f.session log (.ok name) s) (isCall : ¬head.IsValue name)
      (invokes : Invokes env f.scopes head s more (.ok call) t)
      (runs : Executes env depth { f with session := t } (.call call none none) last ending) :
      Executes env depth f (.element (.output escaped head)) (log ++ (more ++ last)) ending
  | uncalled {depth log e s} {f : Frame σ} {element : Element} {head : Head} (calls : element.head? = some head)
      (invokes : Invokes env f.scopes head f.session log (.error e) s) :
      Executes env depth f (.element element) log (.failed e s)
  | called {depth fresh body alternative log more s ending} {f : Frame σ} {head : Head} {call : Invocation}
      (invokes : Invokes env f.scopes head f.session log (.ok call) s)
      (runs : Executes env depth { f with session := s } (.call call (some body) alternative) more ending) :
      Executes env depth f (.element (.block head fresh body alternative)) (log ++ more) ending
  | undefined {depth body log e s} {f : Frame σ} {head : Head} {call : Invocation}
      (invokes : Invokes env f.scopes head f.session log (.ok call) s) (defines : call.definition body = .error e) :
      Executes env depth f (.element (.decorator head body)) log (.failed e s)
  | defined {depth body log name elements s} {f : Frame σ} {head : Head} {call : Invocation}
      (invokes : Invokes env f.scopes head f.session log (.ok call) s)
      (defines : call.definition body = .ok (name, elements)) :
      Executes env depth f (.element (.decorator head body)) log
        (.done { f with session := s, scopes := defineInline name elements f.scopes })
  | inclusion {depth indent fresh body log more s ending} {f : Frame σ} {head : Head} {call : Invocation}
      (invokes : Invokes env f.scopes head f.session log (.ok call) s)
      (runs : Executes env depth { f with session := s } (.inclusion call body) more ending) :
      Executes env depth f (.element (.inclusion head indent fresh body)) (log ++ more) (ending.resume f)
  -- helpers where tags stand
  | unknown {depth body alternative} {f : Frame σ} {call : Invocation}
      (unnamed : Helper.ofName? call.name = none) :
      Executes env depth f (.call call body alternative) [] (.failed (.helperNotFound call.name) f.session)
  | failed {depth body alternative helper e} {f : Frame σ} {call : Invocation}
      (named : Helper.ofName? call.name = some helper) (plan : call.plan body.isSome helper = .error e) :
      Executes env depth f (.call call body alternative) [.called .tag call] (.failed e f.session)
  | planned {depth body alternative helper plan log ending} {f : Frame σ} {call : Invocation}
      (named : Helper.ofName? call.name = some helper) (plans : call.plan body.isSome helper = .ok plan)
      (runs : Executes env depth f (.plan call plan body alternative) log ending) :
      Executes env depth f (.call call body alternative) (.called .tag call :: log) ending
  | token {depth body alternative} {f : Frame σ} {call : Invocation} :
      Executes env depth f (.plan call .token body alternative)
        [.read (env.readToken f.session).1, .wrote (call.markup (env.readToken f.session).1)]
        (.done { f with session := (env.readToken f.session).2 })
  | written {depth body alternative log} {f : Frame σ} {call : Invocation} (writes : WritesText log) :
      Executes env depth f (.plan call .value body alternative) log (.done f)
  | nothing {depth body alternative} {f : Frame σ} {call : Invocation} :
      Executes env depth f (.plan call .nothing body alternative) [] (.done f)
  | body {depth body alternative log ending} {f : Frame σ} {call : Invocation}
      (runs : Executes env depth f (.block body) log ending) :
      Executes env depth f (.plan call .body body alternative) log ending
  | alternative {depth body alternative log ending} {f : Frame σ} {call : Invocation}
      (runs : Executes env depth f (.block alternative) log ending) :
      Executes env depth f (.plan call .alternative body alternative) log ending
  | within {depth body alternative log ending} {f : Frame σ} {call : Invocation} {scope : Scope}
      (runs : Executes env depth (f.enter scope) (.block body) log ending) :
      Executes env depth f (.plan call (.within scope) body alternative) log (ending.leave f)
  | each {depth scopes body alternative log ending} {f : Frame σ} {call : Invocation}
      (runs : Executes env depth f (.each scopes [] body) log ending) :
      Executes env depth f (.plan call (.each scopes) body alternative) log ending
  | over {depth inlines body} {f : Frame σ} : Executes env depth f (.each [] inlines body) [] (.done f)
  | stopped {depth rest inlines body log e s} {f : Frame σ} {scope : Scope}
      (now : Executes env depth (f.enter { scope with inlines }) (.block body) log (.failed e s)) :
      Executes env depth f (.each (scope :: rest) inlines body) log (.failed e s)
  | again {depth rest inlines body log more ending} {f g : Frame σ} {scope : Scope}
      (now : Executes env depth (f.enter { scope with inlines }) (.block body) log (.done g))
      (later : Executes env depth { g with scopes := f.scopes }
        (.each rest (g.scopes.head?.getD { scope with inlines }).inlines body) more ending) :
      Executes env depth f (.each (scope :: rest) inlines body) (log ++ more) ending
  -- inclusions
  | bodyText {depth body text} {f : Frame σ} {call : Invocation} (named : call.name = bodyName)
      (around : f.body = some text) : Executes env depth f (.inclusion call body) [.wrote text] (.done f)
  | bodyMissing {depth} {f : Frame σ} {call : Invocation} (named : call.name = bodyName)
      (around : f.body = none) :
      Executes env depth f (.inclusion call none) [] (.failed .bodyNotFound f.session)
  | bodyItself {depth body log ending} {f : Frame σ} {call : Invocation} (named : call.name = bodyName)
      (around : f.body = none) (runs : Executes env depth f (.block (some body)) log ending) :
      Executes env depth f (.inclusion call (some body)) log ending
  | itself {depth body} {f : Frame σ} {call : Invocation} (named : call.name ≠ bodyName)
      (same : f.template = some call.name) :
      Executes env depth f (.inclusion call body) [] (.failed .includesItself f.session)
  | includes {depth body log ending} {f : Frame σ} {call : Invocation} (named : call.name ≠ bodyName)
      (other : f.template ≠ some call.name)
      (runs : Executes env depth (f.enter (inclusionScope call.toInputs f.current)) (.included call.name body) log
        ending) :
      Executes env depth f (.inclusion call body) log (ending.leave f)
  | missing {depth name} {f : Frame σ} (unknown : env.included? f.scopes name = none) :
      Executes env depth f (.included name none) [] (.failed (.inclusionNotFound name) f.session)
  | instead {depth name body log ending} {f : Frame σ} (unknown : env.included? f.scopes name = none)
      (runs : Executes env depth { f with body := none } (.block (some body)) log ending) :
      Executes env depth f (.included name (some body)) log ending
  | plain {depth name template elements log ending} {f : Frame σ}
      (found : env.included? f.scopes name = some (template, elements))
      (runs : Executes env depth { f with body := none, template } (.template elements) log ending) :
      Executes env depth f (.included name none) log ending
  | bodyFails {depth name template elements body log e s} {f : Frame σ}
      (found : env.included? f.scopes name = some (template, elements))
      (first : Executes env depth f (.block (some body)) log (.failed e s)) :
      Executes env depth f (.included name (some body)) (.opened :: log) (.failed e s)
  | withBody {depth name template elements body log more texts ending} {f g : Frame σ}
      (found : env.included? f.scopes name = some (template, elements))
      (first : Executes env depth f (.block (some body)) log (.done g)) (nested : Nested log texts)
      (runs : Executes env depth { g with body := some (String.join texts), template } (.template elements) more
        ending) :
      Executes env depth f (.included name (some body)) (.opened :: (log ++ .closed (String.join texts) :: more)) ending

/-! ### Executions of the authenticity helpers -/

variable {env : Env σ} {depth : Nat} {f : Frame σ} {log : List Entry} {ending : Finish σ}

theorem exists_helper_of_asks {call : Invocation} (h : call.asks = true) :
    ∃ helper, Helper.ofName? call.name = some helper := by
  rw [Invocation.asks, Bool.or_eq_true, decide_eq_true_iff, decide_eq_true_iff] at h
  rcases h with hform | htoken
  · rw [hform]
    exact ⟨_, rfl⟩
  · rw [htoken]
    exact ⟨_, rfl⟩

/-- What an executed call of an authenticity helper does: with nothing it reads the token and writes it as it is, and
with anything it ends the execution. -/
theorem executes_call_iff_of_asks {call : Invocation} {body alternative : Option (List Element)}
    (hasks : call.asks = true) : Executes env depth f (.call call body alternative) log ending ↔
      if call.isBare then
        log = [.called .tag call, .read (env.readToken f.session).1, .wrote (call.markup (env.readToken f.session).1)] ∧
          ending = .done { f with session := (env.readToken f.session).2 }
      else log = [.called .tag call] ∧ ending = .failed call.refusal f.session := by
  obtain ⟨helper, hname⟩ := exists_helper_of_asks hasks
  have hplan := plan_of_asks hname hasks body.isSome
  cases hbare : call.isBare with
  | true =>
    rw [hbare] at hplan
    constructor
    · intro h
      cases h with
      | unknown hunknown => cases hunknown.symm.trans hname
      | failed hnamed hfailed =>
        cases hnamed.symm.trans hname
        cases hfailed.symm.trans hplan
      | planned hnamed hplanned hruns =>
        cases hnamed.symm.trans hname
        cases hplanned.symm.trans hplan
        cases hruns
        exact ⟨rfl, rfl⟩
    · rintro ⟨rfl, rfl⟩
      exact .planned hname hplan .token
  | false =>
    rw [hbare] at hplan
    constructor
    · intro h
      cases h with
      | unknown hunknown => cases hunknown.symm.trans hname
      | failed hnamed hfailed =>
        cases hnamed.symm.trans hname
        cases hfailed.symm.trans hplan
        exact ⟨rfl, rfl⟩
      | planned hnamed hplanned hruns =>
        cases hnamed.symm.trans hname
        cases hplanned.symm.trans hplan
    · rintro ⟨rfl, rfl⟩
      exact .failed hname hplan

theorem names_path_iff {scopes : List Scope} {path : Path} {s t : σ} {name : Except RenderError String} :
    Names env scopes (.path path) s log name t ↔ log = [] ∧ name = .ok path.raw ∧ t = s := by
  constructor
  · intro h
    cases h with
    | path => exact ⟨rfl, rfl, rfl⟩
    | value computed => exact absurd rfl (computed path)
  · rintro ⟨rfl, rfl, rfl⟩
    exact .path path

theorem invokes_bare_iff {scopes : List Scope} {path : Path} {s t : σ} {call : Except RenderError Invocation} :
    Invokes env scopes { name := .path path } s log call t ↔
      log = [] ∧ call = .ok ⟨⟨[], []⟩, path.raw, []⟩ ∧ t = s := by
  constructor
  · intro h
    cases h with
    | unnamed names => cases (names_path_iff.mp names).2.1
    | failed names params => cases params
    | invoked names params named =>
      obtain ⟨rfl, hname, rfl⟩ := names_path_iff.mp names
      cases hname
      cases params
      cases named
      exact ⟨rfl, rfl, rfl⟩
  · rintro ⟨rfl, rfl, hsession⟩
    rw [hsession]
    exact @Invokes.invoked σ env scopes s s s s [] [] [] path.raw [] (.ok []) _ (.path path) .nil .nil

/-- A tag that only names an authenticity helper calls it. Neither the data nor the scopes are asked, so no field of
them hides the helper of its name. -/
theorem executes_bareTag_iff {path : Path} (hasks : (⟨⟨[], []⟩, path.raw, []⟩ : Invocation).asks = true)
    {escaped : Bool} : Executes env depth f (.element (.output escaped { name := .path path })) log ending ↔
      log = [.called .tag ⟨⟨[], []⟩, path.raw, []⟩, .read (env.readToken f.session).1,
          .wrote ((⟨⟨[], []⟩, path.raw, []⟩ : Invocation).markup (env.readToken f.session).1)] ∧
        ending = .done { f with session := (env.readToken f.session).2 } := by
  obtain ⟨helper, hhelper⟩ := exists_helper_of_asks hasks
  have hcalls {name : String} (hname : name = path.raw) : ¬Head.IsValue { name := .path path } name := by
    rintro ⟨-, hnone⟩
    rw [hname] at hnone
    cases hnone.symm.trans hhelper
  constructor
  · intro h
    cases h with
    | unnamed names => cases (names_path_iff.mp names).2.1
    | valueless names isValue | value names isValue =>
      exact absurd isValue (hcalls (Except.ok.inj (names_path_iff.mp names).2.1))
    | untagged names isCall invokes => cases (invokes_bare_iff.mp invokes).2.1
    | tag names isCall invokes runs =>
      obtain ⟨rfl, -, rfl⟩ := names_path_iff.mp names
      obtain ⟨rfl, hcall, rfl⟩ := invokes_bare_iff.mp invokes
      cases hcall
      exact (executes_call_iff_of_asks hasks).mp runs
    | uncalled calls => cases calls
  · rintro ⟨rfl, rfl⟩
    exact .tag (.path path) (hcalls rfl) (invokes_bare_iff.mpr ⟨rfl, rfl, rfl⟩)
      ((executes_call_iff_of_asks hasks).mpr ⟨rfl, rfl⟩)

end AppServer.Template
