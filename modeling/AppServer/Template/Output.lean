import AppServer.Template.Journal

/-!
# Output of rendering

The state of a rendering and the ways in which it is written to: as it is, or
line by line behind the indentation of the inclusion that is being rendered.
-/

namespace AppServer.Template

/-- The state of a rendering; `σ` is what tokens are read from. -/
structure Progress (σ : Type) where
  session : σ
  /-- The scopes, innermost first. -/
  scopes : List Scope
  /-- The text of the body that the inclusion being rendered has. -/
  body : Option String := none
  /-- The name of the template whose elements are being rendered; none inside a block. -/
  template : Option String := none
  /-- Values are written as they are. -/
  unescaped : Bool := false
  /-- What stands in front of each line. -/
  indent : String := ""
  /-- The next text starts a line, so the indentation comes first. -/
  pendingIndent : Bool := false
  /-- What was written last ends a line. -/
  afterNewline : Bool := false
  /-- Something was written. -/
  produced : Bool := false
  /-- What was written, last first. -/
  output : List String := []
  /-- What was done, last first. -/
  journal : List Entry := []

/-- A step of rendering; what it did to the state stays when it fails. -/
abbrev Rendering (σ : Type) := ExceptT RenderError (StateM (Progress σ))

/-- Puts the indentation behind each line break that another line follows. -/
def indentLines (indent : List Char) : List Char → List Char
  | [] => []
  | '\n' :: c :: rest => '\n' :: indent ++ indentLines indent (c :: rest)
  | c :: rest => c :: indentLines indent rest

theorem indentLines_nil (cs : List Char) : indentLines [] cs = cs := by
  fun_induction indentLines [] cs with
  | case1 => rfl
  | case2 c rest ih => simp [ih]
  | case3 c rest _ ih => simp [ih]

namespace Progress

variable {σ : Type}

def note (p : Progress σ) (entry : Entry) : Progress σ := { p with journal := entry :: p.journal }

def write (p : Progress σ) (s : String) : Progress σ := { p.note (.wrote s) with output := s :: p.output }

/-- Writes a text behind the indentation; an empty one changes nothing. -/
def writeIndented (p : Progress σ) (s : String) : Progress σ :=
  if s = "" then p
  else
    let cs := s.toList
    let lead := if p.pendingIndent && !cs.head?.any isLineEnd then p.indent else ""
    let endsLine := cs.getLast?.any isLineEnd
    { p.write (lead ++ String.ofList (indentLines p.indent.toList cs)) with
      produced := true, pendingIndent := endsLine, afterNewline := endsLine }

def writeValue (p : Progress σ) (value : Json) : Progress σ :=
  p.writeIndented (if p.unescaped then display value else escape (display value))

def text (p : Progress σ) : String := String.join p.output.reverse

end Progress

/-- What a step writes, instead of writing it. -/
def capture {σ : Type} (unescaped : Bool) (step : Rendering σ Unit) : Rendering σ String := do
  let before ← get
  set { before.note .opened with output := [], unescaped := unescaped }
  step
  let after ← get
  set { after.note (.closed after.text) with output := before.output, unescaped := before.unescaped }
  pure after.text

/-- Runs a step in a further scope, and yields that scope as the step leaves it. -/
def inScope {σ : Type} (scope : Scope) (step : Rendering σ Unit) : Rendering σ Scope := do
  let outer := (← get).scopes
  modify fun p => { p with scopes := scope :: p.scopes }
  step
  let inner := (← get).scopes
  modify fun p => { p with scopes := outer }
  pure (inner.head?.getD scope)

/-- Runs a step in front of which the indentation comes if it is due. One that writes nothing leaves it
as due as it was. -/
def startingLine {σ : Type} (due : Progress σ → Bool) (step : Rendering σ Unit) : Rendering σ Unit := do
  let before ← get
  modify fun p => { p with produced := false, pendingIndent := due p }
  step
  modify fun after =>
    if after.produced then { after with pendingIndent := after.afterNewline }
    else { after with produced := before.produced, pendingIndent := before.pendingIndent }

end AppServer.Template
