import Mathlib
import AppServer.Template.Engine

/-!
# Pages that only ask for the token

A page made of texts and the two tags of the authenticity token needs no data
and cannot fail. Its texts are written as they are, and each tag writes the
token that the first of them reads; nothing of the token is escaped.
-/

namespace AppServer.Template

variable {σ : Type} {s t u : σ} {a b : String}

/-! ### Steps that write -/

/-- Outside of inclusions a step writes a text and leads from one session to another, whatever the rest
of the state is. -/
def Writes (step : Rendering σ Unit) (s t : σ) (text : String) : Prop :=
  ∀ p : Progress σ, p.session = s → p.indent = "" → ∃ q, step.run.run p = (.ok (), q) ∧
    q.session = t ∧ q.indent = "" ∧ q.text = p.text ++ text

theorem Progress.text_cons (p : Progress σ) (text : String) :
    ({ p with output := text :: p.output } : Progress σ).text = p.text ++ text := by
  simp [Progress.text]

theorem writes_pure (s : σ) : Writes (pure ()) s s "" :=
  fun p hsession hindent => ⟨p, rfl, hsession, hindent, (String.append_empty).symm⟩

theorem Writes.bind {first second : Rendering σ Unit} (hfirst : Writes first s t a)
    (hsecond : Writes second t u b) : Writes (first >>= fun _ => second) s u (a ++ b) := by
  intro p hsession hindent
  obtain ⟨q, hq, hqsession, hqindent, hqtext⟩ := hfirst p hsession hindent
  obtain ⟨r, hr, hrsession, hrindent, hrtext⟩ := hsecond q hqsession hqindent
  refine ⟨r, ?_, hrsession, hrindent, ?_⟩
  · rw [ExceptT.run_bind, StateT.run_bind, hq]
    exact hr
  · rw [hrtext, hqtext, String.append_assoc]

theorem writes_writeIndented (text : String) : Writes (modify (·.writeIndented text)) s s text := by
  intro p hsession hindent
  refine ⟨p.writeIndented text, rfl, ?_⟩
  unfold Progress.writeIndented
  split
  · next hempty =>
    refine ⟨hsession, hindent, ?_⟩
    rw [hempty, String.append_empty]
  · refine ⟨hsession, hindent, ?_⟩
    simp [hindent, indentLines_nil, Progress.write, Progress.text]

/-- What is done to the lines shows only inside of inclusions. -/
theorem Writes.startingLine {step : Rendering σ Unit} (h : Writes step s t a)
    (due : Progress σ → Bool) : Writes (startingLine due step) s t a := by
  intro p hsession hindent
  obtain ⟨q, hq, hqsession, hqindent, hqtext⟩ :=
    h { p with produced := false, pendingIndent := due p } hsession hindent
  have hrun : (Template.startingLine due step).run.run p =
      (step >>= fun _ => modify fun after =>
        if after.produced then { after with pendingIndent := after.afterNewline }
        else { after with produced := p.produced, pendingIndent := p.pendingIndent }).run.run
        { p with produced := false, pendingIndent := due p } := rfl
  rw [hrun, ExceptT.run_bind, StateT.run_bind, hq]
  refine ⟨_, rfl, ?_⟩
  dsimp only
  split <;> exact ⟨hqsession, hqindent, hqtext⟩

theorem Writes.noted {step : Rendering σ Unit} (h : Writes step s t a) (call : Call σ) (place : Place) :
    Writes (call.note place >>= fun _ => step) s t a := by
  intro p hsession hindent
  obtain ⟨q, hq, hqsession, hqindent, hqtext⟩ := h (p.note (.called place call.toInvocation)) hsession hindent
  exact ⟨q, hq, hqsession, hqindent, hqtext⟩

/-! ### The authenticity helpers -/

variable {env : Env σ} {token : String}

theorem writes_token (hread : env.readToken s = (token, t)) (wrap : String → String) :
    Writes (do
      let token ← env.token
      modify (·.write (wrap token))) s t (wrap token) := by
  intro p hsession hindent
  subst hsession
  refine ⟨(({ p with session := t } : Progress σ).note (.read token)).write (wrap token), ?_, rfl, hindent,
    p.text_cons _⟩
  have hrun : (env.token).run.run p = (.ok token, ({ p with session := t } : Progress σ).note (.read token)) := by
    have htoken : (env.token).run.run p = (.ok (env.readToken p.session).1,
      ({ p with session := (env.readToken p.session).2 } : Progress σ).note (.read (env.readToken p.session).1)) := rfl
    rw [htoken, hread]
  rw [ExceptT.run_bind, StateT.run_bind, hrun]
  rfl

theorem writes_authenticityForm (hread : env.readToken s = (token, t)) {call : Call σ}
    (hbare : call.requireBare = .ok ()) :
    Writes (Action.run env call .authenticityForm) s t (hiddenField token) := by
  rw [Action.run, Call.writeToken, hbare]
  exact writes_token hread hiddenField

theorem writes_authenticityToken (hread : env.readToken s = (token, t)) {call : Call σ}
    (hbare : call.requireBare = .ok ()) :
    Writes (Action.run env call .authenticityToken) s t token := by
  rw [Action.run, Call.writeToken, hbare]
  exact writes_token hread id

theorem callOf_ofName (env : Env σ) (name : String) :
    env.callOf (Head.ofName name) = pure { name, params := [], hash := [] } := by
  simp only [Env.callOf, Env.nameOf, Head.ofName, Head.nameText?, Path.ofName, Env.values, Env.namedValues,
    pure_bind]

theorem renderOutput_ofName {name : String} {helper : Helper} (hname : Helper.ofName? name = some helper) :
    env.renderOutput (Head.ofName name) = startingLine (fun p => p.pendingIndent || (false && p.afterNewline)) (do
      Call.note { name, params := [], hash := [] } .tag
      helper.run env { name, params := [], hash := [] }) := by
  have hbare : (Head.ofName name).isBare = true := rfl
  have hnameOf : env.nameOf (Head.ofName name) = pure name := rfl
  simp only [Env.renderOutput, hbare, hnameOf, pure_bind, hname, Option.isNone_some, Bool.and_false,
    callOf_ofName, Call.run, Bool.false_eq_true, if_false]

/-! ### Pages -/

inductive Fragment where
  | text (value : String)
  | hiddenField
  | token

def Fragment.element : Fragment → Element
  | .text value => .text value
  | .hiddenField => .output true (Head.ofName authenticityFormName)
  | .token => .output true (Head.ofName authenticityTokenName)

/-- What a part of a page shows. -/
def Fragment.shows (token : String) : Fragment → String
  | .text value => value
  | .hiddenField => Template.hiddenField token
  | .token => token

def Fragment.asks : Fragment → Bool
  | .text _ => false
  | .hiddenField => true
  | .token => true

theorem Fragment.writes (render : List Element → Rendering σ Unit)
    (hread : env.readToken s = (token, t)) (fragment : Fragment) :
    Writes (env.renderElement render fragment.element) s (if fragment.asks then t else s)
      (fragment.shows token) := by
  cases fragment with
  | text value => exact writes_writeIndented value
  | hiddenField =>
    have hname : Helper.ofName? authenticityFormName = some (.action .authenticityForm) := by decide
    rw [element, Env.renderElement, if_pos rfl, renderOutput_ofName hname]
    exact ((writes_authenticityForm hread rfl).noted _ .tag).startingLine _
  | token =>
    have hname : Helper.ofName? authenticityTokenName = some (.action .authenticityToken) := by decide
    rw [element, Env.renderElement, if_pos rfl, renderOutput_ofName hname]
    exact ((writes_authenticityToken hread rfl).noted _ .tag).startingLine _

/-- Once the token has been read, each further reading finds the same. -/
theorem writes_fragments (render : List Element → Rendering σ Unit)
    (hread : env.readToken s = (token, t)) (hagain : env.readToken t = (token, t)) (fragments : List Fragment) :
    Writes (env.renderElements render (fragments.map Fragment.element)) s
      (if fragments.any Fragment.asks then t else s) (String.join (fragments.map (Fragment.shows token))) := by
  induction fragments generalizing s with
  | nil => exact writes_pure s
  | cons fragment rest ih =>
    rw [List.map_cons, List.map_cons, Env.renderElements, List.any_cons, String.join_cons]
    have hfirst := fragment.writes render hread
    cases hasks : fragment.asks with
    | true =>
      rw [hasks, if_pos rfl] at hfirst
      have hrest := ih hagain
      rw [ite_self] at hrest
      exact hfirst.bind hrest
    | false =>
      rw [hasks, if_neg (by decide)] at hfirst
      exact hfirst.bind (ih hread)

/-! ### Reading the hidden field -/

def afterFirst? (marker : List Char) : List Char → Option (List Char)
  | [] => none
  | c :: rest =>
    match Text.dropStart? marker (c :: rest) with
    | some after => some after
    | none => afterFirst? marker rest

/-- The value of the first hidden field of a page: what stands up to the next double quote. -/
def hiddenValue? (html : String) : Option String := do
  let after ← afterFirst? "<input type=\"hidden\" value=\"".toList html.toList
  let (value, _) ← Text.cutFirst '"' after
  some (String.ofList value)

theorem toList_hiddenField (token : String) : (hiddenField token).toList =
    "<input type=\"hidden\" value=\"".toList ++
      (token.toList ++ '"' :: " name=\"authenticityToken\" />".toList) := by
  have hend : "\" name=\"authenticityToken\" />".toList = '"' :: " name=\"authenticityToken\" />".toList := by
    simp
  have hjoin (a b c : String) : (a ++ b ++ c).toList = a.toList ++ (b.toList ++ c.toList) := by
    rw [String.toList_append, String.toList_append, List.append_assoc]
  rw [← hend]
  exact hjoin _ _ _

theorem hiddenValue?_append {before after token : String} (hquote : '"' ∉ token.toList)
    (hbefore : ∀ rest, afterFirst? "<input type=\"hidden\" value=\"".toList
      (before.toList ++ ("<input type=\"hidden\" value=\"".toList ++ rest)) = some rest) :
    hiddenValue? (before ++ hiddenField token ++ after) = some token := by
  have htext : (before ++ hiddenField token ++ after).toList =
      before.toList ++ ("<input type=\"hidden\" value=\"".toList ++
        (token.toList ++ '"' :: (" name=\"authenticityToken\" />".toList ++ after.toList))) := by
    rw [String.toList_append, String.toList_append, toList_hiddenField]
    simp only [List.append_assoc, List.cons_append]
  simp only [hiddenValue?, htext, hbefore, Option.bind_eq_bind, Option.bind_some,
    Text.cutFirst_append hquote, String.ofList_toList]

theorem hiddenValue?_hiddenField {token : String} (hquote : '"' ∉ token.toList) :
    hiddenValue? (hiddenField token) = some token := by
  have h : hiddenValue? ("" ++ hiddenField token ++ "") = some token :=
    hiddenValue?_append hquote fun rest => by simp [afterFirst?, Text.dropStart?]
  rwa [String.empty_append, String.append_empty] at h

end AppServer.Template

namespace AppServer.TemplateEngine

open Template

variable {σ : Type} {readToken : σ → String × σ} {s t : σ} {token : String}

/-- A page that only asks for the token is rendered whatever the data, the templates and the name are. -/
theorem renderedElements_fragments (hread : readToken s = (token, t)) (hagain : readToken t = (token, t))
    (engine : TemplateEngine) (data : Json) (name : Option String) (fragments : List Fragment) :
    let done := engine.renderedElements data readToken s name (fragments.map Fragment.element)
    (done.outcome, done.session) =
      (.ok (String.join (fragments.map (Fragment.shows token))),
        if fragments.any Fragment.asks then t else s) := by
  let env : Env σ := { data, template? := engine.get?, readToken }
  let start : Progress σ := { session := s, scopes := [{ current := data }], template := name }
  have hread' : env.readToken s = (token, t) := hread
  obtain ⟨q, hq, hqsession, -, hqtext⟩ :=
    writes_fragments (env.render 999) hread' hagain fragments start rfl rfl
  have hrun : (env.render maxDepth (fragments.map Fragment.element)).run.run start = (.ok (), q) := hq
  have htext : q.text = String.join (fragments.map (Fragment.shows token)) := by
    rw [hqtext]
    simp [Progress.text, start]
  simp only [env, start] at hrun
  simp only [renderedElements, hrun, Except.map, htext, hqsession]

theorem renderSource_fragments {source : String} {fragments : List Fragment}
    (hsource : compile source = .ok ⟨fragments.map Fragment.element⟩) (hread : readToken s = (token, t))
    (hagain : readToken t = (token, t)) (engine : TemplateEngine) (data : Json) :
    engine.renderSource source data readToken s =
      (.ok (String.join (fragments.map (Fragment.shows token))),
        if fragments.any Fragment.asks then t else s) := by
  simp only [renderSource, renderedSource, hsource]
  exact renderedElements_fragments hread hagain engine data none fragments

theorem compile_hiddenField :
    compile "\x7b\x7bauthenticity_form\x7d\x7d" = .ok ⟨[Fragment.hiddenField].map Fragment.element⟩ := by cbv

theorem compile_token :
    compile "\x7b\x7bauthenticity_token\x7d\x7d" = .ok ⟨[Fragment.token].map Fragment.element⟩ := by cbv

/-- The tag of the hidden field writes a hidden field with the token. -/
theorem renderSource_hiddenField (hread : readToken s = (token, t)) (hagain : readToken t = (token, t))
    (engine : TemplateEngine) (data : Json) :
    engine.renderSource "\x7b\x7bauthenticity_form\x7d\x7d" data readToken s =
      (.ok (hiddenField token), t) := by
  rw [renderSource_fragments compile_hiddenField hread hagain]
  simp [Fragment.shows, Fragment.asks]

theorem renderSource_token (hread : readToken s = (token, t)) (hagain : readToken t = (token, t))
    (engine : TemplateEngine) (data : Json) :
    engine.renderSource "\x7b\x7bauthenticity_token\x7d\x7d" data readToken s = (.ok token, t) := by
  rw [renderSource_fragments compile_token hread hagain]
  simp [Fragment.shows, Fragment.asks]

end AppServer.TemplateEngine
