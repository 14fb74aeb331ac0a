import Mathlib
import AppServer.Proofs.Template.Adequacy
import AppServer.Template.Engine

/-!
# Who reads the token

Rendering a template reads the token of the session once for each call of an
authenticity helper that is executed and takes nothing, and never otherwise. The
helper writes it as it is. An executed call with arguments or loop variables reads
nothing and ends the rendering.
-/

namespace AppServer.TemplateEngine

open Template

variable {σ : Type} {readToken : σ → String × σ} {session : σ}

/-- Who reads the token in a rendering, as its journal tells, and what comes of it. -/
structure ReadsWhenAsked (readToken : σ → String × σ) (session : σ) (done : Rendered σ) : Prop where
  /-- The token is read once for each accepted call of an authenticity helper, and so the session changes. -/
  readings : Template.readings readToken (done.journal.countP Entry.isAsked) session =
    (done.journal.filterMap Entry.token?, done.session)
  read : ∀ before token after, done.journal = before ++ .read token :: after →
    ∃ earlier place call rest, before = earlier ++ [.called place call] ∧ call.asks = true ∧ call.isBare = true ∧
      after = .wrote (call.markup token) :: rest
  accepted : ∀ before place call after, done.journal = before ++ .called place call :: after → call.asks = true →
    call.isBare = true → ∃ token rest, after = .read token :: .wrote (call.markup token) :: rest
  /-- A call with arguments or loop variables is the last thing that is done. -/
  refused : ∀ before place call after, done.journal = before ++ .called place call :: after → call.asks = true →
    call.isBare = false → after = [] ∧ done.outcome = .error call.refusal
  /-- The text is what is written outside of marks, and marks hold what is written between them. -/
  text : ∀ text, done.outcome = .ok text → ∃ texts, Nested done.journal texts ∧ text = String.join texts
  /-- What a helper makes of the token shows unchanged in the text, or in a text of its own that it is written for. -/
  shown : ∀ text, done.outcome = .ok text → ∀ before place call token rest,
    done.journal = before ++ .called place call :: .read token :: .wrote (call.markup token) :: rest →
      (∃ front behind, text = front ++ call.markup token ++ behind) ∨
        openTexts before ≠ 0 ∧ ∃ front behind, .closed (front ++ call.markup token ++ behind) ∈ rest

theorem ReadsWhenAsked.of_lawful {done : Rendered σ}
    (hlawful : Lawful readToken session done.journal (fault? done.outcome) done.session)
    (htext : ∀ text, done.outcome = .ok text → ∃ texts, Nested done.journal texts ∧ text = String.join texts) :
    ReadsWhenAsked readToken session done where
  readings := hlawful.readings_eq
  read _ _ _ hjournal := hlawful.before_read hjournal
  accepted _ _ _ _ hjournal hasks := (hlawful.after_call hjournal hasks).1
  refused _ _ _ _ hjournal hasks hbare := by
    obtain ⟨hafter, hfault⟩ := (hlawful.after_call hjournal hasks).2 hbare
    refine ⟨hafter, ?_⟩
    cases houtcome : done.outcome with
    | ok text =>
      rw [houtcome] at hfault
      cases hfault
    | error e =>
      rw [houtcome] at hfault
      cases hfault
      rfl
  text := htext
  shown text houtcome before place call token rest hjournal := by
    obtain ⟨texts, hnested, rfl⟩ := htext text houtcome
    have hwritten : done.journal =
        (before ++ [.called place call, .read token]) ++ .wrote (call.markup token) :: rest := by
      rw [hjournal, List.append_assoc]
      rfl
    have hopen : openTexts (before ++ [.called place call, .read token]) = openTexts before := by
      rw [openTexts_append]
      exact Int.add_zero _
    have hshows := hnested.shows hwritten
    rwa [hopen] at hshows

/-- The execution of some elements, from the template of a name if they have one, is what a journal tells, and it ends
as the rendering does. -/
def CarriesOut (engine : TemplateEngine) (data : Json) (readToken : σ → String × σ) (session : σ) (name : Option String)
    (elements : List Element) (done : Rendered σ) : Prop :=
  ∃ ending, Executes { data, template? := engine.get?, readToken } maxDepth
      { session, scopes := [{ current := data }], template := name } (.template elements) done.journal ending ∧
    match ending with
    | .done f => done.session = f.session ∧ ∃ text, done.outcome = .ok text
    | .failed e s => done.session = s ∧ done.outcome = .error e

theorem renderedElements_spec (engine : TemplateEngine) (data : Json) (name : Option String) (elements : List Element) :
    let done := engine.renderedElements data readToken session name elements
    ReadsWhenAsked readToken session done ∧ engine.CarriesOut data readToken session name elements done := by
  intro done
  let env : Env σ := { data, template? := engine.get?, readToken }
  let start : Progress σ := { session, scopes := [{ current := data }], template := name }
  obtain ⟨log, htold, hexecutes⟩ := renders_render env maxDepth elements start
  rcases hrun : (env.render maxDepth elements).run.run start with ⟨outcome, last⟩
  rw [hrun] at htold hexecutes
  have hdone : done = ⟨outcome.map fun _ => last.text, last.session, log⟩ := by
    have hjournal : last.journal.reverse = log := by
      rw [htold.journal, List.append_nil, List.reverse_reverse]
    simp only [env, start] at hrun
    simp only [done, renderedElements, hrun, hjournal]
  rw [hdone]
  refine ⟨.of_lawful ?_ fun text htext => ?_, ending outcome last.frame, hexecutes, ?_⟩
  · cases outcome with
    | ok _ => exact htold.lawful
    | error e => exact htold.lawful
  · cases outcome with
    | error e => cases htext
    | ok _ =>
      obtain ⟨texts, hnested, houtput⟩ := htold.nested rfl
      refine ⟨texts, hnested, ?_⟩
      cases htext
      rw [Progress.text, houtput, List.append_nil, List.reverse_reverse]
  · cases outcome with
    | error e => exact ⟨rfl, rfl⟩
    | ok _ => exact ⟨rfl, last.text, rfl⟩

/-- Rendering a template executes it, and the token of the session is read once for each executed call of an
authenticity helper that brings nothing, and never otherwise; what the helper makes of the token shows as it is. An
executed call that brings something is refused, and nothing is done after it. So it is for a registered template and
for a source, whatever the other templates, the data and the session are. -/
theorem token_read_when_asked (engine : TemplateEngine) (name source : String) (data : Json)
    (readToken : σ → String × σ) (session : σ) :
    let named := engine.rendered name data readToken session
    let inline := engine.renderedSource source data readToken session
    (engine.render name data readToken session = (named.outcome, named.session) ∧
      ReadsWhenAsked readToken session named ∧
      (∀ template, engine.get? name = some template →
        engine.CarriesOut data readToken session (some name) template.elements named) ∧
      (engine.get? name = none → named = ⟨.error (.templateNotFound name), session, []⟩)) ∧
    engine.renderSource source data readToken session = (inline.outcome, inline.session) ∧
      ReadsWhenAsked readToken session inline ∧
      (∀ template, compile source = .ok template →
        engine.CarriesOut data readToken session none template.elements inline) ∧
      ∀ reason, compile source = .error reason → inline = ⟨.error (.badSource reason), session, []⟩ := by
  intro named inline
  have hnothing (e : RenderError) : ReadsWhenAsked readToken session ⟨.error e, session, []⟩ :=
    .of_lawful (.done session _) nofun
  refine ⟨⟨rfl, ?_⟩, rfl, ?_⟩
  · cases hname : engine.get? name with
    | none =>
      have hnamed : named = ⟨.error (.templateNotFound name), session, []⟩ := by simp only [named, rendered, hname]
      rw [hnamed]
      exact ⟨hnothing _, nofun, fun _ => rfl⟩
    | some template =>
      have hnamed : named = engine.renderedElements data readToken session (some name) template.elements := by
        simp only [named, rendered, hname]
      obtain ⟨hreads, hcarries⟩ := engine.renderedElements_spec data (some name) template.elements
      rw [hnamed]
      refine ⟨hreads, ?_, nofun⟩
      rintro _ ⟨⟩
      exact hcarries
  · cases hsource : compile source with
    | error reason =>
      have hinline : inline = ⟨.error (.badSource reason), session, []⟩ := by
        simp only [inline, renderedSource, hsource]
      rw [hinline]
      refine ⟨hnothing _, nofun, ?_⟩
      rintro _ ⟨⟩
      rfl
    | ok template =>
      have hinline : inline = engine.renderedElements data readToken session none template.elements := by
        simp only [inline, renderedSource, hsource]
      obtain ⟨hreads, hcarries⟩ := engine.renderedElements_spec data none template.elements
      rw [hinline]
      refine ⟨hreads, ?_, nofun⟩
      rintro _ ⟨⟩
      exact hcarries

/-! ### A rendering with a loop and a branch that is not taken -/

def branchedSource : String :=
  "\x7b\x7b#if none\x7d\x7d\x7b\x7bauthenticity_form\x7d\x7d\x7b\x7b/if\x7d\x7d" ++
    "\x7b\x7b#each items\x7d\x7d\x7b\x7bauthenticity_token\x7d\x7d\x7b\x7b/each\x7d\x7d"

def branchedElements : List Element :=
  [.block { name := .path (Path.ofName "if"), params := [.path (Path.ofName "none")] } false
      [.output true { name := .path (Path.ofName "authenticity_form") }] none,
    .block { name := .path (Path.ofName "each"), params := [.path (Path.ofName "items")] } false
      [.output true { name := .path (Path.ofName "authenticity_token") }] none]

theorem compile_branchedSource : compile branchedSource = .ok ⟨branchedElements⟩ := by cbv

def shadowingData : Json :=
  .object [("authenticity_token", .string "x"), ("items", .array [.nat 1, .nat 2])]

def angles (n : Nat) : String × Nat := (String.ofList (List.replicate n '<'), n + 1)

/-- The form in the branch is not written; the loop writes two tokens and not the field of their helper's name. -/
theorem token_read_when_asked_branched :
    let done := empty.renderedSource branchedSource shadowingData angles 1
    compile branchedSource = .ok ⟨branchedElements⟩ ∧ ReadsWhenAsked angles 1 done ∧
      empty.CarriesOut shadowingData angles 1 none branchedElements done ∧
      done = ⟨.ok "<<<", 3,
        [.called .tag ⟨⟨[.null], []⟩, "if", []⟩, .called .tag ⟨⟨[.array [.nat 1, .nat 2]], []⟩, "each", []⟩,
          .called .tag ⟨⟨[], []⟩, "authenticity_token", []⟩, .read "<", .wrote "<",
          .called .tag ⟨⟨[], []⟩, "authenticity_token", []⟩, .read "<<", .wrote "<<"]⟩ := by
  intro done
  obtain ⟨-, -, hreads, hcarries, -⟩ := token_read_when_asked empty "" branchedSource shadowingData angles 1
  refine ⟨compile_branchedSource, hreads, hcarries _ compile_branchedSource, ?_⟩
  simp only [done, renderedSource, compile_branchedSource]
  rfl

end AppServer.TemplateEngine
