import AppServer.Proofs.Template.Execution

/-!
# Steps that keep the journal

Each step of a rendering tells in the journal what it does: the session changes only
where the journal tells of a reading, and a step that succeeds writes what the journal
tells outside of marks. This holds of the steps that a rendering is made of, of steps
in turn, and so of every element of a template.
-/

namespace AppServer.Template

variable {σ α β : Type} {readToken : σ → String × σ} {p q r : Progress σ} {fault : Option RenderError}

def Progress.frame (p : Progress σ) : Frame σ := ⟨p.session, p.scopes, p.body, p.template⟩

def fault? : Except RenderError α → Option RenderError
  | .ok _ => none
  | .error e => some e

/-- Between two states of a rendering happened what is told. -/
structure Told (readToken : σ → String × σ) (p : Progress σ) (log : List Entry) (fault : Option RenderError)
    (q : Progress σ) : Prop where
  journal : q.journal = log.reverse ++ p.journal
  lawful : Lawful readToken p.session log fault q.session
  nested : fault = none → ∃ texts, Nested log texts ∧ q.output = texts.reverse ++ p.output

/-- What a step does from a state on is told in the journal, and `Q` holds of what is told, of the outcome and of the
frame in the end. -/
def Tells (readToken : σ → String × σ) (step : Rendering σ α) (p : Progress σ)
    (Q : List Entry → Except RenderError α → Frame σ → Prop) : Prop :=
  ∃ log, Told readToken p log (fault? (step.run.run p).1) (step.run.run p).2 ∧
    Q log (step.run.run p).1 (step.run.run p).2.frame

theorem Told.append {first second : List Entry} (hfirst : Told readToken p first none q)
    (hsecond : Told readToken q second fault r) : Told readToken p (first ++ second) fault r where
  journal := by rw [hsecond.journal, hfirst.journal, List.reverse_append, List.append_assoc]
  lawful := hfirst.lawful.append hsecond.lawful
  nested hfault := by
    obtain ⟨texts, hnested, houtput⟩ := hfirst.nested rfl
    obtain ⟨more, hmore, hlater⟩ := hsecond.nested hfault
    refine ⟨texts ++ more, hnested.append hmore, ?_⟩
    rw [hlater, houtput, List.reverse_append, List.append_assoc]

structure Untold (p q : Progress σ) : Prop where
  session : q.session = p.session
  journal : q.journal = p.journal
  output : q.output = p.output

theorem Told.untold {log : List Entry} (h : Told readToken p log fault q) (hlater : Untold q r) :
    Told readToken p log fault r where
  journal := hlater.journal.trans h.journal
  lawful := by
    rw [hlater.session]
    exact h.lawful
  nested hfault := by
    rw [hlater.output]
    exact h.nested hfault

theorem told_nothing (p : Progress σ) (fault : Option RenderError) : Told readToken p [] fault p where
  journal := rfl
  lawful := .done p.session fault
  nested _ := ⟨[], .nil, rfl⟩

variable {Q : List Entry → Except RenderError α → Frame σ → Prop}
  {P : List Entry → Except RenderError β → Frame σ → Prop}

/-! ### Steps in turn -/

theorem tells_pure {a : α} (h : Q [] (.ok a) p.frame) : Tells readToken (pure a : Rendering σ α) p Q :=
  ⟨[], told_nothing p none, h⟩

theorem tells_throw {e : RenderError} (h : Q [] (.error e) p.frame) : Tells readToken (throw e : Rendering σ α) p Q :=
  ⟨[], told_nothing p (some e), h⟩

/-- What would follow a failure is not done. -/
theorem tells_throw_bind {e : RenderError} {next : β → Rendering σ α} (h : Q [] (.error e) p.frame) :
    Tells readToken ((throw e : Rendering σ β) >>= next) p Q :=
  ⟨[], told_nothing p (some e), h⟩

theorem tells_get_bind {next : Progress σ → Rendering σ α} (h : Tells readToken (next p) p Q) :
    Tells readToken (get >>= next) p Q := h

theorem tells_liftExcept {x : Except RenderError α} (h : Q [] x p.frame) :
    Tells readToken (liftM x : Rendering σ α) p Q :=
  ⟨[], told_nothing p (fault? x), h⟩

theorem tells_liftExcept_bind {x : Except RenderError β} {next : β → Rendering σ α}
    (hfail : ∀ e, x = .error e → Q [] (.error e) p.frame) (hnext : ∀ b, x = .ok b → Tells readToken (next b) p Q) :
    Tells readToken (liftM x >>= next) p Q := by
  cases x with
  | error e => exact ⟨[], told_nothing p (some e), hfail e rfl⟩
  | ok b => exact hnext b rfl

theorem Told.untold_append {log : List Entry} (hbefore : Untold p q) (h : Told readToken q log fault r) :
    Told readToken p log fault r :=
  ((told_nothing p none).untold hbefore).append h

theorem tells_modify {f : Progress σ → Progress σ} {Q : List Entry → Except RenderError Unit → Frame σ → Prop}
    (hf : Untold p (f p)) (h : Q [] (.ok ()) (f p).frame) :
    Tells readToken (modify f : Rendering σ Unit) p Q :=
  ⟨[], (told_nothing p none).untold hf, h⟩

theorem tells_modify_bind {f : Progress σ → Progress σ} {next : Unit → Rendering σ α} (hf : Untold p (f p))
    (h : Tells readToken (next ()) (f p) Q) : Tells readToken (modify f >>= next) p Q := by
  obtain ⟨log, htold, hQ⟩ := h
  exact ⟨log, htold.untold_append hf, hQ⟩

theorem Tells.bind {step : Rendering σ β} {next : β → Rendering σ α} (hstep : Tells readToken step p P)
    (hfail : ∀ log e f, P log (.error e) f → Q log (.error e) f)
    (hnext : ∀ log b q, P log (.ok b) q.frame → Tells readToken (next b) q fun more => Q (log ++ more)) :
    Tells readToken (step >>= next) p Q := by
  obtain ⟨first, hfirst, hP⟩ := hstep
  rw [Tells, ExceptT.run_bind, StateT.run_bind]
  rcases hrun : step.run.run p with ⟨outcome, q⟩
  rw [hrun] at hfirst hP
  cases outcome with
  | ok b =>
    obtain ⟨second, hsecond, hQ⟩ := hnext first b q hP
    exact ⟨first ++ second, hfirst.append hsecond, hQ⟩
  | error e => exact ⟨first, hfirst, hfail first e q.frame hP⟩

theorem Tells.mono {step : Rendering σ α} {R : List Entry → Except RenderError α → Frame σ → Prop}
    (h : Tells readToken step p R) (himp : ∀ log outcome f, R log outcome f → Q log outcome f) :
    Tells readToken step p Q := by
  obtain ⟨log, htold, hR⟩ := h
  exact ⟨log, htold, himp _ _ _ hR⟩

theorem Tells.map {step : Rendering σ β} {f : β → α}
    (h : Tells readToken step p fun log outcome => Q log (outcome.map f)) : Tells readToken (f <$> step) p Q := by
  rw [map_eq_pure_bind]
  refine h.bind (fun _ _ _ hfail => hfail) fun log b q hb => tells_pure ?_
  rw [List.append_nil]
  exact hb

/-! ### Writing -/

theorem told_write (p : Progress σ) (s : String) : Told readToken p [.wrote s] none (p.write s) where
  journal := rfl
  lawful := .quiet trivial (.done _ _)
  nested _ := ⟨[s], .wrote .nil, rfl⟩

section

variable {Q : List Entry → Except RenderError Unit → Frame σ → Prop}

theorem tells_write {s : String} (h : Q [.wrote s] (.ok ()) p.frame) :
    Tells readToken (modify (·.write s) : Rendering σ Unit) p Q :=
  ⟨[.wrote s], told_write p s, h⟩

theorem tells_write_bind {s : String} {next : Unit → Rendering σ α}
    {Q : List Entry → Except RenderError α → Frame σ → Prop}
    (h : Tells readToken (next ()) (p.write s) fun more => Q (.wrote s :: more)) :
    Tells readToken (modify (·.write s) >>= next) p Q := by
  obtain ⟨log, htold, hQ⟩ := h
  exact ⟨.wrote s :: log, (told_write p s).append htold, hQ⟩

theorem tells_writeIndented {s : String} (h : ∀ log, WritesText log → Q log (.ok ()) p.frame) :
    Tells readToken (modify (·.writeIndented s) : Rendering σ Unit) p Q := by
  have hrun : (modify (·.writeIndented s) : Rendering σ Unit).run.run p = (.ok (), p.writeIndented s) := rfl
  rw [Tells, hrun, Progress.writeIndented]
  split
  · exact ⟨[], told_nothing p none, h [] (.inl rfl)⟩
  · exact ⟨_, (told_write p _).untold ⟨rfl, rfl, rfl⟩, h _ (.inr ⟨_, rfl⟩)⟩

theorem tells_writeValue {value : Json} (h : ∀ log, WritesText log → Q log (.ok ()) p.frame) :
    Tells readToken (modify (·.writeValue value) : Rendering σ Unit) p Q :=
  have hindented := tells_writeIndented (s := if p.unescaped then display value else escape (display value)) h
  hindented

end

/-! ### Steps around steps -/

/-- What a step writes instead stands between two marks. -/
theorem Tells.capture {step : Rendering σ Unit} {unescaped : Bool}
    {P : List Entry → Except RenderError Unit → Frame σ → Prop}
    {Q : List Entry → Except RenderError String → Frame σ → Prop}
    (h : Tells readToken step { p.note .opened with output := [], unescaped := unescaped } P)
    (hfail : ∀ log e f, P log (.error e) f → Q (.opened :: log) (.error e) f)
    (hdone : ∀ log texts f, P log (.ok ()) f → Nested log texts →
      Q (.opened :: (log ++ [.closed (String.join texts)])) (.ok (String.join texts)) f) :
    Tells readToken (capture unescaped step) p Q := by
  obtain ⟨log, htold, hP⟩ := h
  have hrun : (Template.capture unescaped step).run.run p =
      (step >>= fun _ => do
        let after ← get
        set { after.note (.closed after.text) with output := p.output, unescaped := p.unescaped }
        pure after.text).run.run { p.note .opened with output := [], unescaped := unescaped } := rfl
  rw [Tells, hrun, ExceptT.run_bind, StateT.run_bind]
  rcases hstep : step.run.run { p.note .opened with output := [], unescaped := unescaped } with ⟨outcome, q⟩
  rw [hstep] at htold hP
  cases outcome with
  | error e =>
    refine ⟨.opened :: log, ⟨?_, .quiet trivial htold.lawful, nofun⟩, hfail log e q.frame hP⟩
    rw [List.reverse_cons, List.append_assoc]
    exact htold.journal
  | ok _ =>
    obtain ⟨texts, hnested, houtput⟩ := htold.nested rfl
    have htext : q.text = String.join texts := by
      rw [Progress.text, houtput, List.append_nil, List.reverse_reverse]
    refine ⟨.opened :: (log ++ [.closed (String.join texts)]), ⟨?_, ?_, fun _ => ⟨[], .apart hnested .nil, rfl⟩⟩, ?_⟩
    · have hjournal : q.journal = log.reverse ++ .opened :: p.journal := htold.journal
      show .closed q.text :: q.journal = _
      rw [htext, hjournal, List.reverse_cons, List.reverse_append, List.reverse_singleton, List.append_assoc,
        List.append_assoc]
      rfl
    · exact .quiet trivial (htold.lawful.append (.quiet trivial (.done _ _)))
    · have hcaptured := hdone log texts q.frame hP hnested
      rw [← htext] at hcaptured ⊢
      exact hcaptured

theorem Tells.inScope {step : Rendering σ Unit} {scope : Scope}
    {P : List Entry → Except RenderError Unit → Frame σ → Prop}
    {Q : List Entry → Except RenderError Scope → Frame σ → Prop}
    (h : Tells readToken step { p with scopes := scope :: p.scopes } P)
    (hfail : ∀ log e f, P log (.error e) f → Q log (.error e) f)
    (hdone : ∀ log f, P log (.ok ()) f → Q log (.ok (f.scopes.head?.getD scope)) { f with scopes := p.scopes }) :
    Tells readToken (inScope scope step) p Q := by
  rw [Template.inScope]
  refine tells_get_bind (tells_modify_bind ⟨rfl, rfl, rfl⟩ ?_)
  refine h.bind hfail fun log _ q hq => tells_get_bind (tells_modify_bind ⟨rfl, rfl, rfl⟩ (tells_pure ?_))
  rw [List.append_nil]
  exact hdone log q.frame hq

theorem Tells.startingLine {step : Rendering σ Unit} {due : Progress σ → Bool}
    {Q : List Entry → Except RenderError Unit → Frame σ → Prop}
    (h : Tells readToken step { p with produced := false, pendingIndent := due p } Q) :
    Tells readToken (startingLine due step) p Q := by
  rw [Template.startingLine]
  refine tells_get_bind (tells_modify_bind ⟨rfl, rfl, rfl⟩ ?_)
  refine h.bind (fun _ _ _ hfail => hfail) fun log _ q hq => ?_
  have hsame : Untold q (if q.produced then { q with pendingIndent := q.afterNewline }
      else { q with produced := p.produced, pendingIndent := p.pendingIndent }) := by
    split <;> exact ⟨rfl, rfl, rfl⟩
  have hframe : (if q.produced then { q with pendingIndent := q.afterNewline }
      else { q with produced := p.produced, pendingIndent := p.pendingIndent }).frame = q.frame := by
    split <;> rfl
  refine tells_modify hsame ?_
  rw [List.append_nil, hframe]
  exact hq

end AppServer.Template
