import AppServer.Proofs.Except
import AppServer.Proofs.Template.Telling

/-!
# Renderings are executions

What the renderer does with a template is an execution of it: argument by argument, helper by
helper and element by element, its journal tells what the template has it do.
-/

namespace AppServer.Template

variable {σ α β : Type} {env : Env σ} {call : Call σ} {p : Progress σ}

/-! ### Plans of helpers -/

def Call.follow (env : Env σ) (call : Call σ) : Plan → Rendering σ Unit
  | .token => do
    let token ← env.token
    modify (·.write (call.markup token))
  | .value | .nothing => pure ()
  | .body => perform call.body
  | .alternative => perform call.alternative
  | .within scope => discard (inScope scope (perform call.body))
  | .each scopes =>
    let turn (inlines : List (String × List Element)) (scope : Scope) : Rendering σ _ := do
      pure (← inScope { scope with inlines } (perform call.body)).inlines
    discard (scopes.foldlM turn [])

theorem liftM_ok_bind (b : β) (next : β → Rendering σ α) :
    ((liftM (.ok b : Except RenderError β) : Rendering σ β) >>= next) = next b := rfl

theorem liftM_error_bind (e : RenderError) (next : β → Rendering σ α) :
    ((liftM (.error e : Except RenderError β) : Rendering σ β) >>= next) = throw e := rfl

theorem runEach_of_plan {plan : Plan} (h : call.plan call.body.isSome (.action .each) = .ok plan) :
    call.runEach = call.follow env plan := by
  obtain ⟨planned, hplanned, hplan⟩ := bind_eq_ok_iff.mp h
  obtain ⟨value, hvalue, hparts⟩ := bind_eq_ok_iff.mp hplanned
  rw [Call.runEach, hvalue, liftM_ok_bind]
  cases hbody : call.body with
  | none =>
    rw [hbody] at hplan
    cases hplan
    rfl
  | some body =>
    rw [hbody] at hplan
    cases hplan
    dsimp only at hparts ⊢
    split at hparts
    · next part parts hsome =>
      cases hparts
      simp only [if_pos, hsome, Call.follow, partScopes, hbody, List.foldlM_map, Option.isSome_some]
      rfl
    · next hsome =>
      cases hparts
      rw [hsome]
      rfl
    · next hnone =>
      cases hparts
      rw [hnone]
      rfl

theorem runWithin_of_plan {plan : Plan} (h : call.planWithin = .ok plan) : call.runWithin = call.follow env plan := by
  obtain ⟨value, hvalue, hplan⟩ := bind_eq_ok_iff.mp h
  cases hplan
  rw [Call.runWithin, hvalue, liftM_ok_bind]
  cases htruthy : isTruthy false value with
  | true => rfl
  | false => rfl

theorem follow_chooses (call : Call σ) (isBody : Bool) : call.follow env (Invocation.chooses isBody) =
    if isBody then perform call.body else perform call.alternative := by
  cases isBody <;> rfl

theorem runConditional_of_plan {positive : Bool} {plan : Plan} (h : call.planConditional positive = .ok plan) :
    call.runConditional positive = call.follow env plan := by
  obtain ⟨value, hvalue, hplan⟩ := bind_eq_ok_iff.mp h
  cases hplan
  rw [Call.runConditional, hvalue, liftM_ok_bind]
  exact (follow_chooses call _).symm

theorem markup_of_authenticityForm (hname : Helper.ofName? call.name = some (.action .authenticityForm)) :
    call.markup = hiddenField :=
  funext fun _ => if_pos (name_of_authenticityForm hname)

theorem markup_of_authenticityToken (hname : Helper.ofName? call.name = some (.action .authenticityToken)) :
    call.markup = id := by
  have hother : call.name ≠ authenticityFormName := by
    rw [name_of_authenticityToken hname]
    decide
  exact funext fun _ => if_neg hother

theorem writeToken_of_plan {plan : Plan} {wrap : String → String} (hwrap : call.markup = wrap)
    (h : (if call.isBare then .ok .token else .error call.refusal) = Except.ok plan) :
    call.writeToken env wrap = call.follow env plan := by
  rw [Call.writeToken, Invocation.requireBare_eq, ← hwrap]
  cases hbare : call.isBare with
  | true =>
    rw [hbare] at h
    cases h
    rfl
  | false =>
    rw [hbare] at h
    cases h

theorem run_of_plan {a : Action} {plan : Plan} (hname : Helper.ofName? call.name = some (.action a))
    (h : call.plan call.body.isSome (.action a) = .ok plan) : a.run env call = call.follow env plan := by
  cases a with
  | authenticityForm => exact writeToken_of_plan (markup_of_authenticityForm hname) h
  | authenticityToken => exact writeToken_of_plan (markup_of_authenticityToken hname) h
  | conditional positive => exact runConditional_of_plan h
  | each => exact runEach_of_plan h
  | within => exact runWithin_of_plan h
  | raw =>
    cases h
    rfl
  | log =>
    obtain ⟨_, hlevel, hplan⟩ := bind_eq_ok_iff.mp h
    cases hplan
    rw [Action.run, hlevel]
    rfl

theorem writeToken_of_unplanned {e : RenderError} (wrap : String → String)
    (h : (if call.isBare then .ok .token else .error call.refusal) = (.error e : Except RenderError Plan)) :
    call.writeToken env wrap = throw e := by
  rw [Call.writeToken, Invocation.requireBare_eq]
  cases hbare : call.isBare with
  | true =>
    rw [hbare] at h
    cases h
  | false =>
    rw [hbare] at h
    cases h
    rfl

theorem run_of_unplanned {a : Action} {e : RenderError}
    (h : call.plan call.body.isSome (.action a) = .error e) : a.run env call = throw e := by
  cases a with
  | authenticityForm => exact writeToken_of_unplanned _ h
  | authenticityToken => exact writeToken_of_unplanned _ h
  | conditional positive =>
    rcases bind_eq_error_iff.mp h with hvalue | ⟨value, -, hplan⟩
    · rw [Action.run, Call.runConditional, hvalue, liftM_error_bind]
    · cases hplan
  | each =>
    rcases bind_eq_error_iff.mp h with hplanned | ⟨planned, -, hplan⟩
    · rcases bind_eq_error_iff.mp hplanned with hvalue | ⟨value, -, hparts⟩
      · rw [Action.run, Call.runEach, hvalue, liftM_error_bind]
      · split at hparts <;> cases hparts
    · cases hplan
  | within =>
    rcases bind_eq_error_iff.mp h with hvalue | ⟨value, -, hplan⟩
    · rw [Action.run, Call.runWithin, hvalue, liftM_error_bind]
    · cases hplan
  | raw => cases h
  | log =>
    rcases bind_eq_error_iff.mp h with hlevel | ⟨_, -, hplan⟩
    · rw [Action.run, hlevel]
      rfl
    · cases hplan

/-! ### Steps and executions -/

def ending : Except RenderError Unit → Frame σ → Finish σ
  | .ok _, f => .done f
  | .error e, f => .failed e f.session

/-- Wherever a step starts, what it does is an execution. -/
def Renders (env : Env σ) (depth : Nat) (step : Rendering σ Unit) (work : Work) : Prop :=
  ∀ p, Tells env.readToken step p fun log outcome f => Executes env depth p.frame work log (ending outcome f)

/-- The steps in the block of a call render what stands there. -/
structure Call.RendersBlocks (env : Env σ) (depth : Nat) (call : Call σ) (body alternative : Option (List Element)) :
    Prop where
  body : Option.Rel (fun step elements => Renders env depth step (.block (some elements))) call.body body
  alternative : Option.Rel (fun step elements => Renders env depth step (.block (some elements))) call.alternative
    alternative

variable {depth : Nat} {body alternative : Option (List Element)}

theorem renders_perform {step? : Option (Rendering σ Unit)} {elements? : Option (List Element)}
    (h : Option.Rel (fun step elements => Renders env depth step (.block (some elements))) step? elements?) :
    Renders env depth (perform step?) (.block elements?) := by
  cases h with
  | some h => exact h
  | none => exact fun p => tells_pure .empty

/-- What comes of work in a scope of its own: the scope as the work leaves it, and the scopes around it as before. -/
def ExecutesWithin (env : Env σ) (depth : Nat) (f : Frame σ) (scope : Scope) (work : Work) (log : List Entry) :
    Except RenderError Scope → Frame σ → Prop
  | .error e, g => Executes env depth (f.enter scope) work log (.failed e g.session)
  | .ok left, g => ∃ inside, Executes env depth (f.enter scope) work log (.done inside) ∧
      left = inside.scopes.head?.getD scope ∧ g = { inside with scopes := f.scopes }

theorem tells_inScope {step : Rendering σ Unit} {work : Work} (h : Renders env depth step work) (scope : Scope)
    (p : Progress σ) : Tells env.readToken (inScope scope step) p (ExecutesWithin env depth p.frame scope work) :=
  Tells.inScope (h { p with scopes := scope :: p.scopes }) (fun _ _ _ hfailed => hfailed)
    fun _ inside hdone => ⟨inside, hdone, rfl, rfl⟩

theorem tells_discard_inScope {step : Rendering σ Unit} {work : Work} (h : Renders env depth step work) (scope : Scope)
    (p : Progress σ) : Tells env.readToken (discard (inScope scope step)) p fun log outcome f =>
      ∃ done, Executes env depth (p.frame.enter scope) work log done ∧ ending outcome f = done.leave p.frame := by
  refine Tells.map ((tells_inScope h scope p).mono fun log outcome f hwithin => ?_)
  cases outcome with
  | error e => exact ⟨_, hwithin, rfl⟩
  | ok left =>
    obtain ⟨inside, hdone, -, rfl⟩ := hwithin
    exact ⟨_, hdone, rfl⟩

theorem tells_turns {step : Rendering σ Unit} (h : Renders env depth step (.block body)) (scopes : List Scope)
    (inlines : List (String × List Element)) (p : Progress σ) :
    Tells env.readToken (scopes.foldlM (fun inlines scope => do
        pure (← inScope { scope with inlines } step).inlines) inlines) p fun log outcome f =>
      Executes env depth p.frame (.each scopes inlines body) log (ending (outcome.map fun _ => ()) f) := by
  induction scopes generalizing inlines p with
  | nil => exact tells_pure .over
  | cons scope rest ih =>
    rw [List.foldlM_cons, bind_assoc]
    refine (tells_inScope h { scope with inlines } p).bind (fun _ _ _ hfailed => .stopped hfailed) ?_
    rintro log left q ⟨inside, hnow, rfl, hq⟩
    refine (ih _ q).mono fun more outcome f hlater => .again hnow ?_
    rw [hq] at hlater
    exact hlater

theorem Call.RendersBlocks.follow (h : call.RendersBlocks env depth body alternative) {plan : Plan}
    (hother : plan ≠ .token) :
    Renders env depth (call.follow env plan) (.plan call.toInvocation plan body alternative) := by
  intro p
  cases plan with
  | token => exact absurd rfl hother
  | value => exact tells_pure (.written (.inl rfl))
  | nothing => exact tells_pure .nothing
  | body => exact (renders_perform h.body p).mono fun _ _ _ hruns => .body hruns
  | alternative => exact (renders_perform h.alternative p).mono fun _ _ _ hruns => .alternative hruns
  | within scope =>
    refine (tells_discard_inScope (renders_perform h.body) scope p).mono fun log outcome f hwithin => ?_
    obtain ⟨done, hruns, hleaves⟩ := hwithin
    rw [hleaves]
    exact .within hruns
  | each scopes =>
    exact Tells.map ((tells_turns (renders_perform h.body) scopes [] p).mono fun _ _ _ hruns => .each hruns)

/-! ### Calls -/

theorem tells_note_bind {place : Place} {next : Unit → Rendering σ α}
    {Q : List Entry → Except RenderError α → Frame σ → Prop} (hquiet : call.asks = false)
    (h : Tells env.readToken (next ()) (p.note (.called place call.toInvocation))
      fun more => Q (.called place call.toInvocation :: more)) :
    Tells env.readToken (call.note place >>= next) p Q := by
  have hnote : Told env.readToken p [.called place call.toInvocation] none
      (p.note (.called place call.toInvocation)) :=
    ⟨rfl, .quiet hquiet (.done _ _), fun _ => ⟨[], .called .nil, rfl⟩⟩
  obtain ⟨log, htold, hQ⟩ := h
  exact ⟨.called place call.toInvocation :: log, hnote.append htold, hQ⟩

/-- A call of an action tells that it is made. Then the action fails without a plan, or it reads the token and writes
it, or it follows another plan. -/
theorem tells_called {a : Action} (hname : Helper.ofName? call.name = some (.action a)) (place : Place)
    {Q : List Entry → Except RenderError Unit → Frame σ → Prop}
    (hfail : ∀ e, call.plan call.body.isSome (.action a) = .error e →
      Q [.called place call.toInvocation] (.error e) p.frame)
    (htoken : call.plan call.body.isSome (.action a) = .ok .token →
      Q [.called place call.toInvocation, .read (env.readToken p.session).1,
          .wrote (call.markup (env.readToken p.session).1)]
        (.ok ()) { p.frame with session := (env.readToken p.session).2 })
    (hfollow : ∀ plan, call.plan call.body.isSome (.action a) = .ok plan → plan ≠ .token →
      ∀ q : Progress σ, q.frame = p.frame → Tells env.readToken (call.follow env plan) q
        fun more => Q (.called place call.toInvocation :: more)) :
    Tells env.readToken (do
      call.note place
      a.run env call) p Q := by
  cases hasks : call.asks with
  | false =>
    cases hplan : call.plan call.body.isSome (.action a) with
    | error e =>
      rw [run_of_unplanned hplan]
      exact tells_note_bind hasks (tells_throw (hfail e hplan))
    | ok plan =>
      rw [run_of_plan hname hplan]
      exact tells_note_bind hasks (hfollow plan hplan (plan_ne_token hname hasks hplan) _ rfl)
  | true =>
    have hplan := plan_of_asks hname hasks call.body.isSome
    cases hbare : call.isBare with
    | false =>
      rw [hbare] at hplan
      rw [run_of_unplanned hplan]
      exact ⟨_, ⟨rfl, .refused hasks hbare, nofun⟩, hfail _ hplan⟩
    | true =>
      rw [hbare] at hplan
      rw [run_of_plan hname hplan]
      exact ⟨_, ⟨rfl, .asked hasks hbare (.done _ _), fun _ => ⟨_, .called (.read (.wrote .nil)), rfl⟩⟩, htoken hplan⟩

theorem isSome_of_rel {γ : Type} {related : α → γ → Prop} {x : Option α} {y : Option γ} (h : Option.Rel related x y) :
    x.isSome = y.isSome := by
  cases h <;> rfl

/-- A helper that is called where a tag stands does what it plans. -/
theorem Call.RendersBlocks.run (h : call.RendersBlocks env depth body alternative) (fresh : Bool) :
    Renders env depth (call.run env fresh) (.call call.toInvocation body alternative) := by
  intro p
  have hsame : call.body.isSome = body.isSome := isSome_of_rel h.body
  rw [Call.run]
  split
  · next hname => exact tells_throw (.unknown hname)
  · next helper hname =>
    refine Tells.startingLine ?_
    cases helper with
    | action a =>
      refine tells_called hname .tag (fun e hplan => ?_) (fun hplan => ?_) fun plan hplan hother q hq => ?_
      · rw [hsame] at hplan
        exact .failed hname hplan
      · rw [hsame] at hplan
        exact .planned hname hplan .token
      · rw [hsame] at hplan
        refine (h.follow hother q).mono fun log outcome f hruns => .planned hname hplan ?_
        rwa [hq] at hruns
    | test t =>
      refine tells_note_bind (asks_eq_false hname nofun nofun) (tells_liftExcept_bind
        (fun e hholds => .failed hname (bind_eq_error_iff.mpr (.inl hholds))) fun holds hholds => ?_)
      have hplan : call.plan body.isSome (.test t) =
          .ok (if body.isSome then Invocation.chooses holds else .value) :=
        bind_eq_ok_iff.mpr ⟨holds, hholds, rfl⟩
      rw [← hsame] at hplan
      rw [← Option.not_isSome]
      cases hbody : call.body.isSome with
      | false =>
        rw [hbody] at hsame hplan
        exact tells_write (.planned hname (hsame ▸ hplan) (.written (.inr ⟨_, rfl⟩)))
      | true =>
        rw [hbody] at hsame hplan
        cases holds with
        | false =>
          refine (renders_perform h.alternative _).mono fun log outcome f hruns => ?_
          exact .planned hname (hsame ▸ hplan) (.alternative hruns)
        | true =>
          refine (renders_perform h.body _).mono fun log outcome f hruns => ?_
          exact .planned hname (hsame ▸ hplan) (.body hruns)
    | function f =>
      refine tells_note_bind (asks_eq_false hname nofun nofun) (tells_liftExcept_bind
        (fun e hvalue => .failed hname (bind_eq_error_iff.mpr (.inl hvalue))) fun value hvalue => ?_)
      exact tells_writeValue fun log hwrites =>
        .planned hname (bind_eq_ok_iff.mpr ⟨value, hvalue, rfl⟩) (.written hwrites)

/-! ### Arguments -/

/-- Only the session changes. -/
def Stays (does : List Scope → Doing σ α) (f : Frame σ) (log : List Entry) (outcome : Except RenderError α)
    (g : Frame σ) : Prop :=
  does f.scopes f.session log outcome g.session ∧ g = { f with session := g.session }

/-- What follows a step that only changes the session happens where that step has started. -/
theorem Stays.later {R : List Scope → Doing σ α} {f g h : Frame σ} {log : List Entry} {outcome : Except RenderError α}
    (hdone : Stays R g log outcome h) (hsame : g = { f with session := g.session }) :
    R f.scopes g.session log outcome h.session ∧ h = { f with session := h.session } := by
  rw [hsame] at hdone
  exact hdone

theorem Tells.bind_stays {step : Rendering σ β} {next : β → Rendering σ α} {R : List Scope → Doing σ β}
    {S : β → List Scope → Doing σ α} {T : List Scope → Doing σ α} (hstep : Tells env.readToken step p (Stays R p.frame))
    (hnext : ∀ b q, Tells env.readToken (next b) q (Stays (S b) q.frame))
    (hfail : ∀ scopes s log e t, R scopes s log (.error e) t → T scopes s log (.error e) t)
    (hseq : ∀ scopes s log b t more outcome u, R scopes s log (.ok b) t → S b scopes t more outcome u →
      T scopes s (log ++ more) outcome u) : Tells env.readToken (step >>= next) p (Stays T p.frame) := by
  refine hstep.bind (fun log e f hfailed => ⟨hfail _ _ _ _ _ hfailed.1, hfailed.2⟩) fun log b q hfirst => ?_
  obtain ⟨hdone, hq⟩ := hfirst
  refine (hnext b q).mono fun more outcome f hsecond => ?_
  obtain ⟨hlater, hf⟩ := hsecond.later hq
  exact ⟨hseq _ _ _ _ _ _ _ _ hdone hlater, hf⟩

def Idles (f : Frame σ) (log : List Entry) (outcome : Except RenderError α) (g : Frame σ) : Prop :=
  log = [] ∧ outcome.isOk ∧ g = f

theorem Idles.map {f g : Frame σ} {log : List Entry} {outcome : Except RenderError α} (h : Idles f log outcome g)
    (change : α → β) : Idles f log (outcome.map change) g := by
  cases outcome <;> exact h

theorem idles_inScope (scope : Scope) (p : Progress σ) :
    Tells env.readToken (inScope scope (pure ())) p (Idles p.frame) :=
  Tells.inScope (P := fun log outcome f => log = [] ∧ outcome = .ok () ∧ f = p.frame.enter scope)
    (tells_pure ⟨rfl, rfl, rfl⟩) (by rintro log e f ⟨-, ⟨⟩, -⟩) (by
      rintro log f ⟨rfl, -, rfl⟩
      exact ⟨rfl, rfl, rfl⟩)

theorem idles_turns (scopes : List Scope) (inlines : List (String × List Element)) (p : Progress σ) :
    Tells env.readToken (scopes.foldlM (fun inlines scope => do
      pure (← inScope { scope with inlines } (pure ())).inlines) inlines) p (Idles p.frame) := by
  induction scopes generalizing inlines p with
  | nil => exact tells_pure ⟨rfl, rfl, rfl⟩
  | cons scope rest ih =>
    rw [List.foldlM_cons, bind_assoc]
    refine (idles_inScope _ p).bind (by rintro log e f ⟨-, ⟨⟩, -⟩) ?_
    rintro log left q ⟨rfl, -, hq⟩
    rw [← hq]
    exact ih _ q

/-- Without a block a helper has nothing to choose. -/
theorem idles_follow (hbody : call.body = none) (halternative : call.alternative = none) {plan : Plan}
    (hother : plan ≠ .token) (p : Progress σ) : Tells env.readToken (call.follow env plan) p (Idles p.frame) := by
  cases plan with
  | token => exact absurd rfl hother
  | value | nothing => exact tells_pure ⟨rfl, rfl, rfl⟩
  | body =>
    rw [Call.follow, hbody]
    exact tells_pure ⟨rfl, rfl, rfl⟩
  | alternative =>
    rw [Call.follow, halternative]
    exact tells_pure ⟨rfl, rfl, rfl⟩
  | within scope =>
    rw [Call.follow, hbody]
    exact Tells.map ((idles_inScope scope p).mono fun _ _ _ hidles => hidles.map _)
  | each scopes =>
    rw [Call.follow, hbody]
    exact Tells.map ((idles_turns scopes [] p).mono fun _ _ _ hidles => hidles.map _)

/-- What comes of an action that is called for an argument, before its text is taken. -/
inductive Acts (readToken : σ → String × σ) (call : Invocation) (a : Action) (f : Frame σ) :
    List Entry → Except RenderError Unit → Frame σ → Prop where
  | failed {e : RenderError} (plan : call.plan false (.action a) = .error e) :
      Acts readToken call a f [.called .argument call] (.error e) f
  | token (plan : call.plan false (.action a) = .ok .token) :
      Acts readToken call a f
        [.called .argument call, .read (readToken f.session).1, .wrote (call.markup (readToken f.session).1)] (.ok ())
        { f with session := (readToken f.session).2 }
  | silent {plan : Plan} (plans : call.plan false (.action a) = .ok plan) (other : plan ≠ .token) :
      Acts readToken call a f [.called .argument call] (.ok ()) f

theorem tells_acts {a : Action} (hname : Helper.ofName? call.name = some (.action a)) (hbody : call.body = none)
    (halternative : call.alternative = none) (p : Progress σ) :
    Tells env.readToken (do
      call.note .argument
      a.run env call) p (Acts env.readToken call.toInvocation a p.frame) := by
  have hsome : call.body.isSome = false := by rw [hbody]; rfl
  refine tells_called hname .argument (fun e hplan => ?_) (fun hplan => ?_) fun plan hplan hother q hq => ?_
  · rw [hsome] at hplan
    exact .failed hplan
  · rw [hsome] at hplan
    exact .token hplan
  · rw [hsome] at hplan
    refine (idles_follow hbody halternative hother q).mono fun log outcome f hidles => ?_
    obtain ⟨rfl, hok, rfl⟩ := hidles
    rw [hq]
    cases outcome with
    | error e => cases hok
    | ok _ => exact .silent hplan hother

theorem tells_captured {a : Action} (hname : Helper.ofName? call.name = some (.action a)) (hbody : call.body = none)
    (halternative : call.alternative = none) (p : Progress σ) :
    Tells env.readToken (capture true do
      call.note .argument
      a.run env call) p fun log outcome =>
        Stays (fun _ => Computes env.readToken call.toInvocation) p.frame log (outcome.map .string) := by
  refine (tells_acts hname hbody halternative _).capture ?_ ?_
  · rintro log e f ⟨hplan⟩
    exact ⟨.failed hname hplan, rfl⟩
  · intro log texts f hacts hnested
    cases hacts with
    | token hplan =>
      have hcomputes : Computes env.readToken call.toInvocation p.session _ _ _ := .token hname hplan
      cases hnested with | called hread =>
      cases hread with | read hwrote =>
      cases hwrote with | wrote hnil =>
      cases hnil
      rw [String.join_cons, String.join_nil, String.append_empty]
      exact ⟨hcomputes, rfl⟩
    | silent hplan hother =>
      have hcomputes : Computes env.readToken call.toInvocation p.session _ _ _ := .silent hname hplan hother
      cases hnested with | called hnil =>
      cases hnil
      exact ⟨hcomputes, rfl⟩

theorem tells_compute (hbody : call.body = none) (halternative : call.alternative = none) (p : Progress σ) :
    Tells env.readToken (call.compute env) p (Stays (fun _ => Computes env.readToken call.toInvocation) p.frame) := by
  rw [Call.compute]
  split
  · next hname => exact tells_throw ⟨.unknown hname, rfl⟩
  · next f hname =>
    exact tells_note_bind (asks_eq_false hname nofun nofun) (tells_liftExcept ⟨.function hname, rfl⟩)
  · next t hname =>
    have hcomputes : Computes env.readToken call.toInvocation p.session [.called .argument call.toInvocation]
        ((t.holds call.name call.toInputs).map .bool) p.session := .test hname
    refine tells_note_bind (asks_eq_false hname nofun nofun) (tells_liftExcept_bind (fun e hholds => ?_)
      fun holds hholds => tells_pure ?_)
    · rw [hholds] at hcomputes
      exact ⟨hcomputes, rfl⟩
    · rw [hholds] at hcomputes
      exact ⟨hcomputes, rfl⟩
  · next a hname =>
    refine (tells_captured hname hbody halternative p).bind (fun _ _ _ hfail => hfail) fun log text q hcomputes => ?_
    refine tells_pure ?_
    rw [List.append_nil]
    exact hcomputes

theorem tells_valueAt (env : Env σ) (path : Path) (p : Progress σ) :
    Tells env.readToken (env.valueAt path) p (Stays (Evaluates env · (.path path)) p.frame) := by
  rw [Env.valueAt]
  have hpath : Evaluates env p.scopes (.path path) p.session [] _ p.session := .path path
  refine tells_get_bind (tells_liftExcept_bind (fun e hfound => ?_) fun found hfound => tells_pure ?_)
  · rw [hfound] at hpath
    exact ⟨hpath, rfl⟩
  · rw [hfound] at hpath
    exact ⟨hpath, rfl⟩

/-- What is evaluated and then only put into another form. -/
theorem Tells.map_stays {step : Rendering σ β} {R : List Scope → Doing σ β} {T : List Scope → Doing σ α} (f : β → α)
    (hstep : Tells env.readToken step p (Stays R p.frame))
    (hmap : ∀ scopes s log outcome t, R scopes s log outcome t → T scopes s log (outcome.map f) t) :
    Tells env.readToken (step >>= fun b => pure (f b)) p (Stays T p.frame) := by
  rw [← map_eq_pure_bind]
  exact Tells.map (hstep.mono fun log outcome g hdone => ⟨hmap _ _ _ _ _ hdone.1, hdone.2⟩)

abbrev TellsValue (env : Env σ) (a : Argument) : Prop :=
  ∀ p, Tells env.readToken (env.value a) p (Stays (Evaluates env · a) p.frame)

abbrev TellsValues (env : Env σ) (arguments : List Argument) : Prop :=
  ∀ p, Tells env.readToken (env.values arguments) p (Stays (EvaluatesAll env · arguments) p.frame)

abbrev TellsNamedValues (env : Env σ) (hash : List (String × Argument)) : Prop :=
  ∀ p, Tells env.readToken (env.namedValues hash) p (Stays (EvaluatesNamed env · hash) p.frame)

section

variable {head : Head}

theorem tells_nameOf_of_value (hname : TellsValue env head.name) (p : Progress σ) :
    Tells env.readToken (env.nameOf head) p (Stays (Names env · head.name) p.frame) := by
  cases hhead : head.name with
  | path path =>
    have htext : head.nameText? = some path.raw := by rw [Head.nameText?, hhead]
    rw [Env.nameOf, htext]
    exact tells_pure ⟨.path path, rfl⟩
  | literal | malformed | call =>
    have htext : head.nameText? = none := by rw [Head.nameText?, hhead]
    rw [Env.nameOf, htext, ← hhead]
    exact (hname p).map_stays display fun _ _ _ _ _ hvalue => .value (by rw [hhead]; exact nofun) hvalue

/-- A call is read from a tag; it has no block yet. -/
structure Reads (env : Env σ) (head : Head) (scopes : List Scope) (s : σ) (log : List Entry)
    (outcome : Except RenderError (Call σ)) (t : σ) : Prop where
  invokes : Invokes env scopes head s log (outcome.map Call.toInvocation) t
  blockless : ∀ call, outcome = .ok call → call.body = none ∧ call.alternative = none

theorem tells_callOf_of_values (hname : TellsValue env head.name) (hparams : TellsValues env head.params)
    (hhash : TellsNamedValues env head.hash) (p : Progress σ) :
    Tells env.readToken (env.callOf head) p (Stays (Reads env head) p.frame) := by
  rw [Env.callOf]
  refine (tells_nameOf_of_value hname p).bind_stays
    (S := fun name scopes t more outcome u => ∀ s log, Names env scopes head.name s log (.ok name) t →
      Reads env head scopes s (log ++ more) outcome u)
    (fun name q => ?_) (fun _ _ _ _ _ hnames => ⟨.unnamed hnames, nofun⟩)
    fun _ s log _ _ _ _ _ hnames hlater => hlater s log hnames
  refine (hparams q).bind_stays
    (S := fun params scopes t more outcome u => ∀ s log r last, Names env scopes head.name s log (.ok name) r →
      EvaluatesAll env scopes head.params r last (.ok params) t →
        Reads env head scopes s (log ++ (last ++ more)) outcome u)
    (fun params r => ?_) (fun _ _ _ _ _ hfailed s log hnames => ⟨.failed hnames hfailed, nofun⟩)
    fun _ r last _ _ _ _ _ hvalues hlater s log hnames => hlater s log r last hnames hvalues
  refine Tells.map_stays _ (hhash r) ?_
  intro _ _ _ outcome _ hnamed s log t last hnames hvalues
  have hinvokes := Invokes.invoked hnames hvalues hnamed
  cases outcome with
  | error e => exact ⟨hinvokes, nofun⟩
  | ok hash =>
    refine ⟨hinvokes, ?_⟩
    rintro call ⟨⟩
    exact ⟨rfl, rfl⟩

end

theorem value_call (env : Env σ) (name : Argument) (params : List Argument) (hash : List (String × Argument)) :
    env.value (.call name params hash) = env.callOf { name, params, hash } >>= Call.compute env := by
  cases name with
  | path path =>
    rw [Env.value, Env.callOf, Env.nameOf]
    simp only [Head.nameText?, pure_bind, bind_assoc]
  | literal | malformed | call =>
    rw [Env.value, Env.callOf, Env.nameOf]
    · simp only [Head.nameText?, pure_bind, bind_assoc]
    · exact nofun

mutual

theorem tells_value (env : Env σ) : (a : Argument) → TellsValue env a
  | .literal value => fun p => tells_pure ⟨.literal value, rfl⟩
  | .malformed text => fun p => tells_pure ⟨.malformed text, rfl⟩
  | .path path => tells_valueAt env path
  | .call name params hash => by
    intro p
    have hreads : Tells env.readToken (env.callOf { name, params, hash }) p (Stays (Reads env _) p.frame) :=
      tells_callOf_of_values (tells_value env name) (tells_values env params) (tells_namedValues env hash) p
    rw [value_call]
    refine hreads.bind (fun log e f hfailed => ⟨.uncalled hfailed.1.invokes, hfailed.2⟩) fun log call q hcall => ?_
    obtain ⟨⟨hinvokes, hblockless⟩, hq⟩ := hcall
    obtain ⟨hbody, halternative⟩ := hblockless call rfl
    refine (tells_compute hbody halternative q).mono fun more outcome f hcomputes => ?_
    obtain ⟨hlater, hf⟩ := hcomputes.later hq
    exact ⟨.call hinvokes hlater, hf⟩

theorem tells_values (env : Env σ) : (arguments : List Argument) → TellsValues env arguments
  | [] => fun p => tells_pure ⟨.nil, rfl⟩
  | a :: rest => by
    intro p
    rw [Env.values]
    refine (tells_value env a p).bind_stays (S := fun value scopes t more outcome u => ∀ s log,
        Evaluates env scopes a s log (.ok value) t → EvaluatesAll env scopes (a :: rest) s (log ++ more) outcome u)
      (fun value q => ?_) (fun _ _ _ _ _ hfailed => .failed hfailed)
      fun _ s log _ _ _ _ _ hvalue hlater => hlater s log hvalue
    exact (tells_values env rest q).map_stays _ fun _ _ _ _ _ hlater s log hvalue => .cons hvalue hlater

theorem tells_namedValues (env : Env σ) : (hash : List (String × Argument)) → TellsNamedValues env hash
  | [] => fun p => tells_pure ⟨.nil, rfl⟩
  | (name, a) :: rest => by
    intro p
    rw [Env.namedValues]
    split
    · next hagain => exact (tells_namedValues env rest p).mono fun _ _ _ hlater => ⟨.replaced hagain hlater.1, hlater.2⟩
    · next honce =>
      refine (tells_value env a p).bind_stays (S := fun value scopes t more outcome u => ∀ s log,
          Evaluates env scopes a s log (.ok value) t →
          EvaluatesNamed env scopes ((name, a) :: rest) s (log ++ more) outcome u)
        (fun value q => ?_) (fun _ _ _ _ _ hfailed => .failed honce hfailed)
        fun _ s log _ _ _ _ _ hvalue hlater => hlater s log hvalue
      exact (tells_namedValues env rest q).map_stays _ fun _ _ _ _ _ hlater s log hvalue => .cons honce hvalue hlater

end

theorem tells_nameOf (env : Env σ) (head : Head) (p : Progress σ) :
    Tells env.readToken (env.nameOf head) p (Stays (Names env · head.name) p.frame) :=
  tells_nameOf_of_value (tells_value env head.name) p

theorem tells_callOf (env : Env σ) (head : Head) (p : Progress σ) :
    Tells env.readToken (env.callOf head) p (Stays (Reads env head) p.frame) :=
  tells_callOf_of_values (tells_value env head.name) (tells_values env head.params) (tells_namedValues env head.hash) p

/-! ### Elements -/

theorem Call.rendersBlocks_of_none (hbody : call.body = none) (halternative : call.alternative = none) :
    call.RendersBlocks env depth none none where
  body := by rw [hbody]; exact .none
  alternative := by rw [halternative]; exact .none

theorem renders_renderOutput (env : Env σ) (depth : Nat) (escaped : Bool) (head : Head) :
    Renders env depth (env.renderOutput head) (.element (.output escaped head)) := by
  intro p
  rw [Env.renderOutput]
  refine (tells_nameOf env head p).bind (fun log e f hfailed => .unnamed hfailed.1) fun log name q hname => ?_
  obtain ⟨hnames, hq⟩ := hname
  split
  · next hnamed =>
    have hisValue : head.IsValue name := by simpa [Head.IsValue] using hnamed
    refine (tells_value env head.name q).bind (fun more e f hfailed => ?_) fun more value r hvalue => ?_
    · exact .valueless hnames hisValue (hfailed.later hq).1
    · obtain ⟨hevaluates, hr⟩ := hvalue.later hq
      refine tells_writeValue fun last hwrites => ?_
      rw [hr]
      exact .value hnames hisValue hevaluates hwrites
  · next hcalled =>
    have hisCall : ¬head.IsValue name := by simpa [Head.IsValue] using hcalled
    refine (tells_callOf env head q).bind (fun more e f hfailed => ?_) fun more call r hcall => ?_
    · exact .untagged hnames hisCall (hfailed.later hq).1.invokes
    · obtain ⟨hreads, hr⟩ := hcall.later hq
      obtain ⟨hbody, halternative⟩ := hreads.blockless call rfl
      have hblocks : call.RendersBlocks env depth none none := Call.rendersBlocks_of_none hbody halternative
      refine (hblocks.run false r).mono fun last outcome f hruns => ?_
      rw [hr] at hruns
      exact .tag hnames hisCall hreads.invokes hruns

theorem renders_decorate (env : Env σ) (depth : Nat) (head : Head) (body : Option (List Element)) :
    Renders env depth (env.decorate head body) (.element (.decorator head body)) := by
  intro p
  rw [Env.decorate]
  refine (tells_callOf env head p).bind (fun log e f hfailed => .uncalled rfl hfailed.1.invokes)
    fun log call q hcall => ?_
  obtain ⟨hreads, hq⟩ := hcall
  have hundefined {e : RenderError} (he : call.definition body = .error e) :
      Executes env depth p.frame (.element (.decorator head body)) (log ++ []) (.failed e q.frame.session) := by
    rw [List.append_nil]
    exact .undefined hreads.invokes he
  dsimp only
  split
  · next hother => exact tells_throw_bind (hundefined (if_pos hother))
  · next hinline =>
    have hdefinition : call.definition body = (do Invocation.inlined (← call.param "inline" 0) body) := if_neg hinline
    refine tells_liftExcept_bind (fun e hparam => hundefined ?_) fun value hparam => ?_
    · rw [hdefinition, hparam]
      rfl
    · rw [hparam] at hdefinition
      split
      · next name elements =>
        have hdefines : Executes env depth p.frame (.element (.decorator head (some elements))) log _ :=
          .defined hreads.invokes hdefinition
        have hframe : ({ q with scopes := defineInline name elements q.scopes } : Progress σ).frame =
            { p.frame with session := q.session, scopes := defineInline name elements p.frame.scopes } := by
          show { q.frame with scopes := defineInline name elements q.frame.scopes } = _
          rw [hq]
          rfl
        refine tells_modify ⟨rfl, rfl, rfl⟩ ?_
        rw [List.append_nil, hframe]
        exact hdefines
      · exact tells_throw (hundefined hdefinition)
      · next hdefines hmissing =>
        refine tells_throw (hundefined (hdefinition.trans ?_))
        show Invocation.inlined value body = _
        unfold Invocation.inlined
        split
        · exact (hdefines _ _ rfl rfl).elim
        · exact (hmissing _ rfl rfl).elim
        · rfl

theorem Renders.insideBlock {step : Rendering σ Unit} {elements : List Element}
    (h : Renders env depth step (.elements elements)) :
    Renders env depth (insideBlock step) (.block (some elements)) := by
  intro p
  rw [Template.insideBlock]
  exact tells_modify_bind ⟨rfl, rfl, rfl⟩ ((h _).mono fun _ _ _ hruns => .block hruns)

def ExecutesApart (env : Env σ) (depth : Nat) (f : Frame σ) (body : List Element) (log : List Entry) :
    Except RenderError String → Frame σ → Prop
  | .error e, g => ∃ inside, log = .opened :: inside ∧
      Executes env depth f (.block (some body)) inside (.failed e g.session)
  | .ok text, g => ∃ inside texts, log = .opened :: (inside ++ [.closed (String.join texts)]) ∧
      text = String.join texts ∧ Nested inside texts ∧ Executes env depth f (.block (some body)) inside (.done g)

theorem tells_capture {step : Rendering σ Unit} {body : List Element} (h : Renders env depth step (.block (some body)))
    (unescaped : Bool) (p : Progress σ) :
    Tells env.readToken (capture unescaped step) p (ExecutesApart env depth p.frame body) :=
  (h _).capture (fun log _ _ hfailed => ⟨log, rfl, hfailed⟩) fun log texts _ hdone hnested =>
    ⟨log, texts, rfl, rfl, hnested, hdone⟩

section

variable {render : List Element → Rendering σ Unit} {content : Option (Rendering σ Unit)}

theorem renders_renderIncluded (hrender : ∀ elements, Renders env depth (render elements) (.template elements))
    (name : String)
    (hcontent : Option.Rel (fun step elements => Renders env depth step (.block (some elements))) content body) :
    Renders env depth (env.renderIncluded render name content) (.included name body) := by
  intro p
  rw [Env.renderIncluded]
  refine tells_get_bind ?_
  cases hfound : env.included? p.scopes name with
  | none =>
    cases hcontent with
    | none => exact tells_throw (.missing hfound)
    | some hstep =>
      exact tells_modify_bind ⟨rfl, rfl, rfl⟩ ((hstep _).mono fun _ _ _ hruns => .instead hfound hruns)
  | some found =>
    obtain ⟨template, elements⟩ := found
    have hincluded (text : Option String) (q : Progress σ) : Tells env.readToken (do
        modify fun p => { p with body := text, template := template }
        render elements) q fun log outcome f =>
          Executes env depth { q.frame with body := text, template := template } (.template elements) log
            (ending outcome f) :=
      tells_modify_bind ⟨rfl, rfl, rfl⟩ (hrender elements _)
    cases hcontent with
    | none => exact (hincluded none p).mono fun _ _ _ hruns => .plain hfound hruns
    | some hstep =>
      dsimp only
      refine (tells_capture hstep p.unescaped p).bind ?_ ?_
      · rintro log e f ⟨inside, rfl, hfailed⟩
        exact .bodyFails hfound hfailed
      · rintro log text q ⟨inside, texts, rfl, rfl, hnested, hdone⟩
        refine (hincluded (some (String.join texts)) q).mono fun more outcome f hruns => ?_
        have hwhole := Executes.withBody hfound hdone hnested hruns
        rwa [← List.singleton_append (l := more), ← List.append_assoc, ← List.cons_append] at hwhole

/-- The template that an inclusion names is executed, or the body of an inclusion; then the template around it goes
on. -/
theorem tells_renderInclusion (hrender : ∀ elements, Renders env depth (render elements) (.template elements))
    (call : Call σ) (indent : Option String) (fresh : Bool)
    (hcontent : Option.Rel (fun step elements => Renders env depth step (.block (some elements))) content body)
    (p : Progress σ) : Tells env.readToken (env.renderInclusion render call indent fresh content) p fun log outcome f =>
      ∃ done, Executes env depth p.frame (.inclusion call.toInvocation body) log done ∧
        ending outcome f = done.resume p.frame := by
  rw [Env.renderInclusion]
  refine Tells.startingLine (tells_get_bind ?_)
  have hresume (q : Progress σ) (log : List Entry)
      (hruns : Executes env depth p.frame (.inclusion call.toInvocation body) log (.done q.frame)) :
      Tells env.readToken (modify fun q => { q with body := p.body, template := p.template, indent := p.indent }) q
        fun more outcome f => ∃ done,
          Executes env depth p.frame (.inclusion call.toInvocation body) (log ++ more) done ∧
            ending outcome f = done.resume p.frame := by
    refine tells_modify ⟨rfl, rfl, rfl⟩ ⟨.done q.frame, ?_, rfl⟩
    rw [List.append_nil]
    exact hruns
  dsimp only
  split
  · next hname =>
    split
    · next text hbody => exact tells_write_bind (hresume _ [.wrote text] (.bodyText hname hbody))
    · next step hbody =>
      cases hcontent with | some hstep =>
      refine (hstep _).bind (fun log e f hfailed => ⟨_, .bodyItself hname hbody hfailed, rfl⟩) fun log _ q hdone => ?_
      exact hresume q log (.bodyItself hname hbody hdone)
    · next hbody =>
      cases hcontent
      exact tells_throw_bind ⟨_, .bodyMissing hname hbody, rfl⟩
  · next hname =>
    split
    · next htemplate => exact tells_throw_bind ⟨_, .itself hname htemplate, rfl⟩
    · next htemplate =>
      refine tells_modify_bind ⟨rfl, rfl, rfl⟩ ?_
      have hincluded := renders_renderIncluded hrender call.name hcontent
      refine (tells_discard_inScope hincluded _ _).bind (fun log e f hfailed => ?_) fun log _ q hdone => ?_
      · obtain ⟨done, hruns, hleaves⟩ := hfailed
        have hwhole := Executes.includes hname htemplate hruns
        rw [← hleaves] at hwhole
        exact ⟨_, hwhole, rfl⟩
      · obtain ⟨done, hruns, hleaves⟩ := hdone
        have hwhole := Executes.includes hname htemplate hruns
        rw [← hleaves] at hwhole
        exact hresume q log hwhole

mutual

theorem renders_renderElement (hrender : ∀ elements, Renders env depth (render elements) (.template elements)) :
    (element : Element) → Renders env depth (env.renderElement render element) (.element element)
  | .text value => fun p => tells_writeIndented fun log hwrites => .text hwrites
  | .comment => fun p => tells_pure .comment
  | .output escaped head => by
    intro p
    rw [Env.renderElement]
    split
    · exact renders_renderOutput env depth escaped head p
    · refine tells_modify_bind ⟨rfl, rfl, rfl⟩ ((renders_renderOutput env depth escaped head _).bind
        (fun _ _ _ hfailed => hfailed) fun log _ q hdone => tells_modify ⟨rfl, rfl, rfl⟩ ?_)
      rw [List.append_nil]
      exact hdone
  | .block head fresh body alternative => by
    intro p
    rw [Env.renderElement]
    refine (tells_callOf env head p).bind (fun log e f hfailed => .uncalled rfl hfailed.1.invokes)
      fun log call q hcall => ?_
    obtain ⟨hreads, hq⟩ := hcall
    have hblocks : Call.RendersBlocks env depth { call with
        body := some (insideBlock (env.renderElements render body))
        alternative := env.renderBlock? render alternative } (some body) alternative :=
      ⟨.some (renders_renderElements hrender body).insideBlock, renders_renderBlock? hrender alternative⟩
    refine (hblocks.run fresh q).mono fun more outcome f hruns => ?_
    rw [hq] at hruns
    exact .called hreads.invokes hruns
  | .decorator head body => renders_decorate env depth head body
  | .inclusion head indent fresh body => by
    intro p
    rw [Env.renderElement]
    refine (tells_callOf env head p).bind (fun log e f hfailed => .uncalled rfl hfailed.1.invokes)
      fun log call q hcall => ?_
    obtain ⟨hreads, hq⟩ := hcall
    have hcontent := renders_renderBlock? hrender body
    refine (tells_renderInclusion hrender call indent fresh hcontent q).mono fun more outcome f hincluded => ?_
    obtain ⟨done, hruns, hresumes⟩ := hincluded
    rw [hq] at hruns hresumes
    rw [hresumes]
    exact .inclusion hreads.invokes hruns

theorem renders_renderElements (hrender : ∀ elements, Renders env depth (render elements) (.template elements)) :
    (elements : List Element) → Renders env depth (env.renderElements render elements) (.elements elements)
  | [] => fun p => tells_pure .finished
  | element :: rest => by
    intro p
    rw [Env.renderElements]
    refine (renders_renderElement hrender element p).bind (fun _ _ _ hfailed => .broken hfailed) fun log _ q hnow => ?_
    exact (renders_renderElements hrender rest q).mono fun _ _ _ hlater => .inTurn hnow hlater

theorem renders_renderBlock? (hrender : ∀ elements, Renders env depth (render elements) (.template elements)) :
    (elements? : Option (List Element)) →
      Option.Rel (fun step elements => Renders env depth step (.block (some elements)))
        (env.renderBlock? render elements?) elements?
  | none => .none
  | some elements => .some (renders_renderElements hrender elements).insideBlock

end

end

/-- What the renderer does with a template of any depth is an execution of it. -/
theorem renders_render (env : Env σ) (depth : Nat) (elements : List Element) :
    Renders env depth (env.render depth elements) (.template elements) := by
  induction depth generalizing elements with
  | zero => exact fun p => tells_throw .tooDeep
  | succ depth ih => exact fun p => (renders_renderElements ih elements p).mono fun _ _ _ hruns => .template hruns

end AppServer.Template
