import AppServer.Proofs.Session.Realm
import AppServer.Proofs.Session.Token

/-!
# The token through runs of operations

While no operation sets the key of the token itself, a token that a session
holds was drawn from the source, and it stays as long as no operation loses it.
What is drawn after a loss is drawn later.
-/

namespace AppServer

namespace Session

/-! ### Operations and the token -/

def Step.Drops (step : Step) : Prop := step = .clear ∨ step = .remove "_authenticity"

def Step.Forges (step : Step) : Prop := ∃ value, step = .put "_authenticity" value

theorem authenticityToken_of_some {s : Session} {token : String} (h : s.token? = some token) (e : Entropy) :
    s.authenticityToken e = (token, s, e) := by
  simp only [authenticityToken, h]

theorem authenticityToken_of_none {s : Session} (h : s.token? = none) (e : Entropy) :
    s.authenticityToken e = (e.token.1, s.put authenticityKey e.token.1, e.token.2) := by
  simp only [authenticityToken, h]

theorem token?_put_authenticityKey (s : Session) (token : String) :
    (s.put authenticityKey token).token? = some token := by
  rw [token?, get?_put, if_pos rfl]

theorem token?_authenticityToken (s : Session) (e : Entropy) :
    (s.authenticityToken e).2.1.token? = some (s.authenticityToken e).1 := by
  cases h : s.token? with
  | some token => rw [authenticityToken_of_some h, h]
  | none => rw [authenticityToken_of_none h, token?_put_authenticityKey]

theorem token?_empty : Session.empty.token? = none := get?_empty authenticityKey

theorem token?_run_of_drops {step : Step} (h : step.Drops) (s : Session) (e : Entropy) :
    (step.run s e).2.1.token? = none := by
  rcases h with rfl | rfl
  · exact token?_empty
  · rw [Step.run, token?_remove, if_pos rfl]

theorem token?_run {s : Session} {token : String} (h : s.token? = some token) {step : Step}
    (hdrops : ¬step.Drops) (hforges : ¬step.Forges) (e : Entropy) :
    (step.run s e).2.1.token? = some token := by
  cases step with
  | token => rwa [Step.run, authenticityToken_of_some h]
  | put key value =>
    have hkey : key ≠ "_authenticity" := fun heq => hforges ⟨value, heq ▸ rfl⟩
    rwa [Step.run, token?_put_of_ne hkey]
  | remove key =>
    have hkey : key ≠ "_authenticity" := fun heq => hdrops (.inr (heq ▸ rfl))
    rwa [Step.run, token?_remove, if_neg hkey]
  | clear => exact absurd (.inl rfl) hdrops
  | get _ => exact h
  | isEmpty => exact h
  | verify _ => exact h

/-! ### Tokens that were drawn -/

/-- A source of random texts went on from another. -/
structure Follows (start e : Entropy) : Prop where
  block : e.block = start.block
  later : start.drawn ≤ e.drawn

theorem Follows.refl (e : Entropy) : Follows e e := ⟨rfl, Nat.le_refl _⟩

/-- The source went on from another, and the token of the session, if there is one, was drawn since. -/
structure DrawnSince (start : Entropy) (s : Session) (e : Entropy) : Prop extends Follows start e where
  token : ∀ token, s.token? = some token →
    ∃ n, start.drawn ≤ n ∧ n < e.drawn ∧ token = start.textAt n Entropy.tokenBytes

variable {start e : Entropy} {s : Session}

theorem Follows.of_none (h : Follows start e) (hs : s.token? = none) : DrawnSince start s e where
  toFollows := h
  token token htoken := by
    rw [hs] at htoken
    cases htoken

theorem Follows.token (h : Follows start e) : Follows start e.token.2 :=
  ⟨h.block, Nat.le_succ_of_le h.later⟩

theorem Follows.step (h : Follows start e) (s : Session) (step : Step) : Follows start (step.run s e).2.2 := by
  cases step with
  | token =>
    rw [Step.run]
    cases hs : s.token? with
    | some held => rwa [authenticityToken_of_some hs]
    | none =>
      rw [authenticityToken_of_none hs]
      exact h.token
  | put _ _ => exact h
  | remove _ => exact h
  | clear => exact h
  | get _ => exact h
  | isEmpty => exact h
  | verify _ => exact h

theorem DrawnSince.step (h : DrawnSince start s e) {step : Step} (hforges : ¬step.Forges) :
    DrawnSince start (step.run s e).2.1 (step.run s e).2.2 := by
  cases step with
  | token =>
    rw [Step.run]
    cases hs : s.token? with
    | some held => rwa [authenticityToken_of_some hs]
    | none =>
      rw [authenticityToken_of_none hs]
      refine ⟨h.toFollows.token, fun token htoken => ?_⟩
      rw [token?_put_authenticityKey] at htoken
      cases htoken
      refine ⟨e.drawn, h.later, Nat.lt_succ_self _, ?_⟩
      rw [Entropy.token, Entropy.draw, Entropy.textAt, Entropy.textAt, h.block]
  | put key value =>
    have hkey : key ≠ "_authenticity" := fun heq => hforges ⟨value, heq ▸ rfl⟩
    refine ⟨h.toFollows, fun token htoken => h.token token ?_⟩
    rwa [Step.run, token?_put_of_ne hkey] at htoken
  | remove key =>
    refine ⟨h.toFollows, fun token htoken => h.token token ?_⟩
    rw [Step.run, token?_remove] at htoken
    split at htoken
    · cases htoken
    · exact htoken
  | clear => exact h.toFollows.of_none token?_empty
  | get _ => exact h
  | isEmpty => exact h
  | verify _ => exact h

/-! ### Runs -/

theorem runSteps_cons (s : Session) (e : Entropy) (step : Step) (rest : List Step) :
    (runSteps s e (step :: rest)).2 =
      (runSteps (step.run s e).2.1 (step.run s e).2.2 rest).2 := rfl

theorem token?_runSteps {token : String} (h : s.token? = some token) {steps : List Step}
    (hkeeps : ∀ step ∈ steps, ¬step.Drops ∧ ¬step.Forges) (e : Entropy) :
    (runSteps s e steps).2.1.token? = some token := by
  induction steps generalizing s e with
  | nil => exact h
  | cons step rest ih =>
    rw [List.forall_mem_cons] at hkeeps
    rw [runSteps_cons]
    exact ih (token?_run h hkeeps.1.1 hkeeps.1.2 e) hkeeps.2 _

theorem DrawnSince.run (h : DrawnSince start s e) {steps : List Step}
    (hforges : ∀ step ∈ steps, ¬step.Forges) :
    DrawnSince start (runSteps s e steps).2.1 (runSteps s e steps).2.2 := by
  induction steps generalizing s e with
  | nil => exact h
  | cons step rest ih =>
    rw [List.forall_mem_cons] at hforges
    rw [runSteps_cons]
    exact ih (h.step hforges.1) hforges.2

/-- After a run that loses the token, the session's token is one that was drawn during the run. -/
theorem Follows.run_of_drops (h : Follows start e) (s : Session) {steps : List Step}
    (hforges : ∀ step ∈ steps, ¬step.Forges) (hdrops : ∃ step ∈ steps, step.Drops) :
    DrawnSince start (runSteps s e steps).2.1 (runSteps s e steps).2.2 := by
  induction steps generalizing s e with
  | nil =>
    obtain ⟨_, hmem, -⟩ := hdrops
    cases hmem
  | cons step rest ih =>
    rw [List.forall_mem_cons] at hforges
    rw [runSteps_cons]
    have hnext := h.step s step
    obtain ⟨lost, hmem, hlost⟩ := hdrops
    rcases List.mem_cons.mp hmem with rfl | hmem
    · exact (hnext.of_none (token?_run_of_drops hlost s e)).run hforges.2
    · exact ih hnext _ hforges.2 ⟨lost, hmem, hlost⟩

end Session

namespace Realm

variable {r : Realm} {ref : SessionRef} {token : String}

theorem runSteps_eq (r : Realm) (ref : SessionRef) (steps : List Session.Step) :
    r.runSteps ref steps =
      ((Session.runSteps (r.session ref) r.entropy steps).1,
        r.update ref (Session.runSteps (r.session ref) r.entropy steps).2.1
          (Session.runSteps (r.session ref) r.entropy steps).2.2) := rfl

theorem token_eq (r : Realm) (ref : SessionRef) :
    r.token ref =
      (((r.session ref).authenticityToken r.entropy).1,
        r.update ref ((r.session ref).authenticityToken r.entropy).2.1
          ((r.session ref).authenticityToken r.entropy).2.2) := rfl

theorem size_runSteps (r : Realm) (ref : SessionRef) (steps : List Session.Step) :
    (r.runSteps ref steps).2.sessions.size = r.sessions.size := by
  rw [runSteps_eq, size_update]

theorem size_token (r : Realm) (ref : SessionRef) : (r.token ref).2.sessions.size = r.sessions.size := by
  rw [token_eq, size_update]

theorem session_runSteps (hexists : ref.index < r.sessions.size) (steps : List Session.Step) :
    (r.runSteps ref steps).2.session ref = (Session.runSteps (r.session ref) r.entropy steps).2.1 := by
  rw [runSteps_eq, session_update_self hexists]

theorem session_token (hexists : ref.index < r.sessions.size) :
    (r.token ref).2.session ref = (Session.Step.run (r.session ref) r.entropy .token).2.1 := by
  rw [token_eq, session_update_self hexists]
  rfl

theorem token_of_some (hexists : ref.index < r.sessions.size) (h : (r.session ref).token? = some token) :
    r.token ref = (token, r) := by
  rw [token_eq, Session.authenticityToken_of_some h, update_session hexists]

theorem token?_token (hexists : ref.index < r.sessions.size) :
    ((r.token ref).2.session ref).token? = some (r.token ref).1 := by
  rw [token_eq, session_update_self hexists, Session.token?_authenticityToken]

end Realm

end AppServer
