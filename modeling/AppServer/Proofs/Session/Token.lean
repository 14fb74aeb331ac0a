import AppServer.Session.Basic

/-!
# The history of a session's token

A session gets its token from an operation that asks for one while there is none,
and loses it when it is cleared or the key removed. As long as no operation sets
the key itself, the token that a session holds was generated in its history, and
nothing since has lost it.
-/

namespace AppServer.Session

structure Performed where
  before : Session
  step : Step
  answer : Answer

namespace Performed

def generated? (p : Performed) : Option String :=
  match p.step, p.before.token?, p.answer with
  | .token, none, .text token => some token
  | _, _, _ => none

/-- The operation loses the token. -/
def Drops (p : Performed) : Prop := p.step = .clear ∨ p.step = .remove "_authenticity"

/-- The operation sets the key of the token. -/
def Forges (p : Performed) : Prop := ∃ value, p.step = .put "_authenticity" value

end Performed

/-- A token is generated in a history, and nothing since loses it. -/
def Current (history : List Performed) (token : String) : Prop :=
  ∃ earlier p later, history = earlier ++ p :: later ∧ p.generated? = some token ∧
    ∀ q ∈ later, ¬ q.Drops

theorem Current.generated {history : List Performed} {token : String} (h : Current history token) :
    ∃ p ∈ history, p.generated? = some token := by
  obtain ⟨earlier, p, later, rfl, hp, -⟩ := h
  exact ⟨p, List.mem_append_right _ List.mem_cons_self, hp⟩

theorem current_append_generated {p : Performed} {token : String} (h : p.generated? = some token)
    (history : List Performed) : Current (history ++ [p]) token :=
  ⟨history, p, [], rfl, h, fun _ hq => absurd hq List.not_mem_nil⟩

theorem Current.append {history : List Performed} {token : String} (h : Current history token)
    {p : Performed} (hp : ¬ p.Drops) : Current (history ++ [p]) token := by
  obtain ⟨earlier, q, later, rfl, hq, hlater⟩ := h
  refine ⟨earlier, q, later ++ [p], by simp, hq, fun r hr => ?_⟩
  rw [List.mem_append, List.mem_singleton] at hr
  rcases hr with hr | rfl
  · exact hlater r hr
  · exact hp

theorem token?_put_of_ne {key : String} (h : key ≠ "_authenticity") (s : Session) (value : String) :
    (s.put key value).token? = s.token? := by
  rw [token?, get?_put, authenticityKey, if_neg h, token?, authenticityKey]

theorem token?_remove (s : Session) (key : String) :
    (s.remove key).token? = if key = "_authenticity" then none else s.token? := by
  rw [token?, get?_remove, authenticityKey, token?, authenticityKey]

theorem current_step {s : Session} {history : List Performed}
    (h : ∀ token, s.token? = some token → Current history token) (e : Entropy) (step : Step)
    (hforges : ¬ Performed.Forges ⟨s, step, (step.run s e).1⟩) :
    ∀ token, (step.run s e).2.1.token? = some token →
      Current (history ++ [⟨s, step, (step.run s e).1⟩]) token := by
  intro token htoken
  cases step with
  | token =>
    cases hs : s.token? with
    | none =>
      have hanswer : (Step.run s e .token).1 = .text e.token.1 := by
        simp only [Step.run, authenticityToken, hs]
      have hput : (Step.run s e .token).2.1 = s.put authenticityKey e.token.1 := by
        simp only [Step.run, authenticityToken, hs]
      rw [hput, token?, get?_put, if_pos rfl] at htoken
      refine current_append_generated ?_ history
      simp only [Performed.generated?, hs, hanswer, htoken]
    | some held =>
      have hsame : (Step.run s e .token).2.1 = s := by simp only [Step.run, authenticityToken, hs]
      rw [hsame] at htoken
      exact (h token htoken).append (by simp [Performed.Drops])
  | get key => exact (h token htoken).append (by simp [Performed.Drops])
  | put key value =>
    have hkey : key ≠ "_authenticity" := fun heq => hforges ⟨value, heq ▸ rfl⟩
    rw [Step.run, token?_put_of_ne hkey] at htoken
    exact (h token htoken).append (by simp [Performed.Drops])
  | remove key =>
    rw [Step.run, token?_remove] at htoken
    split at htoken
    · cases htoken
    · next hkey => exact (h token htoken).append (by simpa [Performed.Drops] using hkey)
  | clear =>
    rw [Step.run, token?, get?_empty] at htoken
    cases htoken
  | isEmpty => exact (h token htoken).append (by simp [Performed.Drops])
  | verify candidate => exact (h token htoken).append (by simp [Performed.Drops])

end AppServer.Session
