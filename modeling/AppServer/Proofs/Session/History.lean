import AppServer.Proofs.Row
import AppServer.Proofs.Session.TokenRun
import AppServer.Proofs.Text.Ascii

/-!
# What a session answers, by its history

What a session holds under a key is what the last operation put there, unless the
key was removed or the session cleared since. Asking for the token of a session
that has none puts one under the key of tokens, where every other operation can
reach it too. Each answer follows from the operations performed before it, and an
operation that only looks is none that a later answer depends on.
-/

namespace AppServer.Session

/-- The operations of a run, each with the session before it and its answer. -/
def performed (s : Session) (e : Entropy) : List Step → List Performed
  | [] => []
  | step :: rest =>
    ⟨s, step, (step.run s e).1⟩ :: performed (step.run s e).2.1 (step.run s e).2.2 rest

def Step.Looks : Step → Prop
  | .get _ => True
  | .isEmpty => True
  | .verify _ => True
  | _ => False

namespace Performed

/-- Puts a value under a key; to generate a token is to put it under the key of tokens. -/
inductive Puts (p : Performed) : String → String → Prop
  | value {key value : String} (h : p.step = .put key value) : Puts p key value
  | token {token : String} (h : p.generated? = some token) : Puts p "_authenticity" token

/-- Takes away what is under a key, alone or with everything else. -/
def Loses (key : String) (p : Performed) : Prop := p.step = .clear ∨ p.step = .remove key

/-- Puts something under a key, or sees to it that there is something. -/
inductive Fills (p : Performed) : String → Prop
  | value {key value : String} (h : p.step = .put key value) : Fills p key
  | token (h : p.step = .token) : Fills p "_authenticity"

/-- Has a say in what is under a key. -/
def Settles (key : String) (p : Performed) : Prop := p.Loses key ∨ ∃ value, p.Puts key value

end Performed

/-- The last operation of a history with a say in what is under a key has put a value there. -/
def LastPut (history : List Performed) (key value : String) : Prop :=
  Stands (fun p => p.Puts key value) (Performed.Settles key) history

/-- Some operation of a history has filled a key that was not emptied since. -/
def StillFilled (history : List Performed) : Prop :=
  ∃ key, Stands (fun p => p.Fills key) (Performed.Loses key) history

/-! ### One operation -/

variable {s : Session} {e : Entropy} {step : Step} {key value : String}

theorem puts_iff {p : Performed} : p.Puts key value ↔
    p.step = .put key value ∨ key = "_authenticity" ∧ p.generated? = some value := by
  constructor
  · rintro (h | h)
    · exact .inl h
    · exact .inr ⟨rfl, h⟩
  · rintro (h | ⟨rfl, h⟩)
    · exact .value h
    · exact .token h

theorem fills_iff {p : Performed} : p.Fills key ↔
    (∃ value, p.step = .put key value) ∨ key = "_authenticity" ∧ p.step = .token := by
  constructor
  · rintro (h | h)
    · exact .inl ⟨_, h⟩
    · exact .inr ⟨rfl, h⟩
  · rintro (⟨value, h⟩ | ⟨rfl, h⟩)
    · exact .value h
    · exact .token h

theorem get?_run_iff : (step.run s e).2.1.get? key = some value ↔
    Performed.Puts ⟨s, step, (step.run s e).1⟩ key value ∨
      ¬Performed.Settles key ⟨s, step, (step.run s e).1⟩ ∧ s.get? key = some value := by
  simp only [Performed.Settles, Performed.Loses, puts_iff]
  cases step with
  | token =>
    cases hs : s.token? with
    | some held => simp [Step.run, authenticityToken_of_some hs, Performed.generated?, hs]
    | none =>
      simp only [Step.run, authenticityToken_of_none hs, get?_put, Performed.generated?, hs]
      by_cases hkey : key = "_authenticity"
      · simp [hkey, authenticityKey]
      · simp [hkey, Ne.symm hkey, authenticityKey]
  | put written text =>
    simp only [Step.run, get?_put, Performed.generated?]
    by_cases hkey : written = key
    · simp [hkey]
    · simp [hkey]
  | remove lost =>
    simp only [Step.run, get?_remove, Performed.generated?]
    by_cases hkey : lost = key
    · simp [hkey]
    · simp [hkey]
  | clear => simp [Step.run, get?_empty, Performed.generated?]
  | get _ => simp [Step.run, Performed.generated?]
  | isEmpty => simp [Step.run, Performed.generated?]
  | verify _ => simp [Step.run, Performed.generated?]

theorem get?_run_ne_none_iff : (step.run s e).2.1.get? key ≠ none ↔
    Performed.Fills ⟨s, step, (step.run s e).1⟩ key ∨
      ¬Performed.Loses key ⟨s, step, (step.run s e).1⟩ ∧ s.get? key ≠ none := by
  simp only [Performed.Loses, fills_iff]
  cases step with
  | token =>
    cases hs : s.token? with
    | some held =>
      simp only [Step.run, authenticityToken_of_some hs]
      rw [token?, authenticityKey] at hs
      by_cases hkey : key = "_authenticity"
      · simp [hkey, hs]
      · simp [hkey]
    | none =>
      simp only [Step.run, authenticityToken_of_none hs, get?_put]
      by_cases hkey : key = "_authenticity"
      · simp [hkey, authenticityKey]
      · simp [hkey, Ne.symm hkey, authenticityKey]
  | put written text =>
    simp only [Step.run, get?_put]
    by_cases hkey : written = key
    · simp [hkey]
    · simp [hkey]
  | remove lost =>
    simp only [Step.run, get?_remove]
    by_cases hkey : lost = key
    · simp [hkey]
    · simp [hkey]
  | clear => simp [Step.run, get?_empty]
  | get _ => simp [Step.run]
  | isEmpty => simp [Step.run]
  | verify _ => simp [Step.run]

theorem run_of_looks (h : step.Looks) : (step.run s e).2 = (s, e) := by
  cases step with
  | get _ => rfl
  | isEmpty => rfl
  | verify _ => rfl
  | token => exact h.elim
  | put _ _ => exact h.elim
  | remove _ => exact h.elim
  | clear => exact h.elim

theorem isEmpty_iff_get? : s.isEmpty = true ↔ ∀ key, s.get? key = none := by
  simp only [isEmpty, get?, Std.TreeMap.isEmpty_iff_forall_not_mem, Std.TreeMap.mem_iff_isSome_getElem?,
    Bool.not_eq_true, Option.isSome_eq_false_iff, Option.isNone_iff_eq_none]

/-! ### Sessions and their histories -/

/-- A session holds what its history says. -/
structure HeldBy (s : Session) (history : List Performed) : Prop where
  value : ∀ key value, s.get? key = some value ↔ LastPut history key value
  filled : ∀ key, s.get? key ≠ none ↔ Stands (fun p => p.Fills key) (Performed.Loses key) history

theorem heldBy_empty : HeldBy Session.empty [] where
  value key value := by
    rw [get?_empty]
    exact iff_of_false nofun not_stands_nil
  filled key := iff_of_false (fun h => h (get?_empty key)) not_stands_nil

theorem HeldBy.after {history : List Performed} (h : HeldBy s history) (e : Entropy) (step : Step) :
    HeldBy (step.run s e).2.1 (history ++ [⟨s, step, (step.run s e).1⟩]) where
  value key value := by rw [get?_run_iff, LastPut, stands_append_singleton_iff, h.value, LastPut]
  filled key := by rw [get?_run_ne_none_iff, stands_append_singleton_iff, h.filled]

/-- An operation works on the session that the earlier ones have left, and answers by them. -/
structure Answers (earlier : List Performed) (p : Performed) : Prop where
  before : ∀ key value, p.before.get? key = some value ↔ LastPut earlier key value
  get : ∀ key, p.step = .get key →
    ∃ found, p.answer = .value found ∧ ∀ value, found = some value ↔ LastPut earlier key value
  /-- A token that is there is answered. -/
  token : p.step = .token →
    ∃ text, p.answer = .text text ∧ ∀ token, LastPut earlier "_authenticity" token → text = token
  verify : ∀ candidate, p.step = .verify candidate →
    ∃ accepted, p.answer = .flag accepted ∧ (accepted = true ↔
      ∃ token, LastPut earlier "_authenticity" token ∧ Bytes.ofText candidate = Bytes.ofText token)
  isEmpty : p.step = .isEmpty → ∃ empty, p.answer = .flag empty ∧ (empty = true ↔ ¬StillFilled earlier)

theorem HeldBy.answers {history : List Performed} (h : HeldBy s history) (e : Entropy) (step : Step) :
    Answers history ⟨s, step, (step.run s e).1⟩ where
  before := h.value
  get key hstep := by
    cases hstep
    exact ⟨s.get? key, rfl, h.value key⟩
  token hstep := by
    cases hstep
    refine ⟨(s.authenticityToken e).1, rfl, fun token hput => ?_⟩
    have htoken : s.token? = some token := (h.value _ _).mpr hput
    rw [authenticityToken_of_some htoken]
  verify candidate hstep := by
    cases hstep
    refine ⟨s.verify candidate, rfl, ?_⟩
    rw [verify, decide_eq_true_eq, token?, authenticityKey, h.value]
    constructor
    · exact fun hput => ⟨candidate, hput, rfl⟩
    · rintro ⟨token, hput, hbytes⟩
      rwa [Bytes.ofText_injective hbytes]
  isEmpty hstep := by
    cases hstep
    refine ⟨s.isEmpty, rfl, ?_⟩
    rw [isEmpty_iff_get?, StillFilled, not_exists]
    exact forall_congr' fun key => by rw [← h.filled key, not_not]

/-! ### Runs -/

theorem map_step_performed (s : Session) (e : Entropy) (steps : List Step) :
    (performed s e steps).map Performed.step = steps := by
  induction steps generalizing s e with
  | nil => rfl
  | cons step rest ih => rw [performed, List.map_cons, ih]

theorem map_answer_performed (s : Session) (e : Entropy) (steps : List Step) :
    (performed s e steps).map Performed.answer = (runSteps s e steps).1 := by
  induction steps generalizing s e with
  | nil => rfl
  | cons step rest ih =>
    rw [performed, List.map_cons, ih]
    rfl

theorem runSteps_append (s : Session) (e : Entropy) (first second : List Step) :
    (runSteps s e (first ++ second)).2 = (runSteps (runSteps s e first).2.1 (runSteps s e first).2.2 second).2 := by
  induction first generalizing s e with
  | nil => rfl
  | cons step rest ih => rw [List.cons_append, runSteps_cons, ih, runSteps_cons]

theorem runSteps_of_looks {steps : List Step} (h : ∀ step ∈ steps, step.Looks) (s : Session) (e : Entropy) :
    (runSteps s e steps).2 = (s, e) := by
  induction steps with
  | nil => rfl
  | cons step rest ih =>
    rw [List.forall_mem_cons] at h
    rw [runSteps_cons, run_of_looks h.1]
    exact ih h.2

variable {steps : List Step} {p q : Performed} {earlier between later : List Performed}

theorem answers_of_performed {history : List Performed} (h : HeldBy s history)
    (hsplit : performed s e steps = earlier ++ p :: later) : Answers (history ++ earlier) p := by
  induction steps generalizing s e history earlier with
  | nil => exact absurd hsplit.symm (List.append_ne_nil_of_right_ne_nil _ (List.cons_ne_nil _ _))
  | cons step rest ih =>
    rw [performed] at hsplit
    cases earlier with
    | nil =>
      cases hsplit
      rw [List.append_nil]
      exact h.answers e step
    | cons first earlier =>
      rw [List.cons_append, List.cons.injEq] at hsplit
      obtain ⟨rfl, hrest⟩ := hsplit
      rw [← List.singleton_append, ← List.append_assoc]
      exact ih (h.after e step) hrest

/-- What is performed after some operations is performed from where they have led. -/
theorem exists_performed_of_append (hsplit : performed s e steps = earlier ++ later) :
    ∃ t f rest, later = performed t f rest := by
  induction earlier generalizing s e steps with
  | nil => exact ⟨s, e, steps, hsplit.symm⟩
  | cons first earlier ih =>
    cases steps with
    | nil => cases hsplit
    | cons step rest => exact ih (List.cons.inj hsplit).2

/-- A token is answered as long as no operation loses it or sets it. -/
theorem answer_of_kept_token {token : String} (h : s.token? = some token)
    (hsplit : performed s e steps = between ++ q :: later)
    (hkeeps : ∀ r ∈ between, ¬r.step.Drops ∧ ¬r.step.Forges) (hq : q.step = .token) : q.answer = .text token := by
  induction steps generalizing s e between with
  | nil => exact absurd hsplit.symm (List.append_ne_nil_of_right_ne_nil _ (List.cons_ne_nil _ _))
  | cons step rest ih =>
    rw [performed] at hsplit
    cases between with
    | nil =>
      cases hsplit
      cases hq
      dsimp only
      rw [Step.run, authenticityToken_of_some h]
    | cons first between =>
      rw [List.cons_append, List.cons.injEq] at hsplit
      obtain ⟨rfl, hrest⟩ := hsplit
      rw [List.forall_mem_cons] at hkeeps
      exact ih (token?_run h hkeeps.1.1 hkeeps.1.2 e) hrest hkeeps.2

theorem answer_of_token_again (hsplit : performed s e steps = earlier ++ p :: (between ++ q :: later))
    (hp : p.step = .token) (hkeeps : ∀ r ∈ between, ¬r.step.Drops ∧ ¬r.step.Forges) (hq : q.step = .token) :
    q.answer = p.answer := by
  obtain ⟨t, f, rest, hrest⟩ := exists_performed_of_append hsplit
  cases rest with
  | nil => cases hrest
  | cons step rest =>
    rw [performed, List.cons.injEq] at hrest
    obtain ⟨rfl, hbetween⟩ := hrest
    cases hp
    exact answer_of_kept_token (token?_authenticityToken t f) hbetween.symm hkeeps hq

/-- In every run on a session that is empty at first, each operation answers by those before it, the token stays the
same as long as nothing loses it or sets it, and operations that only look leave everything as it is. -/
theorem answers_by_history (e : Entropy) (steps : List Step) :
    let history := performed Session.empty e steps
    history.map Performed.step = steps ∧ history.map Performed.answer = (runSteps Session.empty e steps).1 ∧
    (∀ earlier p later, history = earlier ++ p :: later → Answers earlier p) ∧
    (∀ earlier p between q later, history = earlier ++ p :: (between ++ q :: later) → p.step = .token →
      (∀ r ∈ between, ¬r.step.Drops ∧ ¬r.step.Forges) → q.step = .token → q.answer = p.answer) ∧
    ∀ looks : List Step, (∀ step ∈ looks, step.Looks) →
      (runSteps Session.empty e (steps ++ looks)).2 = (runSteps Session.empty e steps).2 ∧
      (runSteps Session.empty e looks).2 = (Session.empty, e) := by
  intro history
  refine ⟨map_step_performed _ e steps, map_answer_performed _ e steps, fun earlier p later hsplit => ?_,
    fun earlier p between q later hsplit hp hkeeps hq => answer_of_token_again hsplit hp hkeeps hq,
    fun looks hlooks => ⟨?_, runSteps_of_looks hlooks _ e⟩⟩
  · exact answers_of_performed heldBy_empty hsplit
  · rw [runSteps_append, runSteps_of_looks hlooks]

end AppServer.Session
