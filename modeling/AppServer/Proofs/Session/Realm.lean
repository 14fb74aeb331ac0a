import AppServer.Proofs.Session.Store
import AppServer.Session.Realm

/-!
# Stored sessions by their ids

What an id leads to is a session with an identity of its own: no two ids share
one. Work on one session is therefore seen under its id alone, and a realm is
told apart by what stands under each id.
-/

namespace AppServer.Realm

/-! ### Writing -/

def update (r : Realm) (ref : SessionRef) (s : Session) (e : Entropy) : Realm :=
  { r.write ref s with entropy := e }

/-- The realm after work on a new session. -/
def begin (r : Realm) (s : Session) (e : Entropy) : Realm := r.create.2.update r.create.1 s e

/-- The session that is stored under an id. -/
def sessionAt? (r : Realm) (id : SessionId) : Option Session := (r.load? id).map r.session

theorem size_update (r : Realm) (ref : SessionRef) (s : Session) (e : Entropy) :
    (r.update ref s e).sessions.size = r.sessions.size := by
  simp [update, write]

theorem session_update_self {r : Realm} {ref : SessionRef} (h : ref.index < r.sessions.size)
    (s : Session) (e : Entropy) : (r.update ref s e).session ref = s := by
  simp [update, write, session, h]

theorem session_update_of_ne (r : Realm) {ref other : SessionRef} (h : ref ≠ other) (s : Session)
    (e : Entropy) : (r.update ref s e).session other = r.session other := by
  have hindex : ref.index ≠ other.index := by
    intro heq
    cases ref
    cases other
    exact h (congrArg SessionRef.mk heq)
  simp [update, write, session, Array.getElem?_setIfInBounds_ne hindex]

theorem update_update (r : Realm) (ref : SessionRef) (s t : Session) (e f : Entropy) :
    (r.update ref s e).update ref t f = r.update ref t f := by
  simp [update, write]

theorem update_session {r : Realm} {ref : SessionRef} (h : ref.index < r.sessions.size) :
    r.update ref (r.session ref) r.entropy = r := by
  have hsame : r.sessions.setIfInBounds ref.index (r.session ref) = r.sessions := by
    simp [session, h, Array.setIfInBounds]
  simp only [update, write, hsame]

theorem runStep_eq (r : Realm) (ref : SessionRef) (step : Session.Step) :
    r.runStep ref step =
      ((step.run (r.session ref) r.entropy).1,
        r.update ref (step.run (r.session ref) r.entropy).2.1
          (step.run (r.session ref) r.entropy).2.2) := rfl

theorem create_exists (r : Realm) : r.create.1.index < r.create.2.sessions.size := by
  simp [create]

theorem session_create (r : Realm) : r.create.2.session r.create.1 = Session.empty := by
  simp [create, session]

theorem session_unborn (r : Realm) : r.session r.create.1 = Session.empty := by
  simp [create, session]

theorem session_begin (r : Realm) (s : Session) (e : Entropy) :
    (r.begin s e).session r.create.1 = s :=
  session_update_self r.create_exists s e

theorem begin_exists (r : Realm) (s : Session) (e : Entropy) :
    r.create.1.index < (r.begin s e).sessions.size := by
  rw [begin, size_update]
  exact r.create_exists

theorem session_begin_of_ne (r : Realm) {other : SessionRef} (h : r.create.1 ≠ other) (s : Session)
    (e : Entropy) : (r.begin s e).session other = r.session other := by
  have hindex : other.index ≠ r.sessions.size := by
    intro heq
    cases other
    exact h (congrArg SessionRef.mk heq.symm)
  rw [begin, session_update_of_ne _ h, session, session, create, Array.getElem?_push, if_neg hindex]

/-! ### Identities -/

/-- The store is well formed, and its ids lead to existing sessions, each to one of its own. -/
structure Sound (r : Realm) : Prop where
  store : r.store.WellFormed
  exist : ∀ id ref, r.load? id = some ref → ref.index < r.sessions.size
  apart : ∀ id other ref, r.load? id = some ref → r.load? other = some ref → id = other

theorem load?_new (capacity : Nat) (e : Entropy) (id : SessionId) :
    (new (Store.withCapacity SessionRef capacity) e).load? id = none :=
  Store.load?_withCapacity capacity id

theorem sound_new (capacity : Nat) (e : Entropy) :
    (new (Store.withCapacity SessionRef capacity) e).Sound where
  store := Store.wellFormed_withCapacity capacity
  exist id ref h := by
    rw [load?_new] at h
    cases h
  apart id other ref h := by
    rw [load?_new] at h
    cases h

theorem sessionAt?_new (capacity : Nat) (e : Entropy) (id : SessionId) :
    (new (Store.withCapacity SessionRef capacity) e).sessionAt? id = none := by
  rw [sessionAt?, load?_new, Option.map_none]

theorem load?_insert {r : Realm} (h : r.store.WellFormed) (ref : SessionRef) (id : SessionId) :
    (r.insert ref).2.load? id =
      if (r.insert ref).1 = id then some ref
      else if r.store.victim? = some id then none else r.load? id :=
  h.load?_insert (r.entropy.sessionId).1 ref id

theorem load?_remove (r : Realm) (id other : SessionId) :
    (r.remove id).load? other = if id = other then none else r.load? other :=
  r.store.load?_remove id other

namespace Sound

variable {r : Realm}

theorem update (h : r.Sound) (ref : SessionRef) (s : Session) (e : Entropy) :
    (r.update ref s e).Sound where
  store := h.store
  exist id held hid := (r.size_update ref s e).symm ▸ h.exist id held hid
  apart := h.apart

theorem sessionAt?_update (h : r.Sound) (ref : SessionRef) (s : Session) (e : Entropy)
    (id : SessionId) :
    (r.update ref s e).sessionAt? id =
      if r.load? id = some ref then some s else r.sessionAt? id := by
  have hload : (r.update ref s e).load? id = r.load? id := rfl
  rw [sessionAt?, sessionAt?, hload]
  cases hid : r.load? id with
  | none => simp
  | some held =>
    by_cases heq : held = ref
    · subst heq
      rw [if_pos rfl, Option.map_some, session_update_self (h.exist id held hid)]
    · rw [if_neg (fun hsome => heq (Option.some.inj hsome)), Option.map_some, Option.map_some,
        session_update_of_ne r (Ne.symm heq)]

theorem create (h : r.Sound) : r.create.2.Sound where
  store := h.store
  exist id ref hid := by
    have hlt := h.exist id ref hid
    rw [Realm.create, Array.size_push]
    exact Nat.lt_succ_of_lt hlt
  apart := h.apart

theorem load?_create_ne (h : r.Sound) (id : SessionId) : r.create.2.load? id ≠ some r.create.1 :=
  fun hid => Nat.lt_irrefl _ (h.exist id r.create.1 hid)

theorem sessionAt?_create (h : r.Sound) (id : SessionId) :
    r.create.2.sessionAt? id = r.sessionAt? id := by
  have hload : r.create.2.load? id = r.load? id := rfl
  rw [sessionAt?, sessionAt?, hload]
  cases hid : r.load? id with
  | none => rfl
  | some ref =>
    have hlt := h.exist id ref hid
    simp [Realm.create, session, Array.getElem?_push_lt, hlt]

theorem begin (h : r.Sound) (s : Session) (e : Entropy) : (r.begin s e).Sound :=
  h.create.update r.create.1 s e

theorem sessionAt?_begin (h : r.Sound) (s : Session) (e : Entropy) (id : SessionId) :
    (r.begin s e).sessionAt? id = r.sessionAt? id := by
  rw [Realm.begin, h.create.sessionAt?_update, if_neg (h.load?_create_ne id), h.sessionAt?_create]

theorem sessionAt?_update_of_load? (h : r.Sound) {id : SessionId} {ref : SessionRef}
    (hid : r.load? id = some ref) (s : Session) (e : Entropy) (other : SessionId) :
    (r.update ref s e).sessionAt? other = if id = other then some s else r.sessionAt? other := by
  rw [h.sessionAt?_update]
  by_cases heq : id = other
  · rw [if_pos heq, if_pos (heq ▸ hid)]
  · rw [if_neg heq, if_neg fun hother => heq (h.apart id other ref hid hother)]

theorem insert (h : r.Sound) {ref : SessionRef} (hexists : ref.index < r.sessions.size)
    (hfree : ∀ id, r.load? id ≠ some ref) (hfresh : r.load? (r.insert ref).1 = none) :
    (r.insert ref).2.Sound where
  store := h.store.insert hfresh ref
  exist id held hid := by
    rw [load?_insert h.store] at hid
    split at hid
    · cases hid
      exact hexists
    · split at hid
      · cases hid
      · exact h.exist id held hid
  apart id other held hid hother := by
    rw [load?_insert h.store] at hid hother
    split at hid <;> split at hother
    · next hnew hnew' => exact hnew.symm.trans hnew'
    · cases hid
      split at hother
      · cases hother
      · exact (hfree other hother).elim
    · cases hother
      split at hid
      · cases hid
      · exact (hfree id hid).elim
    · split at hid
      · cases hid
      · split at hother
        · cases hother
        · exact h.apart id other held hid hother

theorem sessionAt?_insert (h : r.Sound) (ref : SessionRef) (id : SessionId) :
    (r.insert ref).2.sessionAt? id =
      if (r.insert ref).1 = id then some (r.session ref)
      else if r.store.victim? = some id then none else r.sessionAt? id := by
  have hsession : (r.insert ref).2.session = r.session := rfl
  rw [sessionAt?, load?_insert h.store, hsession]
  split
  · rfl
  · split <;> rfl

theorem remove (h : r.Sound) (id : SessionId) : (r.remove id).Sound where
  store := h.store.remove id
  exist other ref hother := by
    rw [load?_remove] at hother
    split at hother
    · cases hother
    · exact h.exist other ref hother
  apart other another ref hother hanother := by
    rw [load?_remove] at hother hanother
    split at hother
    · cases hother
    · split at hanother
      · cases hanother
      · exact h.apart other another ref hother hanother

end Sound

theorem sessionAt?_remove (r : Realm) (id other : SessionId) :
    (r.remove id).sessionAt? other = if id = other then none else r.sessionAt? other := by
  have hsession : (r.remove id).session = r.session := rfl
  rw [sessionAt?, load?_remove, hsession]
  split <;> rfl

/-! ### The invariant -/

structure InStep (r : Realm) : Prop where
  sound : r.Sound
  filled : ∀ id s, r.sessionAt? id = some s → s.isEmpty = false

theorem inStep_new (capacity : Nat) (e : Entropy) :
    (new (Store.withCapacity SessionRef capacity) e).InStep where
  sound := sound_new capacity e
  filled id s h := by
    rw [sessionAt?_new] at h
    cases h

end AppServer.Realm
