import AppServer.Proofs.Session.Store
import Mathlib.Data.List.Induction

/-!
# A store is a bounded queue

What a store answers to any sequence of calls is what a bounded queue of entries
answers: an insertion goes to the end and, when the queue is full, the entry at
the front leaves; a removal takes an entry out of its place. Each entry is found
under its id from its insertion until it is removed or evicted.
-/

namespace AppServer

/-! ### Queues -/

/-- The entries of a bounded queue, the oldest in front. -/
abbrev Queue (α : Type) := List (SessionId × α)

namespace Queue

/-- Adds an entry at the end; in a full queue the front leaves before. -/
def insert (bound : Nat) (q : Queue α) (id : SessionId) (value : α) : Queue α :=
  (if q.length < bound then q else q.tail) ++ [(id, value)]

def remove (q : Queue α) (id : SessionId) : Queue α := q.filter fun held => held.1 ≠ id

end Queue

namespace Store

/-! ### Calls -/

inductive Call (α : Type) where
  | insert (id : SessionId) (value : α)
  | remove (id : SessionId)
  | load (id : SessionId)
  | len

inductive Reply (α : Type) where
  | done
  | found (value : Option α)
  | count (n : Nat)

def call (s : Store α) : Call α → Reply α × Store α
  | .insert id value => (.done, s.insert id value)
  | .remove id => (.done, s.remove id)
  | .load id => (.found (s.load? id), s)
  | .len => (.count s.size, s)

def callQueue (bound : Nat) (q : Queue α) : Call α → Reply α × Queue α
  | .insert id value => (.done, q.insert bound id value)
  | .remove id => (.done, q.remove id)
  | .load id => (.found (q.lookup id), q)
  | .len => (.count q.length, q)

def runCalls (run : σ → Call α → Reply α × σ) (state : σ) : List (Call α) → List (Reply α) × σ
  | [] => ([], state)
  | c :: rest =>
    let (reply, state) := run state c
    let (replies, state) := runCalls run state rest
    (reply :: replies, state)

def after (s : Store α) (calls : List (Call α)) : Store α := (runCalls call s calls).2

def Call.inserted? : Call α → Option SessionId
  | .insert id _ => some id
  | _ => none

def insertedIds (calls : List (Call α)) : List SessionId := calls.filterMap Call.inserted?

/-- Whether a call evicts an id: it inserts into a full store in which that id is the oldest. -/
def Evicts (s : Store α) (c : Call α) (id : SessionId) : Prop :=
  c.inserted? ≠ none ∧ s.size = s.capacity ∧ s.order.head? = some id

/-- An entry was inserted by one of the calls, and none since has removed or evicted it. -/
inductive Held (start : Store α) (id : SessionId) (value : α) : List (Call α) → Prop where
  | inserted (calls : List (Call α)) : Held start id value (calls ++ [.insert id value])
  | kept {calls : List (Call α)} {c : Call α} (held : Held start id value calls)
      (stays : c ≠ .remove id) (spared : ¬ Evicts (start.after calls) c id) :
      Held start id value (calls ++ [c])

/-! ### One call -/

/-- A store stands for a queue of the same ids in the same order, with the same entries. -/
structure Represents (s : Store α) (q : Queue α) : Prop where
  order : s.order = q.map Prod.fst
  load : ∀ id, s.load? id = q.lookup id

theorem lookup_cons_if (held : SessionId × α) (q : Queue α) (id : SessionId) :
    List.lookup id (held :: q) = if held.1 = id then some held.2 else List.lookup id q := by
  by_cases hid : held.1 = id
  · rw [if_pos hid, List.lookup_cons, hid, beq_self_eq_true]
  · rw [if_neg hid, List.lookup_cons, beq_false_of_ne (Ne.symm hid)]

theorem lookup_eq_none_of_not_mem {q : Queue α} {id : SessionId} (h : id ∉ q.map Prod.fst) :
    q.lookup id = none := by
  rw [List.lookup_eq_none_iff]
  intro held hheld
  exact bne_iff_ne.mpr fun heq => h (List.mem_map.mpr ⟨held, hheld, heq.symm⟩)

theorem lookup_remove (q : Queue α) (id other : SessionId) :
    (q.remove id).lookup other = if id = other then none else q.lookup other := by
  induction q with
  | nil => simp [Queue.remove]
  | cons held rest ih =>
    rw [Queue.remove] at ih ⊢
    by_cases hid : held.1 = id
    · rw [List.filter_cons_of_neg (by simp [hid]), ih, lookup_cons_if, hid]
      split <;> rfl
    · rw [List.filter_cons_of_pos (by simp [hid]), lookup_cons_if, lookup_cons_if, ih]
      by_cases hother : id = other
      · have hne : held.1 ≠ other := fun heq => hid (heq.trans hother.symm)
        rw [if_pos hother, if_pos hother, if_neg hne]
      · rw [if_neg hother, if_neg hother]

namespace Represents

variable {s : Store α} {q : Queue α}

theorem length_eq (h : s.Represents q) (hs : s.WellFormed) : s.size = q.length := by
  rw [hs.size_eq, h.order, List.length_map]

theorem lookup_tail (h : s.Represents q) (hs : s.WellFormed) (hfull : s.size = s.capacity)
    (id : SessionId) : q.tail.lookup id = if s.victim? = some id then none else q.lookup id := by
  obtain ⟨oldest, rest, horder⟩ := hs.order_of_full hfull
  have hnodup := hs.nodup
  have heq := h.order
  simp only [WellFormed.victim?_of_full hfull horder, Option.some.injEq]
  cases q with
  | nil => simp [heq] at horder
  | cons front behind =>
    rw [heq, List.map_cons, List.cons.injEq] at horder
    rw [heq, List.map_cons, List.nodup_cons, horder.1] at hnodup
    rw [List.tail_cons, lookup_cons_if, horder.1]
    by_cases hid : oldest = id
    · rw [if_pos hid, ← hid, lookup_eq_none_of_not_mem hnodup.1]
    · rw [if_neg hid, if_neg hid]

theorem insert (h : s.Represents q) (hs : s.WellFormed) {id : SessionId}
    (hnew : s.load? id = none) (value : α) :
    (s.insert id value).Represents (q.insert s.capacity id value) := by
  have hlen := h.length_eq hs
  refine ⟨?_, fun other => ?_⟩
  · rw [hs.order_insert, Queue.insert, List.map_append, hlen, h.order]
    split <;> simp
  · -- what the queue holds before the new entry is what the store keeps
    have hkept : List.lookup other (if q.length < s.capacity then q else q.tail) =
        if s.victim? = some other then none else s.load? other := by
      by_cases hroom : s.size < s.capacity
      · rw [if_pos (hlen ▸ hroom), WellFormed.victim?_of_lt hroom, if_neg (by simp), h.load]
      · have hfull : s.size = s.capacity := Nat.le_antisymm hs.size_le (Nat.le_of_not_lt hroom)
        rw [if_neg (hlen ▸ hroom), h.lookup_tail hs hfull, h.load]
    rw [hs.load?_insert, Queue.insert, List.lookup_append, hkept, lookup_cons_if, List.lookup_nil]
    by_cases hid : id = other
    · subst hid
      simp [hnew]
    · simp [hid]

theorem remove (h : s.Represents q) (hs : s.WellFormed) (id : SessionId) :
    (s.remove id).Represents (q.remove id) := by
  refine ⟨?_, fun other => ?_⟩
  · rw [hs.order_remove, h.order, Queue.remove, List.filter_map]
    rfl
  · rw [load?_remove, lookup_remove, h.load]

/-- A call answers what the queue answers, and leaves store and queue in step. -/
theorem call (h : s.Represents q) (hs : s.WellFormed) {c : Call α}
    (hnew : ∀ id, c.inserted? = some id → s.load? id = none) :
    (s.call c).1 = (callQueue s.capacity q c).1 ∧ (s.call c).2.WellFormed ∧
      (s.call c).2.Represents (callQueue s.capacity q c).2 := by
  cases c with
  | insert id value => exact ⟨rfl, hs.insert (hnew id rfl) value, h.insert hs (hnew id rfl) value⟩
  | remove id => exact ⟨rfl, hs.remove id, h.remove hs id⟩
  | load id => exact ⟨congrArg Reply.found (h.load id), hs, h⟩
  | len => exact ⟨congrArg Reply.count (h.length_eq hs), hs, h⟩

end Represents

/-! ### Calls in turn -/

theorem after_append (s : Store α) (calls more : List (Call α)) :
    s.after (calls ++ more) = (s.after calls).after more := by
  induction calls generalizing s with
  | nil => rfl
  | cons c rest ih => exact ih (s.call c).2

theorem insertedIds_append (calls more : List (Call α)) :
    insertedIds (calls ++ more) = insertedIds calls ++ insertedIds more := List.filterMap_append

theorem mem_insertedIds_singleton {c : Call α} {id : SessionId} :
    id ∈ insertedIds [c] ↔ c.inserted? = some id := by
  simp [insertedIds]

theorem capacity_after (s : Store α) (calls : List (Call α)) :
    (s.after calls).capacity = s.capacity := by
  induction calls generalizing s with
  | nil => rfl
  | cons c rest ih =>
    have hcall : (s.call c).2.capacity = s.capacity := by
      cases c with
      | insert id value => rfl
      | remove id => exact capacity_remove s id
      | load id => rfl
      | len => rfl
    exact (ih (s.call c).2).trans hcall

/-- A call brings no entry but the one it inserts. -/
theorem load?_of_load?_call {s : Store α} (hs : s.WellFormed) {c : Call α} {id : SessionId}
    {value : α} (hc : c.inserted? ≠ some id) (h : (s.call c).2.load? id = some value) :
    s.load? id = some value := by
  cases c with
  | insert new other =>
    have hne : new ≠ id := fun heq => hc (congrArg some heq)
    rw [Store.call, hs.load?_insert, if_neg hne] at h
    split at h
    · cases h
    · exact h
  | remove gone =>
    rw [Store.call, load?_remove] at h
    split at h
    · cases h
    · exact h
  | load id => exact h
  | len => exact h

theorem order_call_sublist {s : Store α} (hs : s.WellFormed) (c : Call α) :
    (s.call c).2.order.Sublist (s.order ++ insertedIds [c]) := by
  cases c with
  | insert id value =>
    have hkept : (if s.size < s.capacity then s.order else s.order.tail).Sublist s.order := by
      split
      · exact List.Sublist.refl _
      · exact List.tail_sublist _
    rw [Store.call, hs.order_insert]
    exact hkept.append (List.Sublist.refl [id])
  | remove id =>
    rw [Store.call, hs.order_remove]
    exact List.filter_sublist.trans (List.sublist_append_left _ _)
  | load id => exact List.sublist_append_left _ _
  | len => exact List.sublist_append_left _ _

theorem Represents.run {s : Store α} {q : Queue α} (h : s.Represents q) (hs : s.WellFormed)
    (calls : List (Call α)) (hnodup : (insertedIds calls).Nodup)
    (hnew : ∀ id ∈ insertedIds calls, s.load? id = none) :
    (runCalls Store.call s calls).1 = (runCalls (callQueue s.capacity) q calls).1 ∧
      (s.after calls).WellFormed ∧ (s.after calls).order.Sublist (s.order ++ insertedIds calls) := by
  induction calls generalizing s q with
  | nil => exact ⟨rfl, hs, List.sublist_append_left _ _⟩
  | cons c rest ih =>
    have hsplit : insertedIds (c :: rest) = insertedIds [c] ++ insertedIds rest :=
      insertedIds_append [c] rest
    rw [hsplit] at hnodup hnew
    rw [List.nodup_append] at hnodup
    obtain ⟨-, hrest, hdisjoint⟩ := hnodup
    obtain ⟨hreply, hs', h'⟩ := h.call hs (c := c) fun id hid =>
      hnew id (List.mem_append_left _ (mem_insertedIds_singleton.mpr hid))
    have hcap : (s.call c).2.capacity = s.capacity := capacity_after s [c]
    have hnew' : ∀ id ∈ insertedIds rest, (s.call c).2.load? id = none := by
      intro id hid
      have hc : c.inserted? ≠ some id := fun heq =>
        hdisjoint id (mem_insertedIds_singleton.mpr heq) id hid rfl
      by_contra hlive
      obtain ⟨value, hvalue⟩ := Option.ne_none_iff_exists'.mp hlive
      have hold := load?_of_load?_call hs hc hvalue
      rw [hnew id (List.mem_append_right _ hid)] at hold
      cases hold
    obtain ⟨hreplies, hwf, horder⟩ := ih h' hs' hrest hnew'
    rw [hcap] at hreplies
    refine ⟨congrArg₂ List.cons hreply hreplies, hwf, horder.trans ?_⟩
    rw [hsplit, ← List.append_assoc]
    exact (order_call_sublist hs c).append (List.Sublist.refl _)

theorem run_withCapacity (capacity : Nat) (calls : List (Call α))
    (hnodup : (insertedIds calls).Nodup) :
    (runCalls call (withCapacity α capacity) calls).1 =
        (runCalls (callQueue (max capacity 1)) [] calls).1 ∧
      ((withCapacity α capacity).after calls).WellFormed ∧
      ((withCapacity α capacity).after calls).order.Sublist (insertedIds calls) := by
  have hempty : (withCapacity α capacity).Represents [] := ⟨rfl, load?_withCapacity capacity⟩
  exact hempty.run (wellFormed_withCapacity capacity) calls hnodup
    fun id _ => load?_withCapacity capacity id

/-! ### The history of an entry -/

theorem evicts_iff {s : Store α} (hs : s.WellFormed) {c : Call α} {id : SessionId} :
    Evicts s c id ↔ c.inserted? ≠ none ∧ s.victim? = some id := by
  have hle := hs.size_le
  rw [Evicts, victim?]
  by_cases hroom : s.size < s.capacity
  · simp [hroom, Nat.ne_of_lt hroom]
  · simp [Nat.le_antisymm hle (Nat.le_of_not_lt hroom)]

/-- A call that inserts another id keeps an entry exactly if it neither removes nor evicts it. -/
theorem load?_call_iff {s : Store α} (hs : s.WellFormed) {c : Call α} {id : SessionId} {value : α}
    (hc : c.inserted? ≠ some id) :
    (s.call c).2.load? id = some value ↔
      s.load? id = some value ∧ c ≠ .remove id ∧ ¬ Evicts s c id := by
  rw [evicts_iff hs]
  cases c with
  | insert new other =>
    have hne : new ≠ id := fun heq => hc (congrArg some heq)
    rw [Store.call, hs.load?_insert, if_neg hne]
    by_cases hvictim : s.victim? = some id
    · simp [hvictim, Call.inserted?]
    · simp [hvictim]
  | remove gone =>
    rw [Store.call, load?_remove]
    by_cases hgone : gone = id
    · simp [hgone]
    · simp [hgone, Call.inserted?]
  | load other => simp [Store.call, Call.inserted?]
  | len => simp [Store.call, Call.inserted?]

theorem held_nil {start : Store α} {id : SessionId} {value : α} : ¬ Held start id value [] := by
  intro h
  generalize hcalls : ([] : List (Call α)) = calls at h
  cases h <;> exact List.append_ne_nil_of_right_ne_nil _ (List.cons_ne_nil _ _) hcalls.symm

theorem held_append_singleton {start : Store α} {id : SessionId} {value : α}
    {calls : List (Call α)} {c : Call α} :
    Held start id value (calls ++ [c]) ↔
      c = .insert id value ∨
        Held start id value calls ∧ c ≠ .remove id ∧ ¬ Evicts (start.after calls) c id := by
  constructor
  · intro h
    generalize hall : calls ++ [c] = all at h
    cases h with
    | inserted before =>
      obtain ⟨-, hc⟩ := List.append_inj' hall rfl
      exact .inl (List.singleton_inj.mp hc)
    | kept held stays spared =>
      obtain ⟨rfl, hc⟩ := List.append_inj' hall rfl
      obtain rfl := List.singleton_inj.mp hc
      exact .inr ⟨held, stays, spared⟩
  · rintro (rfl | ⟨held, stays, spared⟩)
    · exact .inserted calls
    · exact .kept held stays spared

/-- An id leads to the entry inserted under it until it is removed or evicted. -/
theorem load?_after_iff (capacity : Nat) (calls : List (Call α))
    (hnodup : (insertedIds calls).Nodup) (id : SessionId) (value : α) :
    ((withCapacity α capacity).after calls).load? id = some value ↔
      Held (withCapacity α capacity) id value calls := by
  induction calls using List.reverseRecOn with
  | nil =>
    have hnone : ((withCapacity α capacity).after []).load? id = none := load?_withCapacity capacity id
    simp only [hnone, held_nil, reduceCtorEq]
  | append_singleton calls c ih =>
    rw [insertedIds_append, List.nodup_append] at hnodup
    obtain ⟨hnodup, -, hdisjoint⟩ := hnodup
    obtain ⟨-, hs, horder⟩ := run_withCapacity capacity calls hnodup
    rw [after_append, held_append_singleton, ← ih hnodup]
    change (((withCapacity α capacity).after calls).call c).2.load? id = some value ↔ _
    by_cases hc : c.inserted? = some id
    · -- the id is new, so that it leads to what this call inserts and to nothing before
      have hnew : ((withCapacity α capacity).after calls).load? id = none := by
        rw [hs.load?_eq_none]
        exact fun hid => hdisjoint id (horder.subset hid) id (mem_insertedIds_singleton.mpr hc) rfl
      cases c with
      | insert new other =>
        obtain rfl : new = id := Option.some.inj hc
        simp [Store.call, hs.load?_insert, hnew]
      | remove id => cases hc
      | load id => cases hc
      | len => cases hc
    · have hne : c ≠ .insert id value := fun heq => hc (heq ▸ rfl)
      rw [load?_call_iff hs hc, or_iff_right hne]

/-! ### Insertions in turn -/

/-- An insertion evicts nothing while there is room, and otherwise the oldest entry alone. -/
structure InsertsInTurn (s : Store α) (new : SessionId) (value : α) : Prop where
  /-- The loop of the eviction ends with room. -/
  room : s.makeRoom.size < s.capacity
  /-- The new entry is found. -/
  found : (s.insert new value).load? new = some value
  /-- With room to spare, the new id comes last and all entries stay. -/
  spares : s.size < s.capacity → (s.insert new value).order = s.order ++ [new] ∧
    ∀ id, id ≠ new → (s.insert new value).load? id = s.load? id
  /-- In a full store the oldest entry goes and all others stay. -/
  evicts : s.size = s.capacity → ∃ oldest rest, s.order = oldest :: rest ∧
    (s.insert new value).order = rest ++ [new] ∧ (s.insert new value).load? oldest = none ∧
    ∀ id, id ≠ new → id ≠ oldest → (s.insert new value).load? id = s.load? id

theorem WellFormed.insertsInTurn {s : Store α} (h : s.WellFormed) {new : SessionId}
    (hnew : s.load? new = none) (value : α) : s.InsertsInTurn new value where
  room := h.size_makeRoom_lt
  found := by rw [h.load?_insert, if_pos rfl]
  spares hroom := by
    refine ⟨by rw [h.order_insert, if_pos hroom], fun id hid => ?_⟩
    rw [h.load?_insert, if_neg (Ne.symm hid), victim?_of_lt hroom, if_neg (by simp)]
  evicts hfull := by
    obtain ⟨oldest, rest, horder⟩ := h.order_of_full hfull
    have hvictim := victim?_of_full hfull horder
    have hne := h.ne_oldest hnew horder
    refine ⟨oldest, rest, horder, ?_, ?_, fun id hid hold => ?_⟩
    · rw [h.order_insert, if_neg (by omega), horder, List.tail_cons]
    · rw [h.load?_insert, if_neg hne, if_pos hvictim]
    · rw [h.load?_insert, if_neg (Ne.symm hid), hvictim, if_neg]
      exact fun heq => hold (Option.some.inj heq).symm

theorem not_sublist_swap {ids : List SessionId} (hnodup : ids.Nodup) {a b : SessionId}
    (hab : [a, b].Sublist ids) : ¬ [b, a].Sublist ids := by
  induction ids with
  | nil => cases hab
  | cons first rest ih =>
    intro hba
    rw [List.nodup_cons] at hnodup
    rw [List.cons_sublist_cons'] at hab hba
    rcases hab with hab | ⟨rfl, hb⟩ <;> rcases hba with hba | ⟨rfl, ha⟩
    · exact ih hnodup.2 hab hba
    · exact hnodup.1 (hab.subset (List.mem_cons_of_mem _ List.mem_cons_self))
    · exact hnodup.1 (hba.subset (List.mem_cons_of_mem _ List.mem_cons_self))
    · exact hnodup.1 (hb.subset List.mem_cons_self)

/-- When an insertion evicts an entry, none that was inserted before it is left. -/
theorem WellFormed.load?_older {s : Store α} (h : s.WellFormed) {ids : List SessionId}
    (hnodup : ids.Nodup) (horder : s.order.Sublist ids) {new older id : SessionId} {value : α}
    (hnew : new ∉ ids) (holder : [older, id].Sublist ids) (hlive : s.load? id ≠ none)
    (hgone : (s.insert new value).load? id = none) : (s.insert new value).load? older = none := by
  have hne (other : SessionId) (hmem : other ∈ ids) : new ≠ other := fun heq => hnew (heq ▸ hmem)
  have hvictim : s.victim? = some id := by
    rw [h.load?_insert, if_neg (hne id (holder.subset (by simp)))] at hgone
    by_contra hspared
    rw [if_neg hspared] at hgone
    exact hlive hgone
  rw [h.load?_insert, if_neg (hne older (holder.subset (by simp)))]
  split
  · rfl
  · next hspared =>
    -- were it still there, it would stand behind the oldest id
    rw [h.load?_eq_none]
    intro hmem
    have hhead : s.order.head? = some id := by
      rw [victim?] at hvictim
      split at hvictim
      · cases hvictim
      · exact hvictim
    obtain ⟨rest, hrest⟩ := List.head?_eq_some_iff.mp hhead
    rw [hrest, List.mem_cons] at hmem
    rw [hrest] at horder
    have hbehind : older ∈ rest := hmem.resolve_left fun heq => hspared (heq ▸ hvictim)
    have hswap : [id, older].Sublist ids :=
      ((List.singleton_sublist.mpr hbehind).cons_cons id).trans horder
    exact not_sublist_swap hnodup holder hswap

/-- Every sequence of calls with distinct new ids answers what a bounded queue answers. In the store
that is left, the keys of the entries are the ids in order, each once, in the order of insertion, and
never more than fit; an entry is found exactly while it is neither removed nor evicted; insertions
evict in turn, the oldest first and only without a free place; removals touch nothing else. -/
theorem store_refines_queue (capacity : Nat) (calls : List (Call α))
    (hnodup : (insertedIds calls).Nodup) :
    let start := withCapacity α capacity
    let s := start.after calls
    s.capacity = max capacity 1 ∧
    (runCalls call start calls).1 = (runCalls (callQueue (max capacity 1)) [] calls).1 ∧
    (s.byId.keys.Perm s.order ∧ s.order.Nodup ∧ s.order.Sublist (insertedIds calls) ∧
      s.size ≤ s.capacity) ∧
    (∀ id value, s.load? id = some value ↔ Held start id value calls) ∧
    (∀ new value, new ∉ insertedIds calls →
      s.InsertsInTurn new value ∧
      (∀ older id, [older, id].Sublist (insertedIds calls) → s.load? id ≠ none →
        (s.insert new value).load? id = none → (s.insert new value).load? older = none) ∧
      (∀ freed, s.load? freed ≠ none → (s.remove freed).size < s.capacity ∧
        (s.remove freed).InsertsInTurn new value)) ∧
    (∀ id, (s.remove id).load? id = none ∧ (∀ other, other ≠ id → (s.remove id).load? other = s.load? other) ∧
      (s.remove id).remove id = s.remove id ∧ (s.load? id = none → s.remove id = s)) := by
  intro start s
  obtain ⟨hreplies, hs, horder⟩ := run_withCapacity capacity calls hnodup
  have hfresh {new : SessionId} (hnew : new ∉ insertedIds calls) : s.load? new = none :=
    hs.load?_eq_none.mpr fun hmem => hnew (horder.subset hmem)
  refine ⟨capacity_after start calls, hreplies, ⟨hs.keys_perm, hs.nodup, horder, hs.size_le⟩,
    load?_after_iff capacity calls hnodup, fun new value hnew => ⟨?_, ?_, ?_⟩,
    fun id => ⟨?_, ?_, ?_, ?_⟩⟩
  · exact hs.insertsInTurn (hfresh hnew) value
  · intro older id holder hlive hgone
    exact hs.load?_older hnodup horder hnew holder hlive hgone
  · intro freed hlive
    have hsize : (s.remove freed).size + 1 = s.size := hs.size_remove hlive
    have hle : s.size ≤ s.capacity := hs.size_le
    have habsent : (s.remove freed).load? new = none := by rw [load?_remove, hfresh hnew, ite_self]
    exact ⟨by omega, (hs.remove freed).insertsInTurn habsent value⟩
  · rw [load?_remove, if_pos rfl]
  · intro other hother
    rw [load?_remove, if_neg (Ne.symm hother)]
  · exact WellFormed.remove_remove s id
  · intro hnone
    rw [remove, if_neg]
    rw [← load?_ne_none_iff, hnone]
    exact fun h => h rfl

def threeInsertions : List (Call Nat) :=
  [.insert "a" 1, .remove "x", .insert "b" 2, .len, .insert "c" 3, .load "a"]

theorem store_refines_queue_threeInsertions :
    (insertedIds threeInsertions).Nodup ∧
      ((withCapacity Nat 2).after threeInsertions).order.Sublist ["a", "b", "c"] ∧
      Held (withCapacity Nat 2) "b" 2 threeInsertions ∧
      ¬ Held (withCapacity Nat 2) "a" 1 threeInsertions ∧
      "d" ∉ insertedIds threeInsertions ∧
      ((withCapacity Nat 2).after threeInsertions).InsertsInTurn "d" 4 := by
  have hnodup : (insertedIds threeInsertions).Nodup := by decide
  have hnew : "d" ∉ insertedIds threeInsertions := by decide
  obtain ⟨-, -, ⟨-, -, horder, -⟩, hheld, hinsert, -⟩ := store_refines_queue 2 threeInsertions hnodup
  refine ⟨hnodup, horder, (hheld "b" 2).mp (by decide), ?_, hnew, (hinsert "d" 4 hnew).1⟩
  exact fun h => absurd ((hheld "a" 1).mpr h) (by decide)

end Store

end AppServer
