import AppServer.Session.Store
import Mathlib.Data.List.Nodup

/-!
# The two sides of a store

A store keeps its entries by id and, beside them, the ids in order. They stay in
step: as long as only new ids are inserted, the ids in order are exactly those
with an entry, each of them once. The eviction before an insertion takes the
oldest id from both sides, and only when the store is full.
-/

namespace AppServer.Store

/-! ### Eviction -/

theorem evict_of_lt {capacity : Nat} {byId : Std.TreeMap SessionId α} (order : List SessionId)
    (h : byId.size < capacity) : evict capacity byId order = (byId, order) := by
  cases order with
  | nil => rfl
  | cons oldest rest => simp only [evict, if_neg (Nat.not_le.mpr h)]

theorem evict_of_full {capacity : Nat} {byId : Std.TreeMap SessionId α} {oldest : SessionId}
    (rest : List SessionId) (hmem : oldest ∈ byId) (hpos : 0 < capacity)
    (hfull : byId.size = capacity) :
    evict capacity byId (oldest :: rest) = (byId.erase oldest, rest) := by
  have hsize : (byId.erase oldest).size < capacity := by
    rw [Std.TreeMap.size_erase, if_pos (Std.TreeMap.contains_iff_mem.mpr hmem)]
    omega
  rw [evict, if_pos (Nat.le_of_eq hfull.symm), evict_of_lt rest hsize]

theorem size_evict_lt {capacity : Nat} (hpos : 0 < capacity) (order : List SessionId)
    (byId : Std.TreeMap SessionId α) (hmem : ∀ id ∈ byId, id ∈ order) :
    (evict capacity byId order).1.size < capacity := by
  induction order generalizing byId with
  | nil =>
    have hempty : byId.isEmpty = true := by
      rw [Std.TreeMap.isEmpty_iff_forall_not_mem]
      exact fun id hid => List.not_mem_nil (hmem id hid)
    rw [Std.TreeMap.isEmpty_eq_size_eq_zero, beq_iff_eq] at hempty
    simp only [evict, hempty, hpos]
  | cons oldest rest ih =>
    by_cases hfull : capacity ≤ byId.size
    · rw [evict, if_pos hfull]
      refine ih (byId.erase oldest) fun id hid => ?_
      rw [Std.TreeMap.mem_erase] at hid
      have hne : id ≠ oldest := fun heq => hid.1 (by rw [heq]; exact Std.ReflCmp.compare_self)
      exact (List.mem_cons.mp (hmem id hid.2)).resolve_left hne
    · rw [evict_of_lt _ (Nat.lt_of_not_le hfull)]
      exact Nat.lt_of_not_le hfull

/-! ### The invariant -/

/-- The ids in order are those with an entry, each once, and there are not too many. -/
structure WellFormed (s : Store α) : Prop where
  nodup : s.order.Nodup
  mem_order : ∀ id, id ∈ s.order ↔ s.load? id ≠ none
  length_le : s.order.length ≤ s.capacity

/-- The id that the next insertion evicts: the oldest, if the store is full. -/
def victim? (s : Store α) : Option SessionId :=
  if s.size < s.capacity then none else s.order.head?

theorem load?_ne_none_iff (s : Store α) (id : SessionId) : s.load? id ≠ none ↔ id ∈ s.byId := by
  rw [load?, ← Option.isSome_iff_ne_none, Std.TreeMap.mem_iff_isSome_getElem?]

theorem wellFormed_withCapacity (capacity : Nat) : WellFormed (withCapacity α capacity) where
  nodup := List.nodup_nil
  mem_order id := by simp [withCapacity, load?]
  length_le := Nat.zero_le _

namespace WellFormed

variable {s : Store α}

theorem mem_byId (h : s.WellFormed) (id : SessionId) : id ∈ s.byId ↔ id ∈ s.order := by
  rw [h.mem_order, load?_ne_none_iff]

theorem load?_eq_none (h : s.WellFormed) {id : SessionId} : s.load? id = none ↔ id ∉ s.order := by
  rw [h.mem_order, not_not]

theorem keys_perm (h : s.WellFormed) : s.byId.keys.Perm s.order := by
  rw [List.perm_ext_iff_of_nodup Std.TreeMap.nodup_keys h.nodup]
  intro id
  rw [Std.TreeMap.mem_keys, h.mem_byId]

theorem size_eq (h : s.WellFormed) : s.size = s.order.length := by
  rw [← h.keys_perm.length_eq, Std.TreeMap.length_keys, size]

theorem size_le (h : s.WellFormed) : s.size ≤ s.capacity := h.size_eq ▸ h.length_le

theorem size_makeRoom_lt (h : s.WellFormed) : s.makeRoom.size < s.capacity :=
  size_evict_lt s.capacity_pos s.order s.byId fun id hid => (h.mem_byId id).mp hid

theorem order_of_full (h : s.WellFormed) (hfull : s.size = s.capacity) :
    ∃ oldest rest, s.order = oldest :: rest := by
  have hlen := h.size_eq
  have hpos := s.capacity_pos
  exact List.exists_cons_of_length_pos (by omega)

theorem ne_oldest (h : s.WellFormed) {new oldest : SessionId} {rest : List SessionId}
    (hnew : s.load? new = none) (horder : s.order = oldest :: rest) : new ≠ oldest := by
  rintro rfl
  have hmem : new ∈ s.order := by rw [horder]; exact List.mem_cons_self
  exact (h.mem_order new).mp hmem hnew

theorem victim?_of_lt (hroom : s.size < s.capacity) : s.victim? = none := if_pos hroom

theorem victim?_of_full {oldest : SessionId} {rest : List SessionId} (hfull : s.size = s.capacity)
    (horder : s.order = oldest :: rest) : s.victim? = some oldest := by
  rw [victim?, if_neg (by omega), horder, List.head?_cons]

/-! ### Making room -/

theorem makeRoom_of_lt (hroom : s.size < s.capacity) : s.makeRoom = s := by
  simp only [makeRoom, evict_of_lt s.order hroom]

theorem makeRoom_of_full (h : s.WellFormed) {oldest : SessionId} {rest : List SessionId}
    (hfull : s.size = s.capacity) (horder : s.order = oldest :: rest) :
    s.makeRoom = { s with byId := s.byId.erase oldest, order := rest } := by
  have hmem : oldest ∈ s.byId := (h.mem_byId oldest).mpr (by rw [horder]; exact List.mem_cons_self)
  simp only [makeRoom, horder, evict_of_full rest hmem s.capacity_pos hfull]

theorem load?_makeRoom (h : s.WellFormed) (id : SessionId) :
    s.makeRoom.load? id = if s.victim? = some id then none else s.load? id := by
  rcases Nat.lt_or_eq_of_le h.size_le with hroom | hfull
  · rw [makeRoom_of_lt hroom, victim?_of_lt hroom, if_neg (by simp)]
  · obtain ⟨oldest, rest, horder⟩ := h.order_of_full hfull
    rw [h.makeRoom_of_full hfull horder, victim?_of_full hfull horder]
    simp [load?, Std.TreeMap.getElem?_erase, Std.LawfulEqCmp.compare_eq_iff_eq]

theorem order_makeRoom (h : s.WellFormed) :
    s.makeRoom.order = if s.size < s.capacity then s.order else s.order.tail := by
  rcases Nat.lt_or_eq_of_le h.size_le with hroom | hfull
  · rw [makeRoom_of_lt hroom, if_pos hroom]
  · obtain ⟨oldest, rest, horder⟩ := h.order_of_full hfull
    rw [h.makeRoom_of_full hfull horder, if_neg (by omega), horder, List.tail_cons]

theorem makeRoom (h : s.WellFormed) : s.makeRoom.WellFormed := by
  rcases Nat.lt_or_eq_of_le h.size_le with hroom | hfull
  · rw [makeRoom_of_lt hroom]
    exact h
  · obtain ⟨oldest, rest, horder⟩ := h.order_of_full hfull
    have hnodup := h.nodup
    have hlen := h.length_le
    rw [horder, List.nodup_cons] at hnodup
    rw [horder, List.length_cons] at hlen
    have hload := h.load?_makeRoom
    rw [victim?_of_full hfull horder] at hload
    rw [h.makeRoom_of_full hfull horder] at hload ⊢
    refine ⟨hnodup.2, fun id => ?_, Nat.le_of_succ_le hlen⟩
    rw [hload id]
    by_cases hid : oldest = id
    · subst hid
      simp [hnodup.1]
    · have hmem := h.mem_order id
      rw [horder, List.mem_cons] at hmem
      simpa [hid, Ne.symm hid] using hmem

end WellFormed

/-! ### Insertion and removal -/

theorem load?_insert_makeRoom (s : Store α) (id : SessionId) (value : α) (other : SessionId) :
    (s.insert id value).load? other = if id = other then some value else s.makeRoom.load? other := by
  simp [insert, load?, Std.TreeMap.getElem?_insert, Std.LawfulEqCmp.compare_eq_iff_eq]

theorem load?_remove (s : Store α) (id other : SessionId) :
    (s.remove id).load? other = if id = other then none else s.load? other := by
  by_cases hmem : id ∈ s.byId
  · simp [remove, hmem, load?, Std.TreeMap.getElem?_erase, Std.LawfulEqCmp.compare_eq_iff_eq]
  · have hnone : s.load? id = none := by
      rw [← not_ne_iff, load?_ne_none_iff]
      exact hmem
    rw [remove, if_neg hmem]
    split
    · next heq => rw [← heq, hnone]
    · rfl

namespace WellFormed

variable {s : Store α}

theorem load?_insert (h : s.WellFormed) (id : SessionId) (value : α) (other : SessionId) :
    (s.insert id value).load? other =
      if id = other then some value else if s.victim? = some other then none else s.load? other := by
  rw [load?_insert_makeRoom, h.load?_makeRoom]

theorem order_insert (h : s.WellFormed) (id : SessionId) (value : α) :
    (s.insert id value).order =
      (if s.size < s.capacity then s.order else s.order.tail) ++ [id] := by
  rw [← h.order_makeRoom]
  rfl

theorem insert (h : s.WellFormed) {id : SessionId} (hnew : s.load? id = none) (value : α) :
    (s.insert id value).WellFormed := by
  have hroom := h.makeRoom
  have habsent : id ∉ s.makeRoom.order := by
    rw [← hroom.load?_eq_none, h.load?_makeRoom, hnew, ite_self]
  have hsize : s.makeRoom.order.length < s.capacity := hroom.size_eq ▸ h.size_makeRoom_lt
  have horder : (s.insert id value).order = s.makeRoom.order ++ [id] := rfl
  refine ⟨?_, fun other => ?_, ?_⟩
  · rw [horder, List.nodup_append]
    refine ⟨hroom.nodup, List.nodup_singleton id, fun a ha b hb heq => ?_⟩
    rw [List.mem_singleton] at hb
    exact habsent (hb ▸ heq ▸ ha)
  · rw [horder, load?_insert_makeRoom, List.mem_append, List.mem_singleton, hroom.mem_order]
    by_cases hid : id = other
    · simp [hid]
    · simp [hid, Ne.symm hid]
  · rw [horder, List.length_append, List.length_singleton]
    exact hsize

theorem order_remove (h : s.WellFormed) (id : SessionId) :
    (s.remove id).order = s.order.filter (· ≠ id) := by
  by_cases hmem : id ∈ s.byId
  · simp only [Store.remove, if_pos hmem]
  · have habsent : id ∉ s.order := fun hid => hmem ((h.mem_byId id).mpr hid)
    rw [Store.remove, if_neg hmem, eq_comm, List.filter_eq_self]
    intro other hother
    exact decide_eq_true fun heq => habsent (heq ▸ hother)

theorem remove (h : s.WellFormed) (id : SessionId) : (s.remove id).WellFormed := by
  refine ⟨?_, fun other => ?_, ?_⟩
  · rw [h.order_remove]
    exact h.nodup.filter _
  · rw [h.order_remove, load?_remove, List.mem_filter, h.mem_order]
    by_cases hid : id = other
    · simp [hid]
    · simp [hid, Ne.symm hid]
  · rw [h.order_remove, capacity_remove]
    exact Nat.le_trans (List.length_filter_le _ _) h.length_le

theorem size_remove (h : s.WellFormed) {id : SessionId} (hlive : s.load? id ≠ none) :
    (s.remove id).size + 1 = s.size := by
  have hmem := (s.load?_ne_none_iff id).mp hlive
  have hpos : 0 < s.size := by
    rw [h.size_eq]
    exact List.length_pos_of_mem ((h.mem_order id).mpr hlive)
  rw [Store.remove, if_pos hmem]
  simp only [size, Std.TreeMap.size_erase, if_pos (Std.TreeMap.contains_iff_mem.mpr hmem)] at hpos ⊢
  omega

theorem remove_remove (s : Store α) (id : SessionId) : (s.remove id).remove id = s.remove id := by
  have habsent : id ∉ (s.remove id).byId := by
    rw [← load?_ne_none_iff, load?_remove, if_pos rfl]
    exact fun h => h rfl
  rw [Store.remove.eq_def (s.remove id), if_neg habsent]

end WellFormed

end AppServer.Store
