import AppServer.Config.Flatten

/-!
# The leaves of a document

Flattening finds a list in exactly the documents that hold one at any depth. For
the others it yields every leaf of the nested tables, under the names on the way
to it, and nothing else.
-/

namespace AppServer.Toml

/-- A value is a list, or a table that holds a list at any depth. -/
inductive Value.HasArray : Value → Prop where
  | here (items : List Value) : HasArray (.array items)
  | under {name : String} {value : Value} {entries : List (String × Value)}
      (mem : (name, value) ∈ entries) (inner : value.HasArray) : HasArray (.table entries)

/-- A value under a key leads to a leaf: to itself, or to one of an entry under that entry's dotted key. -/
inductive Value.HasLeaf (k s : String) : String → Value → Prop where
  | here {value : Value} (text : value.leafText? = some s) : HasLeaf k s k value
  | under {outer name : String} {value : Value} {entries : List (String × Value)}
      (mem : (name, value) ∈ entries) (inner : value.HasLeaf k s (dottedKey outer name)) :
      HasLeaf k s outer (.table entries)

/-! ### Tables, entry by entry -/

theorem Value.not_hasArray_nil : ¬(Value.table []).HasArray := by
  rintro (_ | ⟨mem, -⟩)
  cases mem

theorem Value.hasArray_cons {name : String} {value : Value} {rest : List (String × Value)} :
    (Value.table ((name, value) :: rest)).HasArray ↔ value.HasArray ∨ (Value.table rest).HasArray := by
  constructor
  · rintro (_ | ⟨mem, inner⟩)
    rcases List.mem_cons.mp mem with heq | mem
    · cases heq
      exact .inl inner
    · exact .inr (.under mem inner)
  · rintro (inner | htable)
    · exact .under List.mem_cons_self inner
    · cases htable with
      | under mem inner => exact .under (List.mem_cons_of_mem _ mem) inner

theorem Value.not_hasLeaf_nil {k s outer : String} : ¬(Value.table []).HasLeaf k s outer := by
  rintro (⟨text⟩ | ⟨mem, -⟩)
  · cases text
  · cases mem

theorem Value.hasLeaf_cons {k s outer name : String} {value : Value} {rest : List (String × Value)} :
    (Value.table ((name, value) :: rest)).HasLeaf k s outer ↔
      value.HasLeaf k s (dottedKey outer name) ∨ (Value.table rest).HasLeaf k s outer := by
  constructor
  · rintro (⟨text⟩ | ⟨mem, inner⟩)
    · cases text
    · rcases List.mem_cons.mp mem with heq | mem
      · cases heq
        exact .inl inner
      · exact .inr (.under mem inner)
  · rintro (inner | htable)
    · exact .under List.mem_cons_self inner
    · cases htable with
      | here text => cases text
      | under mem inner => exact .under (List.mem_cons_of_mem _ mem) inner

/-! ### What flattening yields -/

/-- The outcome of flattening a value under a key is what the value holds. -/
structure Flattened.Yields (f : Flattened) (key : String) (value : Value) : Prop where
  array : f.arrayAt = none ↔ ¬value.HasArray
  leaves : f.arrayAt = none → ∀ k s, (k, s) ∈ f.leaves ↔ value.HasLeaf k s key

theorem Flattened.yields_leaf {key s : String} {value : Value} (text : value.leafText? = some s) :
    Flattened.Yields ⟨[(key, s)], none⟩ key value where
  array := by
    refine iff_of_true rfl fun harray => ?_
    cases harray <;> cases text
  leaves := by
    intro _ k t
    rw [List.mem_singleton]
    constructor
    · rintro ⟨⟩
      exact .here text
    · intro hleaf
      cases hleaf with
      | here found =>
        rw [text] at found
        cases found
        rfl
      | under => cases text

theorem Flattened.Yields.cons {f g : Flattened} {key name : String} {value : Value}
    {rest : List (String × Value)} (hf : f.Yields (dottedKey key name) value)
    (hg : g.Yields key (.table rest)) : (f.append g).Yields key (.table ((name, value) :: rest)) := by
  cases hlist : f.arrayAt with
  | some path =>
    have happend : f.append g = f := by simp only [Flattened.append, hlist]
    have harray : value.HasArray := by
      refine Classical.byContradiction fun hnone => ?_
      rw [hf.array.mpr hnone] at hlist
      cases hlist
    rw [happend]
    refine ⟨?_, fun hnone => ?_⟩
    · rw [Value.hasArray_cons, hlist]
      exact iff_of_false (by simp) (not_not_intro (.inl harray))
    · rw [hlist] at hnone
      cases hnone
  | none =>
    have happend : f.append g = ⟨f.leaves ++ g.leaves, g.arrayAt⟩ := by simp only [Flattened.append, hlist]
    rw [happend]
    refine ⟨?_, fun hnone k s => ?_⟩
    · rw [Value.hasArray_cons, not_or, hg.array]
      exact ⟨fun hrest => ⟨hf.array.mp hlist, hrest⟩, fun hboth => hboth.2⟩
    · rw [List.mem_append, hf.leaves hlist k s, hg.leaves hnone k s, Value.hasLeaf_cons]

mutual

theorem Value.flatten_yields (key : String) : (value : Value) → (value.flatten key).Yields key value
  | .table entries => by
    rw [Value.flatten]
    exact flattenEntries_yields key entries
  | .array items => by
    rw [Value.flatten]
    refine ⟨iff_of_false ?_ (not_not_intro (.here items)), ?_⟩ <;> exact nofun
  | .text _ => Flattened.yields_leaf rfl
  | .integer _ => Flattened.yields_leaf rfl
  | .float _ => Flattened.yields_leaf rfl
  | .boolean _ => Flattened.yields_leaf rfl
  | .datetime _ => Flattened.yields_leaf rfl

theorem flattenEntries_yields (key : String) :
    (entries : List (String × Value)) → (flattenEntries key entries).Yields key (.table entries)
  | [] => ⟨iff_of_true rfl Value.not_hasArray_nil,
      fun _ _ _ => iff_of_false List.not_mem_nil Value.not_hasLeaf_nil⟩
  | (name, value) :: rest => by
    rw [flattenEntries]
    exact (value.flatten_yields (dottedKey key name)).cons (flattenEntries_yields key rest)

end

/-! ### Documents -/

theorem Table.arrayAt_flatten {table : Table} :
    table.flatten.arrayAt = none ↔ ¬(Value.table table).HasArray :=
  (flattenEntries_yields "" table).array

theorem Table.mem_leaves_flatten {table : Table} (hnone : ¬(Value.table table).HasArray) {k s : String} :
    (k, s) ∈ table.flatten.leaves ↔ (Value.table table).HasLeaf k s "" :=
  (flattenEntries_yields "" table).leaves (Table.arrayAt_flatten.mpr hnone) k s

/-- The text that a document gives a key: of several leaves under it, that of the last. -/
def Table.leaf? (table : Table) (key : String) : Option String :=
  table.flatten.leaves.reverse.lookup key

theorem Table.hasLeaf_of_leaf? {table : Table} (hnone : ¬(Value.table table).HasArray) {k s : String}
    (h : table.leaf? k = some s) : (Value.table table).HasLeaf k s "" := by
  obtain ⟨before, after, hsplit, -⟩ := List.lookup_eq_some_iff.mp h
  refine (Table.mem_leaves_flatten hnone).mp (List.mem_reverse.mp ?_)
  rw [hsplit]
  exact List.mem_append_right _ List.mem_cons_self

theorem Table.leaf?_eq_none_iff {table : Table} (hnone : ¬(Value.table table).HasArray) {k : String} :
    table.leaf? k = none ↔ ∀ s, ¬(Value.table table).HasLeaf k s "" := by
  rw [Table.leaf?, List.lookup_eq_none_iff]
  constructor
  · intro h s hleaf
    have hmem := List.mem_reverse.mpr ((Table.mem_leaves_flatten hnone).mpr hleaf)
    simpa using h (k, s) hmem
  · rintro h ⟨key, s⟩ hmem
    by_cases hkey : k = key
    · subst hkey
      exact absurd ((Table.mem_leaves_flatten hnone).mp (List.mem_reverse.mp hmem)) (h s)
    · simpa using hkey

end AppServer.Toml
