import AppServer.Proofs.Config.Keys
import AppServer.Proofs.Config.Walk

/-!
# What a document writes

A document without lists is merged by writing its leaves in the order of a walk.
Each key it names gets the text of the last leaf with that key, and all other keys
stay as they were. When no name is empty or has a dot, each leaf has a key of its
own that can be taken apart into the names on the way to it.
-/

namespace AppServer.Properties

open Toml

/-! ### Properties that agree -/

theorem same_iff {p q : Properties} : p.same q = true ↔ ∀ key, p.get? key = q.get? key := by
  rw [same, decide_eq_true_iff]
  constructor
  · intro h key
    refine Option.ext fun value => ?_
    rw [← @mem_toList p (key, value), ← @mem_toList q (key, value), h]
  · intro h
    exact (Std.TreeMap.Equiv.of_forall_constGet?_eq h).toList_eq

/-! ### Pairs over properties -/

theorem get?_overlay_of_not_mem (p : Properties) {pairs : List (String × String)} {key : String}
    (h : key ∉ pairs.map Prod.fst) : (p.overlay pairs).get? key = p.get? key := by
  rw [get?_overlay, List.lookup_eq_none_iff.mpr, Option.none_or]
  intro pair hpair
  have hne : key ≠ pair.1 := fun heq => h (heq ▸ List.mem_map_of_mem (List.mem_reverse.mp hpair))
  exact bne_iff_ne.mpr hne

theorem get?_overlay_last (p : Properties) {before after : List (String × String)} {key value : String}
    (h : key ∉ after.map Prod.fst) : (p.overlay (before ++ (key, value) :: after)).get? key = some value := by
  rw [overlay_append, overlay_cons, get?_overlay_of_not_mem _ h, get?_insert_self]

theorem get?_overlay_overlay (p : Properties) (pairs : List (String × String)) (key : String) :
    ((p.overlay pairs).overlay pairs).get? key = (p.overlay pairs).get? key := by
  rw [get?_overlay, get?_overlay, ← Option.or_assoc, Option.or_self]

theorem size_overlay {pairs : List (String × String)} {p : Properties} (hdistinct : (pairs.map Prod.fst).Nodup)
    (hnew : ∀ key ∈ pairs.map Prod.fst, ¬p.Has key) : (p.overlay pairs).size = p.size + pairs.length := by
  induction pairs generalizing p with
  | nil => rfl
  | cons pair rest ih =>
    rw [List.map_cons, List.nodup_cons] at hdistinct
    rw [List.map_cons, List.forall_mem_cons] at hnew
    have hsize : (p.insert pair.1 pair.2).size = p.size + 1 := by
      have habsent : p.values.contains pair.1 = false := by
        rw [Std.TreeMap.contains_eq_isSome_getElem?]
        exact Bool.eq_false_iff.mpr hnew.1
      simp [size, insert, Std.TreeMap.size_insert, habsent]
    have hrest : ∀ key ∈ rest.map Prod.fst, ¬(p.insert pair.1 pair.2).Has key := by
      intro key hkey hhas
      rcases has_insert.mp hhas with rfl | hheld
      · exact hdistinct.1 hkey
      · exact hnew.2 key hkey hheld
    rw [overlay_cons, ih hdistinct.2 hrest, hsize, List.length_cons, Nat.add_assoc, Nat.add_comm 1]

/-! ### Leaves -/

theorem map_fst_leafPairs {stops : List (List String × Value)}
    (h : ∀ stop ∈ stops, ∃ s, stop.2.leafText? = some s) :
    (leafPairs stops).map Prod.fst = stops.map fun stop => dottedPath stop.1 := by
  induction stops with
  | nil => rfl
  | cons stop rest ih =>
    rw [List.forall_mem_cons] at h
    obtain ⟨⟨s, text⟩, hrest⟩ := h
    rw [List.map_cons, ← ih hrest, leafPairs, List.filterMap_cons, text]
    rfl

theorem mergeToml_of_leaves (p : Properties) {document : String} {table : Table}
    (hparse : Table.parse? document = some table)
    (hleaves : ∀ stop ∈ (Value.table table).walk, ∃ s, stop.2.leafText? = some s) :
    p.mergeToml document = (p.overlay (leafPairs (Value.table table).walk), .ok ()) := by
  rw [mergeToml, hparse]
  simp only [table.flatten_eq_ofStops, Flattened.ofStops_of_leaves hleaves]

/-- The leaves of a document with plain names have keys of their own. -/
theorem nodup_keys {table : Table} (hordered : (Value.table table).Ordered)
    (hplain : ∀ name, (Value.table table).HasName name → name ≠ "" ∧ '.' ∉ name.toList) :
    ((Value.table table).walk.map fun stop => dottedPath stop.1).Nodup := by
  have hcut : ∀ path ∈ (Value.table table).walk.map Prod.fst,
      Text.cutAll '.' (dottedPath path).toList = path.map String.toList := by
    intro path hpath
    obtain ⟨stop, hstop, rfl⟩ := List.mem_map.mp hpath
    exact cutAll_dottedPath (Table.path_ne_nil hstop) fun name hname =>
      hplain name (Value.hasName_of_mem_walk hstop name hname)
  have hkeys : (((Value.table table).walk.map Prod.fst).map dottedPath).Nodup := by
    refine List.Nodup.map_on (fun a ha b hb heq => ?_) hordered.nodup_paths
    have hnames : a.map String.toList = b.map String.toList := by rw [← hcut a ha, heq, hcut b hb]
    exact List.map_injective_iff.mpr (fun _ _ => String.toList_injective) hnames
  rwa [List.map_map] at hkeys

/-- A document without lists can be merged over any properties. The names in its tables are in the order of
their bytes, and a walk through them comes to leaves only. Keys that no leaf has stay as they were, and each
other key gets the text of the last leaf that has it. With names that are neither empty nor hold a dot, as many
keys are written as there are leaves, and a key cut at its dots is the path of its leaf. Merging the document
once more changes nothing. -/
theorem mergeToml_writes_leaves (p : Properties) {document : String} {table : Table}
    (hparse : Table.parse? document = some table) (hflat : ¬(Value.table table).HasArray) :
    let leaves := (Value.table table).walk
    (Value.table table).Ordered ∧ (∀ leaf ∈ leaves, ∃ s, leaf.2.leafText? = some s) ∧
    ∃ q, p.mergeToml document = (q, .ok ()) ∧
      (∀ key, (∀ leaf ∈ leaves, dottedPath leaf.1 ≠ key) → q.get? key = p.get? key) ∧
      (∀ before path value after, leaves = before ++ (path, value) :: after →
        (∀ leaf ∈ after, dottedPath leaf.1 ≠ dottedPath path) → q.get? (dottedPath path) = value.leafText?) ∧
      ((∀ name, (Value.table table).HasName name → name ≠ "" ∧ '.' ∉ name.toList) →
        (leaves.map fun leaf => dottedPath leaf.1).Nodup ∧
        (empty.mergeToml document).1.size = leaves.length ∧
        ∀ leaf ∈ leaves, Text.cutAll '.' (dottedPath leaf.1).toList = leaf.1.map String.toList) ∧
      ∃ again, q.mergeToml document = (again, .ok ()) ∧ again.same q = true := by
  intro leaves
  have hordered := Table.ordered_of_parse? hparse
  have hleaves : ∀ leaf ∈ leaves, ∃ s, leaf.2.leafText? = some s := Table.leaves_of_flat hflat
  have hkeys := map_fst_leafPairs hleaves
  have hmerge (held : Properties) := mergeToml_of_leaves held hparse hleaves
  refine ⟨hordered, hleaves, p.overlay (leafPairs leaves), hmerge p, ?_, ?_, ?_, ?_⟩
  · intro key hkey
    refine get?_overlay_of_not_mem p fun hmem => ?_
    rw [hkeys] at hmem
    obtain ⟨leaf, hleaf, heq⟩ := List.mem_map.mp hmem
    exact hkey leaf hleaf heq
  · intro before path value after hsplit hlast
    rw [hsplit, List.forall_mem_append, List.forall_mem_cons] at hleaves
    obtain ⟨-, ⟨s, text⟩, hafter⟩ := hleaves
    have hpairs : leafPairs leaves = leafPairs before ++ (dottedPath path, s) :: leafPairs after := by
      rw [hsplit, leafPairs, List.filterMap_append, List.filterMap_cons, text]
      rfl
    rw [hpairs, text]
    refine get?_overlay_last p fun hmem => ?_
    rw [map_fst_leafPairs hafter] at hmem
    obtain ⟨leaf, hleaf, heq⟩ := List.mem_map.mp hmem
    exact hlast leaf hleaf heq
  · intro hplain
    have hnodup := nodup_keys hordered hplain
    refine ⟨hnodup, ?_, fun leaf hleaf => ?_⟩
    · have hlength := congrArg List.length hkeys
      rw [List.length_map, List.length_map] at hlength
      rw [hmerge empty, size_overlay (hkeys ▸ hnodup) fun key _ => not_has_empty key, hlength]
      exact Nat.zero_add _
    · exact cutAll_dottedPath (Table.path_ne_nil hleaf) fun name hname =>
        hplain name (Value.hasName_of_mem_walk hleaf name hname)
  · refine ⟨_, hmerge _, same_iff.mpr fun key => ?_⟩
    exact get?_overlay_overlay p (leafPairs leaves) key

/-- A document with a leaf of each kind, its entries not in the order of their names. -/
def shuffledDocument : String := "n = 0x1F\nb.f = 0e0\nb.c = true\n[a]\nd = 'x'\nt = 1979-05-27"

def shuffledTable : Table :=
  [("a", .table [("d", .text "x"), ("t", .datetime (.date ⟨1979, 5, 27⟩))]),
    ("b", .table [("c", .boolean true), ("f", .float 0)]), ("n", .integer 31)]

theorem mergeToml_writes_leaves_shuffledDocument :
    ∃ q again, ((empty.insert "a.d" "old").insert "z" "kept").mergeToml shuffledDocument = (q, .ok ()) ∧
      q.get? "a.d" = some "x" ∧ q.get? "a.t" = some "1979-05-27" ∧ q.get? "b.c" = some "true" ∧
      q.get? "b.f" = some (Decimal.Style.plain.write 0) ∧ q.get? "n" = some "31" ∧ q.get? "z" = some "kept" ∧
      (empty.mergeToml shuffledDocument).1.size = 5 ∧
      q.mergeToml shuffledDocument = (again, .ok ()) ∧ again.same q = true := by
  have hparse : Table.parse? shuffledDocument = some shuffledTable := by cbv
  have hflat : ¬(Value.table shuffledTable).HasArray := Table.arrayAt_flatten.mp rfl
  have hnames : ∀ name, (Value.table shuffledTable).HasName name → name ∈ ["a", "d", "t", "b", "c", "f", "n"] := by
    intro name hname
    have hleaf (value : Value) {s : String} (h : value.leafText? = some s) : ¬value.HasName name :=
      Value.not_hasName_of_leafText? h
    simp only [shuffledTable, Value.hasName_table, List.mem_cons, List.not_mem_nil, or_false, exists_eq_or_imp,
      exists_eq_left, hleaf (.text _) rfl, hleaf (.datetime _) rfl, hleaf (.boolean true) rfl, hleaf (.float _) rfl,
      hleaf (.integer _) rfl, eq_comm (b := name), or_assoc] at hname ⊢
    exact hname
  obtain ⟨-, -, q, hq, hkept, hset, hplain, again, hagain, hsame⟩ :=
    mergeToml_writes_leaves ((empty.insert "a.d" "old").insert "z" "kept") hparse hflat
  obtain ⟨hnodup, hsize, -⟩ := hplain fun name hname => by
    have hall : ∀ name ∈ ["a", "d", "t", "b", "c", "f", "n"], name ≠ "" ∧ '.' ∉ name.toList := by decide
    exact hall name (hnames name hname)
  have hleaf (path : List String) (value : Value) (hmem : (path, value) ∈ (Value.table shuffledTable).walk) :
      q.get? (dottedPath path) = value.leafText? := by
    obtain ⟨before, after, hsplit⟩ := List.append_of_mem hmem
    refine hset before path value after hsplit fun later hlater hsame => ?_
    rw [hsplit, List.map_append, List.map_cons] at hnodup
    exact (List.nodup_cons.mp (List.nodup_append.mp hnodup).2.1).1 (List.mem_map.mpr ⟨later, hlater, hsame⟩)
  refine ⟨q, again, hq, ?_, ?_, ?_, ?_, ?_, ?_, hsize, hagain, hsame⟩
  · exact hleaf ["a", "d"] _ (List.mem_of_getElem? (i := 0) rfl)
  · exact hleaf ["a", "t"] _ (List.mem_of_getElem? (i := 1) rfl)
  · exact hleaf ["b", "c"] _ (List.mem_of_getElem? (i := 2) rfl)
  · exact hleaf ["b", "f"] _ (List.mem_of_getElem? (i := 3) rfl)
  · exact hleaf ["n"] _ (List.mem_of_getElem? (i := 4) rfl)
  · rw [hkept "z" (by decide), get?_insert_self]

end AppServer.Properties
