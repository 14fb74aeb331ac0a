import AppServer.Proofs.Config.Flatten
import AppServer.Proofs.Text.Cut
import AppServer.Proofs.Toml.Order

/-!
# Walking through a document

A walk goes through the tables of a document depth first and comes to its leaves
and lists, each under the names on the way. Flattening keeps what the walk comes
to before the first list, with the names joined by dots. The paths of a walk are
distinct, and joined names that are not empty and have no dot can be taken apart.
-/

namespace AppServer.Toml

mutual

/-- What a walk through a value comes to: each leaf and each list, under the names on the way to it. -/
def Value.walk : Value → List (List String × Value)
  | .table entries => walkEntries entries
  | value => [([], value)]

def walkEntries : List (String × Value) → List (List String × Value)
  | [] => []
  | (name, value) :: rest =>
    value.walk.map (fun stop => (name :: stop.1, stop.2)) ++ walkEntries rest

end

/-- The names of a path joined by dots; a dot stands only where something stands before it. -/
def dottedPath (path : List String) : String := Text.join "." (path.dropWhile (· = ""))

/-- A name stands in one of the tables of a value, at any depth outside of lists. -/
inductive Value.HasName (name : String) : Value → Prop where
  | here {value : Value} {entries : List (String × Value)} (mem : (name, value) ∈ entries) :
      HasName name (.table entries)
  | under {outer : String} {value : Value} {entries : List (String × Value)}
      (mem : (outer, value) ∈ entries) (inner : value.HasName name) : HasName name (.table entries)

theorem Value.hasName_table {name : String} {entries : List (String × Value)} :
    (Value.table entries).HasName name ↔ ∃ entry ∈ entries, entry.1 = name ∨ entry.2.HasName name := by
  constructor
  · rintro (⟨mem⟩ | ⟨mem, inner⟩)
    · exact ⟨_, mem, .inl rfl⟩
    · exact ⟨_, mem, .inr inner⟩
  · rintro ⟨entry, mem, rfl | inner⟩
    · exact .here mem
    · exact .under mem inner

theorem Value.not_hasName_of_leafText? {name s : String} {value : Value} (text : value.leafText? = some s) :
    ¬value.HasName name := by
  rintro (_ | _) <;> cases text

/-- The leaves among the stops of a walk, as texts under dotted keys. -/
def leafPairs (stops : List (List String × Value)) : List (String × String) :=
  stops.filterMap fun stop => stop.2.leafText?.map (dottedPath stop.1, ·)

theorem forall_or_first {α : Type} (p : α → Prop) (xs : List α) :
    (∀ x ∈ xs, p x) ∨ ∃ before x after, xs = before ++ x :: after ∧ (∀ y ∈ before, p y) ∧ ¬p x := by
  induction xs with
  | nil => exact .inl fun x hx => absurd hx List.not_mem_nil
  | cons x rest ih =>
    by_cases hx : p x
    · rcases ih with hall | ⟨before, y, after, rfl, hbefore, hy⟩
      · exact .inl (List.forall_mem_cons.mpr ⟨hx, hall⟩)
      · exact .inr ⟨x :: before, y, after, rfl, List.forall_mem_cons.mpr ⟨hx, hbefore⟩, hy⟩
    · exact .inr ⟨[], x, rest, rfl, fun y hy => absurd hy List.not_mem_nil, hx⟩

/-! ### Joining names -/

theorem foldl_dottedKey (path : List String) (outer : String) :
    path.foldl dottedKey outer = if outer = "" then dottedPath path else Text.join "." (outer :: path) := by
  induction path generalizing outer with
  | nil =>
    split
    · next hempty => exact hempty
    · rfl
  | cons name rest ih =>
    rw [List.foldl_cons, ih, dottedKey]
    by_cases houter : outer = ""
    · rw [if_pos houter, if_pos houter, dottedPath, dottedPath, List.dropWhile_cons]
      by_cases hname : name = ""
      · rw [if_pos hname, if_pos (decide_eq_true hname)]
      · rw [if_neg hname, if_neg (by simpa using hname)]
    · have hne : ¬(outer ++ "." ++ name = "") := by simp
      rw [if_neg houter, if_neg houter, if_neg hne]
      rfl

theorem dottedPath_eq_foldl (path : List String) : dottedPath path = path.foldl dottedKey "" := by
  rw [foldl_dottedKey, if_pos rfl]

theorem dottedPath_of_named {path : List String} (hnamed : ∀ name ∈ path, name ≠ "") :
    dottedPath path = Text.join "." path := by
  cases path with
  | nil => rfl
  | cons name rest =>
    rw [dottedPath, List.dropWhile_cons_of_neg (by simpa using hnamed name List.mem_cons_self)]

/-- Cutting a key at its dots undoes joining names that are not empty and have no dot. -/
theorem cutAll_dottedPath {path : List String} (hne : path ≠ [])
    (hplain : ∀ name ∈ path, name ≠ "" ∧ '.' ∉ name.toList) :
    Text.cutAll '.' (dottedPath path).toList = path.map String.toList := by
  have hdot : ".".toList = ['.'] := rfl
  rw [dottedPath_of_named fun name hname => (hplain name hname).1, Text.join, String.toList_intercalate, hdot]
  refine Text.cutAll_intercalate (by simpa using hne) fun part hpart => ?_
  obtain ⟨name, hname, rfl⟩ := List.mem_map.mp hpart
  exact (hplain name hname).2

/-! ### Stops -/

theorem walkEntries_eq_flatMap (entries : List (String × Value)) :
    walkEntries entries =
      entries.flatMap fun entry => entry.2.walk.map fun stop => (entry.1 :: stop.1, stop.2) := by
  induction entries with
  | nil => rw [walkEntries, List.flatMap_nil]
  | cons entry rest ih => rw [walkEntries, ih, List.flatMap_cons]

theorem walk_table (entries : List (String × Value)) : (Value.table entries).walk = walkEntries entries := by
  rw [Value.walk]

theorem mem_walk_table {entries : List (String × Value)} {stop : List String × Value} :
    stop ∈ (Value.table entries).walk ↔
      ∃ entry ∈ entries, ∃ inner ∈ entry.2.walk, (entry.1 :: inner.1, inner.2) = stop := by
  simp only [walk_table, walkEntries_eq_flatMap, List.mem_flatMap, List.mem_map]

theorem walk_of_leafText? {value : Value} {s : String} (text : value.leafText? = some s) :
    value.walk = [([], value)] := by
  cases value with
  | table entries => cases text
  | _ => rw [Value.walk]; exact nofun

theorem walk_array (items : List Value) : (Value.array items).walk = [([], .array items)] := by
  rw [Value.walk]
  exact nofun

mutual

theorem Value.induct {P : Value → Prop} (leaf : ∀ value s, value.leafText? = some s → P value)
    (array : ∀ items, P (.array items))
    (table : ∀ entries : List (String × Value), (∀ entry ∈ entries, P entry.2) → P (.table entries)) :
    (value : Value) → P value
  | .table entries => table entries (Value.induct_entries leaf array table entries)
  | .array items => array items
  | .text _ => leaf _ _ rfl
  | .integer _ => leaf _ _ rfl
  | .float _ => leaf _ _ rfl
  | .boolean _ => leaf _ _ rfl
  | .datetime _ => leaf _ _ rfl

theorem Value.induct_entries {P : Value → Prop} (leaf : ∀ value s, value.leafText? = some s → P value)
    (array : ∀ items, P (.array items))
    (table : ∀ entries : List (String × Value), (∀ entry ∈ entries, P entry.2) → P (.table entries)) :
    (entries : List (String × Value)) → ∀ entry ∈ entries, P entry.2
  | [] => fun _ hentry => absurd hentry List.not_mem_nil
  | (_, value) :: rest =>
    List.forall_mem_cons.mpr
      ⟨Value.induct leaf array table value, Value.induct_entries leaf array table rest⟩

end

theorem Value.leaf_or_array {value : Value} {stop : List String × Value} (h : stop ∈ value.walk) :
    (∃ s, stop.2.leafText? = some s) ∨ ∃ items, stop.2 = .array items := by
  induction value using Value.induct generalizing stop with
  | leaf value s text =>
    rw [walk_of_leafText? text, List.mem_singleton] at h
    exact .inl ⟨s, h ▸ text⟩
  | array items =>
    rw [walk_array, List.mem_singleton] at h
    exact .inr ⟨items, h ▸ rfl⟩
  | table entries ih =>
    obtain ⟨entry, hentry, inner, hinner, rfl⟩ := mem_walk_table.mp h
    have hkind := ih entry hentry hinner
    exact hkind

theorem Value.hasName_of_mem_walk {value : Value} {stop : List String × Value} (h : stop ∈ value.walk) :
    ∀ name ∈ stop.1, value.HasName name := by
  induction value using Value.induct generalizing stop with
  | leaf value s text =>
    rw [walk_of_leafText? text, List.mem_singleton] at h
    exact fun name hname => absurd (h ▸ hname) List.not_mem_nil
  | array items =>
    rw [walk_array, List.mem_singleton] at h
    exact fun name hname => absurd (h ▸ hname) List.not_mem_nil
  | table entries ih =>
    obtain ⟨entry, hentry, inner, hinner, rfl⟩ := mem_walk_table.mp h
    refine List.forall_mem_cons.mpr ⟨.here hentry, fun name hname => ?_⟩
    exact .under hentry (ih entry hentry hinner name hname)

theorem Value.Ordered.nodup_paths {value : Value} (h : value.Ordered) : (value.walk.map Prod.fst).Nodup := by
  induction h with
  | leaf text =>
    rw [walk_of_leafText? text]
    exact List.nodup_singleton _
  | array items =>
    rw [walk_array]
    exact List.nodup_singleton _
  | @table entries ascending inner ih =>
    have hpaths : (Value.table entries).walk.map Prod.fst =
        entries.flatMap fun entry => (entry.2.walk.map Prod.fst).map (entry.1 :: ·) := by
      rw [walk_table, walkEntries_eq_flatMap, List.map_flatMap]
      simp only [List.map_map]
      rfl
    rw [hpaths, List.nodup_flatMap]
    refine ⟨fun entry hentry => (ih entry hentry).map List.cons_injective, ascending.imp fun {a b} hlt => ?_⟩
    -- paths through different entries differ in their first name
    intro path ha hb
    obtain ⟨_, -, rfl⟩ := List.mem_map.mp ha
    obtain ⟨_, -, heq⟩ := List.mem_map.mp hb
    rw [(List.cons.inj heq).1] at hlt
    exact List.lt_irrefl _ hlt

/-! ### Flattening as a walk -/

/-- What flattening below a key keeps of the stops of a walk: the leaves up to the first list. -/
def Flattened.ofStops (key : String) : List (List String × Value) → Flattened
  | [] => ⟨[], none⟩
  | (path, value) :: rest =>
    match value.leafText? with
    | some s => Flattened.append ⟨[(path.foldl dottedKey key, s)], none⟩ (ofStops key rest)
    | none => ⟨[], some (path.foldl dottedKey key)⟩

theorem Flattened.ofStops_append (key : String) (front behind : List (List String × Value)) :
    ofStops key (front ++ behind) = (ofStops key front).append (ofStops key behind) := by
  induction front with
  | nil => rfl
  | cons stop rest ih =>
    rw [List.cons_append, ofStops, ofStops]
    split
    · rw [ih, Flattened.append, Flattened.append]
      cases hlist : (ofStops key rest).arrayAt with
      | none => simp only [Flattened.append, hlist, List.append_assoc]
      | some path => simp only [Flattened.append, hlist]
    · rfl

theorem Flattened.ofStops_below (key name : String) (stops : List (List String × Value)) :
    ofStops key (stops.map fun stop => (name :: stop.1, stop.2)) = ofStops (dottedKey key name) stops := by
  induction stops with
  | nil => rfl
  | cons stop rest ih => rw [List.map_cons, ofStops, ofStops, ih, List.foldl_cons]

theorem Value.flatten_eq_ofStops (value : Value) (key : String) :
    value.flatten key = Flattened.ofStops key value.walk := by
  induction value using Value.induct generalizing key with
  | leaf value s text =>
    rw [walk_of_leafText? text]
    cases value with
    | table entries => cases text
    | array items => cases text
    | _ => rfl
  | array items =>
    rw [walk_array]
    rfl
  | table entries ih =>
    rw [Value.flatten, walk_table]
    induction entries with
    | nil => rfl
    | cons entry rest ihrest =>
      rw [List.forall_mem_cons] at ih
      rw [flattenEntries, walkEntries, Flattened.ofStops_append, Flattened.ofStops_below, ← ih.1, ← ihrest ih.2]

theorem Flattened.ofStops_of_leaves {stops : List (List String × Value)}
    (h : ∀ stop ∈ stops, ∃ s, stop.2.leafText? = some s) : ofStops "" stops = ⟨leafPairs stops, none⟩ := by
  induction stops with
  | nil => rfl
  | cons stop rest ih =>
    rw [List.forall_mem_cons] at h
    obtain ⟨⟨s, text⟩, hrest⟩ := h
    rw [ofStops, text, ih hrest, leafPairs, leafPairs, List.filterMap_cons, text, dottedPath_eq_foldl]
    rfl

theorem Flattened.ofStops_of_array {before after : List (List String × Value)} {path : List String}
    {items : List Value} (h : ∀ stop ∈ before, ∃ s, stop.2.leafText? = some s) :
    ofStops "" (before ++ (path, .array items) :: after) = ⟨leafPairs before, some (dottedPath path)⟩ := by
  rw [ofStops_append, ofStops_of_leaves h, ofStops, dottedPath_eq_foldl]
  exact congrArg (Flattened.mk · _) (List.append_nil _)

/-- A walk comes to leaves only, or it comes to a first list. -/
theorem Value.leaves_or_first_array (value : Value) :
    (∀ stop ∈ value.walk, ∃ s, stop.2.leafText? = some s) ∨
      ∃ before path items after, value.walk = before ++ (path, .array items) :: after ∧
        ∀ stop ∈ before, ∃ s, stop.2.leafText? = some s := by
  rcases forall_or_first (fun stop => ∃ s, stop.2.leafText? = some s) value.walk with
    hall | ⟨before, ⟨path, found⟩, after, hwalk, hbefore, hfound⟩
  · exact .inl hall
  · have hmem : (path, found) ∈ value.walk := by
      rw [hwalk]
      exact List.mem_append_right _ List.mem_cons_self
    obtain ⟨items, rfl⟩ := (Value.leaf_or_array hmem).resolve_left hfound
    exact .inr ⟨before, path, items, after, hwalk, hbefore⟩

/-! ### Documents -/

theorem Table.flatten_eq_ofStops (table : Table) :
    table.flatten = Flattened.ofStops "" (Value.table table).walk := by
  rw [← Value.flatten_eq_ofStops, Value.flatten, Table.flatten]

theorem Table.leaves_of_flat {table : Table} (h : ¬(Value.table table).HasArray) :
    ∀ stop ∈ (Value.table table).walk, ∃ s, stop.2.leafText? = some s := by
  rcases (Value.table table).leaves_or_first_array with hleaves | ⟨before, path, items, after, hwalk, hbefore⟩
  · exact hleaves
  · have hnone := Table.arrayAt_flatten.mpr h
    rw [table.flatten_eq_ofStops, hwalk, Flattened.ofStops_of_array hbefore] at hnone
    cases hnone

theorem Table.path_ne_nil {table : Table} {stop : List String × Value} (h : stop ∈ (Value.table table).walk) :
    stop.1 ≠ [] := by
  obtain ⟨entry, -, inner, -, rfl⟩ := mem_walk_table.mp h
  exact List.cons_ne_nil _ _

end AppServer.Toml
