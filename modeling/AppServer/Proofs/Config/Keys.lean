import AppServer.Proofs.Config.Layering

/-!
# Keys of properties

Settings and overrides are written under well-formed keys only. A document is
written under the keys of its leaves, of whatever names they are made. So the
keys of properties are all well formed exactly when those of the documents that
went into them are.
-/

namespace AppServer.Properties

/-! ### Writes -/

inductive Write where
  | document (text : String)
  | setting (key value : String)
  | overrides (pairs : List (String × String))

def write (p : Properties) : Write → Properties × Except ConfigError Unit
  | .document text => p.mergeToml text
  | .setting key value =>
    match p.set key value with
    | .ok q => (q, .ok ())
    | .error e => (p, .error e)
  | .overrides pairs => p.applyOverrides pairs

def writeAll (p : Properties) (writes : List Write) : Properties :=
  writes.foldl (fun held next => (held.write next).1) p

def Write.document? : Write → Option String
  | .document text => some text
  | _ => none

/-- The keys of a document: those of its leaves up to the first list. -/
def keysOf (document : String) : List String :=
  ((Toml.Table.parse? document).elim [] fun table => table.flatten.leaves).map Prod.fst

/-- The documents that a mode reads in a directory. -/
def documentsIn (files : Files) (dir : String) (mode : Mode) : List String :=
  (filesFor dir mode).filterMap fun path => (readDocument files path).toOption.join

/-- Properties that are new, or loaded from a directory, and the documents in them. -/
inductive Start : List String → Properties → Prop where
  | new : Start [] empty
  | loaded {files : Files} {dir env : Option String} {mode : Mode} {p : Properties}
      (load : load files dir env mode = .ok p) : Start (documentsIn files (resolveDir dir env) mode) p

/-! ### What a write does to the keys -/

def Has (p : Properties) (key : String) : Prop := (p.get? key).isSome = true

theorem has_insert {p : Properties} {key value other : String} :
    (p.insert key value).Has other ↔ key = other ∨ p.Has other := by
  rw [Has, get?_insert]
  split
  · next heq => exact iff_of_true rfl (.inl heq)
  · next hne => exact ⟨.inr, fun h => h.resolve_left hne⟩

theorem has_overlay {p : Properties} {pairs : List (String × String)} {key : String} :
    (p.overlay pairs).Has key ↔ key ∈ pairs.map Prod.fst ∨ p.Has key := by
  induction pairs generalizing p with
  | nil => exact ⟨.inr, fun h => h.resolve_left List.not_mem_nil⟩
  | cons pair rest ih =>
    rw [overlay_cons, ih, has_insert, List.map_cons, List.mem_cons, eq_comm, or_left_comm, or_assoc]

theorem has_mergeToml {p : Properties} {document key : String} :
    (p.mergeToml document).1.Has key ↔ key ∈ keysOf document ∨ p.Has key := by
  rw [mergeToml, keysOf]
  cases Toml.Table.parse? document with
  | none => exact ⟨.inr, fun h => h.resolve_left List.not_mem_nil⟩
  | some table => exact has_overlay

theorem set_eq_ok_iff {p q : Properties} {key value : String} :
    p.set key value = .ok q ↔ WellFormedKey key ∧ p.insert key value = q := by
  rw [set, bind_eq_ok_iff, ← checkKey_eq_ok_iff, Except.ok.injEq]
  exact ⟨fun ⟨_, hcheck, hq⟩ => ⟨hcheck, hq⟩, fun ⟨hcheck, hq⟩ => ⟨(), hcheck, hq⟩⟩

theorem has_applyOverrides {pairs : List (String × String)} {p : Properties} {key : String} :
    (p.Has key → (p.applyOverrides pairs).1.Has key) ∧
      ((p.applyOverrides pairs).1.Has key → WellFormedKey key ∨ p.Has key) := by
  induction pairs generalizing p with
  | nil => exact ⟨id, .inr⟩
  | cons pair rest ih =>
    rw [applyOverrides]
    cases hcheck : checkKey pair.1 with
    | error e => exact ⟨id, .inr⟩
    | ok _ =>
      obtain ⟨hkept, hadded⟩ := ih (p := p.insert pair.1 pair.2)
      refine ⟨fun h => hkept (has_insert.mpr (.inr h)), fun h => ?_⟩
      rcases hadded h with hkey | hinserted
      · exact .inl hkey
      · rcases has_insert.mp hinserted with rfl | hheld
        · exact .inl (checkKey_eq_ok_iff.mp hcheck)
        · exact .inr hheld

/-! ### Runs of writes -/

/-- Properties hold the keys of some documents, and besides them well-formed keys only. -/
structure HoldsKeysOf (p : Properties) (documents : List String) : Prop where
  keys : ∀ key, p.Has key → WellFormedKey key ∨ ∃ document ∈ documents, key ∈ keysOf document
  documents : ∀ document ∈ documents, ∀ key ∈ keysOf document, p.Has key

namespace HoldsKeysOf

variable {p : Properties} {documents : List String}

theorem mergeToml (h : p.HoldsKeysOf documents) (document : String) :
    (p.mergeToml document).1.HoldsKeysOf (documents ++ [document]) where
  keys key hkey := by
    rcases has_mergeToml.mp hkey with hnew | hheld
    · exact .inr ⟨document, List.mem_append_right _ List.mem_cons_self, hnew⟩
    · exact (h.keys key hheld).imp_right fun ⟨earlier, hmem, hleaf⟩ =>
        ⟨earlier, List.mem_append_left _ hmem, hleaf⟩
  documents earlier hmem key hkey := by
    rw [has_mergeToml]
    rcases List.mem_append.mp hmem with hmem | hmem
    · exact .inr (h.documents earlier hmem key hkey)
    · rw [List.mem_singleton.mp hmem] at hkey
      exact .inl hkey

/-- Keys are added, and all that are new are well formed. -/
theorem extend (h : p.HoldsKeysOf documents) {q : Properties} (hkept : ∀ key, p.Has key → q.Has key)
    (hadded : ∀ key, q.Has key → WellFormedKey key ∨ p.Has key) : q.HoldsKeysOf documents where
  keys key hkey := (hadded key hkey).elim .inl (h.keys key)
  documents document hmem key hkey := hkept key (h.documents document hmem key hkey)

theorem write (h : p.HoldsKeysOf documents) (next : Write) :
    (p.write next).1.HoldsKeysOf (documents ++ next.document?.toList) := by
  cases next with
  | document text => exact h.mergeToml text
  | setting key value =>
    have hnone : documents ++ (Write.setting key value).document?.toList = documents := List.append_nil _
    rw [hnone, Properties.write]
    cases hset : p.set key value with
    | error e => exact h
    | ok q =>
      obtain ⟨hkey, rfl⟩ := set_eq_ok_iff.mp hset
      refine h.extend (fun other hheld => has_insert.mpr (.inr hheld)) fun other hheld => ?_
      rcases has_insert.mp hheld with rfl | hheld
      · exact .inl hkey
      · exact .inr hheld
  | overrides pairs =>
    have hnone : documents ++ (Write.overrides pairs).document?.toList = documents := List.append_nil _
    rw [hnone]
    exact h.extend (fun key => has_applyOverrides.1) fun key => has_applyOverrides.2

theorem writeAll (h : p.HoldsKeysOf documents) (writes : List Write) :
    (p.writeAll writes).HoldsKeysOf (documents ++ writes.filterMap Write.document?) := by
  -- on the writes; the documents grow with those that are merged, whatever comes of the other writes
  induction writes generalizing p documents with
  | nil =>
    rw [List.filterMap_nil, List.append_nil]
    exact h
  | cons next rest ih =>
    have hcons : documents ++ (next :: rest).filterMap Write.document? =
        documents ++ next.document?.toList ++ rest.filterMap Write.document? := by
      rw [List.append_assoc, List.filterMap_cons]
      cases next.document? <;> rfl
    rw [hcons]
    exact ih (h.write next)

theorem loadFile (h : p.HoldsKeysOf documents) {files : Files} {path : String} {q : Properties}
    (hload : loadFile files p path = .ok q) :
    q.HoldsKeysOf (documents ++ ((readDocument files path).toOption.join).toList) := by
  obtain ⟨found, hread, hmerge⟩ := bind_eq_ok_iff.mp hload
  rw [hread]
  cases found with
  | none =>
    cases hmerge
    exact (List.append_nil documents).symm ▸ h
  | some document =>
    obtain ⟨_, -, hq⟩ := bind_eq_ok_iff.mp hmerge
    cases hq
    exact h.mergeToml document

end HoldsKeysOf

theorem not_has_empty (key : String) : ¬empty.Has key := by
  rw [Has, get?_empty]
  exact nofun

theorem holdsKeysOf_empty : empty.HoldsKeysOf [] where
  keys key hkey := absurd hkey (not_has_empty key)
  documents _ hmem := absurd hmem List.not_mem_nil

theorem Start.holdsKeysOf {documents : List String} {p : Properties} (h : Start documents p) :
    p.HoldsKeysOf documents := by
  cases h with
  | new => exact holdsKeysOf_empty
  | @loaded files dir env mode _ hload =>
    rw [load, loadDir_eq, bind_eq_ok_iff] at hload
    obtain ⟨base, hbase, hprofile⟩ := hload
    have hheld := (holdsKeysOf_empty.loadFile hbase).loadFile hprofile
    have hread : documentsIn files (resolveDir dir env) mode = ([] ++
        (readDocument files (Files.join (resolveDir dir env) "application.toml")).toOption.join.toList) ++
        (readDocument files (Files.join (resolveDir dir env)
          ("application." ++ mode.token ++ ".toml"))).toOption.join.toList := by
      simp only [documentsIn, filesFor, List.filterMap_cons, List.filterMap_nil, List.nil_append]
      cases (readDocument files (Files.join (resolveDir dir env) "application.toml")).toOption.join <;>
        cases (readDocument files (Files.join (resolveDir dir env)
          ("application." ++ mode.token ++ ".toml"))).toOption.join <;> rfl
    rwa [hread]

/-! ### Listed keys -/

theorem has_iff_listed {p : Properties} {key : String} : p.Has key ↔ ∃ value, (key, value) ∈ p.toList := by
  rw [Has, Option.isSome_iff_exists]
  exact exists_congr fun value => (@mem_toList _ (key, value)).symm

/-- After any writes, each listed key is well formed or is that of a leaf of a document in the properties.
So all of them are keys that a setting may be written under exactly when the keys of these documents are. -/
theorem listed_keys_iff {read : List String} {start : Properties} (hstart : Start read start)
    (writes : List Write) :
    let p := start.writeAll writes
    let documents := read ++ writes.filterMap Write.document?
    (∀ pair ∈ p.toList, WellFormedKey pair.1 ∨ ∃ document ∈ documents, pair.1 ∈ keysOf document) ∧
    ((∀ pair ∈ p.toList, ∀ value, ∃ q, p.set pair.1 value = .ok q) ↔
      ∀ document ∈ documents, ∀ key ∈ keysOf document, WellFormedKey key) := by
  intro p documents
  have hheld : p.HoldsKeysOf documents := hstart.holdsKeysOf.writeAll writes
  have hlisted {pair : String × String} (hmem : pair ∈ p.toList) : p.Has pair.1 :=
    has_iff_listed.mpr ⟨pair.2, hmem⟩
  refine ⟨fun pair hmem => hheld.keys pair.1 (hlisted hmem), fun hset document hdocument key hkey => ?_,
    fun hkeys pair hmem value => ?_⟩
  · obtain ⟨value, hmem⟩ := has_iff_listed.mp (hheld.documents document hdocument key hkey)
    obtain ⟨q, hq⟩ := hset (key, value) hmem value
    exact (set_eq_ok_iff.mp hq).1
  · refine ⟨_, set_eq_ok_iff.mpr ⟨?_, rfl⟩⟩
    rcases hheld.keys pair.1 (hlisted hmem) with hkey | ⟨document, hdocument, hkey⟩
    · exact hkey
    · exact hkeys document hdocument pair.1 hkey

def mixedWrites : List Write :=
  [.document "a.b = 'x'", .setting "x y" "0", .overrides [("c", "2"), ("d..e", "3")]]

theorem listed_keys_iff_mixedWrites :
    ("c", "2") ∈ (empty.writeAll mixedWrites).toList ∧ ∀ pair ∈ (empty.writeAll mixedWrites).toList,
      ∀ value, ∃ q, (empty.writeAll mixedWrites).set pair.1 value = .ok q := by
  have hparse : Toml.Table.parse? "a.b = 'x'" = some [("a", .table [("b", .text "x")])] := by cbv
  have hkeys : keysOf "a.b = 'x'" = ["a.b"] := by
    rw [keysOf, hparse]
    rfl
  have hafter : empty.writeAll mixedWrites = (empty.insert "a.b" "x").insert "c" "2" := by
    have hmerge : empty.mergeToml "a.b = 'x'" = (empty.insert "a.b" "x", .ok ()) := by
      rw [mergeToml, hparse]
      rfl
    simp only [mixedWrites, writeAll, List.foldl_cons, List.foldl_nil, write, hmerge]
    rfl
  refine ⟨mem_toList.mpr ?_, (listed_keys_iff .new mixedWrites).2.mpr fun document hdocument key hkey => ?_⟩
  · rw [hafter, get?_insert, if_pos rfl]
  · have hdocument : document = "a.b = 'x'" := List.mem_singleton.mp hdocument
    rw [hdocument, hkeys, List.mem_singleton] at hkey
    rw [hkey, ← checkKey_eq_ok_iff]
    rfl

/-- A document may be written under a key that no setting may be written under. -/
theorem blank_key_listed :
    ("a b", "x") ∈ (empty.writeAll [.document "\"a b\" = 'x'"]).toList ∧
      (empty.mergeToml "\"a b\" = 'x'").2 = .ok () ∧
      ∀ p value, set p "a b" value = .error (.malformedKey "a b") := by
  have hparse : Toml.Table.parse? "\"a b\" = 'x'" = some [("a b", .text "x")] := by cbv
  have hmerge : empty.mergeToml "\"a b\" = 'x'" = (empty.insert "a b" "x", .ok ()) := by
    rw [mergeToml, hparse]
    rfl
  refine ⟨mem_toList.mpr ?_, by rw [hmerge], fun p value => ?_⟩
  · have hafter : empty.writeAll [.document "\"a b\" = 'x'"] = empty.insert "a b" "x" :=
      congrArg Prod.fst hmerge
    rw [hafter, get?_insert, if_pos rfl]
  · have hcheck : checkKey "a b" = .error (.malformedKey "a b") := by rfl
    rw [set, hcheck]
    rfl

end AppServer.Properties
