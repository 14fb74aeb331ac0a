import AppServer.Proofs.Config.Merge

/-!
# Failed writes

A write that fails leaves what was written before its fault: nothing of a document
that does not parse or of a setting, the leaves before the first list of a
document, and the overrides before the first malformed key. No write removes a key.
-/

namespace AppServer.Properties

open Toml

/-- A write over properties fails with an error, and leaves other properties behind. -/
inductive FailsWith (p : Properties) : Write → Properties → ConfigError → Prop where
  | unparsable {document : String} (parse : Table.parse? document = none) :
      FailsWith p (.document document) p .unparsable
  /-- The first list of a walk, which takes the names of each table in their order, is at a path. -/
  | array {document : String} {table : Table} {before after : List (List String × Value)} {path : List String}
      {items : List Value} (parse : Table.parse? document = some table) (ordered : (Value.table table).Ordered)
      (walk : (Value.table table).walk = before ++ (path, .array items) :: after)
      (leaves : ∀ stop ∈ before, ∃ s, stop.2.leafText? = some s) :
      FailsWith p (.document document) (p.overlay (leafPairs before)) (.arrayAt (dottedPath path))
  | setting {key value : String} {e : ConfigError} (malformed : ¬WellFormedKey key)
      (fault : checkKey key = .error e) : FailsWith p (.setting key value) p e
  | overrides {before after : List (String × String)} {key value : String} {e : ConfigError}
      (wellFormed : ∀ pair ∈ before, WellFormedKey pair.1) (malformed : ¬WellFormedKey key)
      (fault : checkKey key = .error e) :
      FailsWith p (.overrides (before ++ (key, value) :: after)) (p.overlay before) e

/-! ### Each kind of write -/

theorem not_wellFormedKey_iff {key : String} : ¬WellFormedKey key ↔ ∃ e, checkKey key = .error e := by
  rw [← checkKey_eq_ok_iff]
  cases checkKey key with
  | error e => exact iff_of_true nofun ⟨e, rfl⟩
  | ok _ => exact iff_of_false (not_not_intro rfl) nofun

theorem set_eq_error_iff {p : Properties} {key value : String} {e : ConfigError} :
    p.set key value = .error e ↔ checkKey key = .error e := by
  rw [set, bind_eq_error_iff]
  constructor
  · rintro (hcheck | ⟨_, -, hok⟩)
    · exact hcheck
    · cases hok
  · exact .inl

theorem applyOverrides_append_of_malformed {before after : List (String × String)} {key value : String}
    {e : ConfigError} (hbefore : ∀ pair ∈ before, WellFormedKey pair.1) (hkey : checkKey key = .error e)
    (p : Properties) : p.applyOverrides (before ++ (key, value) :: after) = (p.overlay before, .error e) := by
  induction before generalizing p with
  | nil =>
    rw [List.nil_append, applyOverrides, hkey]
    rfl
  | cons pair rest ih =>
    rw [List.forall_mem_cons] at hbefore
    rw [List.cons_append, applyOverrides, checkKey_eq_ok_iff.mpr hbefore.1]
    exact ih hbefore.2 (p.insert pair.1 pair.2)

theorem mergeToml_of_array (p : Properties) {document : String} {table : Table}
    {before after : List (List String × Value)} {path : List String} {items : List Value}
    (hparse : Table.parse? document = some table)
    (hwalk : (Value.table table).walk = before ++ (path, .array items) :: after)
    (hbefore : ∀ stop ∈ before, ∃ s, stop.2.leafText? = some s) :
    p.mergeToml document = (p.overlay (leafPairs before), .error (.arrayAt (dottedPath path))) := by
  rw [mergeToml, hparse]
  simp only [table.flatten_eq_ofStops, hwalk, Flattened.ofStops_of_array hbefore]

/-! ### All writes -/

theorem FailsWith.write {p q : Properties} {w : Write} {e : ConfigError} (h : p.FailsWith w q e) :
    p.write w = (q, .error e) := by
  cases h with
  | unparsable parse => rw [Properties.write, mergeToml, parse]
  | array parse ordered walk leaves => exact mergeToml_of_array p parse walk leaves
  | @setting key value e malformed fault => rw [Properties.write, set_eq_error_iff.mpr fault]
  | overrides wellFormed malformed fault => exact applyOverrides_append_of_malformed wellFormed fault p

theorem failsWith_of_write {p q : Properties} {w : Write} {e : ConfigError} (h : p.write w = (q, .error e)) :
    p.FailsWith w q e := by
  cases w with
  | document text =>
    cases hparse : Table.parse? text with
    | none =>
      have hfail : p.FailsWith (.document text) p .unparsable := .unparsable hparse
      rw [hfail.write] at h
      cases h
      exact hfail
    | some table =>
      rcases (Value.table table).leaves_or_first_array with hleaves | ⟨before, path, items, after, hwalk, hbefore⟩
      · rw [Properties.write, mergeToml_of_leaves p hparse hleaves] at h
        cases h
      · have hfail := FailsWith.array (p := p) hparse (Table.ordered_of_parse? hparse) hwalk hbefore
        rw [hfail.write] at h
        cases h
        exact hfail
  | setting key value =>
    rw [Properties.write] at h
    split at h
    · cases h
    · next fault hset =>
      cases h
      have hcheck := set_eq_error_iff.mp hset
      exact .setting (not_wellFormedKey_iff.mpr ⟨e, hcheck⟩) hcheck
  | overrides pairs =>
    rcases forall_or_first (fun pair => WellFormedKey pair.1) pairs with
      hall | ⟨before, ⟨key, value⟩, after, rfl, hbefore, hkey⟩
    · rw [Properties.write, applyOverrides_of_wellFormed p hall] at h
      cases h
    · obtain ⟨fault, hcheck⟩ := not_wellFormedKey_iff.mp hkey
      have hfail : p.FailsWith (.overrides (before ++ (key, value) :: after)) (p.overlay before) fault :=
        .overrides hbefore hkey hcheck
      rw [hfail.write] at h
      cases h
      exact hfail

theorem has_write {p : Properties} {key : String} (h : p.Has key) (w : Write) : (p.write w).1.Has key := by
  cases w with
  | document text => exact has_mergeToml.mpr (.inr h)
  | setting other value =>
    rw [Properties.write]
    split
    · next q hset =>
      obtain ⟨-, rfl⟩ := set_eq_ok_iff.mp hset
      exact has_insert.mpr (.inr h)
    · exact h
  | overrides pairs => exact has_applyOverrides.1 h

/-- The writes that fail, with what they leave and with their errors, are those listed; the error of a list
names the dotted path of the list; and no write, failed or not, removes a key. -/
theorem write_eq_error_iff (p : Properties) :
    (∀ w q e, p.write w = (q, .error e) ↔ p.FailsWith w q e) ∧
    (∀ path, (ConfigError.arrayAt (dottedPath path)).message =
      "invalid config: " ++ dottedPath path ++ ": arrays are not supported") ∧
    ∀ w key, p.Has key → (p.write w).1.Has key := by
  refine ⟨fun w q e => ⟨failsWith_of_write, FailsWith.write⟩, fun path => ?_, fun w key h => has_write h w⟩
  exact (String.append_assoc).symm

def listDocument : String := "[b]\nc = [true]\nd = 'y'\n[a]\ne = 'x'"

theorem write_eq_error_iff_listDocument :
    ∃ q, (empty.insert "b.d" "old").write (.document listDocument) = (q, .error (.arrayAt "b.c")) ∧
      q.get? "a.e" = some "x" ∧ q.get? "b.d" = some "old" ∧ q.get? "b.c" = none := by
  have hparse : Table.parse? listDocument = some [("a", .table [("e", .text "x")]),
      ("b", .table [("c", .array [.boolean true]), ("d", .text "y")])] := by cbv
  have hwalk : (Value.table [("a", .table [("e", .text "x")]),
      ("b", .table [("c", .array [.boolean true]), ("d", .text "y")])]).walk =
      [(["a", "e"], .text "x")] ++ (["b", "c"], .array [.boolean true]) :: [(["b", "d"], .text "y")] := rfl
  have hfail : (empty.insert "b.d" "old").FailsWith (.document listDocument)
      ((empty.insert "b.d" "old").overlay [("a.e", "x")]) (.arrayAt "b.c") :=
    .array hparse (Table.ordered_of_parse? hparse) hwalk (List.forall_mem_singleton.mpr ⟨"x", rfl⟩)
  refine ⟨_, ((write_eq_error_iff (empty.insert "b.d" "old")).1 _ _ _).mpr hfail, ?_, ?_, ?_⟩
  · exact get?_insert_self (empty.insert "b.d" "old") "a.e" "x"
  · rw [get?_overlay_of_not_mem _ (by decide), get?_insert_self]
  · rw [get?_overlay_of_not_mem _ (by decide), get?_insert_of_ne _ (by decide), get?_empty]

end AppServer.Properties
