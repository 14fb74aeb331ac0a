import AppServer.Proofs.Config.Merge
import AppServer.Proofs.Config.Port
import AppServer.Proofs.Text.Number

/-!
# Leaves read back

A leaf of a merged document is read back under the key that the names on the way to
it make: a text as it is, a truth value as itself, and an integer as a port when it is
one. An integer that is no port is a fault which names the key. So flattening, which
turns each leaf into a text, loses nothing that the typed readings ask for.
-/

namespace AppServer.Properties

open Toml Text

/-! ### The text of a leaf -/

theorem get?_overlay_of_mem (p : Properties) {pairs : List (String × String)} {key value : String}
    (hdistinct : (pairs.map Prod.fst).Nodup) (h : (key, value) ∈ pairs) :
    (p.overlay pairs).get? key = some value := by
  obtain ⟨before, after, rfl⟩ := List.append_of_mem h
  refine get?_overlay_last p ?_
  rw [List.map_append, List.map_cons, List.nodup_append] at hdistinct
  exact (List.nodup_cons.mp hdistinct.2.1).1

theorem get?_overlay_leafPairs (p : Properties) {table : Table} {leaf : List String × Value} {s : String}
    (hleaves : ∀ stop ∈ (Value.table table).walk, ∃ s, stop.2.leafText? = some s)
    (hdistinct : ((Value.table table).walk.map fun stop => dottedPath stop.1).Nodup)
    (hleaf : leaf ∈ (Value.table table).walk) (text : leaf.2.leafText? = some s) :
    (p.overlay (leafPairs (Value.table table).walk)).get? (dottedPath leaf.1) = some s := by
  refine get?_overlay_of_mem p ?_ (List.mem_filterMap.mpr ⟨leaf, hleaf, ?_⟩)
  · rwa [map_fst_leafPairs hleaves]
  · rw [text, Option.map_some]

/-! ### Readings -/

variable {p : Properties} {key : String}

theorem getPort_of_integer {n : Nat} (h : p.get? key = some (decimalInt n)) (hbound : n ≤ 65535) :
    p.getPort key = .ok (some n) :=
  ((readsPortsFrom_zero p key).port n).mpr ⟨_, h, Nat.zero_le n, hbound, writesNumber_decimalInt_iff.mpr rfl⟩

theorem getPort_of_integer_outside {i : Int} (h : p.get? key = some (decimalInt i)) (hout : i < 0 ∨ 65535 < i) :
    p.getPort key = .error (.notPort key) := by
  refine ((readsPortsFrom_zero p key).fault _).mpr ⟨_, h, fun n _ hn hwrites => ?_, rfl⟩
  have hi := writesNumber_decimalInt_iff.mp hwrites
  omega

def boolToken (b : Bool) : String := if b then "true" else "false"

theorem readBool?_eq_some_iff {s : String} {b : Bool} : readBool? s = some b ↔ trim s = boolToken b := by
  rw [readBool?]
  by_cases htrue : trim s = "true"
  · rw [if_pos htrue, htrue]
    cases b <;> decide
  · rw [if_neg htrue]
    by_cases hfalse : trim s = "false"
    · rw [if_pos hfalse, hfalse]
      cases b <;> decide
    · rw [if_neg hfalse]
      cases b with
      | true => exact iff_of_false nofun htrue
      | false => exact iff_of_false nofun hfalse

theorem getBool_eq_ok_some_iff {raw : String} {b : Bool} (h : p.get? key = some raw) :
    p.getBool key = .ok (some b) ↔ trim raw = boolToken b := by
  rw [getBool, h, ← readBool?_eq_some_iff]
  dsimp only
  cases readBool? raw with
  | none => exact iff_of_false nofun nofun
  | some found => rw [Except.ok.injEq]

/-! ### Documents -/

/-- A document without lists, whose names are neither empty nor hold a dot, can be merged over any properties, and
each of its leaves is read back under its key: a port as the port, any other integer with a fault that names the
key, a truth value as itself, and a text unchanged, which is a truth value only when it is its token with blanks
around it. -/
theorem leaves_read_back (p : Properties) {document : String} {table : Table}
    (hparse : Table.parse? document = some table) (hflat : ¬(Value.table table).HasArray)
    (hplain : ∀ name, (Value.table table).HasName name → name ≠ "" ∧ '.' ∉ name.toList) :
    ∃ q, p.mergeToml document = (q, .ok ()) ∧ ∀ path value, (path, value) ∈ (Value.table table).walk →
      let key := join "." path
      (∀ n : Nat, value = .integer n → 1 ≤ n → n ≤ 65535 → q.getPort key = .ok (some n)) ∧
      (∀ i : Int, value = .integer i → i < 0 ∨ 65535 < i → q.getPort key = .error (.notPort key) ∧
        (ConfigError.notPort key).message = "invalid config: " ++ key ++ " must be an integer port") ∧
      (∀ b, value = .boolean b → q.getBool key = .ok (some b)) ∧
      ∀ s, value = .text s → q.get? key = some s ∧
        ∀ b, q.getBool key = .ok (some b) ↔ trim s = boolToken b := by
  have hleaves := Table.leaves_of_flat hflat
  have hdistinct := nodup_keys (Table.ordered_of_parse? hparse) hplain
  refine ⟨_, mergeToml_of_leaves p hparse hleaves, fun path value hleaf => ?_⟩
  have hkey : dottedPath path = join "." path :=
    dottedPath_of_named fun name hname => (hplain name (Value.hasName_of_mem_walk hleaf name hname)).1
  have hheld {s : String} (text : value.leafText? = some s) := get?_overlay_leafPairs p hleaves hdistinct hleaf text
  dsimp only at hheld ⊢
  rw [← hkey]
  refine ⟨fun n hvalue _ hbound => ?_, fun i hvalue hout => ⟨?_, (String.append_assoc).symm⟩, fun b hvalue => ?_,
    fun s hvalue => ?_⟩
  · exact getPort_of_integer (hheld (by rw [hvalue]; rfl)) hbound
  · exact getPort_of_integer_outside (hheld (by rw [hvalue]; rfl)) hout
  · refine (getBool_eq_ok_some_iff (hheld (by rw [hvalue]; rfl : value.leafText? = some (boolToken b)))).mpr ?_
    cases b <;> decide
  · have htext : value.leafText? = some s := by rw [hvalue]; rfl
    exact ⟨hheld htext, fun b => getBool_eq_ok_some_iff (hheld htext)⟩

def mixedLeaves : String := "a.b = 8080\nc = -1\nd = true\ne = ' true '\nf = 'yes'"

theorem leaves_read_back_mixedLeaves :
    ∃ q, ((empty.insert "c" "443").insert "z" "kept").mergeToml mixedLeaves = (q, .ok ()) ∧
      q.getPort "a.b" = .ok (some 8080) ∧ q.getPort "c" = .error (.notPort "c") ∧
      q.getBool "d" = .ok (some true) ∧ q.get? "e" = some " true " ∧ q.getBool "e" = .ok (some true) ∧
      q.get? "f" = some "yes" ∧ q.getBool "f" ≠ .ok (some true) := by
  have hparse : Table.parse? mixedLeaves = some
      [("a", .table [("b", .integer 8080)]), ("c", .integer (-1)), ("d", .boolean true), ("e", .text " true "),
        ("f", .text "yes")] := by cbv
  have hflat : ¬(Value.table [("a", .table [("b", .integer 8080)]), ("c", .integer (-1)), ("d", .boolean true),
      ("e", .text " true "), ("f", .text "yes")]).HasArray := Table.arrayAt_flatten.mp rfl
  have hplain : ∀ name, (Value.table [("a", .table [("b", .integer 8080)]), ("c", .integer (-1)),
      ("d", .boolean true), ("e", .text " true "), ("f", .text "yes")]).HasName name →
        name ≠ "" ∧ '.' ∉ name.toList := by
    intro name hname
    have hleaf : ¬(Value.integer 8080).HasName name ∧ ¬(Value.integer (-1)).HasName name ∧
        ¬(Value.boolean true).HasName name ∧ ¬(Value.text " true ").HasName name ∧ ¬(Value.text "yes").HasName name :=
      ⟨Value.not_hasName_of_leafText? rfl, Value.not_hasName_of_leafText? rfl, Value.not_hasName_of_leafText? rfl,
        Value.not_hasName_of_leafText? rfl, Value.not_hasName_of_leafText? rfl⟩
    have hnames : name ∈ ["a", "b", "c", "d", "e", "f"] := by
      simpa [Value.hasName_table, eq_comm (b := name), hleaf, or_assoc] using hname
    have hall : ∀ name ∈ ["a", "b", "c", "d", "e", "f"], name ≠ "" ∧ '.' ∉ name.toList := by decide
    exact hall name hnames
  obtain ⟨q, hq, hread⟩ :=
    leaves_read_back ((empty.insert "c" "443").insert "z" "kept") hparse hflat hplain
  obtain ⟨hport, -⟩ := hread ["a", "b"] (.integer 8080) (by simp [Value.walk, walkEntries])
  obtain ⟨-, hminus, -⟩ := hread ["c"] (.integer (-1)) (by simp [Value.walk, walkEntries])
  obtain ⟨-, -, htruth, -⟩ := hread ["d"] (.boolean true) (by simp [Value.walk, walkEntries])
  obtain ⟨-, -, -, hpadded⟩ := hread ["e"] (.text " true ") (by simp [Value.walk, walkEntries])
  obtain ⟨-, -, -, hyes⟩ := hread ["f"] (.text "yes") (by simp [Value.walk, walkEntries])
  have hport := hport 8080 rfl (by decide) (by decide)
  have hminus := (hminus (-1) rfl (.inl (by decide))).1
  obtain ⟨hpadded, htoken⟩ := hpadded _ rfl
  obtain ⟨hyes, hnotoken⟩ := hyes _ rfl
  refine ⟨q, hq, hport, hminus, htruth true rfl, hpadded, (htoken true).mpr (by decide), hyes, fun h => ?_⟩
  exact absurd ((hnotoken true).mp h) (by decide)

end AppServer.Properties
