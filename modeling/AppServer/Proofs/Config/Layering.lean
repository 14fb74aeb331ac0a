import Mathlib
import AppServer.Config.Load
import AppServer.Proofs.Config.Flatten
import AppServer.Proofs.Except

/-!
# Layered configuration

Properties are written in three layers: the base file, the profile file of the
mode, and the overrides. Loading fails as the first of the two files that is at
fault. Otherwise each key has the text of the topmost layer that sets it, and no
other file of the directory matters.
-/

namespace AppServer.Properties

/-! ### Pairs over properties -/

theorem mem_toList {p : Properties} {pair : String × String} :
    pair ∈ p.toList ↔ p.get? pair.1 = some pair.2 :=
  Std.TreeMap.mem_toList_iff_getElem?_eq_some

theorem get?_overlay (p : Properties) (pairs : List (String × String)) (key : String) :
    (p.overlay pairs).get? key = (pairs.reverse.lookup key).or (p.get? key) := by
  induction pairs generalizing p with
  | nil => rfl
  | cons pair rest ih =>
    rw [overlay_cons, ih, get?_insert, List.reverse_cons, List.lookup_append, Option.or_assoc]
    congr 1
    by_cases h : pair.1 = key
    · rw [if_pos h, ← h, List.lookup_cons_self, Option.some_or]
    · rw [if_neg h, List.lookup_cons, beq_eq_false_iff_ne.mpr (Ne.symm h)]
      rfl

theorem lookup_eq_of_mem_iff {pairs : List (String × String)} {key : String} {found : Option String}
    (h : ∀ value, (key, value) ∈ pairs ↔ found = some value) : pairs.lookup key = found := by
  cases hlookup : pairs.lookup key with
  | some value =>
    obtain ⟨before, after, hsplit, -⟩ := List.lookup_eq_some_iff.mp hlookup
    refine ((h value).mp ?_).symm
    rw [hsplit]
    exact List.mem_append_right _ List.mem_cons_self
  | none =>
    cases found with
    | none => rfl
    | some value =>
      have hmem := List.lookup_eq_none_iff.mp hlookup (key, value) ((h value).mpr rfl)
      simp at hmem

theorem lookup_reverse_toList (overrides : Std.TreeMap String String) (key : String) :
    overrides.toList.reverse.lookup key = overrides[key]? := by
  refine lookup_eq_of_mem_iff fun value => ?_
  rw [List.mem_reverse]
  exact Std.TreeMap.mem_toList_iff_getElem?_eq_some

/-! ### Overrides -/

/-- A key that a property may be set under: not empty, short, and without empty segments and blanks. -/
structure WellFormedKey (key : String) : Prop where
  nonempty : key ≠ ""
  short : key.utf8ByteSize ≤ 256
  segments : ∀ segment ∈ Text.cutAll '.' key.toList,
    segment ≠ [] ∧ ∀ c ∈ segment, Text.isBlank c = false

theorem checkKey_eq_ok_iff {key : String} : checkKey key = .ok () ↔ WellFormedKey key := by
  have hsegments : (Text.cutAll '.' key.toList).all isSegment = true ↔
      ∀ segment ∈ Text.cutAll '.' key.toList, segment ≠ [] ∧ ∀ c ∈ segment, Text.isBlank c = false := by
    simp [isSegment]
  unfold checkKey
  split
  · next hlength =>
    refine iff_of_false (fun h => nomatch h) fun hkey => ?_
    rcases hlength with hempty | hlong
    · exact hkey.nonempty hempty
    · exact absurd hkey.short (Nat.not_le_of_lt hlong)
  · next hlength =>
    rw [not_or, Nat.not_lt] at hlength
    split
    · next hall => exact iff_of_true rfl ⟨hlength.1, hlength.2, hsegments.mp hall⟩
    · next hall => exact iff_of_false (fun h => nomatch h) fun hkey => hall (hsegments.mpr hkey.segments)

theorem applyOverrides_of_wellFormed (p : Properties) {pairs : List (String × String)}
    (hkeys : ∀ pair ∈ pairs, WellFormedKey pair.1) : p.applyOverrides pairs = (p.overlay pairs, .ok ()) := by
  induction pairs generalizing p with
  | nil => rfl
  | cons pair rest ih =>
    have hkey : checkKey pair.1 = .ok () := checkKey_eq_ok_iff.mpr (hkeys pair List.mem_cons_self)
    simp only [applyOverrides, hkey]
    exact ih (p.insert pair.1 pair.2) fun other hmem => hkeys other (List.mem_cons_of_mem _ hmem)

/-! ### One file -/

/-- What is wrong with a file: it cannot be read although it may be there, it is too large, it is not
UTF-8, it is no document, or its document holds a list. -/
inductive Fault (files : Files) (path : String) : ConfigError.Class → ConfigError → Prop where
  | unreadable {cause : FileError} (read : files.read path = .error cause) (there : cause ≠ .notFound) :
      Fault files path .io (.unreadable path cause)
  | tooLarge {content : Bytes} (read : files.read path = .ok content) (large : 1048576 < content.length) :
      Fault files path .invalid (.tooLarge path)
  | notText {content : Bytes} (read : files.read path = .ok content) (small : content.length ≤ 1048576)
      (text : Bytes.toText? content = none) : Fault files path .invalid (.notText path)
  | unparsable {content : Bytes} {document : String} (read : files.read path = .ok content)
      (small : content.length ≤ 1048576) (text : Bytes.toText? content = some document)
      (parse : Toml.Table.parse? document = none) : Fault files path .parse .unparsable
  | holdsArray {content : Bytes} {document : String} {table : Toml.Table} {key : String}
      (read : files.read path = .ok content) (small : content.length ≤ 1048576)
      (text : Bytes.toText? content = some document) (parse : Toml.Table.parse? document = some table)
      (array : (Toml.Value.table table).HasArray) (first : table.flatten.arrayAt = some key) :
      Fault files path .invalid (.arrayAt key)

/-- Nothing is wrong with a file. -/
def Faultless (files : Files) (path : String) : Prop := ∀ c e, ¬Fault files path c e

def tableAt? (files : Files) (path : String) : Option Toml.Table :=
  match readDocument files path with
  | .ok (some document) => Toml.Table.parse? document
  | _ => none

/-- The text that a file gives a key. -/
def fileValue? (files : Files) (path key : String) : Option String :=
  (tableAt? files path).bind fun table => table.leaf? key

theorem readDocument_eq_some_iff {files : Files} {path document : String} :
    readDocument files path = .ok (some document) ↔ ∃ content, files.read path = .ok content ∧
      content.length ≤ 1048576 ∧ Bytes.toText? content = some document := by
  unfold readDocument
  cases files.read path with
  | error cause => cases cause <;> exact iff_of_false (fun h => nomatch h) (fun ⟨_, h, _⟩ => nomatch h)
  | ok content =>
    simp only [Except.ok.injEq, exists_eq_left']
    by_cases large : maxFileBytes < content.length
    · rw [if_pos large]
      exact iff_of_false (fun h => nomatch h) fun h => Nat.not_le_of_lt large h.1
    · rw [if_neg large]
      have small : content.length ≤ 1048576 := Nat.not_lt.mp large
      cases Bytes.toText? content with
      | none => exact iff_of_false (fun h => nomatch h) (fun h => nomatch h.2)
      | some text => simp [small]

theorem loadFile_of_text {files : Files} {path document : String}
    (read : readDocument files path = .ok (some document)) (p : Properties) :
    loadFile files p path = (p.mergeToml document).2 >>= fun _ => .ok (p.mergeToml document).1 := by
  unfold loadFile
  rw [read]
  rfl

theorem loadFile_of_table {files : Files} {path document : String} {table : Toml.Table}
    (read : readDocument files path = .ok (some document)) (parse : Toml.Table.parse? document = some table)
    (first : table.flatten.arrayAt = none) (p : Properties) :
    loadFile files p path = .ok (p.overlay table.flatten.leaves) := by
  rw [loadFile_of_text read]
  simp only [mergeToml, parse, first]
  rfl

theorem Fault.errorClass {files : Files} {path : String} {c : ConfigError.Class} {e : ConfigError}
    (h : Fault files path c e) : e.errorClass = c := by
  cases h <;> rfl

theorem Fault.loadFile {files : Files} {path : String} {c : ConfigError.Class} {e : ConfigError}
    (h : Fault files path c e) (p : Properties) : loadFile files p path = .error e := by
  cases h with
  | unreadable read there =>
    unfold Properties.loadFile readDocument
    rw [read]
    cases ‹FileError› <;> first | rfl | exact absurd rfl there
  | tooLarge read large =>
    have hsize : maxFileBytes < _ := large
    unfold Properties.loadFile
    simp only [readDocument, read, if_pos hsize]
    rfl
  | notText read small text =>
    have hsize : ¬maxFileBytes < _ := Nat.not_lt.mpr small
    unfold Properties.loadFile
    simp only [readDocument, read, if_neg hsize, text]
    rfl
  | unparsable read small text parse =>
    rw [loadFile_of_text (readDocument_eq_some_iff.mpr ⟨_, read, small, text⟩)]
    simp only [mergeToml, parse]
    rfl
  | holdsArray read small text parse array first =>
    rw [loadFile_of_text (readDocument_eq_some_iff.mpr ⟨_, read, small, text⟩)]
    simp only [mergeToml, parse, first]
    rfl

/-- A file is at fault, or it is read over any properties. -/
theorem fault_or_loadFile (files : Files) (path : String) :
    (∃ c e, Fault files path c e) ∨ ∀ p, ∃ q, loadFile files p path = .ok q ∧
      ∀ key, q.get? key = (fileValue? files path key).or (p.get? key) := by
  -- along the steps of loading: each of them is a fault, or the next one is taken
  cases read : files.read path with
  | error cause =>
    by_cases hcause : cause = .notFound
    · subst hcause
      have hdocument : readDocument files path = .ok none := by simp only [readDocument, read]
      refine .inr fun p => ⟨p, ?_, fun key => ?_⟩
      · unfold loadFile
        rw [hdocument]
        rfl
      · simp only [fileValue?, tableAt?, hdocument, Option.bind_none, Option.none_or]
    · exact .inl ⟨_, _, .unreadable read hcause⟩
  | ok content =>
    by_cases large : 1048576 < content.length
    · exact .inl ⟨_, _, .tooLarge read large⟩
    have small : content.length ≤ 1048576 := Nat.not_lt.mp large
    cases text : Bytes.toText? content with
    | none => exact .inl ⟨_, _, .notText read small text⟩
    | some document =>
      cases parse : Toml.Table.parse? document with
      | none => exact .inl ⟨_, _, .unparsable read small text parse⟩
      | some table =>
        cases first : table.flatten.arrayAt with
        | some key =>
          refine .inl ⟨_, _, .holdsArray read small text parse (Classical.byContradiction fun hnone => ?_) first⟩
          rw [Toml.Table.arrayAt_flatten.mpr hnone] at first
          cases first
        | none =>
          have hdocument := readDocument_eq_some_iff.mpr ⟨_, read, small, text⟩
          refine .inr fun p => ⟨p.overlay table.flatten.leaves, ?_, fun key => ?_⟩
          · exact loadFile_of_table hdocument parse first p
          · simp only [fileValue?, tableAt?, hdocument, parse, Option.bind_some]
            exact get?_overlay p table.flatten.leaves key

theorem loadFile_eq_error_iff {files : Files} {p : Properties} {path : String} {e : ConfigError} :
    loadFile files p path = .error e ↔ Fault files path e.errorClass e := by
  constructor
  · intro h
    rcases fault_or_loadFile files path with ⟨c, d, hfault⟩ | hloads
    · have heq : d = e := Except.error.inj ((hfault.loadFile p).symm.trans h)
      subst heq
      rwa [hfault.errorClass]
    · obtain ⟨q, hq, -⟩ := hloads p
      rw [hq] at h
      cases h
  · exact fun hfault => hfault.loadFile p

theorem Faultless.loadFile {files : Files} {path : String} (h : Faultless files path) (p : Properties) :
    ∃ q, loadFile files p path = .ok q ∧ ∀ key, q.get? key = (fileValue? files path key).or (p.get? key) := by
  rcases fault_or_loadFile files path with ⟨c, e, hfault⟩ | hloads
  · exact absurd hfault (h c e)
  · exact hloads p

theorem faultless_of_loadFile {files : Files} {p q : Properties} {path : String}
    (h : loadFile files p path = .ok q) : Faultless files path := by
  intro c e hfault
  rw [hfault.loadFile p] at h
  cases h

theorem Faultless.not_hasArray {files : Files} {path : String} {table : Toml.Table}
    (h : Faultless files path) (htable : tableAt? files path = some table) :
    ¬(Toml.Value.table table).HasArray := by
  intro array
  unfold tableAt? at htable
  split at htable
  · next document hdocument =>
    obtain ⟨content, read, small, text⟩ := readDocument_eq_some_iff.mp hdocument
    cases first : table.flatten.arrayAt with
    | none => exact Toml.Table.arrayAt_flatten.mp first array
    | some key => exact h _ _ (.holdsArray read small text htable array first)
  · cases htable

/-- What a file gives a key is the text of a leaf under that key in its document, and nothing if there is no such
leaf. -/
structure GivesLeaves (files : Files) (path : String) : Prop where
  leaf (key value : String) : fileValue? files path key = some value →
    ∃ table, tableAt? files path = some table ∧ (Toml.Value.table table).HasLeaf key value ""
  nothing (key : String) : fileValue? files path key = none ↔ ∀ table, tableAt? files path = some table →
    ∀ value, ¬(Toml.Value.table table).HasLeaf key value ""

theorem Faultless.givesLeaves {files : Files} {path : String} (h : Faultless files path) :
    GivesLeaves files path where
  leaf key value hvalue := by
    obtain ⟨table, htable, hleaf⟩ := Option.bind_eq_some_iff.mp hvalue
    exact ⟨table, htable, Toml.Table.hasLeaf_of_leaf? (h.not_hasArray htable) hleaf⟩
  nothing key := by
    rw [fileValue?, Option.bind_eq_none_iff]
    exact forall_congr' fun table => forall_congr' fun htable =>
      Toml.Table.leaf?_eq_none_iff (h.not_hasArray htable)

/-- Only what is read from the path counts, and the path only in the wording of a fault. -/
theorem loadFile_mapError {files others : Files} {path other : String}
    (hread : others.read other = files.read path) (p : Properties) :
    (loadFile others p other).mapError ConfigError.errorClass =
      (loadFile files p path).mapError ConfigError.errorClass := by
  unfold loadFile
  refine bind_mapError_congr ?_ fun _ => rfl
  simp only [readDocument, hread]
  split
  · rfl
  · rfl
  · split
    · rfl
    · split <;> rfl

/-! ### The layers -/

theorem loadDir_eq (files : Files) (dir : String) (mode : Mode) :
    loadDir files dir mode = loadFile files empty (Files.join dir "application.toml") >>= fun p =>
      loadFile files p (Files.join dir ("application." ++ mode.token ++ ".toml")) := by
  simp only [loadDir, filesFor, List.foldlM_cons, List.foldlM_nil, bind_pure]

theorem loadDir_eq_error_iff {files : Files} {dir : String} {mode : Mode} {e : ConfigError} :
    loadDir files dir mode = .error e ↔
      Fault files (Files.join dir "application.toml") e.errorClass e ∨
        Faultless files (Files.join dir "application.toml") ∧
          Fault files (Files.join dir ("application." ++ mode.token ++ ".toml")) e.errorClass e := by
  rw [loadDir_eq, bind_eq_error_iff, loadFile_eq_error_iff]
  refine or_congr_right ⟨?_, ?_⟩
  · rintro ⟨p, hp, herror⟩
    exact ⟨faultless_of_loadFile hp, loadFile_eq_error_iff.mp herror⟩
  · rintro ⟨hbase, hfault⟩
    obtain ⟨p, hp, -⟩ := hbase.loadFile empty
    exact ⟨p, hp, loadFile_eq_error_iff.mpr hfault⟩

theorem loadDir_of_faultless {files : Files} {dir : String} {mode : Mode}
    (hbase : Faultless files (Files.join dir "application.toml"))
    (hprofile : Faultless files (Files.join dir ("application." ++ mode.token ++ ".toml"))) :
    ∃ p, loadDir files dir mode = .ok p ∧ ∀ key, p.get? key =
      (fileValue? files (Files.join dir ("application." ++ mode.token ++ ".toml")) key).or
        (fileValue? files (Files.join dir "application.toml") key) := by
  obtain ⟨p, hp, hpvalues⟩ := hbase.loadFile empty
  obtain ⟨q, hq, hqvalues⟩ := hprofile.loadFile p
  refine ⟨q, ?_, fun key => ?_⟩
  · rw [loadDir_eq, bind_eq_ok_iff]
    exact ⟨p, hp, hq⟩
  · rw [hqvalues, hpvalues, get?_empty, Option.or_none]

theorem get?_applyOverrides (p : Properties) {overrides : Std.TreeMap String String}
    (hkeys : ∀ key ∈ overrides, WellFormedKey key) :
    ∃ q, p.applyOverrides overrides.toList = (q, .ok ()) ∧
      ∀ key, q.get? key = overrides[key]?.or (p.get? key) := by
  have hpairs : ∀ pair ∈ overrides.toList, WellFormedKey pair.1 := by
    intro pair hmem
    have hheld := Std.TreeMap.mem_toList_iff_getElem?_eq_some.mp hmem
    exact hkeys pair.1 (Std.TreeMap.mem_iff_isSome_getElem?.mpr (by rw [hheld]; rfl))
  refine ⟨p.overlay overrides.toList, applyOverrides_of_wellFormed p hpairs, fun key => ?_⟩
  rw [get?_overlay, lookup_reverse_toList]

/-- Loading fails as the base file does, or else as the profile file does. When neither is at fault, each
key has the text of the topmost layer that sets it, which in a file is a leaf of its document. Another tree
with the same content under the two paths leads to the same properties or to an error of the same class. -/
theorem loadDir_layers (files : Files) (dir : String) (mode : Mode) :
    let base := Files.join dir "application.toml"
    let profile := Files.join dir ("application." ++ mode.token ++ ".toml")
    (∀ e, loadDir files dir mode = .error e ↔
      Fault files base e.errorClass e ∨ Faultless files base ∧ Fault files profile e.errorClass e) ∧
    (Faultless files base → Faultless files profile → GivesLeaves files base ∧ GivesLeaves files profile ∧
      ∃ p, loadDir files dir mode = .ok p ∧
      ∀ overrides : Std.TreeMap String String, (∀ key ∈ overrides, WellFormedKey key) →
        ∃ q, p.applyOverrides overrides.toList = (q, .ok ()) ∧
          (∀ key, q.get? key =
            overrides[key]?.or ((fileValue? files profile key).or (fileValue? files base key))) ∧
          ∀ key value, (key, value) ∈ q.toList ↔ q.get? key = some value) ∧
    ∀ (others : Files) (place : String),
      others.read (Files.join place "application.toml") = files.read base →
      others.read (Files.join place ("application." ++ mode.token ++ ".toml")) = files.read profile →
        (loadDir others place mode).mapError ConfigError.errorClass =
          (loadDir files dir mode).mapError ConfigError.errorClass ∧
        (place = dir → loadDir others place mode = loadDir files dir mode) := by
  refine ⟨fun e => loadDir_eq_error_iff, fun hbase hprofile => ?_, fun others place hbase hprofile => ?_⟩
  · obtain ⟨p, hp, hvalues⟩ := loadDir_of_faultless hbase hprofile
    refine ⟨hbase.givesLeaves, hprofile.givesLeaves, p, hp, fun overrides hkeys => ?_⟩
    obtain ⟨q, hq, hoverridden⟩ := get?_applyOverrides p hkeys
    refine ⟨q, hq, fun key => ?_, fun key value => mem_toList⟩
    rw [hoverridden, hvalues]
  · refine ⟨?_, ?_⟩
    · rw [loadDir_eq, loadDir_eq]
      exact bind_mapError_congr (loadFile_mapError hbase empty) (loadFile_mapError hprofile)
    · rintro rfl
      simp only [loadDir_eq, loadFile, readDocument, hbase, hprofile]

def lockedFiles : Files where
  entries := [([Bytes.ofText "etc"], .directory),
    ([Bytes.ofText "etc", Bytes.ofText "application.toml"], .locked)]
  home := [Bytes.ofText "srv", Bytes.ofText "app"]

example : loadDir lockedFiles "/etc" .test = .error (.unreadable "/etc/application.toml" .denied) :=
  loadDir_eq_error_iff.mpr (.inl (.unreadable rfl nofun))

def layeredFiles (development : String) : Files where
  entries := [([Bytes.ofText "conf"], .directory),
    ([Bytes.ofText "conf", Bytes.ofText "application.toml"], .file (Bytes.ofText "a.b='base'\na.c='base'")),
    ([Bytes.ofText "conf", Bytes.ofText "application.test.toml"], .file (Bytes.ofText "[a]\nb='test'")),
    ([Bytes.ofText "conf", Bytes.ofText "application.dev.toml"], .file (Bytes.ofText development))]

theorem loadDir_layers_layeredFiles :
    ∃ p q, loadDir (layeredFiles "a = [") "conf" .test = .ok p ∧
      loadDir (layeredFiles "a = 1") "conf" .test = .ok p ∧
      p.applyOverrides [("a.d", "over")] = (q, .ok ()) ∧
      q.get? "a.b" = some "test" ∧ q.get? "a.c" = some "base" ∧ q.get? "a.d" = some "over" ∧
      q.get? "a" = none ∧ ("a.c", "base") ∈ q.toList := by
  have hbase : readDocument (layeredFiles "a = [") "conf/application.toml" =
      .ok (some "a.b='base'\na.c='base'") :=
    readDocument_eq_some_iff.mpr ⟨_, rfl, by decide +kernel, Bytes.toText?_ofText _⟩
  have hbaseTable : Toml.Table.parse? "a.b='base'\na.c='base'" =
      some [("a", .table [("b", .text "base"), ("c", .text "base")])] := by cbv
  have hprofile : readDocument (layeredFiles "a = [") "conf/application.test.toml" =
      .ok (some "[a]\nb='test'") :=
    readDocument_eq_some_iff.mpr ⟨_, rfl, by decide +kernel, Bytes.toText?_ofText _⟩
  have hprofileTable : Toml.Table.parse? "[a]\nb='test'" = some [("a", .table [("b", .text "test")])] := by cbv
  obtain ⟨-, hloads, hothers⟩ := loadDir_layers (layeredFiles "a = [") "conf" .test
  obtain ⟨-, -, p, hp, happly⟩ := hloads
    (faultless_of_loadFile (loadFile_of_table hbase hbaseTable rfl empty))
    (faultless_of_loadFile (loadFile_of_table hprofile hprofileTable rfl empty))
  have hkeys : ∀ key ∈ (Std.TreeMap.empty.insert "a.d" "over" : Std.TreeMap String String),
      WellFormedKey key := by
    intro key hmem
    have hkey : "a.d" = key := by
      simpa [Std.TreeMap.mem_insert, Std.LawfulEqCmp.compare_eq_iff_eq] using hmem
    rw [← hkey, ← checkKey_eq_ok_iff]
    rfl
  obtain ⟨q, hq, hvalues, hlist⟩ := happly _ hkeys
  have hbaseValue (key : String) : fileValue? (layeredFiles "a = [") "conf/application.toml" key =
      Toml.Table.leaf? [("a", .table [("b", .text "base"), ("c", .text "base")])] key := by
    simp only [fileValue?, tableAt?, hbase, hbaseTable, Option.bind_some]
  have hprofileValue (key : String) : fileValue? (layeredFiles "a = [") "conf/application.test.toml" key =
      Toml.Table.leaf? [("a", .table [("b", .text "test")])] key := by
    simp only [fileValue?, tableAt?, hprofile, hprofileTable, Option.bind_some]
  have hvalue (key : String) : q.get? key =
      (Std.TreeMap.empty.insert "a.d" "over" : Std.TreeMap String String)[key]?.or
        ((Toml.Table.leaf? [("a", .table [("b", .text "test")])] key).or
          (Toml.Table.leaf? [("a", .table [("b", .text "base"), ("c", .text "base")])] key)) := by
    rw [← hbaseValue, ← hprofileValue]
    exact hvalues key
  refine ⟨p, q, hp, ?_, hq, ?_, ?_, ?_, ?_, ?_⟩
  · exact ((hothers (layeredFiles "a = 1") "conf" rfl rfl).2 rfl).trans hp
  · rw [hvalue]
    decide +kernel
  · rw [hvalue]
    decide +kernel
  · rw [hvalue]
    decide +kernel
  · rw [hvalue]
    decide +kernel
  · rw [hlist, hvalue]
    decide +kernel

end AppServer.Properties
