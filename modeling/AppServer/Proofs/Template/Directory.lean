import AppServer.Proofs.Files.Order
import AppServer.Proofs.Text.Ascii
import AppServer.Proofs.Text.Cut
import AppServer.Template.Engine

/-!
# Directories of templates

The files of templates in a directory are those with the extension of templates and
a stem that is text; no two of them have the same stem. All are loaded when each of
them can be read and compiles, in whatever order they are listed, and the engine then
holds them over what it held before. Otherwise the loading stops at the first one
listed that is at fault, and those listed before it stay.
-/

namespace AppServer.TemplateEngine

open Template

/-! ### Files of templates -/

/-- A file name has an extension, which stands behind its last point, and a stem before that. A point at the start
of the name does not count. -/
structure Extended (file stem extension : Bytes) : Prop where
  parts : file = stem ++ 46 :: extension
  last : 46 ∉ extension
  stem : stem ≠ []

/-- The file has the extension of templates, and the name of its template as its stem. -/
def NamesTemplate (file : Bytes) (name : String) : Prop := Extended file (Bytes.ofText name) (Bytes.ofText "hbs")

def IsTemplate (file : Bytes) : Prop := ∃ name, NamesTemplate file name

/-- Some entry is the file of this template. -/
def TemplateOf (entries : List Bytes) (name : String) : Prop := ∃ file ∈ entries, NamesTemplate file name

theorem NamesTemplate.file_unique {file other : Bytes} {name : String} (h : NamesTemplate file name)
    (hother : NamesTemplate other name) : file = other := h.parts.trans hother.parts.symm

theorem nameOfFile?_eq_some_iff {file : Bytes} {name : String} :
    nameOfFile? file = some name ↔ NamesTemplate file name := by
  have htail : Bytes.ofText ("." ++ fileExtension) = 46 :: Bytes.ofText "hbs" := by decide +kernel
  rw [nameOfFile?, htail, Option.bind_eq_bind, Option.bind_eq_some_iff]
  simp only [Text.dropEnd?_eq_some_iff, Option.ite_none_left_eq_some, Bytes.toText?_eq_some_iff]
  constructor
  · rintro ⟨_, hparts, hstem, rfl⟩
    exact ⟨hparts, by decide +kernel, hstem⟩
  · exact fun h => ⟨_, h.parts, h.stem, rfl⟩

instance : DecidablePred IsTemplate := fun file =>
  decidable_of_iff ((nameOfFile? file).isSome = true) (by
    rw [Option.isSome_iff_exists]
    exact exists_congr fun name => nameOfFile?_eq_some_iff)

theorem mem_filterMap_nameOfFile? {entries : List Bytes} {name : String} :
    name ∈ entries.filterMap nameOfFile? ↔ TemplateOf entries name := by
  simp only [List.mem_filterMap, nameOfFile?_eq_some_iff, TemplateOf]

theorem length_filterMap_nameOfFile? (entries : List Bytes) :
    (entries.filterMap nameOfFile?).length = entries.countP (IsTemplate ·) := by
  rw [List.length_filterMap_eq_countP]
  refine List.countP_congr fun file _ => ?_
  rw [decide_eq_true_iff, Option.isSome_iff_exists]
  exact exists_congr fun name => nameOfFile?_eq_some_iff

/-! ### Loading one file -/

variable {files other : Files} {dir name : String} {engine after : TemplateEngine}

def templatePath (dir name : String) : String := Files.join dir (name ++ "." ++ "hbs")

/-- The file of a template can be read as text, which compiles. -/
def Yields (files : Files) (dir name : String) (template : Compiled) : Prop :=
  ∃ source, files.readText (templatePath dir name) = .ok source ∧ compile source = .ok template

/-- The file of a template is at fault. -/
inductive Fails (files : Files) (dir name : String) : LoadError → Prop
  | unreadable {cause : FileError} (h : files.readText (templatePath dir name) = .error cause) :
    Fails files dir name (.io (templatePath dir name ++ ": " ++ cause.message))
  | malformed {source : String} {reason : SyntaxError} (hread : files.readText (templatePath dir name) = .ok source)
    (h : compile source = .error reason) : Fails files dir name (.badSource reason)

theorem Fails.not_yields {e : LoadError} (h : Fails files dir name e) (template : Compiled) :
    ¬Yields files dir name template := by
  rintro ⟨source, hread, hcompile⟩
  cases h with
  | unreadable h => cases h.symm.trans hread
  | malformed hsource h =>
    cases hsource.symm.trans hread
    cases h.symm.trans hcompile

theorem Yields.unique {template again : Compiled} (h : Yields files dir name template)
    (hagain : Yields files dir name again) : template = again := by
  obtain ⟨source, hread, hcompile⟩ := h
  obtain ⟨_, hsame, hother⟩ := hagain
  cases hread.symm.trans hsame
  exact Except.ok.inj (hcompile.symm.trans hother)

theorem loadFile_cases (engine : TemplateEngine) (files : Files) (dir name : String) :
    (∃ template, Yields files dir name template ∧ engine.loadFile files dir name = .ok (engine.put name template)) ∨
      ∃ e, Fails files dir name e ∧ engine.loadFile files dir name = .error e := by
  have hpath : Files.join dir (name ++ "." ++ fileExtension) = templatePath dir name := rfl
  simp only [loadFile, register, hpath]
  cases hread : files.readText (templatePath dir name) with
  | error cause => exact .inr ⟨_, .unreadable hread, rfl⟩
  | ok source =>
    dsimp only
    cases hcompile : compile source with
    | error reason => exact .inr ⟨_, .malformed hread hcompile, rfl⟩
    | ok template => exact .inl ⟨template, ⟨source, hread, hcompile⟩, rfl⟩

/-! ### Loading in turn -/

/-- An engine holds the templates of some names as they were loaded, over what another holds. -/
structure Overlays (files : Files) (dir : String) (engine after : TemplateEngine) (names : String → Prop) : Prop where
  loaded (name : String) : names name →
    ∃ template, Yields files dir name template ∧ after.get? name = some template
  kept (name : String) : ¬names name → after.get? name = engine.get? name

theorem overlays_nil (engine : TemplateEngine) : Overlays files dir engine engine (· ∈ []) where
  loaded _ hname := absurd hname List.not_mem_nil
  kept _ _ := rfl

theorem Overlays.cons {rest : List String} {template : Compiled} (hyields : Yields files dir name template)
    (h : Overlays files dir (engine.put name template) after (· ∈ rest)) :
    Overlays files dir engine after (· ∈ name :: rest) where
  loaded other hother := by
    by_cases hrest : other ∈ rest
    · exact h.loaded other hrest
    · obtain rfl : other = name := (List.mem_cons.mp hother).resolve_right hrest
      refine ⟨template, hyields, ?_⟩
      rw [h.kept other hrest, get?_put, if_pos rfl]
  kept other hother := by
    rw [List.mem_cons, not_or] at hother
    rw [h.kept other hother.2, get?_put, if_neg (Ne.symm hother.1)]

theorem loadAll_cases (engine : TemplateEngine) (files : Files) (dir : String) (names : List String) :
    (∃ after, engine.loadAll files dir names = (after, .ok ()) ∧ Overlays files dir engine after (· ∈ names)) ∨
      ∃ before name rest e after, names = before ++ name :: rest ∧ Fails files dir name e ∧
        engine.loadAll files dir names = (after, .error e) ∧ Overlays files dir engine after (· ∈ before) := by
  induction names generalizing engine with
  | nil => exact .inl ⟨engine, rfl, overlays_nil engine⟩
  | cons name names ih =>
    rw [loadAll]
    obtain ⟨template, hyields, hload⟩ | ⟨e, hfails, hload⟩ := engine.loadFile_cases files dir name
    · rw [hload]
      dsimp only
      obtain ⟨after, hall, hover⟩ | ⟨before, failed, rest, e, after, rfl, hfails, hall, hover⟩ :=
        ih (engine.put name template)
      · exact .inl ⟨after, hall, hover.cons hyields⟩
      · exact .inr ⟨name :: before, failed, rest, e, after, rfl, hfails, hall, hover.cons hyields⟩
    · rw [hload]
      exact .inr ⟨[], name, names, e, engine, rfl, hfails, rfl, overlays_nil engine⟩

/-! ### Loading a directory -/

/-- What comes of loading a directory: nothing if it cannot be listed, the templates of all entries, or those of the
entries before the first one that is at fault. -/
inductive Loading (engine : TemplateEngine) (files : Files) (dir : String) :
    TemplateEngine × Except LoadError Nat → Prop
  | unlisted {cause : FileError} (hlist : files.list dir = .error cause) :
    Loading engine files dir (engine, .error (.io (dir ++ ": " ++ cause.message)))
  | loaded {entries : List Bytes} {after : TemplateEngine} (hlist : files.list dir = .ok entries)
      (hover : Overlays files dir engine after (TemplateOf entries)) :
    Loading engine files dir (after, .ok (entries.countP (IsTemplate ·)))
  | stopped {before rest : List Bytes} {file : Bytes} {name : String} {e : LoadError} {after : TemplateEngine}
      (hlist : files.list dir = .ok (before ++ file :: rest)) (hname : NamesTemplate file name)
      (hfails : Fails files dir name e) (hover : Overlays files dir engine after (TemplateOf before)) :
    Loading engine files dir (after, .error e)

theorem Overlays.templates {entries : List Bytes}
    (h : Overlays files dir engine after (· ∈ entries.filterMap nameOfFile?)) :
    Overlays files dir engine after (TemplateOf entries) where
  loaded name hname := h.loaded name (mem_filterMap_nameOfFile?.mpr hname)
  kept name hname := h.kept name (mt mem_filterMap_nameOfFile?.mp hname)

/-- A template that stands among others comes from an entry that stands among others. -/
theorem entries_of_split {entries : List Bytes} {before rest : List String}
    (h : entries.filterMap nameOfFile? = before ++ name :: rest) :
    ∃ front file behind, entries = front ++ file :: behind ∧ NamesTemplate file name ∧
      front.filterMap nameOfFile? = before := by
  obtain ⟨first, second, rfl, hfirst, hsecond⟩ := List.filterMap_eq_append_iff.mp h
  obtain ⟨skipped, file, behind, rfl, hskipped, hname, -⟩ := List.filterMap_eq_cons_iff.mp hsecond
  refine ⟨first ++ skipped, file, behind, (List.append_assoc _ _ _).symm, nameOfFile?_eq_some_iff.mp hname, ?_⟩
  rw [List.filterMap_append, hfirst, List.filterMap_eq_nil_iff.mpr hskipped, List.append_nil]

theorem loading (engine : TemplateEngine) (files : Files) (dir : String) :
    Loading engine files dir (engine.loadDirectory files dir) := by
  rw [loadDirectory]
  cases hlist : files.list dir with
  | error cause => exact .unlisted hlist
  | ok entries =>
    dsimp only
    obtain ⟨after, hall, hover⟩ | ⟨before, name, rest, e, after, hsplit, hfails, hall, hover⟩ :=
      engine.loadAll_cases files dir (entries.filterMap nameOfFile?)
    · rw [hall, length_filterMap_nameOfFile?]
      exact .loaded hlist hover.templates
    · rw [hall]
      obtain ⟨front, file, behind, rfl, hname, rfl⟩ := entries_of_split hsplit
      exact .stopped hlist hname hfails hover.templates

def Loadable (files : Files) (dir : String) : Prop :=
  ∃ entries, files.list dir = .ok entries ∧ ∀ name, TemplateOf entries name → ∃ template, Yields files dir name template

theorem Loading.isOk_iff {result : TemplateEngine × Except LoadError Nat} (h : Loading engine files dir result) :
    (∃ n, result.2 = .ok n) ↔ Loadable files dir := by
  cases h with
  | unlisted hlist =>
    refine iff_of_false nofun ?_
    rintro ⟨entries, hentries, -⟩
    cases hlist.symm.trans hentries
  | loaded hlist hover =>
    refine iff_of_true ⟨_, rfl⟩ ⟨_, hlist, fun name hname => ?_⟩
    obtain ⟨template, hyields, -⟩ := hover.loaded name hname
    exact ⟨template, hyields⟩
  | @stopped before rest file name _ _ hlist hname hfails hover =>
    refine iff_of_false nofun ?_
    rintro ⟨entries, hentries, hall⟩
    cases hlist.symm.trans hentries
    obtain ⟨template, hyields⟩ := hall name ⟨file, List.mem_append_right _ List.mem_cons_self, hname⟩
    exact hfails.not_yields template hyields

/-! ### Two orders -/

/-- Two loadings succeed both or neither, and if they do they count the same and leave the same templates. -/
structure SameLoading (result again : TemplateEngine × Except LoadError Nat) : Prop where
  succeeds : (∃ n, result.2 = .ok n) ↔ ∃ n, again.2 = .ok n
  count (m n : Nat) : result.2 = .ok m → again.2 = .ok n → m = n
  templates (m n : Nat) : result.2 = .ok m → again.2 = .ok n → ∀ name, result.1.get? name = again.1.get? name

theorem yields_iff (h : files.Reordered other) {template : Compiled} :
    Yields other dir name template ↔ Yields files dir name template := by simp only [Yields, h.readText_eq]

theorem templateOf_iff {entries others : List Bytes} (h : entries.Perm others) :
    TemplateOf others name ↔ TemplateOf entries name := by simp only [TemplateOf, h.mem_iff]

theorem Loadable.reordered (h : files.Reordered other) (hloadable : Loadable files dir) : Loadable other dir := by
  obtain ⟨entries, hlist, hall⟩ := hloadable
  obtain ⟨others, hothers, hperm⟩ := h.list_eq_ok hlist
  refine ⟨others, hothers, fun name hname => ?_⟩
  obtain ⟨template, hyields⟩ := hall name ((templateOf_iff hperm).mp hname)
  exact ⟨template, (yields_iff h).mpr hyields⟩

/-- A loading that succeeds has counted and loaded what there is. -/
theorem Loading.of_ok {result : TemplateEngine × Except LoadError Nat} (h : Loading engine files dir result) {n : Nat}
    (hn : result.2 = .ok n) : ∃ entries, files.list dir = .ok entries ∧ n = entries.countP (IsTemplate ·) ∧
      Overlays files dir engine result.1 (TemplateOf entries) := by
  cases h with
  | unlisted hlist => cases hn
  | loaded hlist hover => exact ⟨_, hlist, (Except.ok.inj hn).symm, hover⟩
  | stopped hlist hname hfails hover => cases hn

theorem Overlays.get?_eq (h : files.Reordered other) {entries others : List Bytes} (hperm : entries.Perm others)
    {now : TemplateEngine} (hover : Overlays files dir engine after (TemplateOf entries))
    (hnow : Overlays other dir engine now (TemplateOf others)) (name : String) : after.get? name = now.get? name := by
  by_cases hname : TemplateOf entries name
  · obtain ⟨template, hyields, hget⟩ := hover.loaded name hname
    obtain ⟨again, hsame, hgot⟩ := hnow.loaded name ((templateOf_iff hperm).mpr hname)
    rw [hget, hgot, hyields.unique ((yields_iff h).mp hsame)]
  · rw [hover.kept name hname, hnow.kept name (mt (templateOf_iff hperm).mp hname)]

theorem sameLoading (h : files.Reordered other) (engine : TemplateEngine) (dir : String) :
    SameLoading (engine.loadDirectory files dir) (engine.loadDirectory other dir) := by
  have hfirst := engine.loading files dir
  have hsecond := engine.loading other dir
  have hboth {m n : Nat} (hm : (engine.loadDirectory files dir).2 = .ok m)
      (hn : (engine.loadDirectory other dir).2 = .ok n) :
      m = n ∧ ∀ name, (engine.loadDirectory files dir).1.get? name = (engine.loadDirectory other dir).1.get? name := by
    obtain ⟨entries, hlist, rfl, hover⟩ := hfirst.of_ok hm
    obtain ⟨others, hothers, rfl, hnow⟩ := hsecond.of_ok hn
    obtain ⟨_, hsame, hperm⟩ := h.list_eq_ok hlist
    cases hothers.symm.trans hsame
    exact ⟨hperm.countP_eq _, hover.get?_eq h hperm hnow⟩
  refine ⟨?_, fun m n hm hn => (hboth hm hn).1, fun m n hm hn => (hboth hm hn).2⟩
  rw [hfirst.isOk_iff, hsecond.isOk_iff]
  exact ⟨.reordered h, .reordered h.symm⟩

/-- Loading a directory does not depend on the order in which its entries are listed. It succeeds exactly when each
file of a template can be read and compiles; then it counts these files, which have distinct stems, and lays their
templates over those that were there, and when it fails only those listed before the one at fault. -/
theorem loadDirectory_reordered (h : files.Reordered other) (engine : TemplateEngine) (dir : String) :
    SameLoading (engine.loadDirectory files dir) (engine.loadDirectory other dir) ∧
    ((∃ n, (engine.loadDirectory files dir).2 = .ok n) ↔ Loadable files dir) ∧
    Loading engine files dir (engine.loadDirectory files dir) ∧
    (∀ entries, files.list dir = .ok entries → entries.Nodup) ∧
    ∀ file again name, NamesTemplate file name → NamesTemplate again name → file = again :=
  ⟨sameLoading h engine dir, (engine.loading files dir).isOk_iff, engine.loading files dir,
    fun _ hlist => Files.nodup_of_list h.places hlist, fun _ _ _ hname hagain => hname.file_unique hagain⟩

def shelf : Files where
  entries := [([Bytes.ofText "t"], .directory),
    ([Bytes.ofText "t", Bytes.ofText "tea.hbs"], .file (Bytes.ofText "green")),
    ([Bytes.ofText "t", Bytes.ofText "notes.txt"], .file [0xFF]),
    ([Bytes.ofText "t", Bytes.ofText "mate.v2.hbs"], .file (Bytes.ofText "roasted"))]

def shelfReversed : Files := { shelf with entries := shelf.entries.reverse }

theorem loadDirectory_reordered_shelf : shelf.Reordered shelfReversed ∧
    (empty.loadDirectory shelf "t").2 = .ok 2 ∧ (empty.loadDirectory shelfReversed "t").2 = .ok 2 ∧
    ∀ name, (empty.loadDirectory shelf "t").1.get? name = (empty.loadDirectory shelfReversed "t").1.get? name := by
  have hreordered : shelf.Reordered shelfReversed := ⟨rfl, by decide +kernel, (List.reverse_perm _).symm⟩
  have hsame := (loadDirectory_reordered hreordered empty "t").1
  have hfirst : (empty.loadDirectory shelf "t").2 = .ok 2 := by
    refine ok_of_toOption ?_
    decide +kernel
  obtain ⟨n, hsecond⟩ := hsame.succeeds.mp ⟨2, hfirst⟩
  obtain rfl : 2 = n := hsame.count 2 n hfirst hsecond
  exact ⟨hreordered, hfirst, hsecond, hsame.templates 2 2 hfirst hsecond⟩

end AppServer.TemplateEngine
