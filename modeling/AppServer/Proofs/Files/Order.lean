import AppServer.Files
import AppServer.Proofs.Except
import Mathlib.Data.List.Nodup

/-!
# The order of the entries

A tree in which no place stands twice is the same tree with its entries in any other
order: every path leads where it led, and every file is read as it was. Only the
listings of its directories come in another order.
-/

namespace AppServer

theorem lookup_eq_some_iff_mem {α β : Type} [BEq α] [LawfulBEq α] {entries : List (α × β)}
    (hnodup : (entries.map Prod.fst).Nodup) {key : α} {value : β} :
    entries.lookup key = some value ↔ (key, value) ∈ entries := by
  induction entries with
  | nil => exact iff_of_false nofun List.not_mem_nil
  | cons held rest ih =>
    rw [List.map_cons, List.nodup_cons] at hnodup
    obtain ⟨spot, kept⟩ := held
    rw [List.mem_cons, Prod.mk.injEq]
    by_cases hkey : key = spot
    · subst hkey
      have hrest : (key, value) ∉ rest := fun hmem => hnodup.1 (List.mem_map.mpr ⟨_, hmem, rfl⟩)
      rw [List.lookup_cons_self, Option.some.injEq, or_iff_left hrest, and_iff_right rfl]
      exact eq_comm
    · rw [List.lookup_cons, beq_eq_false_iff_ne.mpr hkey, or_iff_right fun h => hkey h.1]
      exact ih hnodup.2

theorem lookup_eq_of_perm {α β : Type} [BEq α] [LawfulBEq α] {entries others : List (α × β)}
    (hperm : entries.Perm others) (hnodup : (entries.map Prod.fst).Nodup) (key : α) :
    others.lookup key = entries.lookup key := by
  have hothers : (others.map Prod.fst).Nodup := (hperm.map Prod.fst).nodup_iff.mp hnodup
  refine Option.ext fun value => ?_
  rw [lookup_eq_some_iff_mem hothers, lookup_eq_some_iff_mem hnodup, hperm.mem_iff]

namespace Files

/-- No place stands twice in the first tree, and the second one has the same entries, in some order. -/
structure Reordered (files other : Files) : Prop where
  home : other.home = files.home
  places : (files.entries.map Prod.fst).Nodup
  entries : files.entries.Perm other.entries

namespace Reordered

variable {files other : Files}

theorem symm (h : Reordered files other) : Reordered other files where
  home := h.home.symm
  places := (h.entries.map Prod.fst).nodup_iff.mp h.places
  entries := h.entries.symm

theorem at?_eq (h : Reordered files other) (place : Place) : other.at? place = files.at? place := by
  rw [at?, at?, h.home, lookup_eq_of_perm h.entries h.places]

theorem follow_eq (h : Reordered files other) (here : Place) (names : List Bytes) :
    other.follow here names = files.follow here names := by
  induction names generalizing here with
  | nil => rfl
  | cons name rest ih => simp only [follow, ih, h.at?_eq]

theorem resolve_eq (h : Reordered files other) (path : String) : other.resolve path = files.resolve path := by
  simp only [resolve, start, h.home, h.follow_eq]

theorem readText_eq (h : Reordered files other) (path : String) : other.readText path = files.readText path := by
  have hread : other.read path = files.read path := by simp only [read, h.resolve_eq, h.at?_eq]
  rw [readText, readText, hread]

/-- A directory is listed with the same names, or not at all for the same cause. -/
theorem alike_list (h : Reordered files other) (path : String) :
    Alike List.Perm (files.list path) (other.list path) := by
  simp only [list, h.resolve_eq]
  refine (alike_refl (files.resolve path)).bind ?_
  rintro place _ rfl
  rw [h.at?_eq]
  cases files.at? place with
  | none => exact .error FileError.notFound
  | some entry =>
    cases entry with
    | file content => exact .error FileError.notDirectory
    | locked => exact .error FileError.notDirectory
    | directory => exact .ok (h.entries.filterMap _)

theorem list_eq_ok (h : Reordered files other) {path : String} {names : List Bytes}
    (hlist : files.list path = .ok names) :
    ∃ others, other.list path = .ok others ∧ names.Perm others := by
  have halike := h.alike_list path
  rw [hlist] at halike
  generalize other.list path = listed at halike
  cases halike with
  | ok hperm => exact ⟨_, rfl, hperm⟩

end Reordered

theorem nodup_of_list {files : Files} (hplaces : (files.entries.map Prod.fst).Nodup) {path : String}
    {names : List Bytes} (h : files.list path = .ok names) : names.Nodup := by
  obtain ⟨dir, -, h⟩ := bind_eq_ok_iff.mp h
  split at h
  · cases h
  · cases h
  · cases h
  · cases h
    -- a name leads back to the one place that it was taken from
    let nameIn (place : Place) : Option Bytes := if place.dropLast = dir then place.getLast? else none
    have hplace {place : Place} {name : Bytes} (hname : name ∈ nameIn place) : place = dir ++ [name] := by
      obtain ⟨hdir, hlast⟩ := Option.ite_none_right_eq_some.mp hname
      rw [← hdir, List.dropLast_append_getLast? name hlast]
    have hnames : files.entries.filterMap (nameIn ∘ Prod.fst) = (files.entries.map Prod.fst).filterMap nameIn :=
      List.filterMap_map.symm
    show (files.entries.filterMap (nameIn ∘ Prod.fst)).Nodup
    rw [hnames]
    exact hplaces.filterMap fun place other name hname hother => (hplace hname).trans (hplace hother).symm

end Files

end AppServer
