import AppServer.Text.Blank
import AppServer.Text.Cut
import Mathlib.Data.List.TakeWhile

/-!
# Cutting and trimming undone

Cutting a text at a separator undoes joining parts that do not hold it, and a
first cut is known by the part before it. A fixed start or end is dropped from the
texts that have it. Trimming takes off the blanks that were put around a core, and
every text is its trimmed core with blanks around it.
-/

namespace AppServer.Text

/-! ### Cutting -/

/-- What cuts lists one element at a time is the splitting of lists. -/
theorem eq_splitOn_of_cut {α : Type} [DecidableEq α] {sep : α} {cut : List α → List (List α)}
    (hnil : cut [] = [[]]) (hsep : ∀ rest, cut (sep :: rest) = [] :: cut rest)
    (hother : ∀ x rest part parts, x ≠ sep → cut rest = part :: parts →
      cut (x :: rest) = (x :: part) :: parts) (xs : List α) : cut xs = xs.splitOn sep := by
  induction xs with
  | nil => exact hnil
  | cons x rest ih =>
    rw [List.splitOn_cons_eq_if_modifyHead]
    by_cases h : x = sep
    · rw [if_pos (beq_iff_eq.mpr h), h, hsep, ih]
    · rw [if_neg (fun heq => h (beq_iff_eq.mp heq))]
      cases hrest : rest.splitOn sep with
      | nil => exact absurd hrest (List.splitOn_ne_nil sep rest)
      | cons part parts => exact hother x rest part parts h (ih.trans hrest)

theorem cutAll_eq_splitOn (sep : Char) (cs : List Char) : cutAll sep cs = cs.splitOn sep := by
  refine eq_splitOn_of_cut rfl (fun rest => ?_) (fun c rest part parts h hrest => ?_) cs
  · rw [cutAll, if_pos rfl]
  · rw [cutAll, if_neg h, hrest]

theorem cutAll_intercalate {sep : Char} {parts : List (List Char)} (hne : parts ≠ [])
    (hfree : ∀ part ∈ parts, sep ∉ part) : cutAll sep (List.intercalate [sep] parts) = parts := by
  rw [cutAll_eq_splitOn]
  exact List.splitOn_intercalate sep hfree hne

theorem intercalate_cutAll (sep : Char) (cs : List Char) :
    List.intercalate [sep] (cutAll sep cs) = cs := by
  rw [cutAll_eq_splitOn]
  exact List.intercalate_splitOn sep

theorem cutAll_append_sep (sep : Char) (front behind : List Char) :
    cutAll sep (front ++ sep :: behind) = cutAll sep front ++ cutAll sep behind := by
  induction front with
  | nil => rw [List.nil_append, cutAll, cutAll, if_pos rfl, List.singleton_append]
  | cons c front ih =>
    rw [List.cons_append, cutAll, cutAll, ih]
    split
    · rw [List.cons_append]
    · cases hfront : cutAll sep front with
      | nil => exact absurd hfront (cutAll_ne_nil sep front)
      | cons part parts => rfl

theorem flatMap_cons_cutAll (sep : Char) (cs : List Char) :
    ((cutAll sep cs).flatMap fun part => sep :: part) = sep :: cs := by
  induction cs with
  | nil => rfl
  | cons c cs ih =>
    rw [cutAll]
    split
    · next hsep => rw [List.flatMap_cons, ih, hsep, List.singleton_append]
    · cases hrest : cutAll sep cs with
      | nil => exact absurd hrest (cutAll_ne_nil sep cs)
      | cons part parts =>
        rw [hrest, List.flatMap_cons, List.cons_append, List.cons.injEq] at ih
        rw [List.flatMap_cons, List.cons_append, List.cons_append, ih.2]

theorem mem_of_mem_cutAll {sep c : Char} {cs part : List Char} (hpart : part ∈ cutAll sep cs) (hc : c ∈ part) :
    c ∈ cs := by
  induction cs generalizing part with
  | nil =>
    rw [cutAll, List.mem_singleton] at hpart
    rwa [hpart] at hc
  | cons d rest ih =>
    rw [cutAll] at hpart
    split at hpart
    · rcases List.mem_cons.mp hpart with rfl | hpart
      · exact absurd hc List.not_mem_nil
      · exact List.mem_cons_of_mem _ (ih hpart hc)
    · cases hrest : cutAll sep rest with
      | nil => exact absurd hrest (cutAll_ne_nil sep rest)
      | cons first parts =>
        rw [hrest] at hpart ih
        rcases List.mem_cons.mp hpart with rfl | hpart
        · rcases List.mem_cons.mp hc with rfl | hc
          · exact List.mem_cons_self
          · exact List.mem_cons_of_mem _ (ih List.mem_cons_self hc)
        · exact List.mem_cons_of_mem _ (ih (List.mem_cons_of_mem _ hpart) hc)

theorem not_mem_of_mem_cutAll {sep : Char} {cs part : List Char} (h : part ∈ cutAll sep cs) :
    sep ∉ part := by
  induction cs generalizing part with
  | nil =>
    rw [cutAll, List.mem_singleton] at h
    rw [h]
    exact List.not_mem_nil
  | cons c rest ih =>
    rw [cutAll] at h
    split at h
    · rcases List.mem_cons.mp h with rfl | h
      · exact List.not_mem_nil
      · exact ih h
    · next hc =>
      cases hrest : cutAll sep rest with
      | nil => exact absurd hrest (cutAll_ne_nil sep rest)
      | cons first parts =>
        rw [hrest] at h ih
        rcases List.mem_cons.mp h with rfl | h
        · rw [List.mem_cons, not_or]
          exact ⟨Ne.symm hc, ih List.mem_cons_self⟩
        · exact ih (List.mem_cons_of_mem _ h)

theorem cutFirst_eq_some_iff {sep : Char} {cs before after : List Char} :
    cutFirst sep cs = some (before, after) ↔ cs = before ++ sep :: after ∧ sep ∉ before := by
  constructor
  · intro h
    induction cs generalizing before with
    | nil => cases h
    | cons c rest ih =>
      rw [cutFirst] at h
      split at h
      · next hc =>
        cases h
        exact ⟨by rw [hc, List.nil_append], List.not_mem_nil⟩
      · next hc =>
        obtain ⟨parts, hrest, hparts⟩ := Option.map_eq_some_iff.mp h
        cases hparts
        obtain ⟨heq, hnot⟩ := ih hrest
        refine ⟨by rw [heq, List.cons_append], ?_⟩
        rw [List.mem_cons, not_or]
        exact ⟨Ne.symm hc, hnot⟩
  · rintro ⟨rfl, hnot⟩
    exact cutFirst_append hnot after

theorem cutFirst_eq_none_iff {sep : Char} {cs : List Char} : cutFirst sep cs = none ↔ sep ∉ cs := by
  constructor
  · intro h hmem
    obtain ⟨before, after, rfl, hnot⟩ := List.eq_append_cons_of_mem hmem
    rw [cutFirst_append hnot] at h
    cases h
  · intro h
    cases hcut : cutFirst sep cs with
    | none => rfl
    | some parts =>
      obtain ⟨heq, -⟩ := cutFirst_eq_some_iff.mp hcut
      have hmem : sep ∈ cs := by
        rw [heq]
        exact List.mem_append_right _ List.mem_cons_self
      exact absurd hmem h

/-! ### Fixed starts and ends -/

theorem dropStart?_eq_some_iff {α : Type} [BEq α] [LawfulBEq α] {start cs rest : List α} :
    dropStart? start cs = some rest ↔ cs = start ++ rest := by
  induction start generalizing cs with
  | nil => rw [dropStart?, Option.some.injEq, List.nil_append]
  | cons p start ih =>
    cases cs with
    | nil => exact iff_of_false nofun nofun
    | cons c cs =>
      rw [dropStart?, List.cons_append, List.cons.injEq]
      by_cases h : p = c
      · rw [if_pos (beq_iff_eq.mpr h), ih, and_iff_right h.symm]
      · rw [if_neg (fun heq => h (beq_iff_eq.mp heq))]
        exact iff_of_false nofun fun heq => h heq.1.symm

theorem dropEnd?_eq_some_iff {α : Type} [BEq α] [LawfulBEq α] {tail cs front : List α} :
    dropEnd? tail cs = some front ↔ cs = front ++ tail := by
  rw [dropEnd?, Option.map_eq_some_iff]
  simp only [dropStart?_eq_some_iff]
  constructor
  · rintro ⟨rest, hrest, rfl⟩
    rw [← List.reverse_reverse cs, hrest, List.reverse_append, List.reverse_reverse]
  · rintro rfl
    exact ⟨front.reverse, List.reverse_append, List.reverse_reverse front⟩

/-! ### Trimming -/

structure Trimmed (core : List Char) : Prop where
  start : ∀ c, core.head? = some c → isBlank c = false
  finish : ∀ c, core.getLast? = some c → isBlank c = false

theorem trimmed_of_forall {core : List Char} (h : ∀ c ∈ core, isBlank c = false) : Trimmed core where
  start c hc := h c (List.mem_of_head? hc)
  finish c hc := h c (List.mem_of_getLast? hc)

theorem dropWhile_blanks {before core : List Char} (hbefore : ∀ c ∈ before, isBlank c = true)
    (hcore : ∀ c, core.head? = some c → isBlank c = false) :
    (before ++ core).dropWhile isBlank = core := by
  rw [List.dropWhile_append_of_pos hbefore]
  cases core with
  | nil => rfl
  | cons c rest => rw [List.dropWhile_cons_of_neg (by simp [hcore c rfl])]

theorem trimChars_append {before core after : List Char} (hbefore : ∀ c ∈ before, isBlank c = true)
    (hcore : Trimmed core) (hafter : ∀ c ∈ after, isBlank c = true) :
    trimChars (before ++ core ++ after) = core := by
  have hreverse : ∀ c ∈ after.reverse, isBlank c = true := fun c hc => hafter c (List.mem_reverse.mp hc)
  have hlast : ∀ c, core.reverse.head? = some c → isBlank c = false := by
    intro c hc
    rw [List.head?_reverse] at hc
    exact hcore.finish c hc
  have hend : trimEnd (core ++ after) = core := by
    rw [trimEnd, List.reverse_append, dropWhile_blanks hreverse hlast, List.reverse_reverse]
  rw [trimChars, trimStart, List.append_assoc]
  cases core with
  | nil =>
    have hall : ∀ c ∈ before ++ after, isBlank c = true := by
      intro c hc
      rcases List.mem_append.mp hc with hc | hc
      · exact hbefore c hc
      · exact hafter c hc
    rw [List.nil_append, List.dropWhile_eq_nil_iff.mpr hall]
    rfl
  | cons c rest =>
    have hstart : ∀ d, (c :: rest ++ after).head? = some d → isBlank d = false :=
      fun d hd => hcore.start d hd
    rw [dropWhile_blanks hbefore hstart, hend]

theorem trimmed_trimChars (cs : List Char) : Trimmed (trimChars cs) where
  start c hc := by
    have hstart : ∀ d, (trimStart cs).head? = some d → isBlank d = false := by
      intro d hd
      have hnot := List.head?_dropWhile_not isBlank cs
      rw [trimStart] at hd
      rw [hd] at hnot
      simpa using hnot
    -- what is left of a text at its end starts as the text does
    have hprefix : trimChars cs <+: trimStart cs := by
      rw [trimChars, trimEnd, ← List.reverse_suffix, List.reverse_reverse]
      exact List.dropWhile_suffix isBlank
    obtain ⟨rest, hrest⟩ := hprefix
    refine hstart c ?_
    rw [← hrest, List.head?_append, hc]
    rfl
  finish c hc := by
    have hnot := List.head?_dropWhile_not isBlank (trimStart cs).reverse
    rw [trimChars, trimEnd, List.getLast?_reverse] at hc
    rw [hc] at hnot
    simpa using hnot

theorem exists_blanks_around (cs : List Char) : ∃ before after : List Char,
    (∀ c ∈ before, isBlank c = true) ∧ (∀ c ∈ after, isBlank c = true) ∧
      cs = before ++ trimChars cs ++ after := by
  refine ⟨cs.takeWhile isBlank, ((trimStart cs).reverse.takeWhile isBlank).reverse, ?_, ?_, ?_⟩
  · exact fun c hc => List.mem_takeWhile_imp hc
  · exact fun c hc => List.mem_takeWhile_imp (List.mem_reverse.mp hc)
  · have hback := congrArg List.reverse
      (List.takeWhile_append_dropWhile (p := isBlank) (l := (trimStart cs).reverse))
    rw [List.reverse_append, List.reverse_reverse] at hback
    rw [trimChars, trimEnd, List.append_assoc, hback, trimStart]
    exact List.takeWhile_append_dropWhile.symm

theorem trimChars_eq_iff {cs core : List Char} : trimChars cs = core ↔ Trimmed core ∧
    ∃ before after : List Char, (∀ c ∈ before, isBlank c = true) ∧ (∀ c ∈ after, isBlank c = true) ∧
      cs = before ++ core ++ after := by
  constructor
  · rintro rfl
    exact ⟨trimmed_trimChars cs, exists_blanks_around cs⟩
  · rintro ⟨hcore, before, after, hbefore, hafter, rfl⟩
    exact trimChars_append hbefore hcore hafter

theorem trim_of_trimmed {s : String} (h : Trimmed s.toList) : trim s = s := by
  have hcore : trimChars s.toList = s.toList :=
    trimChars_eq_iff.mpr ⟨h, [], [], List.forall_mem_nil _, List.forall_mem_nil _, (List.append_nil _).symm⟩
  rw [trim, hcore, String.ofList_toList]

theorem trimmed_trim (s : String) : Trimmed (trim s).toList := by
  rw [trim_toList]
  exact trimmed_trimChars s.toList

end AppServer.Text
