import AppServer.Http.Uri
import AppServer.Proofs.Text.Ascii
import AppServer.Proofs.Text.Cut
import AppServer.Proofs.Url.Base
import Mathlib.Data.List.Basic

/-!
# Paths below a path

A path that a URL keeps as it is stays in front of what follows it, as long as
nothing there leads out of it. So a text behind such a path is read as it would be
without the path, and only the path of the URL differs.
-/

namespace AppServer.Url

/-! ### Plain paths -/

def IsKept (c : Char) : Prop := 0x20 < c.toNat ∧ c.toNat < 0x7F ∧ c ∉ pathEscapes ∧ c ≠ '\\'

instance (c : Char) : Decidable (IsKept c) := inferInstanceAs (Decidable (_ ∧ _))

def isStep (part : List Char) : Bool := plainPoints part = ['.'] || plainPoints part = ['.', '.']

/-- A path in which nothing is escaped and no part leads elsewhere. -/
structure IsPlainPath (base : List Char) : Prop where
  slash : base.head? = some '/'
  kept : ∀ c ∈ base, IsKept c
  steps : (Text.cutAll '/' base).any isStep = false

/-- Whether parts, after `depth` others, lead nowhere above where these started. -/
def staysWithin : Nat → List (List Char) → Bool
  | _, [] => true
  | depth, part :: rest =>
    if plainPoints part = ['.', '.'] then depth ≠ 0 && staysWithin (depth - 1) rest
    else if plainPoints part = ['.'] then staysWithin depth rest
    else staysWithin (depth + 1) rest

def StaysBelow (text : List Char) : Prop :=
  staysWithin 0 ((cutPath true ((tidy text).takeWhile fun c => c ≠ '?' ∧ c ≠ '#')).drop 1) = true

theorem percentEncode_kept {cs : List Char} (h : ∀ c ∈ cs, IsKept c) : percentEncode pathEscapes cs = cs := by
  induction cs with
  | nil => rfl
  | cons c cs ih =>
    obtain ⟨hlow, hhigh, hescape, -⟩ := h c List.mem_cons_self
    have hplain : (c.toNat < 0x20 || 0x7F ≤ c.toNat || c ∈ pathEscapes) = false := by
      simp only [Bool.or_eq_false_iff, decide_eq_false_iff_not]
      exact ⟨⟨by omega, by omega⟩, hescape⟩
    have hrest : percentEncode pathEscapes cs = cs := ih fun d hd => h d (List.mem_cons_of_mem _ hd)
    rw [percentEncode, List.flatMap_cons, hplain, if_neg Bool.false_ne_true, List.singleton_append]
    exact congrArg (c :: ·) hrest

theorem cutPath_kept {cs : List Char} (h : ∀ c ∈ cs, IsKept c) : cutPath true cs = Text.cutAll '/' cs := by
  have hsame : cs.map (fun c => if isSlash true c then '/' else c) = cs := by
    refine (List.map_congr_left fun c hc => ?_).trans (List.map_id cs)
    by_cases hslash : c = '/'
    · rw [hslash]
      rfl
    · have hno : isSlash true c = false := by
        rw [isSlash, Bool.true_and, Bool.or_eq_false_iff]
        exact ⟨decide_eq_false hslash, decide_eq_false (h c hc).2.2.2⟩
      rw [hno, if_neg Bool.false_ne_true]
      rfl
  rw [cutPath, hsame]

/-! ### Steps -/

theorem resolveParts_plain {parts : List (List Char)} (h : parts.any isStep = false) (done rest : List (List Char)) :
    resolveParts done (parts ++ rest) = resolveParts (parts.reverse ++ done) rest := by
  induction parts generalizing done with
  | nil => rfl
  | cons part parts ih =>
    rw [List.any_cons, Bool.or_eq_false_iff, isStep, Bool.or_eq_false_iff, decide_eq_false_iff_not,
      decide_eq_false_iff_not] at h
    obtain ⟨⟨hpoint, hpoints⟩, hparts⟩ := h
    rw [List.cons_append, resolveParts, if_neg hpoints, if_neg hpoint, ih hparts, List.reverse_cons,
      List.append_assoc, List.singleton_append]

theorem resolveParts_append {parts : List (List Char)} (first done : List (List Char))
    (h : staysWithin first.length parts = true) :
    resolveParts (first ++ done) parts = done.reverse ++ resolveParts first parts := by
  -- on the parts; a step up takes from `first` only, which has as many parts as the depth says
  induction parts generalizing first with
  | nil => rw [resolveParts, resolveParts, List.reverse_append]
  | cons part rest ih =>
    rw [staysWithin] at h
    rw [resolveParts, resolveParts]
    split at h
    · next hup =>
      rw [Bool.and_eq_true, decide_eq_true_eq] at h
      obtain ⟨last, first, rfl⟩ := List.exists_cons_of_ne_nil (mt List.length_eq_zero_iff.mpr h.1)
      rw [if_pos hup, if_pos hup, List.cons_append, List.drop_one, List.drop_one, List.tail_cons, List.tail_cons]
      split
      · next hend => exact ih ([] :: first) (by rw [hend, staysWithin])
      · exact ih first h.2
    · next hup =>
      rw [if_neg hup, if_neg hup]
      split at h
      · next hhere =>
        rw [if_pos hhere, if_pos hhere]
        split
        · next hend => exact ih ([] :: first) (by rw [hend, staysWithin])
        · exact ih first h
      · next hhere =>
        rw [if_neg hhere, if_neg hhere]
        exact ih (part :: first) h

theorem resolveParts_ne_nil {parts : List (List Char)} (h : parts ≠ []) (done : List (List Char)) :
    resolveParts done parts ≠ [] := by
  induction parts generalizing done with
  | nil => exact absurd rfl h
  | cons part parts ih =>
    rw [resolveParts]
    cases parts with
    | nil =>
      split
      · simp [resolveParts]
      · split <;> simp [resolveParts]
    | cons next parts =>
      have hne : next :: parts ≠ [] := List.cons_ne_nil next parts
      split
      · exact ih hne _
      · split
        · exact ih hne _
        · exact ih hne _

/-! ### Reading paths -/

theorem readPath_cons (cs : List Char) :
    readPath true ('/' :: cs) = String.ofList ((resolveParts [] (cutPath true cs)).flatMap fun part =>
      '/' :: percentEncode pathEscapes part) := rfl

theorem cutPath_slash (first second : List Char) :
    cutPath true (first ++ '/' :: second) = cutPath true first ++ cutPath true second := by
  rw [cutPath, List.map_append, List.map_cons]
  exact Text.cutAll_append_sep '/' _ _

theorem startsWithSlash_readPath (cs : List Char) : ∃ rest, (readPath true cs).toList = '/' :: rest := by
  cases cs with
  | nil => exact ⟨[], rfl⟩
  | cons c cs =>
    have hne : resolveParts [] (cutPath true (if isSlash true c then cs else c :: cs)) ≠ [] :=
      resolveParts_ne_nil (Text.cutAll_ne_nil '/' _) []
    obtain ⟨part, parts, hparts⟩ := List.exists_cons_of_ne_nil hne
    rw [readPath, hparts, String.toList_ofList, List.flatMap_cons]
    exact ⟨_, rfl⟩

/-- A plain path stays in front of a path that leads nowhere above its start, and is a path by itself. -/
theorem readPath_append {base : List Char} (hbase : IsPlainPath base) {path : List Char}
    (hpath : path = [] ∨ ∃ rest, path = '/' :: rest)
    (hstays : staysWithin 0 ((cutPath true path).drop 1) = true) :
    readPath true (base ++ path) = String.ofList base ++ if path = [] then "" else readPath true path := by
  obtain ⟨own, rfl⟩ : ∃ own, base = '/' :: own := by
    cases base with
    | nil => exact nomatch hbase.slash
    | cons c own => exact ⟨own, congrArg (· :: own) (Option.some.inj hbase.slash)⟩
  have hkept : ∀ c ∈ own, IsKept c := fun c hc => hbase.kept c (List.mem_cons_of_mem _ hc)
  have hsteps : (Text.cutAll '/' own).any isStep = false := by
    have hall := hbase.steps
    rw [Text.cutAll, if_pos rfl, List.any_cons, Bool.or_eq_false_iff] at hall
    exact hall.2
  have hown : ((Text.cutAll '/' own).flatMap fun part => '/' :: percentEncode pathEscapes part) = '/' :: own := by
    rw [← Text.flatMap_cons_cutAll '/' own]
    refine List.flatMap_congr fun part hpart => ?_
    rw [percentEncode_kept fun c hc => hkept c (Text.mem_of_mem_cutAll hpart hc)]
  rcases hpath with rfl | ⟨rest, rfl⟩
  · have hresolved := resolveParts_plain hsteps [] []
    rw [List.append_nil, List.append_nil, resolveParts, List.reverse_reverse] at hresolved
    rw [List.append_nil, readPath_cons, cutPath_kept hkept, hresolved, hown, if_pos rfl, String.append_empty]
  · have hbelow : staysWithin 0 (cutPath true rest) = true := by
      have hcut : cutPath true ('/' :: rest) = [] :: cutPath true rest := cutPath_slash [] rest
      rwa [hcut, List.drop_one, List.tail_cons] at hstays
    have hresolved : resolveParts [] (Text.cutAll '/' own ++ cutPath true rest) =
        Text.cutAll '/' own ++ resolveParts [] (cutPath true rest) := by
      have happend := resolveParts_append [] (Text.cutAll '/' own).reverse hbelow
      rw [List.nil_append, List.reverse_reverse] at happend
      rw [resolveParts_plain hsteps, List.append_nil, happend]
    rw [List.cons_append, readPath_cons, cutPath_slash, cutPath_kept hkept, hresolved, List.flatMap_append, hown,
      if_neg (List.cons_ne_nil '/' rest), readPath_cons, String.ofList_append]

/-! ### Reading URLs -/

/-- A path that lies below another one as a given path lies below the root. -/
def LiesBelow (base plain path : String) : Prop := path = base ++ plain ∨ base ≠ "" ∧ path = base ∧ plain = "/"

theorem pathStart_cases {rest : List Char} (h : StartsBehind rest) :
    rest.takeWhile (fun c => c ≠ '?' ∧ c ≠ '#') = [] ∨
      ∃ more, rest.takeWhile (fun c => c ≠ '?' ∧ c ≠ '#') = '/' :: more := by
  cases rest with
  | nil => exact .inl rfl
  | cons c rest =>
    rcases h c rfl with rfl | rfl | rfl
    · exact .inr ⟨_, rfl⟩
    · exact .inl rfl
    · exact .inl rfl

/-- Behind a plain path a text is read as it would be without the path, and the path of the URL lies below it. -/
theorem ofPlace_append {base : String} (hbase : IsPlainPath base.toList) (host : Host) (port : Nat) {rest : List Char}
    (hrest : StartsBehind rest)
    (hstays : staysWithin 0 ((cutPath true (rest.takeWhile fun c => c ≠ '?' ∧ c ≠ '#')).drop 1) = true) :
    ∃ path, ofPlace host port (base.toList ++ rest) = { ofPlace host port rest with path } ∧
      LiesBelow base (ofPlace host port rest).path path := by
  have hinside : ∀ c ∈ base.toList, (decide (c ≠ '?' ∧ c ≠ '#')) = true := by
    intro c hc
    have hescape := (hbase.kept c hc).2.2.1
    refine decide_eq_true ⟨?_, ?_⟩
    all_goals
      rintro rfl
      exact hescape (by decide)
  have htake : (base.toList ++ rest).takeWhile (fun c => c ≠ '?' ∧ c ≠ '#') =
      base.toList ++ rest.takeWhile fun c => c ≠ '?' ∧ c ≠ '#' := List.takeWhile_append_of_pos hinside
  have hpath := pathStart_cases hrest
  generalize hgiven : rest.takeWhile (fun c => c ≠ '?' ∧ c ≠ '#') = path at htake hpath hstays
  have hread := readPath_append hbase hpath hstays
  have hplain : (ofPlace host port rest).path = readPath true path := congrArg (readPath true) hgiven
  refine ⟨readPath true (base.toList ++ path), ?_, ?_⟩
  · have hbehind : (base.toList ++ rest).drop (base.toList ++ path).length = rest.drop path.length := by
      rw [List.length_append, List.drop_length_add_append]
    simp only [ofPlace, htake, hbehind, hgiven]
    rfl
  · rw [hplain, hread, String.ofList_toList]
    split
    · next hnil =>
      refine .inr ⟨?_, String.append_empty, by rw [hnil]; rfl⟩
      rintro rfl
      exact nomatch hbase.slash
    · exact .inl rfl

/-! ### Targets -/

theorem all_percentEncode {p : Char → Bool} {escaped : List Char} (hpercent : p '%' = true)
    (hdigit : ∀ n < 16, p (Char.ofNat (Http.Form.upperHex n).toNat) = true)
    (hplain : ∀ n < 127, 32 ≤ n → Char.ofNat n ∉ escaped → p (Char.ofNat n) = true) (cs : List Char) :
    (percentEncode escaped cs).all p = true := by
  rw [List.all_eq_true, percentEncode]
  intro c hc
  obtain ⟨own, -, hown⟩ := List.mem_flatMap.mp hc
  split at hown
  · obtain ⟨b, -, hb⟩ := List.mem_flatMap.mp hown
    have hbyte := b.toNat_lt
    simp only [List.mem_cons, List.not_mem_nil, or_false] at hb
    rcases hb with rfl | rfl | rfl
    · exact hpercent
    · exact hdigit _ (by omega)
    · exact hdigit _ (by omega)
  · next hkept =>
    obtain rfl := List.mem_singleton.mp hown
    simp only [Bool.or_eq_true, decide_eq_true_eq, not_or, not_lt, not_le] at hkept
    have hchar := hplain c.toNat hkept.1.2 hkept.1.1
    rw [Char.ofNat_toNat] at hchar
    exact hchar hkept.2

theorem all_isPathChar_readPath (cs : List Char) : (readPath true cs).toList.all Http.isPathChar = true := by
  have hencoded (part : List Char) : (percentEncode pathEscapes part).all Http.isPathChar = true :=
    all_percentEncode (by decide) (by decide) (by decide +kernel) part
  cases cs with
  | nil => decide
  | cons c cs =>
    rw [readPath, String.toList_ofList, List.all_flatMap, List.all_eq_true]
    intro part _
    rw [List.all_cons, hencoded, Bool.and_true]
    decide

theorem isUri_ofPlace (host : Host) (port : Nat) (rest : List Char) :
    (⟨none, (ofPlace host port rest).path, (ofPlace host port rest).query⟩ : Http.Target).IsUri where
  path := all_isPathChar_readPath _
  query := by
    rw [ofPlace, Url.withRest]
    dsimp only
    split
    · rw [Option.all_some, String.toList_ofList]
      exact all_percentEncode (by decide) (by decide) (by decide +kernel) _
    · rfl
  pathless := by
    intro hpath
    obtain ⟨more, hmore⟩ := startsWithSlash_readPath (rest.takeWhile fun c => c ≠ '?' ∧ c ≠ '#')
    have hempty : (readPath true (rest.takeWhile fun c => c ≠ '?' ∧ c ≠ '#')).toList = [] :=
      congrArg String.toList hpath
    exact absurd (hmore.symm.trans hempty) (List.cons_ne_nil _ _)
  form := nofun

end AppServer.Url
