import AppServer.Network
import AppServer.Proofs.Except
import AppServer.Proofs.Url.Base
import Mathlib.Data.List.Basic

/-!
# Hosts that a machine knows

The machine knows itself by name, and every host by its address. In brackets if
it is an IPv6 literal, such a host is the place of an authority: the port behind
it is read as it was written.
-/

namespace AppServer

open Url

/-! ### Characters of known hosts -/

theorem isAlphanum_of_hexValue {c : Char} {n : Nat} (h : Json.hexValue c = some n) : c.isAlphanum = true := by
  have hall : ∀ m < 128, (Json.hexValue (Char.ofNat m)).isSome = true → (Char.ofNat m).isAlphanum = true := by
    decide
  have hascii : c.toNat < 128 := by
    have hrange : c.val ≤ 'f'.val := by
      simp only [Json.hexValue] at h
      split at h
      · next hc => exact UInt32.le_trans hc.2 (by decide)
      split at h
      · next hc => exact hc.2
      split at h
      · next hc => exact UInt32.le_trans hc.2 (by decide)
      · cases h
    exact Nat.lt_of_le_of_lt (UInt32.le_iff_toNat_le.mp hrange) (by decide)
  exact forall_ascii (P := fun c => (Json.hexValue c).isSome = true → c.isAlphanum = true) hall hascii
    (by rw [h, Option.isSome_some])

theorem forall_of_foldlM {f : Nat → Char → Option Nat} {P : Char → Prop}
    (hf : ∀ n c m, f n c = some m → P c) {cs : List Char} {n m : Nat} (h : cs.foldlM f n = some m) :
    ∀ c ∈ cs, P c := by
  induction cs generalizing n with
  | nil => exact fun c hc => absurd hc List.not_mem_nil
  | cons c rest ih =>
    rw [List.foldlM_cons, Option.bind_eq_bind, Option.bind_eq_some_iff] at h
    obtain ⟨next, hnext, hrest⟩ := h
    rw [List.forall_mem_cons]
    exact ⟨hf n c next hnext, ih hrest⟩

theorem forall_of_cutAll {sep : Char} {P : Char → Prop} (hsep : P sep) {cs : List Char}
    (h : ∀ part ∈ Text.cutAll sep cs, ∀ c ∈ part, P c) : ∀ c ∈ cs, P c := by
  induction cs with
  | nil => exact fun c hc => absurd hc List.not_mem_nil
  | cons c rest ih =>
    rw [Text.cutAll] at h
    rw [List.forall_mem_cons]
    split at h
    · next heq =>
      rw [List.forall_mem_cons] at h
      exact ⟨heq ▸ hsep, ih h.2⟩
    · split at h
      · next hnil => exact absurd hnil (Text.cutAll_ne_nil sep rest)
      · next part parts hparts =>
        rw [List.forall_mem_cons, List.forall_mem_cons] at h
        refine ⟨h.1.1, ih ?_⟩
        rw [hparts, List.forall_mem_cons]
        exact ⟨h.1.2, h.2⟩

theorem forall_of_partValue? {cs : List Char} (h : (partValue? cs).isSome = true) :
    ∀ c ∈ cs, c.isAlphanum = true := by
  obtain ⟨value, hvalue⟩ := Option.isSome_iff_exists.mp h
  rw [partValue?] at hvalue
  split at hvalue
  · cases hvalue
  · have hdigits : ∀ c ∈ (partDigits cs).2, c.isAlphanum = true := by
      refine forall_of_foldlM (fun n c m hstep => ?_) hvalue
      obtain ⟨digit, hdigit, -⟩ := Option.bind_eq_some_iff.mp hstep
      exact isAlphanum_of_hexValue hdigit
    unfold partDigits at hdigits
    split at hdigits
    · simpa using hdigits
    · simpa using hdigits
    · simpa using hdigits
    · exact hdigits

theorem forall_of_readAddress? {cs : List Char} (h : (readAddress? cs).isSome = true) :
    cs ≠ [] ∧ ∀ c ∈ cs, c.isAlphanum = true ∨ c = '.' := by
  have hlabels : ∀ part ∈ labels cs, (partValue? part).isSome = true := by
    obtain ⟨address, haddress⟩ := Option.isSome_iff_exists.mp h
    simp only [readAddress?, Option.bind_eq_bind] at haddress
    split at haddress
    · cases haddress
    · obtain ⟨values, hvalues, -⟩ := Option.bind_eq_some_iff.mp haddress
      intro part hpart
      obtain ⟨value, -, hvalue⟩ := (mem_of_mapM hvalues).1 part hpart
      rw [hvalue, Option.isSome_some]
  constructor
  · rintro rfl
    have hnone := hlabels [] (by decide)
    revert hnone
    decide
  · refine forall_of_cutAll (.inr rfl) fun part hpart c hc => .inl ?_
    simp only [labels] at hlabels
    split at hlabels
    · next hlast =>
      -- only an empty label does not count
      rw [← List.dropLast_append_getLast? [] hlast.1, List.mem_append, List.mem_singleton] at hpart
      rcases hpart with hpart | rfl
      · exact forall_of_partValue? (hlabels part hpart) c hc
      · exact absurd hc List.not_mem_nil
    · exact forall_of_partValue? (hlabels part hpart) c hc

theorem forall_of_readGroup {cs : List Char} (h : (Ipv6.readGroup cs).isSome = true) :
    ∀ c ∈ cs, c.isAlphanum = true := by
  obtain ⟨value, hvalue⟩ := Option.isSome_iff_exists.mp h
  rw [Ipv6.readGroup] at hvalue
  split at hvalue
  · cases hvalue
  · refine forall_of_foldlM (fun n c m hstep => ?_) hvalue
    obtain ⟨digit, hdigit, -⟩ := Option.map_eq_some_iff.mp hstep
    exact isAlphanum_of_hexValue hdigit

theorem forall_of_readPart {cs : List Char} (h : (Ipv6.readPart cs).isSome = true) :
    ∀ c ∈ cs, c.isAlphanum = true := by
  rw [Ipv6.readPart] at h
  split at h
  · cases h
  · next hdigits =>
    have hall : cs.all Char.isDigit = true := by
      cases hcs : cs.all Char.isDigit with
      | true => rfl
      | false => exact (hdigits (.inr (.inr (.inl (by rw [hcs, Bool.not_false]))))).elim
    intro c hc
    rw [Char.isAlphanum, List.all_eq_true.mp hall c hc, Bool.or_true]

theorem forall_of_readIpv4 {cs : List Char} (h : (Ipv6.readIpv4 cs).isSome = true) :
    ∀ c ∈ cs, c.isAlphanum = true ∨ c = '.' := by
  obtain ⟨groups, hgroups⟩ := Option.isSome_iff_exists.mp h
  rw [Ipv6.readIpv4] at hgroups
  split at hgroups
  · next first second third fourth hcut =>
    simp only [Option.bind_eq_bind, Option.bind_eq_some_iff] at hgroups
    obtain ⟨_, hfirst, _, hsecond, _, hthird, _, hfourth, -⟩ := hgroups
    refine forall_of_cutAll (.inr rfl) fun part hpart c hc => .inl ?_
    refine forall_of_readPart (Option.isSome_iff_exists.mpr ?_) c hc
    rw [hcut] at hpart
    simp only [List.mem_cons, List.not_mem_nil, or_false] at hpart
    rcases hpart with rfl | rfl | rfl | rfl
    · exact ⟨_, hfirst⟩
    · exact ⟨_, hsecond⟩
    · exact ⟨_, hthird⟩
    · exact ⟨_, hfourth⟩
  · cases hgroups

theorem forall_of_readGroups {mayEnd : Bool} {parts : List (List Char)}
    (h : (Ipv6.readGroups mayEnd parts).isSome = true) :
    ∀ part ∈ parts, ∀ c ∈ part, c.isAlphanum = true ∨ c = '.' := by
  fun_induction Ipv6.readGroups mayEnd parts with
  | case1 => exact fun part hpart => absurd hpart List.not_mem_nil
  | case2 part group hgroup =>
    rw [List.forall_mem_singleton]
    exact fun c hc => .inl (forall_of_readGroup (by rw [hgroup, Option.isSome_some]) c hc)
  | case3 part hgroup hmay a b c d hfour =>
    rw [List.forall_mem_singleton]
    exact forall_of_readIpv4 (by rw [hfour, Option.isSome_some])
  | case4 => cases h
  | case5 => cases h
  | case6 part rest hrest ih =>
    obtain ⟨groups, hgroups⟩ := Option.isSome_iff_exists.mp h
    simp only [Option.bind_eq_bind, Option.bind_eq_some_iff] at hgroups
    obtain ⟨_, hgroup, _, hothers, -⟩ := hgroups
    rw [List.forall_mem_cons]
    refine ⟨fun c hc => .inl (forall_of_readGroup (by rw [hgroup, Option.isSome_some]) c hc), ih ?_⟩
    rw [hothers, Option.isSome_some]

theorem forall_of_readSide {mayEnd : Bool} {cs : List Char} (h : (Ipv6.readSide mayEnd cs).isSome = true) :
    ∀ c ∈ cs, c.isAlphanum = true ∨ c = '.' ∨ c = ':' := by
  rw [Ipv6.readSide] at h
  split at h
  · next hempty =>
    rw [hempty]
    exact fun c hc => absurd hc List.not_mem_nil
  · refine forall_of_cutAll (.inr (.inr rfl)) fun part hpart c hc => ?_
    rcases forall_of_readGroups h part hpart c hc with halnum | hpoint
    · exact .inl halnum
    · exact .inr (.inl hpoint)

theorem eq_append_of_cutGap {cs before after : List Char} (h : Ipv6.cutGap cs = some (before, after)) :
    cs = before ++ ':' :: ':' :: after := by
  fun_induction Ipv6.cutGap cs generalizing before with
  | case1 rest =>
    cases h
    rfl
  | case2 c rest hgap ih =>
    obtain ⟨⟨front, back⟩, hfound, heq⟩ := Option.map_eq_some_iff.mp h
    cases heq
    rw [ih hfound, List.cons_append]
  | case3 => cases h

theorem forall_of_isLiteral {host : String} (h : Ipv6.isLiteral host = true) :
    ∀ c ∈ host.toList, c.isAlphanum = true ∨ c = '.' ∨ c = ':' := by
  obtain ⟨groups, hgroups⟩ := Option.isSome_iff_exists.mp h
  rw [Ipv6.parse?] at hgroups
  split at hgroups
  · rw [Option.bind_eq_bind, Option.bind_eq_some_iff] at hgroups
    obtain ⟨side, hside, -⟩ := hgroups
    exact forall_of_readSide (by rw [hside, Option.isSome_some])
  · next before after hgap =>
    simp only [Option.bind_eq_bind, Option.bind_eq_some_iff] at hgroups
    obtain ⟨front, hfront, back, hback, -⟩ := hgroups
    intro c hc
    rw [eq_append_of_cutGap hgap, List.mem_append, List.mem_cons, List.mem_cons] at hc
    rcases hc with hc | rfl | rfl | hc
    · exact forall_of_readSide (by rw [hfront, Option.isSome_some]) c hc
    · exact .inr (.inr rfl)
    · exact .inr (.inr rfl)
    · exact forall_of_readSide (by rw [hback, Option.isSome_some]) c hc

theorem plain_of_isLiteral {host : String} (h : Ipv6.isLiteral host = true) :
    ∀ c ∈ host.toList, c ≠ '[' ∧ c ≠ ']' ∧ c ≠ '/' := by
  intro c hc
  rcases forall_of_isLiteral h c hc with halnum | rfl | rfl
  · refine ⟨?_, ?_, ?_⟩
    all_goals
      rintro rfl
      revert halnum
      decide
  all_goals decide

/-! ### Places of known hosts -/

def placeOf (host : String) : List Char :=
  if Ipv6.isLiteral host then '[' :: host.toList ++ [']'] else host.toList

theorem plain_of_toLower {c : Char} (h : c.toLower.isAlphanum = true ∨ c.toLower = '.') :
    c.isAlphanum = true ∨ c = '.' := by
  unfold Char.toLower at h
  split at h
  · next hupper =>
    left
    have hc : c.isUpper = true := decide_eq_true hupper
    have halnum : c.isAlphanum = (c.isUpper || c.isLower || c.isDigit) := rfl
    rw [halnum, hc, Bool.true_or, Bool.true_or]
  · exact h

theorem hostChars_of_plain {name : List Char} (hplain : ∀ c ∈ name, c ≠ ':' ∧ c ≠ '[' ∧ c ≠ ']')
    (rest : List Char) : hostChars false (name ++ ':' :: rest) = name := by
  induction name with
  | nil => rfl
  | cons c name ih =>
    rw [List.forall_mem_cons] at hplain
    obtain ⟨⟨hcolon, hopen, hclose⟩, hname⟩ := hplain
    rw [List.cons_append, hostChars, if_neg (by simp [hcolon]), if_neg hopen, if_neg hclose, ih hname]

theorem hostChars_of_bracketed {inner : List Char} (hinner : ∀ c ∈ inner, c ≠ '[' ∧ c ≠ ']') (rest : List Char) :
    hostChars true (inner ++ ']' :: ':' :: rest) = inner ++ [']'] := by
  induction inner with
  | nil => rfl
  | cons c inner ih =>
    rw [List.forall_mem_cons] at hinner
    obtain ⟨⟨hopen, hclose⟩, hinner⟩ := hinner
    rw [List.cons_append, hostChars, if_neg (by simp), if_neg hopen, if_neg hclose, ih hinner, List.cons_append]

theorem isPlace_bracketed {host : String} (h : Ipv6.isLiteral host = true) :
    IsPlace ('[' :: host.toList ++ [']']) := by
  have hchars := forall_of_isLiteral h
  refine ⟨List.cons_ne_nil _ _, ?_, fun rest => ?_⟩
  · intro c hc
    rw [List.mem_append, List.mem_cons, List.mem_singleton] at hc
    unfold IsPlaceChar
    rcases hc with (rfl | hc) | rfl
    · simp
    · rcases hchars c hc with halnum | rfl | rfl
      · exact .inl halnum
      all_goals simp
    · simp
  · have hinner : ∀ c ∈ host.toList, c ≠ '[' ∧ c ≠ ']' := by
      intro c hc
      obtain ⟨hopen, hclose, -⟩ := plain_of_isLiteral h c hc
      exact ⟨hopen, hclose⟩
    rw [List.append_assoc, List.cons_append, hostChars, if_neg (by simp), if_pos rfl, List.cons_append,
      List.nil_append, hostChars_of_bracketed hinner, List.cons_append]

theorem isPlace_of_plain {name : List Char} (hne : name ≠ [])
    (hplain : ∀ c ∈ name, c.isAlphanum = true ∨ c = '.') : IsPlace name := by
  refine ⟨hne, ?_, hostChars_of_plain ?_⟩
  · intro c hc
    unfold IsPlaceChar
    rcases hplain c hc with halnum | rfl
    · exact .inl halnum
    · simp
  · intro c hc
    rcases hplain c hc with halnum | rfl
    · refine ⟨?_, ?_, ?_⟩
      all_goals
        rintro rfl
        revert halnum
        decide
    · decide

theorem isPlace_placeOf {host : String} (h : Network.knowsHost host = true) : IsPlace (placeOf host) := by
  rw [placeOf]
  split
  · next hliteral => exact isPlace_bracketed hliteral
  · next hliteral =>
    -- a host is known by its small letters, so its characters are plain in either case
    have hlower : host.toList.map Char.toLower ≠ [] ∧
        ∀ c ∈ host.toList.map Char.toLower, c.isAlphanum = true ∨ c = '.' := by
      simp only [Network.knowsHost, Bool.or_eq_true, Bool.and_eq_true, decide_eq_true_eq] at h
      rcases h with (hlocal | haddress) | hsix
      · have hall : "localhost".toList.all (fun c => decide (c.isAlphanum = true ∨ c = '.')) = true := by decide
        rw [hlocal]
        exact ⟨by decide, fun c hc => of_decide_eq_true (List.all_eq_true.mp hall c hc)⟩
      · exact forall_of_readAddress? haddress.2
      · exact absurd hsix hliteral
    refine isPlace_of_plain (fun hnil => hlower.1 (by rw [hnil, List.map_nil])) fun c hc => ?_
    exact plain_of_toLower (hlower.2 c.toLower (List.mem_map_of_mem hc))

end AppServer
