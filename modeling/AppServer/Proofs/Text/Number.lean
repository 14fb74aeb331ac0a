import AppServer.Text.Number
import AppServer.Proofs.Text.Ascii
import AppServer.Proofs.Text.Cut
import Mathlib.Data.List.Induction
import Mathlib.Data.List.TakeWhile

/-!
# Decimal numbers as they are written

A number is written in digits, with no zero before the others, and it is the
value of its digits. What is read as long as a test holds ends where the test
fails. A text that is read as a number has the number's digits behind a plus sign
and zeros that may be left out.
-/

namespace AppServer.Text

theorem isDigit_decimal (n : Nat) : ∀ c ∈ (decimal n).toList, c.isDigit = true := by
  intro c hc
  rw [decimal, String.toList_ofList] at hc
  exact Nat.isDigit_of_mem_toDigits (by decide) (by decide) hc

theorem digitsValue_decimal (n : Nat) : digitsValue (decimal n).toList = n := by
  rw [decimal, String.toList_ofList]
  exact Nat.ofDigitChars_toDigits (by decide) (by decide)

theorem decimal_ne_nil (n : Nat) : (decimal n).toList ≠ [] := by
  rw [decimal, String.toList_ofList]
  exact List.ne_nil_of_length_pos Nat.length_toDigits_pos

theorem takeWhile_append_of_stop {p : Char → Bool} {start rest : List Char} (hstart : ∀ c ∈ start, p c = true)
    (hrest : ∀ c, rest.head? = some c → p c = false) :
    (start ++ rest).takeWhile p = start ∧ (start ++ rest).dropWhile p = rest := by
  rw [List.takeWhile_append_of_pos hstart, List.dropWhile_append_of_pos hstart]
  cases rest with
  | nil => exact ⟨List.append_nil start, rfl⟩
  | cons c rest =>
    have hc := hrest c rfl
    simp [hc]

theorem head?_toDigits_ne_zero {n : Nat} (h : 0 < n) : (Nat.toDigits 10 n).head? ≠ some '0' := by
  induction n using Nat.strongRecOn with
  | _ n ih =>
    by_cases hsmall : n < 10
    · have hall : ∀ m < 10, 0 < m → (Nat.toDigits 10 m).head? ≠ some '0' := by decide
      exact hall n hsmall h
    · have hne : Nat.toDigits 10 (n / 10) ≠ [] := List.ne_nil_of_length_pos Nat.length_toDigits_pos
      obtain ⟨d, ds, hd⟩ := List.exists_cons_of_ne_nil hne
      have hfront := ih (n / 10) (by omega) (by omega)
      rw [Nat.toDigits_of_base_le (by decide) (by omega), hd]
      rw [hd] at hfront
      exact hfront

theorem decimal_no_leading_zero (n : Nat) :
    ¬((decimal n).toList.head? = some '0' ∧ 1 < (decimal n).toList.length) := by
  rw [decimal, String.toList_ofList]
  rintro ⟨hzero, hlong⟩
  by_cases h : n = 0
  · subst h
    revert hlong
    decide
  · exact head?_toDigits_ne_zero (Nat.pos_of_ne_zero h) hzero

theorem digitsValue_zeros_append (zeros : Nat) (digits : List Char) :
    digitsValue (List.replicate zeros '0' ++ digits) = digitsValue digits := by
  induction zeros with
  | zero => rfl
  | succ zeros ih =>
    rw [List.replicate_succ, List.cons_append, ← ih]
    rfl

theorem digitChar_of_isDigit {c : Char} (h : c.isDigit = true) :
    c.toNat - 48 < 10 ∧ Nat.digitChar (c.toNat - 48) = c := by
  have hrange : 48 ≤ c.toNat ∧ c.toNat ≤ 57 := Char.isDigit_iff_toNat.mp h
  have hall : ∀ n < 128, 48 ≤ (Char.ofNat n).toNat ∧ (Char.ofNat n).toNat ≤ 57 →
      Nat.digitChar ((Char.ofNat n).toNat - 48) = Char.ofNat n := by decide
  refine ⟨by omega, ?_⟩
  exact forall_ascii (P := fun c => 48 ≤ c.toNat ∧ c.toNat ≤ 57 → Nat.digitChar (c.toNat - 48) = c) hall (by omega)
    hrange

theorem exists_zeros_of_digits {digits : List Char} (hne : digits ≠ []) (hall : ∀ c ∈ digits, c.isDigit = true) :
    ∃ zeros, digits = List.replicate zeros '0' ++ (decimal (digitsValue digits)).toList := by
  -- by the last digit: what stands before it is a number as it is written, or zeros only
  induction digits using List.reverseRecOn with
  | nil => exact absurd rfl hne
  | append_singleton front c ih =>
    rw [List.forall_mem_append, List.forall_mem_singleton] at hall
    obtain ⟨hsmall, hchar⟩ := digitChar_of_isDigit hall.2
    have hvalue : digitsValue (front ++ [c]) = 10 * digitsValue front + (c.toNat - 48) := by
      simp only [digitsValue, List.foldl_append, List.foldl_cons, List.foldl_nil]
    have hlast : Nat.toDigits 10 (c.toNat - 48) = [c] := by rw [Nat.toDigits_of_lt_base hsmall, hchar]
    rw [hvalue, decimal, String.toList_ofList]
    by_cases hfront : front = []
    · subst hfront
      exact ⟨0, by simpa [digitsValue] using hlast.symm⟩
    · obtain ⟨zeros, hzeros⟩ := ih hfront hall.1
      rw [decimal, String.toList_ofList] at hzeros
      rcases Nat.eq_zero_or_pos (digitsValue front) with hzero | hpos
      · refine ⟨zeros + 1, ?_⟩
        rw [hzero, Nat.mul_zero, Nat.zero_add, hlast, List.replicate_succ', ← Nat.toDigits_zero 10, ← hzero, ← hzeros]
      · refine ⟨zeros, ?_⟩
        rw [← Nat.toDigits_append_toDigits (by decide) hpos hsmall, hlast, ← List.append_assoc, ← hzeros]

/-! ### Numbers that are read -/

theorem exists_sign (cs : List Char) :
    ∃ sign, (sign = [] ∨ sign = ['+']) ∧ cs = sign ++ unsignedDigits cs := by
  rw [unsignedDigits.eq_def]
  split
  · exact ⟨['+'], .inr rfl, rfl⟩
  · exact ⟨[], .inl rfl, rfl⟩

theorem unsignedDigits_append {sign digits : List Char} (hsign : sign = [] ∨ sign = ['+'])
    (hdigits : ∀ c ∈ digits, c.isDigit = true) : unsignedDigits (sign ++ digits) = digits := by
  rcases hsign with rfl | rfl
  · rw [List.nil_append, unsignedDigits.eq_def]
    split
    · exact absurd (hdigits '+' List.mem_cons_self) (by decide)
    · rfl
  · rfl

/-- The characters that write a number: an optional plus sign, any zeros, and the number in digits. -/
def numeral (sign : List Char) (zeros n : Nat) : List Char :=
  sign ++ (List.replicate zeros '0' ++ (decimal n).toList)

theorem isDigit_zeros_decimal (zeros n : Nat) :
    ∀ c ∈ List.replicate zeros '0' ++ (decimal n).toList, c.isDigit = true := by
  rw [List.forall_mem_append]
  refine ⟨fun c hc => ?_, isDigit_decimal n⟩
  rw [List.eq_of_mem_replicate hc]
  decide

theorem readUnsigned_eq_some_iff {bound n : Nat} {s : String} :
    readUnsigned bound s = some n ↔
      n ≤ bound ∧ ∃ sign zeros, (sign = [] ∨ sign = ['+']) ∧ s.toList = numeral sign zeros n := by
  constructor
  · intro h
    refine ⟨readUnsigned_le h, ?_⟩
    simp only [readUnsigned, Option.ite_none_right_eq_some, Option.some.injEq, List.all_eq_true] at h
    obtain ⟨⟨hne, hall, -⟩, rfl⟩ := h
    obtain ⟨sign, hsign, hs⟩ := exists_sign s.toList
    obtain ⟨zeros, hzeros⟩ := exists_zeros_of_digits hne hall
    exact ⟨sign, zeros, hsign, by rw [numeral, ← hzeros, ← hs]⟩
  · rintro ⟨hbound, sign, zeros, hsign, hs⟩
    have hdigits := isDigit_zeros_decimal zeros n
    have hvalue : digitsValue (List.replicate zeros '0' ++ (decimal n).toList) = n := by
      rw [digitsValue_zeros_append, digitsValue_decimal]
    have hne : List.replicate zeros '0' ++ (decimal n).toList ≠ [] :=
      List.append_ne_nil_of_right_ne_nil _ (decimal_ne_nil n)
    rw [numeral] at hs
    simp only [readUnsigned, hs, unsignedDigits_append hsign hdigits, hvalue]
    rw [if_pos ⟨hne, List.all_eq_true.mpr hdigits, hbound⟩]

/-- A text writes a number, with any blanks around it. -/
def WritesNumber (n : Nat) (s : String) : Prop :=
  ∃ before sign zeros after, (∀ c ∈ before, isBlank c = true) ∧ (∀ c ∈ after, isBlank c = true) ∧
    (sign = [] ∨ sign = ['+']) ∧ s.toList = before ++ numeral sign zeros n ++ after

theorem writesNumber_decimal (n : Nat) : WritesNumber n (decimal n) :=
  ⟨[], [], 0, [], List.forall_mem_nil _, List.forall_mem_nil _, .inl rfl, (List.append_nil _).symm⟩

theorem trimmed_numeral {sign : List Char} (hsign : sign = [] ∨ sign = ['+']) (zeros n : Nat) :
    Trimmed (numeral sign zeros n) := by
  refine trimmed_of_forall ?_
  rw [numeral, List.forall_mem_append]
  constructor
  · rcases hsign with rfl | rfl
    · exact fun c hc => absurd hc List.not_mem_nil
    · exact List.forall_mem_singleton.mpr (by decide)
  · intro c hc
    have halnum : c.isAlphanum = true := by
      rw [Char.isAlphanum, isDigit_zeros_decimal zeros n c hc, Bool.or_true]
    exact isBlank_of_isAlphanum halnum

theorem readUnsigned_trim_eq_some_iff {bound n : Nat} {s : String} :
    readUnsigned bound (trim s) = some n ↔ n ≤ bound ∧ WritesNumber n s := by
  rw [readUnsigned_eq_some_iff, trim_toList]
  refine and_congr_right fun _ => ⟨?_, ?_⟩
  · rintro ⟨sign, zeros, hsign, hs⟩
    obtain ⟨-, before, after, hbefore, hafter, heq⟩ := trimChars_eq_iff.mp hs
    exact ⟨before, sign, zeros, after, hbefore, hafter, hsign, heq⟩
  · rintro ⟨before, sign, zeros, after, hbefore, hafter, hsign, heq⟩
    refine ⟨sign, zeros, hsign, trimChars_eq_iff.mpr ⟨trimmed_numeral hsign zeros n, ?_⟩⟩
    exact ⟨before, after, hbefore, hafter, heq⟩

/-! ### Which number a text writes -/

theorem WritesNumber.unique {m n : Nat} {s : String} (hm : WritesNumber m s) (hn : WritesNumber n s) : m = n := by
  have hreadm : readUnsigned (max m n) (trim s) = some m := readUnsigned_trim_eq_some_iff.mpr ⟨Nat.le_max_left m n, hm⟩
  have hreadn : readUnsigned (max m n) (trim s) = some n :=
    readUnsigned_trim_eq_some_iff.mpr ⟨Nat.le_max_right m n, hn⟩
  rw [hreadm] at hreadn
  exact Option.some.inj hreadn

theorem WritesNumber.no_minus {n : Nat} {s : String} (h : WritesNumber n s) : '-' ∉ s.toList := by
  obtain ⟨before, sign, zeros, after, hbefore, hafter, hsign, hs⟩ := h
  have hblank : isBlank '-' = false := by decide
  rw [hs, List.mem_append, List.mem_append, numeral, List.mem_append]
  rintro ((hmem | hmem | hmem) | hmem)
  · exact Bool.eq_false_iff.mp hblank (hbefore '-' hmem)
  · rcases hsign with rfl | rfl
    · exact List.not_mem_nil hmem
    · exact absurd hmem (by decide)
  · exact absurd (isDigit_zeros_decimal zeros n '-' hmem) (by decide)
  · exact Bool.eq_false_iff.mp hblank (hafter '-' hmem)

theorem writesNumber_decimalInt_iff {n : Nat} {i : Int} : WritesNumber n (decimalInt i) ↔ i = n := by
  rw [decimalInt]
  split
  · next hneg =>
    refine iff_of_false (fun hwrites => hwrites.no_minus ?_) (by omega)
    rw [String.toList_append]
    exact List.mem_cons_self
  · next hnonneg =>
    have hwrites := writesNumber_decimal i.natAbs
    constructor
    · intro hn
      have hsame := hn.unique hwrites
      omega
    · intro heq
      rwa [heq, Int.natAbs_natCast] at hwrites ⊢

end AppServer.Text
