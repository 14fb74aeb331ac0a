import AppServer.Proofs.Text.Ascii

/-!
# Lenient reading undoes writing

Read leniently, the UTF-8 form of a text is that text: each character is read
from its own bytes, whatever bytes follow.
-/

namespace AppServer.Bytes

deriving instance DecidableEq for Partial

/-! ### First bytes -/

theorem begin_ascii {n : Nat} (h : n < 128) : begin (UInt8.ofNat n) = ([Char.ofNat n], none) := by
  have hall : ∀ m < 128, begin (UInt8.ofNat m) = ([Char.ofNat m], none) := by decide
  exact hall n h

theorem begin_two {m : Nat} (hlow : 2 ≤ m) (hhigh : m < 32) :
    begin (UInt8.ofNat (m + 0xC0)) = ([], some ⟨m, 1, 0x80, 0xBF⟩) := by
  have hall : ∀ k < 32, 2 ≤ k → begin (UInt8.ofNat (k + 0xC0)) = ([], some ⟨k, 1, 0x80, 0xBF⟩) := by decide
  exact hall m hhigh hlow

theorem begin_three {m : Nat} (h : m < 16) : begin (UInt8.ofNat (m + 0xE0)) =
    ([], some ⟨m, 2, if m = 0 then 0xA0 else 0x80, if m = 13 then 0x9F else 0xBF⟩) := by
  have hall : ∀ k < 16, begin (UInt8.ofNat (k + 0xE0)) =
      ([], some ⟨k, 2, if k = 0 then 0xA0 else 0x80, if k = 13 then 0x9F else 0xBF⟩) := by decide
  exact hall m h

theorem begin_four {m : Nat} (h : m < 5) : begin (UInt8.ofNat (m + 0xF0)) =
    ([], some ⟨m, 3, if m = 0 then 0x90 else 0x80, if m = 4 then 0x8F else 0xBF⟩) := by
  have hall : ∀ k < 5, begin (UInt8.ofNat (k + 0xF0)) =
      ([], some ⟨k, 3, if k = 0 then 0x90 else 0x80, if k = 4 then 0x8F else 0xBF⟩) := by decide
  exact hall m h

/-! ### Later bytes -/

theorem lenient_some {p : Partial} {m : Nat} (hm : m < 64) (hlow : p.low.toNat ≤ m + 0x80)
    (hhigh : m + 0x80 ≤ p.high.toNat) (rest : Bytes) :
    lenient (some p) (UInt8.ofNat (m + 0x80) :: rest) =
      if p.due = 1 then Char.ofNat (64 * p.value + m) :: lenient none rest
      else lenient (some ⟨64 * p.value + m, p.due - 1, 0x80, 0xBF⟩) rest := by
  have hcode : (UInt8.ofNat (m + 0x80)).toNat = m + 0x80 := by
    rw [UInt8.toNat_ofNat']
    omega
  have hdue : p.low ≤ UInt8.ofNat (m + 0x80) ∧ UInt8.ofNat (m + 0x80) ≤ p.high := by
    rw [UInt8.le_iff_toNat_le, UInt8.le_iff_toNat_le, hcode]
    exact ⟨hlow, hhigh⟩
  rw [lenient, if_pos hdue, hcode, Nat.add_sub_cancel]

theorem lenient_later {value due m : Nat} {low high : UInt8} (hm : m < 64) (hlow : low.toNat ≤ m + 0x80)
    (hhigh : m + 0x80 ≤ high.toNat) (rest : Bytes) :
    lenient (some ⟨value, due + 2, low, high⟩) (UInt8.ofNat (m + 0x80) :: rest) =
      lenient (some ⟨64 * value + m, due + 1, 0x80, 0xBF⟩) rest := by
  have hmore : ¬due + 2 = 1 := by omega
  rw [lenient_some hm hlow hhigh, if_neg hmore]
  rfl

theorem lenient_last {value m : Nat} (hm : m < 64) (rest : Bytes) :
    lenient (some ⟨value, 1, 0x80, 0xBF⟩) (UInt8.ofNat (m + 0x80) :: rest) =
      Char.ofNat (64 * value + m) :: lenient none rest := by
  have hlow : (0x80 : UInt8).toNat ≤ m + 0x80 := Nat.le_add_left _ _
  have hhigh : m + 0x80 ≤ (0xBF : UInt8).toNat := by
    change m + 0x80 ≤ 191
    omega
  rw [lenient_some hm hlow hhigh, if_pos rfl]

/-! ### Characters and texts -/

theorem lenient_utf8EncodeChar (c : Char) (rest : Bytes) :
    lenient none (String.utf8EncodeChar c ++ rest) = c :: lenient none rest := by
  have hvalid : c.toNat < 0xD800 ∨ 0xDFFF < c.toNat ∧ c.toNat < 0x110000 := c.valid
  have hback : Char.ofNat c.toNat = c := Char.ofNat_toNat c
  have hval : c.val.toNat = c.toNat := rfl
  simp only [String.utf8EncodeChar, hval]
  -- one case for each length of the form; the lengths of three and four have bounds on their second byte
  generalize c.toNat = n at hvalid hback
  split
  · next hone =>
    rw [List.singleton_append, lenient, begin_ascii (Nat.lt_succ_of_le hone),
      hback, List.singleton_append]
  split
  · next hone htwo =>
    have hfirst : n / 64 % 32 = n / 64 := Nat.mod_eq_of_lt (by omega)
    rw [hfirst, List.cons_append, List.singleton_append, lenient, begin_two (by omega) (by omega)]
    rw [List.nil_append, lenient_last (by omega), Nat.div_add_mod, hback]
  split
  · next htwo hthree =>
    have hfirst : n / 4096 % 16 = n / 4096 := Nat.mod_eq_of_lt (by omega)
    have hlow : (if n / 4096 = 0 then 0xA0 else 0x80 : UInt8).toNat ≤ n / 64 % 64 + 0x80 := by
      split
      · change 160 ≤ _
        omega
      · change 128 ≤ _
        omega
    have hhigh : n / 64 % 64 + 0x80 ≤ (if n / 4096 = 13 then 0x9F else 0xBF : UInt8).toNat := by
      split
      · change _ ≤ 159
        omega
      · change _ ≤ 191
        omega
    have hvalue : 64 * (64 * (n / 4096) + n / 64 % 64) + n % 64 = n := by omega
    simp only [hfirst, List.cons_append, List.nil_append]
    rw [lenient, begin_three (by omega), List.nil_append, lenient_later (by omega) hlow hhigh]
    exact (lenient_last (by omega) rest).trans (by rw [hvalue, hback])
  · next hthree =>
    have hfirst : n / 262144 % 8 = n / 262144 := Nat.mod_eq_of_lt (by omega)
    have hlow : (if n / 262144 = 0 then 0x90 else 0x80 : UInt8).toNat ≤ n / 4096 % 64 + 0x80 := by
      split
      · change 144 ≤ _
        omega
      · change 128 ≤ _
        omega
    have hhigh : n / 4096 % 64 + 0x80 ≤ (if n / 262144 = 4 then 0x8F else 0xBF : UInt8).toNat := by
      split
      · change _ ≤ 143
        omega
      · change _ ≤ 191
        omega
    have hvalue : 64 * (64 * (64 * (n / 262144) + n / 4096 % 64) + n / 64 % 64) + n % 64 = n := by omega
    simp only [hfirst, List.cons_append, List.nil_append]
    rw [lenient, begin_four (by omega), List.nil_append, lenient_later (by omega) hlow hhigh]
    refine (lenient_later (by omega) (Nat.le_add_left _ _) ?_ _).trans ?_
    · change _ ≤ 191
      omega
    exact (lenient_last (by omega) rest).trans (by rw [hvalue, hback])

theorem toTextLenient_ofText (s : String) : toTextLenient (ofText s) = s := by
  have hchars (cs : List Char) : lenient none (cs.flatMap String.utf8EncodeChar) = cs := by
    induction cs with
    | nil => rfl
    | cons c rest ih => rw [List.flatMap_cons, lenient_utf8EncodeChar, ih]
  rw [toTextLenient, ofText_eq_flatMap, hchars, String.ofList_toList]

end AppServer.Bytes
