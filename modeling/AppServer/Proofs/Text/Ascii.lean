import AppServer.Text.Base64
import AppServer.Text.Blank

/-!
# ASCII text and its bytes

The UTF-8 form of a text determines it, and that of an ASCII text has one byte
for each character, the character's code. Base64 texts are ASCII.
-/

namespace AppServer

theorem forall_ascii {P : Char → Prop} (h : ∀ n < 128, P (Char.ofNat n)) {c : Char}
    (hc : c.toNat < 128) : P c := by
  have hcode := h c.toNat hc
  rwa [Char.ofNat_toNat] at hcode

theorem toNat_lt_of_isAlphanum {c : Char} (h : c.isAlphanum = true) : c.toNat < 128 := by
  have hclasses : (decide (65 ≤ c.toNat ∧ c.toNat ≤ 90) ||
      (decide (97 ≤ c.toNat) && decide (c.toNat ≤ 122)) ||
      (decide (48 ≤ c.toNat) && decide (c.toNat ≤ 57))) = true := h
  simp only [Bool.or_eq_true, Bool.and_eq_true, decide_eq_true_eq] at hclasses
  omega

theorem Text.isBlank_of_isAlphanum {c : Char} (h : c.isAlphanum = true) : isBlank c = false := by
  have hall : ∀ n < 128, (Char.ofNat n).isAlphanum = true → isBlank (Char.ofNat n) = false := by decide
  exact forall_ascii (P := fun c => c.isAlphanum = true → isBlank c = false) hall (toNat_lt_of_isAlphanum h) h

namespace Bytes

theorem ofText_injective {a b : String} (h : ofText a = ofText b) : a = b := by
  have ha := toText?_ofText a
  rw [h, toText?_ofText b] at ha
  exact (Option.some.inj ha).symm

theorem toText?_eq_some_iff {bytes : Bytes} {s : String} : toText? bytes = some s ↔ bytes = ofText s := by
  constructor
  · intro h
    rw [toText?, String.fromUTF8?] at h
    split at h
    · cases h
      rfl
    · cases h
  · rintro rfl
    exact toText?_ofText s

def ofChar (c : Char) : UInt8 := c.toNat.toUInt8

theorem toNat_ofChar {c : Char} (hc : c.toNat < 128) : (ofChar c).toNat = c.toNat := by
  rw [ofChar, Nat.toUInt8_eq, UInt8.toNat_ofNat']
  omega

theorem utf8EncodeChar_ascii {c : Char} (hc : c.toNat < 128) :
    String.utf8EncodeChar c = [ofChar c] := by
  have hsize : c.utf8Size = 1 := by
    rw [Char.utf8Size_eq_one_iff, UInt32.le_iff_toNat_le]
    exact Nat.le_of_lt_succ hc
  rw [String.utf8EncodeChar_eq_singleton hsize]
  rfl

theorem ofText_ofList (cs : List Char) :
    ofText (String.ofList cs) = cs.flatMap String.utf8EncodeChar := by
  simp [ofText, String.toByteArray_ofList, List.utf8Encode]

theorem ofText_eq_flatMap (s : String) : ofText s = s.toList.flatMap String.utf8EncodeChar := by
  rw [← ofText_ofList, String.ofList_toList]

theorem ofText_ofList_ascii {cs : List Char} (h : ∀ c ∈ cs, c.toNat < 128) :
    ofText (String.ofList cs) = cs.map ofChar := by
  rw [ofText_ofList]
  induction cs with
  | nil => rfl
  | cons c rest ih =>
    rw [List.forall_mem_cons] at h
    rw [List.flatMap_cons, utf8EncodeChar_ascii h.1, ih h.2, List.map_cons, List.singleton_append]

theorem ofText_ascii {s : String} (h : ∀ c ∈ s.toList, c.toNat < 128) :
    ofText s = s.toList.map ofChar := by
  have heq := ofText_ofList_ascii h
  rwa [String.ofList_toList] at heq

end Bytes

/-! ### Base64 -/

namespace Text.Base64

def IsSymbol (c : Char) : Prop := c.isAlphanum = true ∨ c = '-' ∨ c = '_'

theorem isSymbol_symbol (n : Nat) : IsSymbol (symbol n) := by
  by_cases hn : n < 64
  · have hall : ∀ m < 64, (symbol m).isAlphanum = true ∨ symbol m = '-' ∨ symbol m = '_' := by decide
    exact hall n hn
  · right; right
    simp only [symbol]
    rw [if_neg (by omega), if_neg (by omega), if_neg (by omega), if_neg (by omega)]

theorem isSymbol_of_mem_encode (bytes : Bytes) : ∀ c ∈ encode bytes, IsSymbol c := by
  fun_induction encode bytes with
  | case1 => exact fun c hc => absurd hc List.not_mem_nil
  | case2 a => simp [isSymbol_symbol]
  | case3 a b => simp [isSymbol_symbol]
  | case4 a b c rest ih =>
    simp only [List.forall_mem_cons]
    exact ⟨isSymbol_symbol _, isSymbol_symbol _, isSymbol_symbol _, isSymbol_symbol _, ih⟩

theorem IsSymbol.ascii {c : Char} (h : IsSymbol c) : c.toNat < 128 := by
  rcases h with h | rfl | rfl
  · exact toNat_lt_of_isAlphanum h
  · decide
  · decide

end Text.Base64

end AppServer
