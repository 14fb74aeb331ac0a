import AppServer.Http.Message
import AppServer.Proofs.Text.Ascii

/-!
# First headers and readable values

What is looked up in a request is the first header of a name, and the first pair
of a name in a list of fields or cookies. A readable value is the UTF-8 form of
its own text, so that comparing texts is comparing bytes.
-/

namespace AppServer.Http

/-! ### First of a name -/

def FirstHeader (headers : Headers) (name : String) (value : Bytes) : Prop :=
  ∃ before written after, headers = before ++ (written, value) :: after ∧
    lowerName written = lowerName name ∧ ∀ header ∈ before, lowerName header.1 ≠ lowerName name

def FirstPair (pairs : List (String × String)) (name value : String) : Prop :=
  ∃ before after, pairs = before ++ (name, value) :: after ∧ ∀ pair ∈ before, pair.1 ≠ name

theorem first?_eq_some_iff {headers : Headers} {name : String} {value : Bytes} :
    headers.first? name = some value ↔ FirstHeader headers name value := by
  rw [Headers.first?, Headers.all, List.head?_map, List.head?_filter, Option.map_eq_some_iff]
  constructor
  · rintro ⟨⟨written, value⟩, hfind, rfl⟩
    obtain ⟨hname, before, after, rfl, hbefore⟩ := List.find?_eq_some_iff_append.mp hfind
    exact ⟨before, written, after, rfl, of_decide_eq_true hname,
      fun header hmem => by simpa using hbefore header hmem⟩
  · rintro ⟨before, written, after, rfl, hname, hbefore⟩
    refine ⟨(written, value), List.find?_eq_some_iff_append.mpr ⟨decide_eq_true hname, ?_⟩, rfl⟩
    exact ⟨before, after, rfl, fun header hmem => by simpa using hbefore header hmem⟩

theorem lookup_eq_some_iff {pairs : List (String × String)} {name value : String} :
    pairs.lookup name = some value ↔ FirstPair pairs name value := by
  rw [List.lookup_eq_some_iff]
  simp only [FirstPair, bne_iff_ne, ne_comm]

/-! ### Readable values -/

/-- Every byte is visible ASCII, a space or a tab. -/
def Readable (value : Bytes) : Prop := ∀ b ∈ value, b = 9 ∨ 32 ≤ b ∧ b ≤ 126

theorem all_isReadableByte_iff {value : Bytes} :
    value.all isReadableByte = true ↔ Readable value := by
  rw [List.all_eq_true]
  refine forall₂_congr fun b _ => ?_
  simp only [isReadableByte, Bool.or_eq_true, Bool.and_eq_true, decide_eq_true_eq,
    UInt8.le_iff_toNat_le, UInt8.lt_iff_toNat_lt, or_comm (b := b = 9)]
  change (b = 9 ∨ 32 ≤ b.toNat ∧ b.toNat < 127) ↔ b = 9 ∨ 32 ≤ b.toNat ∧ b.toNat ≤ 126
  rw [Nat.lt_succ_iff]

theorem Readable.ascii {value : Bytes} (h : Readable value) : ∀ b ∈ value, b.toNat < 128 := by
  intro b hb
  rcases h b hb with rfl | ⟨-, hle⟩
  · decide
  · rw [UInt8.le_iff_toNat_le] at hle
    change b.toNat ≤ 126 at hle
    omega

theorem toNat_ofNat_ascii {n : Nat} (h : n < 128) : (Char.ofNat n).toNat = n := by
  have hall : ∀ m < 128, (Char.ofNat m).toNat = m := by decide
  exact hall n h

theorem ofText_of_readable {value : Bytes} (h : Readable value) :
    Bytes.ofText (String.ofList (value.map fun b => Char.ofNat b.toNat)) = value := by
  have hcode (b : UInt8) (hb : b ∈ value) : (Char.ofNat b.toNat).toNat = b.toNat :=
    toNat_ofNat_ascii (h.ascii b hb)
  have hascii : ∀ c ∈ value.map fun b => Char.ofNat b.toNat, c.toNat < 128 := by
    intro c hc
    obtain ⟨b, hb, rfl⟩ := List.mem_map.mp hc
    rw [hcode b hb]
    exact h.ascii b hb
  rw [Bytes.ofText_ofList_ascii hascii, List.map_map]
  refine (List.map_congr_left fun b hb => ?_).trans (List.map_id value)
  rw [Function.comp_apply, Bytes.ofChar, hcode b hb]
  exact UInt8.ofNat_toNat

theorem readable?_eq_some_iff {value : Bytes} {text : String} :
    readable? value = some text ↔ Readable value ∧ Bytes.ofText text = value := by
  rw [readable?, Option.ite_none_right_eq_some, all_isReadableByte_iff, Option.some.injEq]
  refine and_congr_right fun h => ?_
  constructor
  · rintro rfl
    exact ofText_of_readable h
  · intro heq
    exact Bytes.ofText_injective ((ofText_of_readable h).trans heq.symm)

theorem text?_eq_some_iff {headers : Headers} {name text : String} :
    headers.text? name = some text ↔
      FirstHeader headers name (Bytes.ofText text) ∧ Readable (Bytes.ofText text) := by
  rw [Headers.text?, Option.bind_eq_some_iff]
  constructor
  · rintro ⟨value, hfirst, hread⟩
    obtain ⟨hreadable, rfl⟩ := readable?_eq_some_iff.mp hread
    exact ⟨first?_eq_some_iff.mp hfirst, hreadable⟩
  · rintro ⟨hfirst, hreadable⟩
    exact ⟨_, first?_eq_some_iff.mpr hfirst, readable?_eq_some_iff.mpr ⟨hreadable, rfl⟩⟩

theorem text?_eq_none_iff {headers : Headers} {name : String} :
    headers.text? name = none ↔ ¬ ∃ value, FirstHeader headers name value ∧ Readable value := by
  constructor
  · rintro hnone ⟨value, hfirst, hreadable⟩
    rw [← ofText_of_readable hreadable] at hfirst hreadable
    have htext := text?_eq_some_iff.mpr ⟨hfirst, hreadable⟩
    rw [hnone] at htext
    cases htext
  · intro h
    cases htext : headers.text? name with
    | none => rfl
    | some text => exact (h ⟨_, text?_eq_some_iff.mp htext⟩).elim

/-! ### Written values -/

/-- A character that may stand in a header value as it is. -/
def IsVisible (c : Char) : Prop := 32 ≤ c.toNat ∧ c.toNat < 127

theorem headerValue?_of_visible {text : String} (h : ∀ c ∈ text.toList, IsVisible c) :
    headerValue? text = some (Bytes.ofText text) := by
  have hascii : ∀ c ∈ text.toList, c.toNat < 128 := fun c hc => Nat.lt_succ_of_lt (h c hc).2
  rw [headerValue?, if_pos]
  rw [Bytes.ofText_ascii hascii, List.all_map, List.all_eq_true]
  intro c hc
  have hall : ∀ n < 128, 32 ≤ (Char.ofNat n).toNat ∧ (Char.ofNat n).toNat < 127 →
      isValueByte (Bytes.ofChar (Char.ofNat n)) = true := by decide
  exact forall_ascii (P := fun c => 32 ≤ c.toNat ∧ c.toNat < 127 → isValueByte (Bytes.ofChar c) = true)
    hall (hascii c hc) (h c hc)

theorem visible_of_isSymbol {c : Char} (h : Text.Base64.IsSymbol c) : IsVisible c := by
  have hall : ∀ n < 128, ((Char.ofNat n).isAlphanum = true ∨ Char.ofNat n = '-' ∨ Char.ofNat n = '_') →
      32 ≤ (Char.ofNat n).toNat ∧ (Char.ofNat n).toNat < 127 := by decide
  exact forall_ascii (P := fun c => (c.isAlphanum = true ∨ c = '-' ∨ c = '_') →
    32 ≤ c.toNat ∧ c.toNat < 127) hall h.ascii h

theorem readable_of_visible {text : String} (h : ∀ c ∈ text.toList, IsVisible c) :
    Readable (Bytes.ofText text) := by
  have hascii : ∀ c ∈ text.toList, c.toNat < 128 := fun c hc => Nat.lt_succ_of_lt (h c hc).2
  rw [Bytes.ofText_ascii hascii]
  intro b hb
  obtain ⟨c, hc, rfl⟩ := List.mem_map.mp hb
  obtain ⟨hlow, hhigh⟩ := h c hc
  rw [UInt8.le_iff_toNat_le, UInt8.le_iff_toNat_le, Bytes.toNat_ofChar (hascii c hc)]
  exact .inr ⟨hlow, Nat.le_of_lt_succ hhigh⟩

end AppServer.Http
