import AppServer.Http.Form
import AppServer.Proofs.Text.Cut
import AppServer.Proofs.Text.Utf8

/-!
# Reading a form undoes writing it

Each byte of a name or value is read back from its written form, in which no
separator occurs. So the fields are read from the body in their order, whatever
texts they hold.
-/

namespace AppServer.Http.Form

/-! ### Bytes -/

theorem hexByte?_upperHex {n : Nat} (h : n < 16) : hexByte? (upperHex n) = some n.toUInt8 := by
  have hall : ∀ m < 16, hexByte? (upperHex m) = some m.toUInt8 := by decide
  exact hall n h

theorem upperHex_ne {n : Nat} (h : n < 16) : upperHex n ≠ 43 ∧ upperHex n ≠ 38 ∧ upperHex n ≠ 61 := by
  have hall : ∀ m < 16, upperHex m ≠ 43 ∧ upperHex m ≠ 38 ∧ upperHex m ≠ 61 := by decide
  exact hall n h

theorem ne_of_isPlainByte {b : UInt8} (h : isPlainByte b = true) {other : UInt8}
    (hother : isPlainByte other = false) : b ≠ other := by
  rintro rfl
  rw [h] at hother
  cases hother

theorem percentDecode_cons_ne {b : UInt8} (h : b ≠ 37) (rest : Bytes) :
    percentDecode (b :: rest) = b :: percentDecode rest := by
  rw [percentDecode]
  rintro _ _ _ rfl
  exact absurd rfl h

theorem percentDecode_encodeByte (b : UInt8) (rest : Bytes) :
    percentDecode ((encodeByte b).map (fun b => if b = 43 then 32 else b) ++ rest) =
      b :: percentDecode rest := by
  rw [encodeByte]
  split
  · next hplain =>
    have hplus : b ≠ 43 := ne_of_isPlainByte hplain (by decide)
    have hpercent : b ≠ 37 := ne_of_isPlainByte hplain (by decide)
    rw [List.map_singleton, if_neg hplus, List.singleton_append, percentDecode_cons_ne hpercent]
  split
  · next hspace =>
    rw [List.map_singleton, if_pos rfl, List.singleton_append, percentDecode_cons_ne (by decide), hspace]
  · have hb : b.toNat < 256 := b.toNat_lt
    have hhigh : b.toNat / 16 < 16 := by omega
    have hlow : b.toNat % 16 < 16 := by omega
    have hvalue : 16 * (b.toNat / 16).toUInt8 + (b.toNat % 16).toUInt8 = b := by
      rw [← UInt8.toNat_inj]
      simp only [Nat.toUInt8_eq, UInt8.toNat_add, UInt8.toNat_mul, UInt8.toNat_ofNat', UInt8.reduceToNat]
      omega
    simp only [List.map_cons, List.map_nil, if_neg (upperHex_ne hhigh).1, if_neg (upperHex_ne hlow).1,
      List.cons_append, List.nil_append]
    rw [if_neg (by decide), percentDecode]
    simp only [hexByte?_upperHex hhigh, hexByte?_upperHex hlow, hvalue]

theorem not_mem_encodeByte (b : UInt8) : 38 ∉ encodeByte b ∧ 61 ∉ encodeByte b := by
  have hb : b.toNat < 256 := b.toNat_lt
  have hhigh := upperHex_ne (n := b.toNat / 16) (by omega)
  have hlow := upperHex_ne (n := b.toNat % 16) (by omega)
  rw [encodeByte]
  split
  · next hplain =>
    have hampersand : b ≠ 38 := ne_of_isPlainByte hplain (by decide)
    have hequals : b ≠ 61 := ne_of_isPlainByte hplain (by decide)
    simp [hampersand.symm, hequals.symm]
  split
  · decide
  · simp [hhigh.2.1.symm, hhigh.2.2.symm, hlow.2.1.symm, hlow.2.2.symm]

/-! ### Names and values -/

theorem not_mem_encodePart (text : String) : 38 ∉ encodePart text ∧ 61 ∉ encodePart text := by
  simp only [encodePart, List.mem_flatMap, not_exists, not_and]
  exact ⟨fun b _ => (not_mem_encodeByte b).1, fun b _ => (not_mem_encodeByte b).2⟩

theorem decodePart_encodePart (text : String) : decodePart (encodePart text) = text := by
  have hbytes (bytes : Bytes) :
      percentDecode ((bytes.flatMap encodeByte).map fun b => if b = 43 then 32 else b) = bytes := by
    induction bytes with
    | nil => rfl
    | cons b rest ih => rw [List.flatMap_cons, List.map_append, percentDecode_encodeByte, ih]
  rw [decodePart, encodePart, hbytes, Bytes.toTextLenient_ofText]

/-! ### Fields -/

/-- The written form of a field. -/
def encodeField (field : String × String) : Bytes := encodePart field.1 ++ 61 :: encodePart field.2

theorem field_encodeField (pair : String × String) : field (encodeField pair) = pair := by
  have hname : ∀ b ∈ encodePart pair.1, decide (b ≠ 61) = true := by
    intro b hb
    refine decide_eq_true ?_
    rintro rfl
    exact (not_mem_encodePart pair.1).2 hb
  have htake : (encodeField pair).takeWhile (· ≠ 61) = encodePart pair.1 := by
    rw [encodeField, List.takeWhile_append_of_pos hname, List.takeWhile_cons_of_neg (by simp), List.append_nil]
  have hdrop : (encodeField pair).dropWhile (· ≠ 61) = 61 :: encodePart pair.2 := by
    rw [encodeField, List.dropWhile_append_of_pos hname, List.dropWhile_cons_of_neg (by simp)]
  rw [field, htake, hdrop, List.drop_one, List.tail_cons, decodePart_encodePart, decodePart_encodePart]

theorem cutAll_eq_splitOn (sep : UInt8) (bytes : Bytes) : cutAll sep bytes = bytes.splitOn sep := by
  refine Text.eq_splitOn_of_cut rfl (fun rest => ?_) (fun b rest part parts h hrest => ?_) bytes
  · rw [cutAll, if_pos rfl]
  · rw [cutAll, if_neg h, hrest]

/-- The fields of a written form are those that were written, in their order. -/
theorem decode_encode (fields : List (String × String)) : decode (encode fields) = fields := by
  cases fields with
  | nil => rfl
  | cons first rest =>
    have hfree : ∀ part ∈ (first :: rest).map encodeField, (38 : UInt8) ∉ part := by
      intro part hpart
      obtain ⟨pair, -, rfl⟩ := List.mem_map.mp hpart
      rw [encodeField, List.mem_append, List.mem_cons, not_or, not_or]
      exact ⟨(not_mem_encodePart pair.1).1, by decide, (not_mem_encodePart pair.2).1⟩
    have hnonempty : ∀ part ∈ (first :: rest).map encodeField, decide (part ≠ []) = true := by
      intro part hpart
      obtain ⟨pair, -, rfl⟩ := List.mem_map.mp hpart
      simp [encodeField]
    have hcut : cutAll 38 (encode (first :: rest)) = (first :: rest).map encodeField := by
      rw [cutAll_eq_splitOn]
      exact List.splitOn_intercalate 38 hfree (List.cons_ne_nil _ _)
    rw [decode, hcut, List.filter_eq_self.mpr hnonempty, List.map_map]
    exact (List.map_congr_left fun pair _ => field_encodeField pair).trans (List.map_id _)

end AppServer.Http.Form
