import AppServer.Json.Reader
import AppServer.Json.Writer
import AppServer.Proofs.Text.Ascii
import AppServer.Proofs.Text.Number
import Mathlib.Data.List.Induction

/-!
# Reading what was written

Reading undoes writing for objects of texts and natural numbers: every
character of a text is read from its own escape, a number from its digits, and
an object from its fields one after another.
-/

namespace AppServer.Json

/-! ### Strings -/

theorem hexValue_hexDigit {n : Nat} (h : n < 16) : hexValue (hexDigit n) = some n := by
  have hall : ∀ m < 16, hexValue (hexDigit m) = some m := by decide
  exact hall n h

theorem readUnicode_control {c : Char} (h : c.toNat < 0x20) (rest : List Char) :
    readUnicode ('0' :: '0' :: hexDigit (c.toNat / 16) :: hexDigit (c.toNat % 16) :: rest) = some (c, rest) := by
  have hzero : hexValue '0' = some 0 := by decide
  have hhigh := hexValue_hexDigit (n := c.toNat / 16) (by omega)
  have hlow := hexValue_hexDigit (n := c.toNat % 16) (by omega)
  have hvalue : 4096 * 0 + 256 * 0 + 16 * (c.toNat / 16) + c.toNat % 16 = c.toNat := by omega
  have hfour : readHex4 ('0' :: '0' :: hexDigit (c.toNat / 16) :: hexDigit (c.toNat % 16) :: rest) =
      some (c.toNat, rest) := by
    simp only [readHex4, hzero, hhigh, hlow, bind, Option.bind, hvalue]
  simp only [readUnicode, hfour, bind, Option.bind]
  rw [if_neg (by omega), if_neg (by omega), Char.ofNat_toNat]

theorem readStringBody_escapeChar (fuel : Nat) (done : List Char) (c : Char) (rest : List Char) :
    readStringBody (fuel + 1) done (escapeChar c ++ rest) = readStringBody fuel (c :: done) rest := by
  rw [escapeChar]
  split
  · next h => rw [h]; rfl
  split
  · next h => rw [h]; rfl
  split
  · next h => rw [h]; rfl
  split
  · next h => rw [h]; rfl
  split
  · next h => rw [h]; rfl
  split
  · next h => rw [h]; rfl
  split
  · next h => rw [h]; rfl
  split
  · next hcontrol =>
    simp only [List.cons_append, List.nil_append]
    rw [readStringBody, readUnicode_control hcontrol]
    rfl
  · next hquote hslash _ _ _ _ _ hcontrol =>
    rw [List.singleton_append, readStringBody]
    · rw [if_neg hquote, if_neg (not_or.mpr ⟨hcontrol, hslash⟩)]
    · exact fun _ h => absurd h hslash
    · exact fun _ _ h => absurd h hslash

theorem readStringBody_escaped (cs : List Char) {fuel : Nat} (hfuel : cs.length < fuel) (done rest : List Char) :
    readStringBody fuel done (cs.flatMap escapeChar ++ '"' :: rest) =
      some (String.ofList (done.reverse ++ cs), rest) := by
  induction cs generalizing fuel done with
  | nil =>
    obtain ⟨fuel, rfl⟩ := Nat.exists_eq_succ_of_ne_zero (Nat.ne_of_gt hfuel)
    rw [List.append_nil]
    rfl
  | cons c cs ih =>
    obtain ⟨fuel, rfl⟩ := Nat.exists_eq_succ_of_ne_zero (Nat.ne_of_gt (Nat.zero_lt_of_lt hfuel))
    have hrest : cs.length < fuel := Nat.lt_of_succ_lt_succ hfuel
    rw [List.flatMap_cons, List.append_assoc, readStringBody_escapeChar, ih hrest, List.reverse_cons,
      List.append_assoc, List.singleton_append]

theorem length_le_length_escaped (cs : List Char) : cs.length ≤ (cs.flatMap escapeChar).length := by
  induction cs with
  | nil => exact Nat.le_refl 0
  | cons c cs ih =>
    have hone : 1 ≤ (escapeChar c).length := by
      simp only [escapeChar]
      repeat' split
      all_goals simp
    rw [List.flatMap_cons, List.length_append, List.length_cons]
    omega

theorem readString_quoted (s : String) (rest : List Char) :
    readString (s.toList.flatMap escapeChar ++ '"' :: rest) = some (s, rest) := by
  have hlength := length_le_length_escaped s.toList
  have hfuel : s.toList.length < (s.toList.flatMap escapeChar ++ '"' :: rest).length + 1 := by
    rw [List.length_append]
    omega
  rw [readString, readStringBody_escaped s.toList hfuel, List.reverse_nil, List.nil_append, String.ofList_toList]

theorem toList_quote (s : String) : (quote s).toList = '"' :: (s.toList.flatMap escapeChar ++ ['"']) := by
  rw [quote, String.toList_ofList, quoteChars, List.cons_append]

/-! ### Numbers -/

/-- What may follow the value of a field. -/
def EndsField (rest : List Char) : Prop := ∀ c, rest.head? = some c → c = ',' ∨ c = '\x7d'

theorem EndsField.not_digit {rest : List Char} (h : EndsField rest) :
    ∀ c, rest.head? = some c → c.isDigit = false := by
  intro c hc
  rcases h c hc with rfl | rfl
  · decide
  · decide

theorem readDigits_decimal (n : Nat) {rest : List Char} (hrest : EndsField rest) :
    readDigits ((Text.decimal n).toList ++ rest) = some ((Text.decimal n).toList, rest) := by
  obtain ⟨htake, hdrop⟩ := Text.takeWhile_append_of_stop (Text.isDigit_decimal n) hrest.not_digit
  rw [readDigits, htake, hdrop]
  split
  · next hnil => exact absurd hnil (Text.decimal_ne_nil n)
  · rfl

theorem readNumeral_decimal (n : Nat) {rest : List Char} (hrest : EndsField rest) :
    readNumeral ((Text.decimal n).toList ++ rest) = some (⟨false, (Text.decimal n).toList, none, none⟩, rest) := by
  have hdigits := readDigits_decimal n hrest
  have hzero := Text.decimal_no_leading_zero n
  obtain ⟨d, ds, hd⟩ := List.exists_cons_of_ne_nil (Text.decimal_ne_nil n)
  have hdigit : d.isDigit = true := Text.isDigit_decimal n d (by rw [hd]; exact List.mem_cons_self)
  have hsign : d ≠ '-' := by
    rintro rfl
    revert hdigit
    decide
  rw [hd, List.cons_append] at hdigits ⊢
  rw [hd] at hzero
  unfold readNumeral
  split
  next negative cs hsigned =>
    split at hsigned
    · next hminus => exact absurd (List.cons.inj hminus).1 hsign
    · cases hsigned
      -- behind the digits stands nothing, a comma or a brace, so neither a fraction nor an exponent
      simp only [hdigits, bind, Option.bind, if_neg hzero]
      cases rest with
      | nil => rfl
      | cons c rest => rcases hrest c rfl with rfl | rfl <;> rfl

/-! ### Values -/

theorem digit_ne {c : Char} (h : c.isDigit = true) : isSpace c = false ∧ c ≠ '"' ∧ c ≠ '[' ∧ c ≠ '\x7b' := by
  refine ⟨?_, ?_, ?_, ?_⟩
  · have hascii : c.toNat < 128 := toNat_lt_of_isAlphanum (by rw [Char.isAlphanum, h, Bool.or_true])
    refine forall_ascii (P := fun c => c.isDigit = true → isSpace c = false) ?_ hascii h
    decide
  all_goals
    rintro rfl
    revert h
    decide

variable {number : Numeral → Option JsonNumber} {fuel depth : Nat}

theorem readValue_quote (rest : List Char) :
    readValue number (fuel + 1) depth ('"' :: rest) =
      (readString rest).map fun (s, rest) => (.string s, rest) := by
  rw [readValue]
  rfl

theorem readValue_digit {c : Char} (h : c.isDigit = true) (rest : List Char) :
    readValue number (fuel + 1) depth (c :: rest) = (do
      let (n, rest) ← readNumeral (c :: rest)
      some (.number (← number n), rest)) := by
  obtain ⟨hspace, hquote, hbracket, hbrace⟩ := digit_ne h
  have hskip : skipSpace (c :: rest) = c :: rest := by
    rw [skipSpace, List.dropWhile_cons, if_neg (by rw [hspace]; exact Bool.false_ne_true)]
  rw [readValue, hskip]
  split
  · next heq => exact absurd (List.cons.inj heq).1 hquote
  · next heq => exact absurd (List.cons.inj heq).1 hbracket
  · next heq => exact absurd (List.cons.inj heq).1 hbrace
  · next heq =>
    cases heq
    rw [if_pos (.inr h)]
  · next heq => cases heq

/-- The text of a value is read as the value, wherever it stands in an object. -/
def ReadBack (value : Json) : Prop :=
  ∀ fuel depth {rest : List Char}, EndsField rest →
    readValue Numeral.exact? (fuel + 1) depth ((write value).toList ++ rest) = some (value, rest)

theorem write_string (s : String) : write (.string s) = quote s := by
  rw [write, pieces, String.join_cons, String.join_nil, String.append_empty]

theorem write_nat (n : Nat) : write (nat n) = Text.decimal n := by
  rw [write, nat, pieces, String.join_cons, String.join_nil, String.append_empty, numberText, Text.decimalInt,
    if_neg (by omega), Int.natAbs_natCast]

theorem readBack_string (s : String) : ReadBack (.string s) := by
  intro fuel depth rest _
  rw [write_string, toList_quote, List.cons_append, List.append_assoc, List.singleton_append, readValue_quote,
    readString_quoted, Option.map_some]

theorem readBack_nat (n : Nat) : ReadBack (nat n) := by
  intro fuel depth rest hrest
  have hread := readNumeral_decimal n hrest
  have hvalue : Numeral.exact? ⟨false, (Text.decimal n).toList, none, none⟩ = some (.integer n) := by
    rw [ Numeral.exact?, if_neg (fun h => Bool.false_ne_true h.1), Text.digitsValue_decimal]
    rfl
  obtain ⟨d, ds, hd⟩ := List.exists_cons_of_ne_nil (Text.decimal_ne_nil n)
  have hdigit : d.isDigit = true := Text.isDigit_decimal n d (by rw [hd]; exact List.mem_cons_self)
  rw [write_nat]
  rw [hd] at hread hvalue ⊢
  rw [List.cons_append] at hread ⊢
  rw [readValue_digit hdigit, hread]
  simp only [bind, Option.bind, hvalue]
  rfl

/-! ### Objects -/

def fieldText (field : String × Json) : List Char := (quote field.1).toList ++ ':' :: (write field.2).toList

def laterText (fields : List (String × Json)) : List Char := fields.flatMap fun field => ',' :: fieldText field

theorem toList_fieldPieces (field : String × Json) (later : List (String × Json)) :
    (fieldPieces (field :: later)).flatMap String.toList = fieldText field ++ laterText later := by
  have hwrite (value : Json) : (pieces value).flatMap String.toList = (write value).toList := by
    rw [write, String.toList_join]
  induction later generalizing field with
  | nil =>
    rw [fieldPieces, List.flatMap_cons, List.flatMap_cons, hwrite, laterText, List.flatMap_nil, List.append_nil]
    rfl
  | cons next later ih =>
    rw [fieldPieces, List.flatMap_append, List.flatMap_cons, List.flatMap_cons, hwrite, List.flatMap_cons, ih,
      laterText, laterText, List.flatMap_cons]
    · rfl
    · exact List.cons_ne_nil next later

theorem toList_write_object (field : String × Json) (later : List (String × Json)) :
    (write (.object (field :: later))).toList = '\x7b' :: (fieldText field ++ (laterText later ++ ['\x7d'])) := by
  have hopen : ("\x7b" : String).toList = ['\x7b'] := by decide
  have hclose : ("\x7d" : String).toList = ['\x7d'] := by decide
  rw [write, pieces, String.toList_join, List.flatMap_append, List.flatMap_cons, toList_fieldPieces, hopen,
    List.flatMap_singleton, hclose, List.singleton_append, List.cons_append, List.append_assoc]

theorem length_le_length_laterText (fields : List (String × Json)) : fields.length ≤ (laterText fields).length := by
  induction fields with
  | nil => exact Nat.le_refl 0
  | cons field later ih =>
    rw [laterText, List.flatMap_cons, ← laterText, List.length_append, List.length_cons, List.length_cons]
    omega

theorem readFields_field (name : String) {value : Json} (hvalue : ReadBack value) (done : List (String × Json))
    (behind : List Char) :
    readFields Numeral.exact? (fuel + 2) depth done (fieldText (name, value) ++ ',' :: behind) =
        readFields Numeral.exact? (fuel + 1) depth ((name, value) :: done) behind ∧
      readFields Numeral.exact? (fuel + 2) depth done (fieldText (name, value) ++ '\x7d' :: behind) =
        some (ofFields ((name, value) :: done).reverse, behind) := by
  have hname (cs : List Char) : skipSpace ('"' :: cs) = '"' :: cs := rfl
  have hcolon (cs : List Char) : skipSpace (':' :: cs) = ':' :: cs := rfl
  have hcomma : skipSpace (',' :: behind) = ',' :: behind := rfl
  have hbrace : skipSpace ('\x7d' :: behind) = '\x7d' :: behind := rfl
  have hmore : EndsField (',' :: behind) := fun c hc => .inl (Option.some.inj hc).symm
  have hlast : EndsField ('\x7d' :: behind) := fun c hc => .inr (Option.some.inj hc).symm
  have htext (rest : List Char) : fieldText (name, value) ++ rest =
      '"' :: (name.toList.flatMap escapeChar ++ '"' :: ':' :: ((write value).toList ++ rest)) := by
    rw [fieldText, toList_quote, List.append_assoc, List.cons_append, List.append_assoc, List.singleton_append,
      List.cons_append]
  constructor
  · rw [htext, readFields, hname]
    simp only [readString_quoted, bind, Option.bind, hcolon, hvalue fuel depth hmore, hcomma]
  · rw [htext, readFields, hname]
    simp only [readString_quoted, bind, Option.bind, hcolon, hvalue fuel depth hlast, hbrace]

theorem readFields_written {field : String × Json} {later : List (String × Json)}
    (hfields : ∀ member ∈ field :: later, ReadBack member.2) {fuel : Nat} (hfuel : later.length < fuel)
    (done : List (String × Json)) (rest : List Char) :
    readFields Numeral.exact? (fuel + 1) depth done (fieldText field ++ (laterText later ++ '\x7d' :: rest)) =
      some (ofFields (done.reverse ++ field :: later), rest) := by
  have hfield := hfields field List.mem_cons_self
  induction later generalizing field fuel done with
  | nil =>
    obtain ⟨fuel, rfl⟩ := Nat.exists_eq_succ_of_ne_zero (Nat.ne_of_gt hfuel)
    rw [laterText, List.flatMap_nil, List.nil_append, (readFields_field field.1 hfield done rest).2,
      List.reverse_cons]
  | cons next later ih =>
    obtain ⟨fuel, rfl⟩ := Nat.exists_eq_succ_of_ne_zero (Nat.ne_of_gt (Nat.zero_lt_of_lt hfuel))
    have hlater : ∀ member ∈ next :: later, ReadBack member.2 :=
      fun member h => hfields member (List.mem_cons_of_mem _ h)
    have hnext := ih hlater (Nat.lt_of_succ_lt_succ hfuel) (field :: done) (hlater next List.mem_cons_self)
    rw [List.reverse_cons, List.append_assoc, List.singleton_append] at hnext
    rw [laterText, List.flatMap_cons, ← laterText, List.cons_append, List.cons_append, List.append_assoc,
      (readFields_field field.1 hfield done _).1]
    exact hnext

theorem readValue_brace (rest : List Char) :
    readValue number (fuel + 1) (depth + 1) ('\x7b' :: '"' :: rest) =
      readFields number fuel depth [] ('"' :: rest) := by
  rw [readValue]
  rfl

theorem readExact?_object {field : String × Json} {later : List (String × Json)}
    (hfields : ∀ member ∈ field :: later, ReadBack member.2) :
    readExact? (write (.object (field :: later))) = some (ofFields (field :: later)) := by
  have hlength := length_le_length_laterText later
  have hread (fuel : Nat) (hfuel : later.length < fuel) :
      readValue Numeral.exact? (fuel + 2) maxDepth (write (.object (field :: later))).toList =
        some (ofFields (field :: later), []) := by
    have hwritten := @readFields_written 126 field later hfields fuel hfuel [] []
    rw [fieldText, toList_quote] at hwritten
    rw [toList_write_object, fieldText, toList_quote]
    exact (readValue_brace _).trans hwritten
  rw [readExact?, readWith]
  simp only [toList_write_object, List.length_cons, List.length_append] at hread ⊢
  rw [hread _ (by omega)]
  rfl

/-! ### Fields -/

theorem lookup_insertField (name : String) (value : Json) (fields : List (String × Json)) (other : String) :
    (insertField name value fields).lookup other = if other = name then some value else fields.lookup other := by
  induction fields with
  | nil =>
    rw [insertField, List.lookup_cons]
    by_cases hother : other = name
    · simp [hother]
    · simp [hother, beq_eq_false_iff_ne.mpr hother]
  | cons field rest ih =>
    obtain ⟨held, kept⟩ := field
    rw [insertField]
    split
    · by_cases hother : other = name
      · simp [hother]
      · simp [hother, List.lookup_cons, beq_eq_false_iff_ne.mpr hother]
    split
    · next hsame =>
      subst hsame
      by_cases hother : other = name
      · simp [hother]
      · simp [hother, List.lookup_cons, beq_eq_false_iff_ne.mpr hother]
    · next hnot =>
      rw [List.lookup_cons, List.lookup_cons, ih]
      by_cases hother : other = name
      · subst hother
        rw [beq_eq_false_iff_ne.mpr hnot, if_pos rfl]
      · rw [if_neg hother, if_neg hother]

theorem field?_ofFields (fields : List (String × Json)) (name : String) :
    (ofFields fields).field? name = fields.reverse.lookup name := by
  rw [ofFields, field?]
  induction fields using List.reverseRecOn with
  | nil => rfl
  | append_singleton fields field ih =>
    rw [List.foldl_append, List.foldl_cons, List.foldl_nil, lookup_insertField, List.reverse_append,
      List.reverse_singleton, List.singleton_append, ih]
    obtain ⟨held, kept⟩ := field
    rw [List.lookup_cons]
    by_cases hname : name = held
    · simp [hname]
    · simp [hname, beq_eq_false_iff_ne.mpr hname]

end AppServer.Json
