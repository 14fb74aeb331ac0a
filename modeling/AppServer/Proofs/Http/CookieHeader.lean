import AppServer.Http.Cookie
import AppServer.Proofs.Http.Header
import AppServer.Proofs.Text.Cut

/-!
# What cookie headers say

A cookie header is a row of items with semicolons between them. An item says a
pair when it writes that pair with any blanks around it, and nothing when it has
no equals sign. The pairs that are read from a request are exactly those that the
items of its readable cookie headers say.
-/

namespace AppServer.Http

/-! ### Items -/

/-- What an item says: the pair that it writes between blanks, or nothing. -/
inductive ItemSays : List Char → Option Cookie → Prop where
  | pair {before after : List Char} {name value : String}
      (blankBefore : ∀ c ∈ before, Text.isBlank c = true)
      (blankAfter : ∀ c ∈ after, Text.isBlank c = true)
      (plain : '=' ∉ name.toList) (trimmed : Text.Trimmed (name ++ "=" ++ value).toList) :
      ItemSays (before ++ (name ++ "=" ++ value).toList ++ after) (some (name, value))
  | bare {item : List Char} (plain : '=' ∉ item) : ItemSays item none

theorem not_mem_of_blank {cs : List Char} (h : ∀ c ∈ cs, Text.isBlank c = true) : '=' ∉ cs := by
  intro hmem
  have hblank := h '=' hmem
  revert hblank
  decide

theorem ofList_pair (name value : List Char) :
    (String.ofList name ++ "=" ++ String.ofList value).toList = name ++ '=' :: value := by
  simp only [String.toList_append, String.toList_ofList]
  rw [List.append_assoc]
  rfl

theorem cookieOfItem?_eq_iff {item : List Char} {said : Option Cookie} :
    cookieOfItem? item = said ↔ ItemSays item said := by
  constructor
  · intro h
    obtain ⟨before, after, hbefore, hafter, hitem⟩ := Text.exists_blanks_around item
    cases hcut : Text.cutFirst '=' (Text.trimChars item) with
    | none =>
      rw [cookieOfItem?, hcut, Option.map_none] at h
      subst h
      have hcore := Text.cutFirst_eq_none_iff.mp hcut
      refine .bare ?_
      rw [hitem, List.mem_append, List.mem_append, not_or, not_or]
      exact ⟨⟨not_mem_of_blank hbefore, hcore⟩, not_mem_of_blank hafter⟩
    | some parts =>
      obtain ⟨name, value⟩ := parts
      rw [cookieOfItem?, hcut, Option.map_some] at h
      subst h
      obtain ⟨hcore, hname⟩ := Text.cutFirst_eq_some_iff.mp hcut
      have htrimmed := Text.trimmed_trimChars item
      rw [hitem, hcore, ← ofList_pair]
      rw [hcore, ← ofList_pair] at htrimmed
      refine .pair hbefore hafter ?_ htrimmed
      rwa [String.toList_ofList]
  · intro h
    cases h with
    | pair blankBefore blankAfter plain trimmed =>
      next before after name value =>
      have hcore : (name ++ "=" ++ value).toList = name.toList ++ '=' :: value.toList := by
        have hpair := ofList_pair name.toList value.toList
        rwa [String.ofList_toList, String.ofList_toList] at hpair
      rw [cookieOfItem?, Text.trimChars_append blankBefore trimmed blankAfter, hcore,
        Text.cutFirst_append plain]
      simp only [Option.map_some, String.ofList_toList]
    | bare plain =>
      have hcore : '=' ∉ Text.trimChars item := by
        obtain ⟨before, after, -, -, hitem⟩ := Text.exists_blanks_around item
        intro hmem
        refine plain ?_
        rw [hitem]
        exact List.mem_append_left _ (List.mem_append_right _ hmem)
      rw [cookieOfItem?, Text.cutFirst_eq_none_iff.mpr hcore, Option.map_none]

/-! ### Headers -/

def joinItems (items : List (List Char)) : String := String.ofList (List.intercalate [';'] items)

/-- One of the readable cookie headers holds exactly these items. -/
structure HoldsItems (headers : Headers) (items : List (List Char)) : Prop where
  header : Bytes.ofText (joinItems items) ∈ headers.all "cookie"
  readable : Readable (Bytes.ofText (joinItems items))
  nonempty : items ≠ []
  whole : ∀ item ∈ items, ';' ∉ item

theorem mem_cookiesOfText_iff {items : List (List Char)} (hsome : items ≠ [])
    (hwhole : ∀ item ∈ items, ';' ∉ item) {cookie : Cookie} :
    cookie ∈ cookiesOfText (joinItems items) ↔ ∃ item ∈ items, ItemSays item (some cookie) := by
  rw [cookiesOfText, joinItems, String.toList_ofList, Text.cutAll_intercalate hsome hwhole,
    List.mem_filterMap]
  simp only [cookieOfItem?_eq_iff]

theorem mem_cookies_iff {headers : Headers} {cookie : Cookie} :
    cookie ∈ headers.cookies ↔
      ∃ items, HoldsItems headers items ∧ ∃ item ∈ items, ItemSays item (some cookie) := by
  rw [Headers.cookies, List.mem_flatMap]
  simp only [List.mem_filterMap]
  constructor
  · rintro ⟨text, ⟨value, hvalue, hread⟩, hcookie⟩
    obtain ⟨hreadable, rfl⟩ := readable?_eq_some_iff.mp hread
    have hjoin : joinItems (Text.cutAll ';' text.toList) = text := by
      rw [joinItems, Text.intercalate_cutAll, String.ofList_toList]
    have hsome := Text.cutAll_ne_nil ';' text.toList
    have hwhole : ∀ item ∈ Text.cutAll ';' text.toList, ';' ∉ item :=
      fun item hitem => Text.not_mem_of_mem_cutAll hitem
    refine ⟨Text.cutAll ';' text.toList, ⟨?_, ?_, hsome, hwhole⟩, ?_⟩
    · rwa [hjoin]
    · rwa [hjoin]
    · rwa [← mem_cookiesOfText_iff hsome hwhole, hjoin]
  · rintro ⟨items, ⟨hheader, hreadable, hsome, hwhole⟩, hsaid⟩
    refine ⟨joinItems items, ⟨_, hheader, readable?_eq_some_iff.mpr ⟨hreadable, rfl⟩⟩, ?_⟩
    exact (mem_cookiesOfText_iff hsome hwhole).mpr hsaid

/-! ### One pair of a name -/

/-- The cookie headers hold a pair, and no other pair of its name. -/
structure BringsCookie (headers : Headers) (name value : String) : Prop where
  said : ∃ items, HoldsItems headers items ∧ ∃ item ∈ items, ItemSays item (some (name, value))
  alone : ∀ items, HoldsItems headers items → ∀ item ∈ items, ∀ other,
    ItemSays item (some (name, other)) → other = value

theorem firstPair_of_mem {pairs : List (String × String)} {name value : String}
    (hmem : (name, value) ∈ pairs) (halone : ∀ other, (name, other) ∈ pairs → other = value) :
    FirstPair pairs name value := by
  obtain ⟨found, hfound⟩ : ∃ found, pairs.lookup name = some found := by
    cases hlookup : pairs.lookup name with
    | some found => exact ⟨found, rfl⟩
    | none =>
      have hne := List.lookup_eq_none_iff.mp hlookup (name, value) hmem
      simp at hne
  obtain ⟨before, after, hpairs, hbefore⟩ := lookup_eq_some_iff.mp hfound
  have heq : found = value := by
    refine halone found ?_
    rw [hpairs]
    exact List.mem_append_right _ List.mem_cons_self
  rw [← heq]
  exact ⟨before, after, hpairs, hbefore⟩

theorem BringsCookie.firstPair {headers : Headers} {name value : String}
    (h : BringsCookie headers name value) : FirstPair headers.cookies name value := by
  refine firstPair_of_mem (mem_cookies_iff.mpr h.said) fun other hother => ?_
  obtain ⟨items, hitems, item, hitem, hsays⟩ := mem_cookies_iff.mp hother
  exact h.alone items hitems item hitem other hsays

end AppServer.Http
