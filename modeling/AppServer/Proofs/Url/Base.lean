import AppServer.Proofs.Text.Ascii
import AppServer.Proofs.Text.Number
import AppServer.Url.Basic

/-!
# URLs below a base

The base of a server's URLs ends with its host and port. Whatever path, query or
fragment stands behind them, a URL that is read from such a text has the scheme,
the host and the port of the base.
-/

namespace AppServer.Url

/-! ### Places -/

/-- A character of a host in an authority, the marks of an address in brackets among them. -/
def IsPlaceChar (c : Char) : Prop := c.isAlphanum = true ∨ c = '.' ∨ c = ':' ∨ c = '[' ∨ c = ']'

/-- What names a host in an authority: no colon in it is taken for that of the port. -/
structure IsPlace (name : List Char) : Prop where
  nonempty : name ≠ []
  chars : ∀ c ∈ name, IsPlaceChar c
  whole : ∀ rest, hostChars false (name ++ ':' :: rest) = name

/-- What may follow an authority: nothing, a path, a query or a fragment. -/
def StartsBehind (cs : List Char) : Prop := ∀ c, cs.head? = some c → c = '/' ∨ c = '?' ∨ c = '#'

theorem startsBehind_empty : StartsBehind "".toList := by
  intro c hc
  cases hc

theorem IsPlaceChar.ascii {c : Char} (h : IsPlaceChar c) : c.toNat < 128 := by
  rcases h with h | rfl | rfl | rfl | rfl
  · exact toNat_lt_of_isAlphanum h
  all_goals decide

theorem IsPlaceChar.inside {c : Char} (h : IsPlaceChar c) :
    32 < c.toNat ∧ endsAuthority true c = false ∧ c ≠ '@' := by
  have hall : ∀ n < 128, IsPlaceChar (Char.ofNat n) →
      32 < (Char.ofNat n).toNat ∧ endsAuthority true (Char.ofNat n) = false ∧ Char.ofNat n ≠ '@' := by
    unfold IsPlaceChar
    decide
  exact forall_ascii (P := fun c => IsPlaceChar c → 32 < c.toNat ∧ endsAuthority true c = false ∧ c ≠ '@')
    hall h.ascii h

theorem isPlaceChar_of_isDigit {c : Char} (h : c.isDigit = true) : IsPlaceChar c := by
  refine .inl ?_
  rw [Char.isAlphanum, h, Bool.or_true]

/-! ### Ports -/

theorem readPort_decimal (n : Nat) {rest : List Char} (hrest : StartsBehind rest) :
    readPort "http" ((Text.decimal n).toList ++ rest) =
      if 65535 < n then .error .badPort else .ok (if n = 80 then none else some n, rest) := by
  have hstop : ∀ c, rest.head? = some c → c.isDigit = false := by
    intro c hc
    rcases hrest c hc with rfl | rfl | rfl <;> decide
  have hends : rest.head?.all (endsAuthority true) = true := by
    cases hhead : rest.head? with
    | none => rfl
    | some c => rcases hrest c hhead with rfl | rfl | rfl <;> decide
  obtain ⟨htake, hdrop⟩ := Text.takeWhile_append_of_stop (Text.isDigit_decimal n) hstop
  have husual : usualPorts.lookup "http" = some 80 := by decide
  simp only [readPort, htake, hdrop, Text.digitsValue_decimal, hends, Bool.not_true, Text.decimal_ne_nil, false_or,
    husual, Option.some.injEq, eq_comm (a := 80), Bool.false_eq_true, if_false]
  split
  · rfl
  · split <;> rfl

/-! ### Reading -/

def ofPlace (host : Host) (port : Nat) (rest : List Char) : Url :=
  let path := rest.takeWhile fun c => c ≠ '?' ∧ c ≠ '#'
  let u : Url := { scheme := "http", host, port := if port = 80 then none else some port, path := readPath true path }
  u.withRest (rest.drop path.length)

theorem ofPlace_origin (host : Host) (port : Nat) (rest : List Char) :
    (ofPlace host port rest).scheme = "http" ∧ (ofPlace host port rest).host = some host ∧
      (ofPlace host port rest).port.or (usualPorts.lookup (ofPlace host port rest).scheme) = some port := by
  refine ⟨rfl, rfl, ?_⟩
  have hport : (ofPlace host port rest).port = if port = 80 then none else some port := rfl
  have husual : usualPorts.lookup (ofPlace host port rest).scheme = some 80 := rfl
  rw [hport, husual]
  split
  · next heq => rw [heq, Option.none_or]
  · rw [Option.some_or]

variable {name : List Char}

theorem readAuthority_place (hname : IsPlace name) (port : Nat) {rest : List Char} (hrest : StartsBehind rest) :
    readAuthority "http" (name ++ ':' :: (Text.decimal port).toList ++ rest) =
      (readHost true name).bind fun host =>
        if 65535 < port then .error .badPort else .ok (ofPlace host port rest) := by
  have hinside : ∀ c ∈ name ++ ':' :: (Text.decimal port).toList, IsPlaceChar c := by
    intro c hc
    rw [List.mem_append, List.mem_cons] at hc
    rcases hc with hc | rfl | hc
    · exact hname.chars c hc
    · exact .inr (.inr (.inl rfl))
    · exact isPlaceChar_of_isDigit (Text.isDigit_decimal port c hc)
  have hstop : ∀ c, rest.head? = some c → (!endsAuthority true c) = false := by
    intro c hc
    rcases hrest c hc with rfl | rfl | rfl <;> decide
  obtain ⟨htake, hdrop⟩ :=
    Text.takeWhile_append_of_stop (p := fun c => !endsAuthority true c)
      (fun c hc => by rw [(hinside c hc).inside.2.1, Bool.not_false]) hstop
  have huser : cutUser (name ++ ':' :: (Text.decimal port).toList) = none := by
    rw [cutUser, if_neg]
    exact fun hmem => (hinside _ hmem).inside.2.2 rfl
  have hbehind : (name ++ ':' :: (Text.decimal port).toList).drop name.length =
      ':' :: (Text.decimal port).toList := List.drop_left
  have hweb : isWebScheme "http" = true := by decide
  simp only [readAuthority, hweb, htake, hdrop, huser, hname.whole, hbehind, hname.nonempty, false_and, if_false,
    readPort_decimal port hrest, Option.bind_none]
  cases readHost true name with
  | error e => rfl
  | ok host =>
    by_cases hlarge : 65535 < port
    · simp only [if_pos hlarge]
      rfl
    · simp only [if_neg hlarge]
      rfl

theorem dropOuter_append {start : List Char} (hvisible : ∀ c ∈ start, 32 < c.toNat)
    (behind : List Char) :
    ((start ++ behind).reverse.dropWhile fun c => c.toNat ≤ 0x20).reverse =
      start ++ (behind.reverse.dropWhile fun c => c.toNat ≤ 0x20).reverse := by
  have hlast : start.reverse.dropWhile (fun c => c.toNat ≤ 0x20) = start.reverse := by
    refine List.dropWhile_eq_self_iff.mpr fun hpos => ?_
    have hmem := List.mem_reverse.mp (List.getElem_mem (h := hpos))
    have hlow := hvisible _ hmem
    simp only [decide_eq_true_eq]
    omega
  rw [List.reverse_append, List.dropWhile_append, hlast]
  split
  · next hempty =>
    rw [List.isEmpty_iff.mp hempty, List.reverse_reverse, List.reverse_nil, List.append_nil]
  · rw [List.reverse_append, List.reverse_reverse]

/-- What is left of a text behind a visible start when the whole is cleaned. -/
def tidy (behind : List Char) : List Char :=
  ((behind.reverse.dropWhile fun c => c.toNat ≤ 0x20).reverse).filter fun c => c ≠ '\t' ∧ c ≠ '\n' ∧ c ≠ '\r'

theorem tidy_append {start : List Char} (hvisible : ∀ c ∈ start, 32 < c.toNat) (behind : List Char) :
    tidy (start ++ behind) = start ++ tidy behind := by
  have hkept : start.filter (fun c => c ≠ '\t' ∧ c ≠ '\n' ∧ c ≠ '\r') = start := by
    refine List.filter_eq_self.mpr fun c hc => ?_
    have hlow := hvisible c hc
    refine decide_eq_true ⟨?_, ?_, ?_⟩
    all_goals
      rintro rfl
      revert hlow
      decide
  rw [tidy, dropOuter_append hvisible, List.filter_append, hkept]
  rfl

theorem startsBehind_tidy {behind : List Char} (hbehind : StartsBehind behind) : StartsBehind (tidy behind) := by
  cases behind with
  | nil => exact hbehind
  | cons c more =>
    have hc : ∀ d ∈ [c], 32 < d.toNat := by
      intro d hd
      rw [List.mem_singleton.mp hd]
      rcases hbehind c rfl with rfl | rfl | rfl <;> decide
    have htidy := tidy_append hc more
    rw [List.singleton_append] at htidy
    rw [htidy]
    exact hbehind

theorem clean_append {start : List Char} (hne : start ≠ []) (hvisible : ∀ c ∈ start, 32 < c.toNat)
    (behind : List Char) : clean (String.ofList (start ++ behind)) = start ++ tidy behind := by
  have hfront : (start ++ behind).dropWhile (fun c => c.toNat ≤ 0x20) = start ++ behind := by
    refine List.dropWhile_eq_self_iff.mpr fun hpos => ?_
    have hlow := hvisible _ (List.head_mem hne)
    have hhead : (start ++ behind)[0] = start.head hne := by
      rw [List.getElem_zero, List.head_append_of_ne_nil hne]
    simp only [hhead, decide_eq_true_eq]
    omega
  rw [← tidy_append hvisible, clean, String.toList_ofList, hfront]
  rfl

theorem parse_place (hname : IsPlace name) (port : Nat) {behind : List Char} (hbehind : StartsBehind behind) :
    parse (String.ofList ("http://".toList ++ (name ++ ':' :: (Text.decimal port).toList) ++ behind)) =
      (readHost true name).bind fun host =>
        if 65535 < port then .error .badPort else .ok (ofPlace host port (tidy behind)) := by
  have hvisible : ∀ c ∈ "http://".toList ++ (name ++ ':' :: (Text.decimal port).toList), 32 < c.toNat := by
    intro c hc
    simp only [List.mem_append, List.mem_cons] at hc
    rcases hc with hc | hc | rfl | hc
    · have hall : "http://".toList.all (fun c => 32 < c.toNat) = true := by decide
      exact of_decide_eq_true (List.all_eq_true.mp hall c hc)
    · exact (hname.chars c hc).inside.1
    · decide
    · exact (isPlaceChar_of_isDigit (Text.isDigit_decimal port c hc)).inside.1
  have hclean := clean_append (by simp) hvisible behind
  have hrest := startsBehind_tidy hbehind
  obtain ⟨first, others, hfirst⟩ := List.exists_cons_of_ne_nil hname.nonempty
  have hslash : isSlash true first = false := by
    have hinside := (hname.chars first (by rw [hfirst]; exact List.mem_cons_self)).inside.2.1
    rw [endsAuthority, Bool.or_eq_false_iff, Bool.or_eq_false_iff] at hinside
    exact hinside.1.1
  have hscheme : readScheme ("http://".toList ++ (name ++ ':' :: (Text.decimal port).toList) ++ tidy behind) =
      some ("http", '/' :: '/' :: (name ++ ':' :: (Text.decimal port).toList ++ tidy behind)) := rfl
  have hdrop : ('/' :: '/' :: (name ++ ':' :: (Text.decimal port).toList ++ tidy behind)).dropWhile (isSlash true) =
      name ++ ':' :: (Text.decimal port).toList ++ tidy behind := by
    have htwo : isSlash true '/' = true := by decide
    simp only [hfirst, List.cons_append, List.dropWhile_cons, htwo, hslash, if_true, Bool.false_eq_true, if_false]
  have hweb : isWebScheme "http" = true := by decide
  simp only [parse, hclean, hscheme, hweb, hdrop, if_true, readAuthority_place hname port hrest]
  rw [if_neg (by decide)]

end AppServer.Url
