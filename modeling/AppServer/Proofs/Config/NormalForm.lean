import AppServer.Proofs.Config.Keys
import AppServer.Proofs.Config.Port
import AppServer.Proofs.Network

/-!
# The normal form of settings

The settings that properties resolve to are in a normal form: a host that is
named without brackets, a port, a context path that is empty or a slash and more, a
cookie prefix. Written back under their keys they resolve to themselves, and so do
they with the host as it stands in an advertised address, in brackets when it is an
IPv6 literal.
-/

namespace AppServer.ServerSettings

open Text

/-! ### Hosts -/

/-- A host in normal form: not empty, no brackets, no slash, and no blanks around it. -/
structure NormalHost (host : String) : Prop where
  nonempty : host ≠ ""
  plain : ∀ c ∈ host.toList, c ≠ '[' ∧ c ≠ ']' ∧ c ≠ '/'
  trimmed : Trimmed host.toList

/-- A text names a host in normal form: it is the host or, for an IPv6 literal, the host in brackets, with any
blanks around it. -/
@[mk_iff]
structure NamesHost (raw host : String) : Prop where
  normal : NormalHost host
  text : trim raw = host ∨ (Ipv6.isLiteral host = true ∧ trim raw = "[" ++ host ++ "]")

/-- A host as it stands in front of a port. -/
def inAuthority (host : String) : String := if Ipv6.isLiteral host then "[" ++ host ++ "]" else host

theorem normalHost_of_isLiteral {host : String} (h : Ipv6.isLiteral host = true) : NormalHost host := by
  refine ⟨?_, plain_of_isLiteral h, trimmed_of_forall fun c hc => ?_⟩
  · rintro rfl
    revert h
    decide
  · rcases forall_of_isLiteral h c hc with halnum | rfl | rfl
    · exact isBlank_of_isAlphanum halnum
    · decide
    · decide

theorem unbracket?_eq_some_iff {s inner : String} : unbracket? s = some inner ↔ s = "[" ++ inner ++ "]" := by
  have hchars : s = "[" ++ inner ++ "]" ↔ s.toList = '[' :: (inner.toList ++ [']']) := by
    rw [← String.toList_inj, String.toList_append, String.toList_append]
    rfl
  rw [hchars, unbracket?.eq_def]
  split
  · next rest hs =>
    rw [hs, List.cons.injEq, eq_self, true_and, Option.map_eq_some_iff]
    simp only [dropEnd?_eq_some_iff]
    constructor
    · rintro ⟨front, hrest, rfl⟩
      rw [hrest, String.toList_ofList]
    · exact fun hrest => ⟨inner.toList, hrest, String.ofList_toList⟩
  · next hs => exact iff_of_false nofun fun heq => hs _ heq

theorem normalizeHost_bracketed {host : String} (h : Ipv6.isLiteral host = true) :
    normalizeHost ("[" ++ host ++ "]") = .ok host := by
  have hinner : unbracket? ("[" ++ host ++ "]") = some host := unbracket?_eq_some_iff.mpr rfl
  simp only [normalizeHost, hinner, h, if_true]

theorem normalizeHost_normal {host : String} (h : NormalHost host) : normalizeHost host = .ok host := by
  -- without an opening bracket no brackets are taken off
  have hbare : unbracket? host = none := by
    refine Option.eq_none_iff_forall_ne_some.mpr fun inner hinner => ?_
    have hopen : '[' ∈ host.toList := by
      rw [unbracket?_eq_some_iff.mp hinner, String.toList_append, String.toList_append]
      exact List.mem_cons_self
    exact (h.plain '[' hopen).1 rfl
  have hplain : (host.toList.any fun c => c = '[' || c = ']' || c = '/') = false := by
    refine List.any_eq_false.mpr fun c hc => ?_
    obtain ⟨hopen, hclose, hslash⟩ := h.plain c hc
    simp [hopen, hclose, hslash]
  simp [normalizeHost, hbare, hplain]

theorem normalizeHost_eq_ok_iff {raw host : String} (hne : raw ≠ "") (htrimmed : Trimmed raw.toList) :
    normalizeHost raw = .ok host ↔
      NormalHost host ∧ (raw = host ∨ (Ipv6.isLiteral host = true ∧ raw = "[" ++ host ++ "]")) := by
  constructor
  · intro h
    rw [normalizeHost] at h
    split at h
    · next inner hinner =>
      split at h
      · next hliteral =>
        cases h
        exact ⟨normalHost_of_isLiteral hliteral, .inr ⟨hliteral, unbracket?_eq_some_iff.mp hinner⟩⟩
      · cases h
    · split at h
      · cases h
      · next hplain =>
        cases h
        refine ⟨⟨hne, fun c hc => ?_, htrimmed⟩, .inl rfl⟩
        have hnot := List.any_eq_false.mp (Bool.eq_false_iff.mpr hplain) c hc
        simpa [and_assoc] using hnot
  · rintro ⟨hnormal, rfl | ⟨hliteral, rfl⟩⟩
    · exact normalizeHost_normal hnormal
    · exact normalizeHost_bracketed hliteral

theorem bracketed_ne_empty (host : String) : "[" ++ host ++ "]" ≠ "" := by
  intro h
  have hnil := congrArg String.toList h
  rw [String.toList_append, String.toList_append] at hnil
  cases hnil

theorem trimmed_bracketed (host : String) : Trimmed ("[" ++ host ++ "]").toList := by
  rw [String.toList_append, String.toList_append]
  constructor
  · intro c hc
    cases hc
    decide
  · intro c hc
    rw [List.getLast?_append] at hc
    cases hc
    decide

theorem NamesHost.nonempty {raw host : String} (h : NamesHost raw host) : trim raw ≠ "" := by
  rcases h.text with hplain | ⟨-, hbracketed⟩
  · rw [hplain]
    exact h.normal.nonempty
  · rw [hbracketed]
    exact bracketed_ne_empty host

theorem hostOf_eq_ok_some_iff {p : Properties} {host : String} :
    hostOf p = .ok (some host) ↔ ∃ raw, p.get? hostKey = some raw ∧ NamesHost raw host := by
  rw [hostOf]
  cases hset : p.get? hostKey with
  | none => simp
  | some raw =>
    simp only [Option.some.injEq, exists_eq_left']
    by_cases hne : trim raw = ""
    · rw [if_pos hne]
      refine iff_of_false (fun hok => ?_) fun hnames => hnames.nonempty hne
      cases hok
    · have hmap : (normalizeHost (trim raw)).map some = .ok (some host) ↔ normalizeHost (trim raw) = .ok host := by
        cases normalizeHost (trim raw) <;> simp [Except.map]
      rw [if_neg hne, hmap, normalizeHost_eq_ok_iff hne (trimmed_trim raw), namesHost_iff]

/-! ### Context paths and cookie prefixes -/

theorem normalizeContextPath_normal {path : String} (h : NormalPath path) : normalizeContextPath path = .ok path := by
  simp only [normalizeContextPath, trim_of_trimmed h.trimmed]
  rcases h.slashes with rfl | ⟨hstart, hend⟩
  · rfl
  · have hlong : ¬(path = "" ∨ path = "/") := by
      rintro (rfl | rfl)
      · cases hstart
      · exact hend rfl
    rw [if_neg hlong, if_neg (not_not_intro hstart), if_neg hend]

theorem normalizeCookiePrefix_again {raw token : String} (h : normalizeCookiePrefix raw = .ok token) :
    normalizeCookiePrefix token = .ok token := by
  obtain ⟨htrim, hne, hchars⟩ := normalizeCookiePrefix_eq_ok_iff.mp h
  refine normalizeCookiePrefix_eq_ok_iff.mpr ⟨trim_of_trimmed ?_, hne, hchars⟩
  rw [← htrim]
  exact trimmed_trim raw

/-! ### Settings -/

structure Normal (s : ServerSettings) : Prop where
  host : ∀ host, s.host = some host → NormalHost host
  port : ∀ port, s.port = some port → port ≤ 65535
  contextPath : NormalPath s.contextPath
  cookiePrefix : normalizeCookiePrefix s.cookiePrefix = .ok s.cookiePrefix

theorem normal_of_ofProperties {p : Properties} {s : ServerSettings} (h : ofProperties p = .ok s) : s.Normal := by
  obtain ⟨hhost, hport, hpath, hcookie⟩ := ofProperties_eq_ok_iff.mp h
  refine ⟨fun host hset => ?_, fun port hset => ?_, normalPath_of_normalizeContextPath hpath,
    normalizeCookiePrefix_again hcookie⟩
  · rw [hset] at hhost
    obtain ⟨_, -, hnames⟩ := hostOf_eq_ok_some_iff.mp hhost
    exact hnames.normal
  · rw [hset] at hport
    obtain ⟨_, -, -, hbound, -⟩ := ((p.readsPortsFrom_zero portKey).port port).mp hport
    exact hbound

/-! ### Writing back -/

/-- The pairs that write settings, with a text for the host. -/
def writtenBack (s : ServerSettings) (hostText : Option String) : List (String × String) :=
  hostText.toList.map (hostKey, ·) ++ s.port.toList.map (fun port => (portKey, decimal port)) ++
    [(contextPathKey, s.contextPath), (cookiePrefixKey, s.cookiePrefix)]

/-- Pairs can be written over properties, and then these resolve to settings. -/
def ResolvesWith (p : Properties) (pairs : List (String × String)) (s : ServerSettings) : Prop :=
  ∃ q, p.applyOverrides pairs = (q, .ok ()) ∧ ofProperties q = .ok s

variable {p : Properties} {s : ServerSettings}

theorem wellFormed_writtenBack (s : ServerSettings) (hostText : Option String) :
    ∀ pair ∈ s.writtenBack hostText, Properties.WellFormedKey pair.1 := by
  have hkeys : ∀ key ∈ [hostKey, portKey, contextPathKey, cookiePrefixKey], Properties.checkKey key = .ok () := by
    decide
  intro pair hpair
  refine Properties.checkKey_eq_ok_iff.mp (hkeys pair.1 ?_)
  simp only [writtenBack, List.mem_append, List.mem_map, List.mem_cons, List.not_mem_nil, or_false] at hpair ⊢
  rcases hpair with (⟨_, -, rfl⟩ | ⟨_, -, rfl⟩) | rfl | rfl
  · exact .inl rfl
  · exact .inr (.inl rfl)
  · exact .inr (.inr (.inl rfl))
  · exact .inr (.inr (.inr rfl))

theorem get?_writtenBack (p : Properties) (s : ServerSettings) (hostText : Option String) :
    let q := p.overlay (s.writtenBack hostText)
    q.get? hostKey = hostText.or (p.get? hostKey) ∧ q.get? portKey = (s.port.map decimal).or (p.get? portKey) ∧
      q.get? contextPathKey = some s.contextPath ∧ q.get? cookiePrefixKey = some s.cookiePrefix := by
  intro q
  have hoverlay : ∀ key, q.get? key = ((s.writtenBack hostText).reverse.lookup key).or (p.get? key) :=
    p.get?_overlay (s.writtenBack hostText)
  cases hhost : hostText <;> cases hport : s.port <;>
    simp [hoverlay, writtenBack, hhost, hport, List.lookup, hostKey, portKey, contextPathKey, cookiePrefixKey]

/-- Settings in normal form are resolved from properties that they are written over, if these do not set what
the settings do not have, with any text that names the host. -/
theorem Normal.resolvesWith (h : s.Normal) {hostText : Option String}
    (hhost : ∀ host, s.host = some host → ∃ raw, hostText = some raw ∧ NamesHost raw host)
    (hnone : s.host = none → hostText = none ∧ hostOf p = .ok none) (hport : s.port = none → p.get? portKey = none) :
    ResolvesWith p (s.writtenBack hostText) s := by
  obtain ⟨hkeyHost, hkeyPort, hkeyPath, hkeyCookie⟩ := get?_writtenBack p s hostText
  refine ⟨_, Properties.applyOverrides_of_wellFormed p (wellFormed_writtenBack s hostText),
    ofProperties_eq_ok_iff.mpr ⟨?_, ?_, ?_, ?_⟩⟩
  · cases hset : s.host with
    | none =>
      -- no host is written, so the key is left as it was: not set, or blank
      obtain ⟨rfl, hblank⟩ := hnone hset
      rw [← hblank, hostOf, hkeyHost, Option.none_or, hostOf]
    | some host =>
      obtain ⟨raw, rfl, hnames⟩ := hhost host hset
      exact hostOf_eq_ok_some_iff.mpr ⟨raw, hkeyHost, hnames⟩
  · have hreads := Properties.readsPortsFrom_zero (p.overlay (s.writtenBack hostText)) portKey
    cases hset : s.port with
    | none =>
      refine hreads.unset.mpr ?_
      rw [hkeyPort, hset, hport hset]
      rfl
    | some port =>
      rw [hset] at hkeyPort
      exact (hreads.port port).mpr
        ⟨decimal port, hkeyPort, Nat.zero_le port, h.port port hset, writesNumber_decimal port⟩
  · rw [Properties.getD, hkeyPath]
    exact normalizeContextPath_normal h.contextPath
  · rw [Properties.getD, hkeyCookie]
    exact h.cookiePrefix

theorem Normal.resolvesWith_host (h : s.Normal) (hnone : s.host = none → hostOf p = .ok none)
    (hport : s.port = none → p.get? portKey = none) : ResolvesWith p (s.writtenBack s.host) s := by
  refine h.resolvesWith (fun host hset => ?_) (fun hunset => ⟨hunset, hnone hunset⟩) hport
  exact ⟨host, hset, h.host host hset, .inl (trim_of_trimmed (h.host host hset).trimmed)⟩

/-! ### Addresses -/

/-- Addresses have a host in brackets exactly when it is an IPv6 literal, and as it is otherwise. -/
def Brackets (address : Nat → String) (host : String) : Prop :=
  ∀ port, (address port = "[" ++ host ++ "]" ++ ":" ++ decimal port ↔ Ipv6.isLiteral host = true) ∧
    (address port = host ++ ":" ++ decimal port ↔ Ipv6.isLiteral host = false)

theorem authority_eq_iff {host front : String} {port : Nat} :
    authority host port = front ++ ":" ++ decimal port ↔ front = inAuthority host := by
  have hauthority : authority host port = inAuthority host ++ ":" ++ decimal port := rfl
  rw [hauthority, String.append_left_inj, String.append_left_inj, eq_comm]

theorem brackets_authority (host : String) : Brackets (authority host) host := by
  have hne : host ≠ "[" ++ host ++ "]" := by
    intro heq
    have hlength : host.toList.length = host.toList.length + 1 + 1 := by
      simpa [String.toList_append] using congrArg (fun text => text.toList.length) heq
    omega
  intro port
  rw [authority_eq_iff, authority_eq_iff, inAuthority]
  cases Ipv6.isLiteral host with
  | true => exact ⟨iff_of_true rfl rfl, iff_of_false hne nofun⟩
  | false => exact ⟨iff_of_false hne.symm nofun, iff_of_true rfl rfl⟩

theorem namesHost_inAuthority {host : String} (h : NormalHost host) : NamesHost (inAuthority host) host := by
  refine ⟨h, ?_⟩
  rw [inAuthority]
  split
  · next hliteral => exact .inr ⟨hliteral, trim_of_trimmed (trimmed_bracketed host)⟩
  · exact .inl (trim_of_trimmed h.trimmed)

/-! ### Setting the host -/

theorem parts_congr {q : Properties} (hrest : ∀ key, hostKey ≠ key → p.get? key = q.get? key) :
    p.getPort portKey = q.getPort portKey ∧ p.getD contextPathKey "" = q.getD contextPathKey "" ∧
      p.getD cookiePrefixKey defaultCookiePrefix = q.getD cookiePrefixKey defaultCookiePrefix := by
  refine ⟨?_, ?_, ?_⟩
  · rw [Properties.getPort, Properties.getPort, hrest portKey (by decide)]
  · rw [Properties.getD, Properties.getD, hrest contextPathKey (by decide)]
  · rw [Properties.getD, Properties.getD, hrest cookiePrefixKey (by decide)]

theorem hostOf_insert {raw host : String} (hnames : NamesHost raw host) (p : Properties) :
    hostOf (p.insert hostKey raw) = .ok (some host) :=
  hostOf_eq_ok_some_iff.mpr ⟨raw, p.get?_insert_self hostKey raw, hnames⟩

theorem ofProperties_insert_host {raw host : String} (h : ofProperties p = .ok s) (hnames : NamesHost raw host) :
    ofProperties (p.insert hostKey raw) = .ok { s with host := some host } := by
  obtain ⟨-, hport, hpath, hcookie⟩ := ofProperties_eq_ok_iff.mp h
  obtain ⟨hportKept, hpathKept, hcookieKept⟩ := parts_congr fun _ hne => p.get?_insert_of_ne hne raw
  refine ofProperties_eq_ok_iff.mpr ⟨hostOf_insert hnames p, hportKept.trans hport, ?_, ?_⟩
  · rw [hpathKept]
    exact hpath
  · rw [hcookieKept]
    exact hcookie

/-- Texts that name the same host are as good as each other. -/
theorem ofProperties_insert_eq {first second host : String} (hfirst : NamesHost first host)
    (hsecond : NamesHost second host) (p : Properties) :
    ofProperties (p.insert hostKey first) = ofProperties (p.insert hostKey second) := by
  have hkept : ∀ key, hostKey ≠ key → (p.insert hostKey first).get? key = (p.insert hostKey second).get? key := by
    intro key hne
    rw [p.get?_insert_of_ne hne, p.get?_insert_of_ne hne]
  obtain ⟨hport, hpath, hcookie⟩ := parts_congr hkept
  rw [ofProperties, ofProperties, hostOf_insert hfirst, hostOf_insert hsecond, hport, hpath, hcookie]

/-- Accepted settings are in normal form. Written back, over the properties that they are from or over none, they
resolve to themselves; they do so too with the one text before the port in an advertised address as the host.
Both kinds of addresses have the host in brackets exactly when it is an IPv6 literal, and with such a host the
settings are the same whether it is set in brackets or without. -/
theorem ofProperties_normalForm (h : ofProperties p = .ok s) :
    s.Normal ∧ ResolvesWith p (s.writtenBack s.host) s ∧ ResolvesWith .empty (s.writtenBack s.host) s ∧
    (∀ host, s.host = some host → ∀ port, ∃ front,
      (∀ other, s.advertisedAuthority port = other ++ ":" ++ decimal port ↔ other = front) ∧
      ResolvesWith p (s.writtenBack (some front)) s) ∧
    Brackets s.advertisedAuthority s.advertisedHost ∧
    (∀ default, Brackets (s.bindAddress default) (s.host.getD default)) ∧
    ∀ host plain bracketed, Ipv6.isLiteral host = true → trim plain = host → trim bracketed = "[" ++ host ++ "]" →
      ofProperties (p.insert hostKey plain) = .ok { s with host := some host } ∧
      ∀ q : Properties, ofProperties (q.insert hostKey bracketed) = ofProperties (q.insert hostKey plain) := by
  have hnormal := normal_of_ofProperties h
  obtain ⟨hhost, hport, -, -⟩ := ofProperties_eq_ok_iff.mp h
  have hunset (hnone : s.port = none) : p.get? portKey = none := by
    rw [hnone] at hport
    exact (p.readsPortsFrom_zero portKey).unset.mp hport
  refine ⟨hnormal, hnormal.resolvesWith_host (fun hnone => hnone ▸ hhost) hunset,
    hnormal.resolvesWith_host (fun _ => rfl) (fun _ => rfl), fun host hset port => ?_,
    brackets_authority _, fun default => brackets_authority _,
    fun host plain bracketed hliteral hplain hbracketed => ?_⟩
  · refine ⟨inAuthority host, fun other => ?_, hnormal.resolvesWith (fun named hnamed => ?_)
      (fun hnone => nomatch hset.symm.trans hnone) hunset⟩
    · rw [advertisedAuthority, advertisedHost, hset, Option.getD_some, authority_eq_iff]
    · cases hset.symm.trans hnamed
      exact ⟨_, rfl, namesHost_inAuthority (hnormal.host host hset)⟩
  · have hnamesPlain : NamesHost plain host := ⟨normalHost_of_isLiteral hliteral, .inl hplain⟩
    have hnamesBracketed : NamesHost bracketed host :=
      ⟨normalHost_of_isLiteral hliteral, .inr ⟨hliteral, hbracketed⟩⟩
    exact ⟨ofProperties_insert_host h hnamesPlain, ofProperties_insert_eq hnamesBracketed hnamesPlain⟩

def looseProperties : Properties := Properties.empty.overlay
  [(hostKey, " [::1]"), (portKey, "+0080"), (contextPathKey, " /shop "), (cookiePrefixKey, "SHOP ")]

theorem ofProperties_normalForm_looseProperties :
    ∃ s, ofProperties looseProperties = .ok s ∧ s = ⟨some "::1", some 80, "/shop", "SHOP"⟩ ∧
      ResolvesWith looseProperties (s.writtenBack (some "::1")) s ∧
      ResolvesWith looseProperties (s.writtenBack (some "[::1]")) s ∧ s.advertisedAuthority 8080 = "[::1]:8080" := by
  have hget (key : String) := Properties.empty.get?_overlay
    [(hostKey, " [::1]"), (portKey, "+0080"), (contextPathKey, " /shop "), (cookiePrefixKey, "SHOP ")] key
  have hliteral : Ipv6.isLiteral "::1" = true := by decide
  have hwrites : WritesNumber 80 "+0080" :=
    ⟨[], ['+'], 2, [], List.forall_mem_nil _, List.forall_mem_nil _, .inr rfl, rfl⟩
  have hok : ofProperties looseProperties = .ok ⟨some "::1", some 80, "/shop", "SHOP"⟩ := by
    refine ofProperties_eq_ok_iff.mpr ⟨?_, ?_, ?_, ?_⟩
    · exact hostOf_eq_ok_some_iff.mpr
        ⟨" [::1]", hget hostKey, normalHost_of_isLiteral hliteral, .inr ⟨hliteral, rfl⟩⟩
    · exact ((Properties.readsPortsFrom_zero looseProperties portKey).port 80).mpr
        ⟨"+0080", hget portKey, by decide, by decide, hwrites⟩
    · rw [Properties.getD, looseProperties, hget contextPathKey]
      rfl
    · rw [Properties.getD, looseProperties, hget cookiePrefixKey]
      rfl
  obtain ⟨-, hback, -, hfronts, hbrackets, -, -⟩ := ofProperties_normalForm hok
  obtain ⟨front, hfront, hresolves⟩ := hfronts "::1" rfl 8080
  have haddress := (hbrackets 8080).1.mpr hliteral
  rw [← (hfront "[::1]").mp haddress] at hresolves
  exact ⟨_, hok, rfl, hback, hresolves, haddress⟩

end AppServer.ServerSettings
