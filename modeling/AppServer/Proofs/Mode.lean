import AppServer.Proofs.Text.Ascii
import AppServer.Proofs.Text.Cut
import AppServer.Server.Basic

/-!
# The mode that the environment selects

A variable that is not set selects the production mode. One that holds text selects
the mode whose token the text is, blanks around it removed, and any other text is
refused with what is left of it. So the choice fails closed for every variable that
holds text. It does not for bytes that are no text: they count as unset, and the
production mode is selected where an error is due.
-/

namespace AppServer

/-! ### Texts and variables -/

structure Text.TrimsTo (s core : String) : Prop where
  trimmed : Trimmed core.toList
  around : ∃ before after : List Char, (∀ c ∈ before, isBlank c = true) ∧ (∀ c ∈ after, isBlank c = true) ∧
    s.toList = before ++ core.toList ++ after

theorem Text.trim_eq_iff {s core : String} : trim s = core ↔ TrimsTo s core := by
  rw [← String.toList_inj, trim_toList, trimChars_eq_iff]
  exact ⟨fun h => ⟨h.1, h.2⟩, fun h => ⟨h.trimmed, h.around⟩⟩

namespace Environment

/-- The variable is not set, or its bytes are text. -/
def HoldsText (held : Option Bytes) : Prop := ∀ bytes, held = some bytes → ∃ s, bytes = Bytes.ofText s

theorem text?_eq_some_iff {held : Option Bytes} {s : String} :
    text? held = some s ↔ held = some (Bytes.ofText s) := by
  rw [text?, Option.bind_eq_some_iff]
  simp only [Bytes.toText?_eq_some_iff, exists_eq_right]

theorem holdsText_iff {held : Option Bytes} : HoldsText held ↔ held = none ∨ ∃ s, held = some (Bytes.ofText s) := by
  cases held with
  | none => exact iff_of_true nofun (.inl rfl)
  | some bytes => simp [HoldsText]

theorem text?_eq_none {held : Option Bytes} (h : ¬HoldsText held) : text? held = none := by
  rw [Option.eq_none_iff_forall_ne_some]
  intro s hs
  exact h (holdsText_iff.mpr (.inr ⟨s, text?_eq_some_iff.mp hs⟩))

end Environment

/-! ### Reading a mode -/

open Environment Text

namespace Mode

theorem ofToken?_eq_some_iff {s : String} {m : Mode} : ofToken? s = some m ↔ s = m.token := by
  constructor
  · intro h
    rw [ofToken?] at h
    split_ifs at h with hs hs hs <;> cases h <;> exact hs
  · rintro rfl
    exact ofToken?_token m

theorem parse_eq_ok_iff {s : String} {m : Mode} : parse s = .ok m ↔ TrimsTo s m.token := by
  rw [← trim_eq_iff, ← ofToken?_eq_some_iff, parse]
  cases ofToken? (trim s) <;> simp

theorem parse_eq_error_iff {s : String} {e : ParseError} :
    parse s = .error e ↔ TrimsTo s e.found ∧ ∀ m : Mode, e.found ≠ m.token := by
  rw [← trim_eq_iff, parse]
  cases htoken : ofToken? (trim s) with
  | some m =>
    refine iff_of_false nofun ?_
    rintro ⟨hfound, hunknown⟩
    exact hunknown m (hfound.symm.trans (ofToken?_eq_some_iff.mp htoken))
  | none =>
    constructor
    · rintro ⟨⟩
      refine ⟨rfl, fun m hm => ?_⟩
      rw [ofToken?_eq_some_iff.mpr hm] at htoken
      cases htoken
    · rintro ⟨hfound, -⟩
      rw [hfound]

/-- The choice of a mode by the bytes of a variable fails closed: only a variable that is not set has a default,
a mode is chosen for the text of its token with blanks around it and for nothing else, and what is refused is
refused with the text that was found, if there is one. -/
structure FailsClosed (held : Option Bytes) (chosen : Except ParseError Mode) : Prop where
  unset : held = none → chosen = .ok .prod
  accepts (bytes : Bytes) (m : Mode) : held = some bytes →
    (chosen = .ok m ↔ ∃ s, bytes = Bytes.ofText s ∧ TrimsTo s m.token)
  refuses (s : String) (e : ParseError) : held = some (Bytes.ofText s) →
    (chosen = .error e ↔ TrimsTo s e.found ∧ ∀ m : Mode, e.found ≠ m.token)

theorem failsClosed_none : FailsClosed none (ofEnvironment none) where
  unset _ := rfl
  accepts := nofun
  refuses := nofun

theorem failsClosed_ofText (s : String) :
    FailsClosed (some (Bytes.ofText s)) (ofEnvironment (some (Bytes.ofText s))) := by
  have hparse : ofEnvironment (some (Bytes.ofText s)) = parse s := by rw [ofEnvironment, text?_ofText, ofEnv]
  rw [hparse]
  refine ⟨nofun, fun bytes m hbytes => ?_, fun t e ht => ?_⟩
  · cases hbytes
    rw [parse_eq_ok_iff]
    constructor
    · exact fun htrims => ⟨s, rfl, htrims⟩
    · rintro ⟨t, ht, htrims⟩
      rwa [Bytes.ofText_injective ht]
  · rw [← Bytes.ofText_injective (Option.some.inj ht)]
    exact parse_eq_error_iff

theorem ofEnvironment_eq_prod {held : Option Bytes} (h : ¬HoldsText held) : ofEnvironment held = .ok .prod := by
  rw [ofEnvironment, text?_eq_none h, ofEnv]

theorem failsClosed_iff {held : Option Bytes} : FailsClosed held (ofEnvironment held) ↔ HoldsText held := by
  constructor
  · intro hcloses
    by_contra hnot
    refine hnot fun bytes hbytes => ?_
    obtain ⟨s, hs, -⟩ := (hcloses.accepts bytes .prod hbytes).mp (ofEnvironment_eq_prod hnot)
    exact ⟨s, hs⟩
  · intro hholds
    rcases holdsText_iff.mp hholds with rfl | ⟨s, rfl⟩
    · exact failsClosed_none
    · exact failsClosed_ofText s

end Mode

theorem ServerConfig.ofEnvironment_eq (application : Application) (held : Option Bytes) :
    ofEnvironment application held = (Mode.ofEnvironment held).map fun mode => { application, mode } := by
  rw [ofEnvironment]
  cases Mode.ofEnvironment held <;> rfl

namespace Mode

/-- The choice of the mode of a process, and that of its configuration, fails closed for the variables that are
not set or hold text and for no others: bytes that are no text select the production mode. -/
theorem environment_failsClosed_iff (application : Application) (held : Option Bytes) :
    (FailsClosed held (ofEnvironment held) ↔ HoldsText held) ∧
    (FailsClosed held ((ServerConfig.ofEnvironment application held).map ServerConfig.mode) ↔ HoldsText held) ∧
    (¬HoldsText held → ofEnvironment held = .ok .prod ∧
      ServerConfig.ofEnvironment application held = .ok { application, mode := .prod }) := by
  have hmode : (ServerConfig.ofEnvironment application held).map ServerConfig.mode = ofEnvironment held := by
    rw [ServerConfig.ofEnvironment_eq]
    cases ofEnvironment held <;> rfl
  refine ⟨failsClosed_iff, ?_, fun hnot => ⟨ofEnvironment_eq_prod hnot, ?_⟩⟩
  · rw [hmode]
    exact failsClosed_iff
  · rw [ServerConfig.ofEnvironment_eq, ofEnvironment_eq_prod hnot]
    rfl

/-- The bytes of a token with a no-break space behind it that is not written in UTF-8. -/
def latinTest : Bytes := Bytes.ofText "test" ++ [0xA0]

theorem latinTest_selects_prod : ofEnvironment (some latinTest) = .ok .prod ∧
    ¬FailsClosed (some latinTest) (ofEnvironment (some latinTest)) := by
  have hnot : ¬HoldsText (some latinTest) := by
    intro hholds
    obtain ⟨s, hs⟩ := hholds latinTest rfl
    have htext : Bytes.toText? latinTest = some s := Bytes.toText?_eq_some_iff.mpr hs
    have hnone : Bytes.toText? latinTest = none := by decide +kernel
    rw [hnone] at htext
    cases htext
  exact ⟨ofEnvironment_eq_prod hnot, mt failsClosed_iff.mp hnot⟩

end Mode

end AppServer
