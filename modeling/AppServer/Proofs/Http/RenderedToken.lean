import AppServer.Proofs.Http.Authenticity
import AppServer.Proofs.Http.Form
import AppServer.Proofs.Http.SessionLayer
import AppServer.Proofs.Session.TokenRun
import AppServer.Proofs.Template.Fragment

/-!
# A rendered token is an accepted token

What a page shows of a session's token is what a later request has to repeat:
the value of the hidden field is the token itself, it comes back from a form as
it was written, and the check accepts it until the session has lost it.
-/

namespace AppServer.Http

/-! ### Candidates -/

/-- A request carries a candidate for the token: in a readable first token header, or else in the first
token field of a form that was written from a list of fields. -/
inductive Carries (request : Request) (candidate : String) : Prop where
  | header (first : FirstHeader request.headers "x-authenticity-token" (Bytes.ofText candidate))
      (readable : Readable (Bytes.ofText candidate))
  | form (fields : List (String × String)) (silent : ¬HasTokenHeader request) (form : DeclaresForm request)
      (body : request.body = Form.encode fields) (fits : request.body.length ≤ 65536)
      (first : FirstPair fields "authenticityToken" candidate)

theorem Carries.offers {request : Request} {candidate : String} (h : Carries request candidate) :
    Offers request candidate := by
  cases h with
  | header first readable => exact .header first readable
  | form fields silent form body fits first =>
    refine .field silent form fits ?_
    rwa [body, Form.decode_encode]

theorem Carries.not_oversized {request : Request} {candidate : String} (h : Carries request candidate) :
    ¬Oversized request := by
  rintro ⟨-, hsilent, -, hlarge⟩
  cases h with
  | header first readable => exact hsilent ⟨_, first, readable⟩
  | form fields silent form body fits first => exact absurd fits (Nat.not_le_of_lt hlarge)

variable {inner : Handler ν} {request : Request} {candidate : String} {ref : SessionRef} {realm : Realm}

def LetThrough (inner : Handler ν) (request : Request) (ref : SessionRef) (realm : Realm) : Prop :=
  requireToken inner request (some ref) realm = inner request (some ref) realm

/-- The request is answered by 403 without the handler, and nothing changes. -/
def Refused (inner : Handler ν) (request : Request) (ref : SessionRef) (realm : Realm) : Prop :=
  ∃ response : Response, requireToken inner request (some ref) realm = ⟨response, realm, none⟩ ∧
    response.status = 403

theorem Carries.letThrough (h : Carries request candidate)
    (htoken : (realm.session ref).token? = some candidate) : LetThrough inner request ref realm :=
  requireToken_of_accepts (.inr ⟨candidate, htoken, h.offers⟩)

theorem Carries.refused (h : Carries request candidate) (hmethod : ¬IsSafe request.method)
    (htoken : (realm.session ref).token? ≠ some candidate) : Refused inner request ref realm := by
  have hrejects : ¬Accepts (realm.session ref) request := by
    rintro (hsafe | ⟨token, hheld, hoffers⟩)
    · exact hmethod hsafe
    · rw [h.offers.unique hoffers] at htoken
      exact htoken hheld
  obtain ⟨response, heq, -, hstatus⟩ :=
    requireToken_of_not_accepts (hrejects : ¬Accepts (realm.session ref) request)
  exact ⟨response, heq, hstatus.mpr h.not_oversized⟩

/-! ### Drawn tokens -/

/-- The text is the URL-safe Base64 form of sixteen bytes: twenty-two letters, digits, dashes and low lines. -/
structure IsDrawnToken (token : String) : Prop where
  bytes : ∃ bytes : Bytes, bytes.length = 16 ∧ token.toList = Text.Base64.encode bytes
  length : token.length = 22
  symbols : ∀ c ∈ token.toList, c.isAlphanum = true ∨ c = '-' ∨ c = '_'

theorem isDrawnToken_textAt {e : Entropy} (hblocks : ∀ draw size, (e.block draw size).length = size) (n : Nat) :
    IsDrawnToken (e.textAt n Entropy.tokenBytes) := by
  have htext : (e.textAt n Entropy.tokenBytes).toList = Text.Base64.encode (e.block n Entropy.tokenBytes) :=
    String.toList_ofList
  have hlength : (e.block n Entropy.tokenBytes).length = 16 := hblocks n Entropy.tokenBytes
  refine ⟨⟨_, hlength, htext⟩, ?_, ?_⟩
  · rw [← String.length_toList, htext, Text.Base64.length_encode, hlength]
  · rw [htext]
    exact Text.Base64.isSymbol_of_mem_encode _

theorem IsDrawnToken.no_quote {token : String} (h : IsDrawnToken token) : '"' ∉ token.toList := by
  intro hmem
  have hsymbol := h.symbols _ hmem
  revert hsymbol
  decide

theorem IsDrawnToken.readable {token : String} (h : IsDrawnToken token) : Readable (Bytes.ofText token) :=
  readable_of_visible fun c hc => visible_of_isSymbol (h.symbols c hc)

/-! ### From the page to the check -/

/-- A page rendered after any operations that do not set the token's key shows a token of twenty-two
symbols as the value of the hidden field and wherever the token is written. Until an operation loses
it, further pages show the same token, and the check lets exactly those unsafe requests through that
carry it. After the session has been cleared, the token is refused unless it is drawn again. -/
theorem rendered_token_accepted {start : Realm} (hexists : ref.index < start.sessions.size)
    (hnew : start.session ref = Session.empty)
    (hblocks : ∀ draw size, (start.entropy.block draw size).length = size) {steps : List Session.Step}
    (hsteps : ∀ step ∈ steps, ¬step.Forges) (engine : TemplateEngine) (data : Json) :
    let form := "\x7b\x7bauthenticity_form\x7d\x7d"
    let bare := "\x7b\x7bauthenticity_token\x7d\x7d"
    let realm := (start.runSteps ref steps).2
    ∃ (token page : String) (rendered : Realm),
      (IsDrawnToken token ∧ Readable (Bytes.ofText token)) ∧
      (engine.renderSource form data (Realm.token ref) realm = (.ok page, rendered) ∧
        page = "<input type=\"hidden\" value=\"" ++ token ++ "\" name=\"authenticityToken\" />" ∧
        Template.hiddenValue? page = some token ∧
        engine.renderSource bare data (Realm.token ref) realm = (.ok token, rendered)) ∧
      (∀ later, (∀ step ∈ later, ¬step.Drops ∧ ¬step.Forges) →
        let now := (rendered.runSteps ref later).2
        (∀ (engine : TemplateEngine) (data : Json),
          engine.renderSource form data (Realm.token ref) now = (.ok page, now) ∧
            engine.renderSource bare data (Realm.token ref) now = (.ok token, now)) ∧
        ∀ (ν : Type) (inner : Handler ν) (request : Request) (candidate : String),
          ¬IsSafe request.method → Carries request candidate →
            (candidate = token → LetThrough inner request ref now) ∧
            (candidate ≠ token → Refused inner request ref now)) ∧
      ∀ more, (∀ step ∈ more, ¬step.Forges) → .clear ∈ more →
        let now := (rendered.runSteps ref more).2
        (∀ n, rendered.entropy.drawn ≤ n → n < now.entropy.drawn →
          rendered.entropy.textAt n Entropy.tokenBytes ≠ token) →
        ∀ (ν : Type) (inner : Handler ν) (request : Request), ¬IsSafe request.method →
          Carries request token → Refused inner request ref now := by
  intro form bare realm
  have hrealm : ref.index < realm.sessions.size := by
    rw [Realm.size_runSteps]
    exact hexists
  have hrendered : ref.index < (realm.token ref).2.sessions.size := by
    rw [Realm.size_token]
    exact hrealm
  have hread : realm.token ref = ((realm.token ref).1, (realm.token ref).2) := rfl
  have hheld := Realm.token?_token hrealm
  have hagain := Realm.token_of_some hrendered hheld
  have hdrawn : IsDrawnToken (realm.token ref).1 := by
    have hempty : (start.session ref).token? = none := by rw [hnew, Session.token?_empty]
    have hsince : Session.DrawnSince start.entropy (realm.session ref) realm.entropy := by
      rw [Realm.session_runSteps hexists]
      exact ((Session.Follows.refl _).of_none hempty).run hsteps
    rw [Realm.session_token hrealm] at hheld
    have hforges : ¬Session.Step.token.Forges := fun ⟨_, h⟩ => nomatch h
    obtain ⟨n, -, -, htoken⟩ := (hsince.step hforges).token _ hheld
    rw [htoken]
    exact isDrawnToken_textAt hblocks n
  refine ⟨_, _, _, ⟨hdrawn, hdrawn.readable⟩,
    ⟨TemplateEngine.renderSource_hiddenField hread hagain engine data, rfl,
      Template.hiddenValue?_hiddenField hdrawn.no_quote,
      TemplateEngine.renderSource_token hread hagain engine data⟩, ?_, ?_⟩
  · intro later hlater now
    have hnow : (now.session ref).token? = some (realm.token ref).1 := by
      rw [Realm.session_runSteps hrendered]
      exact Session.token?_runSteps hheld hlater _
    have hnowExists : ref.index < now.sessions.size := by
      rw [Realm.size_runSteps]
      exact hrendered
    have hnowRead := Realm.token_of_some hnowExists hnow
    refine ⟨fun engine data => ⟨TemplateEngine.renderSource_hiddenField hnowRead hnowRead engine data,
      TemplateEngine.renderSource_token hnowRead hnowRead engine data⟩, ?_⟩
    intro ν inner request candidate hmethod hcarries
    refine ⟨fun heq => ?_, fun hne => ?_⟩
    · rw [← heq] at hnow
      exact hcarries.letThrough hnow
    · refine hcarries.refused hmethod fun hcandidate => ?_
      rw [hnow] at hcandidate
      exact hne (Option.some.inj hcandidate).symm
  · -- what the session holds now was drawn after the clearing
    intro more hmore hclear now hfresh ν inner request hmethod hcarries
    refine hcarries.refused hmethod fun hnow => ?_
    rw [Realm.session_runSteps hrendered] at hnow
    have hsince := (Session.Follows.refl (realm.token ref).2.entropy).run_of_drops
      ((realm.token ref).2.session ref) hmore ⟨.clear, hclear, .inl rfl⟩
    obtain ⟨n, hlow, hhigh, htoken⟩ := hsince.token _ hnow
    exact hfresh n hlow hhigh htoken.symm

def freshRealm : Realm := (Realm.new (Store.withCapacity SessionRef 2) countingEntropy).create.2

def greetingForm (candidate : String) : Request where
  method := "POST"
  headers := [("content-type", Bytes.ofText "application/x-www-form-urlencoded")]
  body := Form.encode [("name", "Ada & Söhne"), ("authenticityToken", candidate)]

theorem carries_greetingForm {candidate : String} (hfits : (greetingForm candidate).body.length ≤ 65536) :
    Carries (greetingForm candidate) candidate := by
  have hform : (greetingForm "").isForm = true := by decide +kernel
  exact .form _ (text?_eq_none_iff.mp rfl) (isForm_iff.mp hform) rfl hfits (lookup_eq_some_iff.mp rfl)

theorem rendered_token_accepted_greetingForm :
    let realm := (freshRealm.runSteps ⟨0⟩ [.put "user" "ada"]).2
    let rendered := (realm.token ⟨0⟩).2
    (TemplateEngine.empty.renderSource "\x7b\x7bauthenticity_form\x7d\x7d" .null (Realm.token ⟨0⟩) realm).1 =
        .ok ("<input type=\"hidden\" value=\"" ++ "AAAAAAAAAAAAAAAAAAAAAA" ++
          "\" name=\"authenticityToken\" />") ∧
      LetThrough saving (greetingForm "AAAAAAAAAAAAAAAAAAAAAA") ⟨0⟩ (rendered.runSteps ⟨0⟩ [.remove "user"]).2 ∧
      Refused saving (greetingForm "AQEBAQEBAQEBAQEBAQEBAQ") ⟨0⟩ (rendered.runSteps ⟨0⟩ [.remove "user"]).2 ∧
      Refused saving (greetingForm "AAAAAAAAAAAAAAAAAAAAAA") ⟨0⟩ (rendered.runSteps ⟨0⟩ [.clear, .token]).2 := by
  intro realm rendered
  have hexists : (⟨0⟩ : SessionRef).index < freshRealm.sessions.size := by decide +kernel
  have hsteps : ∀ step ∈ [Session.Step.put "user" "ada"], ¬step.Forges := by simp [Session.Step.Forges]
  obtain ⟨token, page, after, -, ⟨hform, hpage, -, hbare⟩, hkept, hlost⟩ :=
    rendered_token_accepted hexists rfl (fun draw size => List.length_replicate) hsteps
      TemplateEngine.empty .null
  have hread : Realm.token ⟨0⟩ realm = ("AAAAAAAAAAAAAAAAAAAAAA", rendered) :=
    Prod.ext (by decide +kernel) rfl
  have hagain : Realm.token ⟨0⟩ rendered = ("AAAAAAAAAAAAAAAAAAAAAA", rendered) :=
    Realm.token_of_some (by decide +kernel) (by decide +kernel)
  have hsame := hbare.symm.trans (TemplateEngine.renderSource_token hread hagain TemplateEngine.empty .null)
  have htoken : token = "AAAAAAAAAAAAAAAAAAAAAA" := Except.ok.inj (Prod.ext_iff.mp hsame).1
  have hafter : after = rendered := (Prod.ext_iff.mp hsame).2
  subst htoken hafter
  have hmethod (candidate : String) : ¬IsSafe (greetingForm candidate).method := by
    simp [greetingForm, IsSafe]
  obtain ⟨-, hcheck⟩ := hkept [.remove "user"] (by simp [Session.Step.Drops, Session.Step.Forges])
  refine ⟨?_, ?_, ?_, ?_⟩
  · rw [hform, hpage]
  · exact (hcheck Unit saving _ _ (hmethod _) (carries_greetingForm (by decide +kernel))).1 rfl
  · exact (hcheck Unit saving _ _ (hmethod _) (carries_greetingForm (by decide +kernel))).2 (by decide)
  · refine hlost [.clear, .token] (by simp [Session.Step.Forges]) List.mem_cons_self (fun n hlow hhigh => ?_)
      Unit saving _ (hmethod _) (carries_greetingForm (by decide +kernel))
    have hstart : rendered.entropy.drawn = 1 := by decide +kernel
    have hend : (rendered.runSteps ⟨0⟩ [.clear, .token]).2.entropy.drawn = 2 := by decide +kernel
    have hn : n = 1 := by
      rw [hstart] at hlow
      rw [hend] at hhigh
      omega
    rw [hn]
    decide +kernel

end AppServer.Http
