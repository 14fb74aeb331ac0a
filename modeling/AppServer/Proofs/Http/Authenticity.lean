import AppServer.Http.Authenticity
import AppServer.Proofs.Http.Header
import AppServer.Proofs.Text.Cut

/-!
# What the authenticity check lets through

A request passes exactly when its method is safe or when it offers the token
that its session holds: in the first token header, if that is readable, and
otherwise in the first token field of a form that is not too large. The handler
behind the check then gets the request as it is; all other requests are answered
without it, and nothing changes.
-/

namespace AppServer.Http

/-! ### Offers -/

def IsSafe (method : String) : Prop :=
  method = "GET" ∨ method = "HEAD" ∨ method = "OPTIONS" ∨ method = "TRACE"

/-- The first token header is readable. -/
def HasTokenHeader (request : Request) : Prop :=
  ∃ value, FirstHeader request.headers "x-authenticity-token" value ∧ Readable value

/-- The first content type is readable and starts as that of a form. -/
def DeclaresForm (request : Request) : Prop :=
  ∃ value, FirstHeader request.headers "content-type" value ∧ Readable value ∧
    Bytes.ofText "application/x-www-form-urlencoded" <+: value

/-- A request offers a candidate for the token. -/
inductive Offers (request : Request) (candidate : String) : Prop where
  /-- Its first token header holds the bytes of the candidate. -/
  | header (first : FirstHeader request.headers "x-authenticity-token" (Bytes.ofText candidate))
      (readable : Readable (Bytes.ofText candidate))
  /-- It has no readable token header, and the first token field of its form is the candidate. -/
  | field (silent : ¬ HasTokenHeader request) (form : DeclaresForm request)
      (fits : request.body.length ≤ 65536)
      (first : FirstPair (Form.decode request.body) "authenticityToken" candidate)

/-- A request may pass: its method is safe or it offers the token of its session. -/
def Accepts (session : Session) (request : Request) : Prop :=
  IsSafe request.method ∨ ∃ token, session.token? = some token ∧ Offers request token

/-- A request has to be searched for the token but its form is too large. -/
def Oversized (request : Request) : Prop :=
  ¬ IsSafe request.method ∧ ¬ HasTokenHeader request ∧ DeclaresForm request ∧
    65536 < request.body.length

/-! ### Reading a request -/

theorem mem_safeMethods_iff {method : String} : method ∈ safeMethods ↔ IsSafe method := by
  simp [safeMethods, IsSafe]

theorem isSome_dropStart?_iff {start text : List Char} :
    (Text.dropStart? start text).isSome = true ↔ start <+: text := by
  rw [Option.isSome_iff_exists]
  simp only [Text.dropStart?_eq_some_iff, eq_comm (a := text)]
  rfl

theorem ofText_prefix_iff {start text : String} (hstart : ∀ c ∈ start.toList, c.toNat < 128)
    (htext : ∀ c ∈ text.toList, c.toNat < 128) :
    Bytes.ofText start <+: Bytes.ofText text ↔ start.toList <+: text.toList := by
  have hback {cs : List Char} (hcs : ∀ c ∈ cs, c.toNat < 128) :
      (cs.map Bytes.ofChar).map (fun b => Char.ofNat b.toNat) = cs := by
    rw [List.map_map]
    refine (List.map_congr_left fun c hc => ?_).trans (List.map_id cs)
    rw [Function.comp_apply, Bytes.toNat_ofChar (hcs c hc)]
    exact Char.ofNat_toNat c
  rw [Bytes.ofText_ascii hstart, Bytes.ofText_ascii htext]
  constructor
  · intro h
    have hmap := h.map (fun b => Char.ofNat b.toNat)
    rwa [hback hstart, hback htext] at hmap
  · exact fun h => h.map Bytes.ofChar

theorem ascii_of_text? {headers : Headers} {name text : String}
    (h : headers.text? name = some text) : ∀ c ∈ text.toList, c.toNat < 128 := by
  rw [Headers.text?, Option.bind_eq_some_iff] at h
  obtain ⟨value, -, hread⟩ := h
  have hreadable := (readable?_eq_some_iff.mp hread).1
  rw [readable?, Option.ite_none_right_eq_some, Option.some.injEq] at hread
  intro c hc
  rw [← hread.2, String.toList_ofList, List.mem_map] at hc
  obtain ⟨b, hb, rfl⟩ := hc
  rw [toNat_ofNat_ascii (hreadable.ascii b hb)]
  exact hreadable.ascii b hb

theorem isForm_iff {request : Request} : request.isForm = true ↔ DeclaresForm request := by
  have hall : formContentType.toList.all (fun c => c.toNat < 128) = true := by decide
  have hform : ∀ c ∈ formContentType.toList, c.toNat < 128 :=
    fun c hc => of_decide_eq_true (List.all_eq_true.mp hall c hc)
  rw [Request.isForm, DeclaresForm]
  cases htype : request.headers.text? "content-type" with
  | none =>
    have hnone := text?_eq_none_iff.mp htype
    constructor
    · intro h
      cases h
    · rintro ⟨value, hfirst, hreadable, -⟩
      exact (hnone ⟨value, hfirst, hreadable⟩).elim
  | some type =>
    obtain ⟨hfirst, hreadable⟩ := text?_eq_some_iff.mp htype
    simp only [isSome_dropStart?_iff]
    rw [← ofText_prefix_iff hform (ascii_of_text? htype)]
    constructor
    · exact fun h => ⟨_, hfirst, hreadable, h⟩
    · rintro ⟨value, hvalue, -, h⟩
      have heq := (first?_eq_some_iff.mpr hvalue).symm.trans (first?_eq_some_iff.mpr hfirst)
      rwa [Option.some.inj heq] at h

/-! ### The verdict -/

theorem judgeCandidate_eq_pass_iff {session : Session} {candidate : String} :
    judgeCandidate session candidate = .pass ↔ session.token? = some candidate := by
  rw [judgeCandidate, Session.verify]
  by_cases h : session.token? = some candidate <;> simp [h]

theorem judgeCandidate_ne_tooLarge (session : Session) (candidate : String) :
    judgeCandidate session candidate ≠ .tooLarge := by
  rw [judgeCandidate]
  split <;> simp

theorem offers_iff_of_header {request : Request} {candidate : String}
    (h : request.headers.text? authenticityHeader = some candidate) (token : String) :
    Offers request token ↔ candidate = token := by
  obtain ⟨hfirst, hreadable⟩ := text?_eq_some_iff.mp h
  constructor
  · intro hoffers
    cases hoffers with
    | header first readable =>
      have htoken := text?_eq_some_iff.mpr ⟨first, readable⟩
      exact Option.some.inj (h.symm.trans htoken)
    | field silent => exact (silent ⟨_, hfirst, hreadable⟩).elim
  · rintro rfl
    exact .header hfirst hreadable

theorem offers_iff_of_silent {request : Request}
    (h : request.headers.text? authenticityHeader = none) (token : String) :
    Offers request token ↔ DeclaresForm request ∧ request.body.length ≤ 65536 ∧
      (Form.decode request.body).lookup authenticityField = some token := by
  have hsilent : ¬ HasTokenHeader request := text?_eq_none_iff.mp h
  constructor
  · intro hoffers
    cases hoffers with
    | header first readable => exact (hsilent ⟨_, first, readable⟩).elim
    | field _ form fits first => exact ⟨form, fits, lookup_eq_some_iff.mpr first⟩
  · rintro ⟨form, fits, hlookup⟩
    exact .field hsilent form fits (lookup_eq_some_iff.mp hlookup)

theorem Offers.unique {request : Request} {token other : String} (h : Offers request token)
    (hother : Offers request other) : token = other := by
  cases hheader : request.headers.text? authenticityHeader with
  | some candidate =>
    rw [offers_iff_of_header hheader] at h hother
    exact h.symm.trans hother
  | none =>
    rw [offers_iff_of_silent hheader] at h hother
    exact Option.some.inj (h.2.2.symm.trans hother.2.2)

theorem judge_eq_pass_iff {session : Session} {request : Request} :
    judge session request = .pass ↔ Accepts session request := by
  rw [judge, Accepts, ← mem_safeMethods_iff]
  by_cases hsafe : request.method ∈ safeMethods
  · simp [hsafe]
  rw [if_neg hsafe, or_iff_right hsafe]
  cases hheader : request.headers.text? authenticityHeader with
  | some candidate =>
    simp only [offers_iff_of_header hheader, judgeCandidate_eq_pass_iff, exists_eq_right']
  | none =>
    simp only [offers_iff_of_silent hheader, ← isForm_iff]
    by_cases hform : request.isForm = true
    · by_cases hlarge : maxFormBytes < request.body.length
      · have hfits : ¬ request.body.length ≤ 65536 := Nat.not_le_of_lt hlarge
        simp [hform, hlarge, hfits]
      · have hfits : request.body.length ≤ 65536 := Nat.le_of_not_lt hlarge
        cases hfield : (Form.decode request.body).lookup authenticityField with
        | none => simp [hform, hlarge]
        | some candidate => simp [hform, hlarge, hfits, judgeCandidate_eq_pass_iff]
    · simp [hform]

theorem judge_eq_tooLarge_iff (session : Session) {request : Request} :
    judge session request = .tooLarge ↔ Oversized request := by
  rw [judge, Oversized, ← mem_safeMethods_iff, ← isForm_iff]
  by_cases hsafe : request.method ∈ safeMethods
  · simp [hsafe]
  rw [if_neg hsafe, and_iff_right hsafe]
  cases hheader : request.headers.text? authenticityHeader with
  | some candidate =>
    have hsome : HasTokenHeader request := ⟨_, text?_eq_some_iff.mp hheader⟩
    simp [judgeCandidate_ne_tooLarge, hsome]
  | none =>
    have hsilent : ¬ HasTokenHeader request := text?_eq_none_iff.mp hheader
    rw [and_iff_right hsilent]
    by_cases hform : request.isForm = true
    · by_cases hlarge : maxFormBytes < request.body.length
      · have hover : 65536 < request.body.length := hlarge
        simp [hform, hlarge, hover]
      · have hover : ¬ 65536 < request.body.length := hlarge
        cases hfield : (Form.decode request.body).lookup authenticityField with
        | none => simp [hform, hlarge, hover]
        | some candidate => simp [hform, hlarge, hover, judgeCandidate_ne_tooLarge]
    · simp [hform]

/-! ### The check -/

def Handler.recorded (inner : Handler ν) : Handler Request :=
  fun request context realm =>
    let outcome := inner request context realm
    ⟨outcome.response, outcome.realm, some request⟩

theorem rejection?_of_accepts {session : Session} {request : Request} (h : Accepts session request) :
    (judge session request).rejection? = none := by
  rw [judge_eq_pass_iff.mpr h, Verdict.rejection?]

/-- The response to a request that may not pass says whether its form was too large. -/
theorem rejection?_of_not_accepts {session : Session} {request : Request}
    (h : ¬ Accepts session request) :
    ∃ status text, (judge session request).rejection? = some (Response.ofText status text) ∧
      (status = 413 ↔ Oversized request) ∧ (status = 403 ↔ ¬ Oversized request) := by
  rw [← judge_eq_pass_iff] at h
  rw [← judge_eq_tooLarge_iff session]
  cases hverdict : judge session request with
  | pass => exact (h hverdict).elim
  | forbidden => exact ⟨403, "invalid authenticity token", rfl, by simp, by simp⟩
  | tooLarge => exact ⟨413, "form body too large", rfl, by simp, by simp⟩

theorem requireToken_of_accepts {inner : Handler ν} {request : Request} {ref : SessionRef}
    {realm : Realm} (h : Accepts (realm.session ref) request) :
    requireToken inner request (some ref) realm = inner request (some ref) realm := by
  simp only [requireToken, rejection?_of_accepts h]

/-- A request that may not pass is answered without the handler, and nothing changes. -/
theorem requireToken_of_not_accepts {inner : Handler ν} {request : Request} {ref : SessionRef}
    {realm : Realm} (h : ¬ Accepts (realm.session ref) request) :
    ∃ response : Response, requireToken inner request (some ref) realm = ⟨response, realm, none⟩ ∧
      (response.status = 413 ↔ Oversized request) ∧
      (response.status = 403 ↔ ¬ Oversized request) := by
  obtain ⟨status, text, hrejection, hlarge, hforbidden⟩ := rejection?_of_not_accepts h
  refine ⟨Response.ofText status text, ?_, hlarge, hforbidden⟩
  simp only [requireToken, hrejection]

/-- Without a session the answer is 500. With one, the handler behind the check gets exactly the
requests that may pass, each as it is; the others are answered by 413 when their form is too large
and by 403 otherwise, and leave all sessions alone. -/
theorem requireToken_exact (inner : Handler ν) (request : Request) (realm : Realm) :
    (requireToken inner request none realm = ⟨sessionLayerMissing, realm, none⟩ ∧
      sessionLayerMissing.status = 500) ∧
    ∀ ref : SessionRef,
      ((requireToken inner.recorded request (some ref) realm).report = some request ↔
        Accepts (realm.session ref) request) ∧
      (Accepts (realm.session ref) request →
        requireToken inner request (some ref) realm = inner request (some ref) realm) ∧
      (¬ Accepts (realm.session ref) request →
        ∃ response : Response,
          requireToken inner request (some ref) realm = ⟨response, realm, none⟩ ∧
          (response.status = 413 ↔ Oversized request) ∧
          (response.status = 403 ↔ ¬ Oversized request)) := by
  refine ⟨⟨rfl, rfl⟩, fun ref => ⟨⟨?_, ?_⟩, requireToken_of_accepts, requireToken_of_not_accepts⟩⟩
  · intro hreport
    by_cases h : Accepts (realm.session ref) request
    · exact h
    · obtain ⟨response, heq, -⟩ := requireToken_of_not_accepts h
      rw [heq] at hreport
      cases hreport
  · intro h
    rw [requireToken_of_accepts h]
    rfl

def tokenRealm : Realm :=
  ⟨#[Session.empty.put "_authenticity" "q83v"], Store.new SessionRef,
    ⟨fun draw size => List.replicate size draw.toUInt8, 0⟩⟩

def formRequest : Request where
  method := "POST"
  headers := [("x-authenticity-token", [0xff]),
    ("Content-Type", Bytes.ofText "application/x-www-form-urlencoded; charset=utf-8")]
  body := Bytes.ofText "name=a+b&authenticity%54oken=q8%33v&authenticityToken=other"

def saving : Handler Unit := fun _ _ realm => ⟨Response.ofText 200 "saved", realm, some ()⟩

theorem requireToken_exact_formRequest :
    (Accepts (tokenRealm.session ⟨0⟩) formRequest ∧
      requireToken saving formRequest (some ⟨0⟩) tokenRealm =
        ⟨Response.ofText 200 "saved", tokenRealm, some ()⟩) ∧
    (¬ Accepts (tokenRealm.session ⟨1⟩) formRequest ∧
      (requireToken saving formRequest (some ⟨1⟩) tokenRealm).response.status = 403) := by
  have hexact := (requireToken_exact saving formRequest tokenRealm).2
  have haccepts : Accepts (tokenRealm.session ⟨0⟩) formRequest :=
    judge_eq_pass_iff.mp (by decide +kernel)
  have hrejects : ¬ Accepts (tokenRealm.session ⟨1⟩) formRequest := by
    rw [← judge_eq_pass_iff]
    decide +kernel
  have hfits : ¬ Oversized formRequest := by
    rw [← judge_eq_tooLarge_iff (tokenRealm.session ⟨1⟩)]
    decide +kernel
  obtain ⟨response, heq, -, hstatus⟩ := (hexact ⟨1⟩).2.2 hrejects
  refine ⟨⟨haccepts, (hexact ⟨0⟩).2.1 haccepts⟩, hrejects, ?_⟩
  rw [heq]
  exact hstatus.mpr hfits

end AppServer.Http
