import AppServer.Proofs.Config.Settings
import AppServer.Proofs.Http.CookieHeader
import AppServer.Proofs.Http.SessionLayer
import Mathlib.Logic.Relation

/-!
# The session cookie finds its session again

A session that the layer stores anew is always made known to its client by a
cookie of the id. As long as that id is live, it leads to the same session,
whatever requests are served in between, and each request that brings the cookie
among others is given that very session.
-/

namespace AppServer.Http

/-! ### The name of the cookie -/

theorem isSessionCookie_of_accepted {p : Properties} {settings : ServerSettings}
    (h : ServerSettings.ofProperties p = .ok settings) : IsSessionCookie settings.sessionCookieName := by
  obtain ⟨-, -, -, hprefix⟩ := ServerSettings.ofProperties_eq_ok_iff.mp h
  exact ⟨_, settings, hprefix, rfl⟩

theorem ne_semicolon {c : Char} (h : Text.Base64.IsSymbol c) : c ≠ ';' := by
  rintro rfl
  revert h
  unfold Text.Base64.IsSymbol
  decide

theorem plain_pair {name id : String} (hname : ∀ c ∈ name.toList, Text.Base64.IsSymbol c)
    (hid : ∀ c ∈ id.toList, Text.Base64.IsSymbol c) : ';' ∉ (name ++ "=" ++ id).toList := by
  rw [String.toList_append, String.toList_append, List.mem_append, List.mem_append, not_or, not_or]
  exact ⟨⟨fun hmem => ne_semicolon (hname _ hmem) rfl, by decide⟩, fun hmem => ne_semicolon (hid _ hmem) rfl⟩

theorem cutFirst_issueCookie {name : String} (hname : IsSessionCookie name) (e : Entropy) :
    Text.cutFirst ';' (issueCookie name e.sessionId.1).toList =
      some ((name ++ "=" ++ e.sessionId.1).toList, " Path=/; HttpOnly; SameSite=Lax".toList) := by
  have htext : (issueCookie name e.sessionId.1).toList =
      (name ++ "=" ++ e.sessionId.1).toList ++ ';' :: " Path=/; HttpOnly; SameSite=Lax".toList := by
    rw [issueCookie, String.toList_append]
    rfl
  rw [htext, Text.cutFirst_append (plain_pair hname.isSymbol (isSymbol_sessionId e))]

/-! ### Requests one after another -/

/-- A request through the layer leads from one realm to another, and no live id is generated again. -/
inductive Serving (name : String) (before : Realm) : Realm → Prop where
  | serve {ν : Type} {inner : Handler ν} {request : Request} {work : Session → Entropy → Ending ν}
      (worksOn : inner.WorksOn request work) (context : Option SessionRef)
      (fresh : ∀ id, Generates name request before (work (opened name request before) before.entropy)
        id → before.load? id = none) :
      Serving name before (sessionLayer name inner request context before).realm

theorem Serving.inStep {name : String} {before after : Realm} (h : Serving name before after)
    (hin : before.InStep) : after.InStep := by
  cases h with
  | serve worksOn context fresh => exact (sessionLayer_serves worksOn hin.sound name context).inStep hin fresh

/-- A live id leads to the same session after a request, unless it is no longer live. -/
theorem Serving.load? {name : String} {before after : Realm} (h : Serving name before after)
    (hin : before.InStep) {id : SessionId} {ref : SessionRef} (hbefore : before.load? id = some ref)
    (hafter : after.load? id ≠ none) : after.load? id = some ref := by
  cases h with
  | serve worksOn context fresh =>
    obtain ⟨found, hfound⟩ := Option.ne_none_iff_exists'.mp hafter
    have hserves := sessionLayer_serves worksOn hin.sound name context
    rcases hserves.live_before hin.sound hfound with hsame | ⟨hnew, -⟩
    · rw [hfound, ← hsame, hbefore]
    · rw [fresh id hnew] at hbefore
      cases hbefore

/-- The realms that requests lead to, one after another. -/
def Reaches (name : String) : Realm → Realm → Prop := Relation.ReflTransGen (Serving name)

/-- The realms that requests lead to while an id stays live. -/
def ReachesWhileLive (name : String) (id : SessionId) : Realm → Realm → Prop :=
  Relation.ReflTransGen fun before after => before.load? id ≠ none ∧ Serving name before after

theorem Reaches.inStep {name : String} {start later : Realm} (h : Reaches name start later)
    (hin : start.InStep) : later.InStep := by
  unfold Reaches at h
  induction h with
  | refl => exact hin
  | tail _ hserving ih => exact hserving.inStep ih

theorem ReachesWhileLive.load? {name : String} {id : SessionId} {start later : Realm}
    (h : ReachesWhileLive name id start later) (hin : start.InStep) {ref : SessionRef}
    (hstart : start.load? id = some ref) :
    later.InStep ∧ (later.load? id ≠ none → later.load? id = some ref) := by
  unfold ReachesWhileLive at h
  induction h with
  | refl => exact ⟨hin, fun _ => hstart⟩
  | tail _ hstep ih => exact ⟨hstep.2.inStep ih.1, hstep.2.load? ih.1 (ih.2 hstep.1)⟩

/-! ### The round trip -/

/-- A request that brings the cookie of a live id is given the session of that id. -/
theorem sessionLayer_of_brings {name : String} {id : SessionId} {ref : SessionRef} {realm : Realm}
    {request : Request} (hcookie : BringsCookie request.headers name id)
    (hload : realm.load? id = some ref) (inner : Handler ν) (context : Option SessionRef) :
    sessionLayer name inner request context realm =
      settleStored name id ref (inner request (some ref) realm) := by
  have hpresented : presented? name request realm = some (id, ref) :=
    presented?_eq_some_iff.mpr ⟨hcookie.firstPair, hload⟩
  simp only [sessionLayer, hpresented]

/-- Whenever an id becomes live, the layer issues a cookie of it, the text up to the first semicolon being
the pair of name and id. As long as the id stays live, every request that brings that pair, as the only
one of its name, is given the session that was stored, whatever else its headers hold. -/
theorem issued_cookie_finds_session {p : Properties} {settings : ServerSettings}
    (haccepted : ServerSettings.ofProperties p = .ok settings) (capacity : Nat) (e : Entropy)
    {realm : Realm}
    (hreached : Reaches settings.sessionCookieName (Realm.new (Store.withCapacity SessionRef capacity) e)
      realm)
    {inner : Handler ν} {request : Request} {work : Session → Entropy → Ending ν}
    (hworks : inner.WorksOn request work) (context : Option SessionRef) (id : SessionId) :
    let name := settings.sessionCookieName
    let ref := openedRef name request realm
    let ending := work (opened name request realm) realm.entropy
    let outcome := sessionLayer name inner request context realm
    let cookie := name ++ "=" ++ id ++ "; Path=/; HttpOnly; SameSite=Lax"
    realm.load? id = none → outcome.realm.load? id ≠ none →
    (outcome.realm.load? id = some ref ∧ outcome.realm.session ref = ending.session) ∧
    (outcome.response.headers = ending.response.headers ++ [("set-cookie", Bytes.ofText cookie)] ∧
      Text.cutFirst ';' cookie.toList =
        some ((name ++ "=" ++ id).toList, " Path=/; HttpOnly; SameSite=Lax".toList) ∧
      ∀ c ∈ id.toList, c.isAlphanum = true ∨ c = '-' ∨ c = '_') ∧
    ∀ later, ReachesWhileLive name id outcome.realm later → later.load? id ≠ none →
      ∀ next : Request, BringsCookie next.headers name id →
        ∀ (μ : Type) (handler : Handler μ) (other : Option SessionRef),
          sessionLayer name handler next other later =
            settleStored name id ref (handler next (some ref) later) := by
  intro name ref ending outcome cookie hbefore hafter
  have hname : IsSessionCookie name := isSessionCookie_of_accepted haccepted
  have hin : realm.InStep := Reaches.inStep hreached (Realm.inStep_new capacity e)
  have hserves : Serves name request realm ending outcome :=
    sessionLayer_serves hworks hin.sound name context
  obtain ⟨found, hfound⟩ := Option.ne_none_iff_exists'.mp hafter
  rcases hserves.live_before hin.sound hfound with hold | ⟨hnew, rfl⟩
  · rw [hbefore] at hold
    cases hold
  have hfresh : ∀ new, Generates name request realm ending new → realm.load? new = none := by
    rintro new ⟨-, -, hid⟩
    rw [← hid, hnew.2.2]
    exact hbefore
  have hstored : outcome.realm.InStep := hserves.inStep hin hfresh
  obtain ⟨hheaders, hheld⟩ := (hserves.settles hname hin.sound hfresh).of_generates hnew
  have hsession := hheld.held
  rw [Realm.sessionAt?, hfound] at hsession
  refine ⟨⟨hfound, Option.some.inj hsession⟩, ⟨hheaders, ?_, ?_⟩, ?_⟩
  · have hcut := cutFirst_issueCookie hname ending.entropy
    rwa [hnew.2.2] at hcut
  · have hsymbols := isSymbol_sessionId ending.entropy
    rwa [hnew.2.2] at hsymbols
  · intro later hlater hlive next hnext μ handler other
    exact sessionLayer_of_brings hnext ((hlater.load? hstored hfound).2 hlive) handler other

def firstLogin : Outcome Unit :=
  sessionLayer "TRELLIS_SESSION" (Handler.ofRoutine login) ⟨"POST", Target.ofText "/login", [], []⟩ none
    (Realm.new (Store.withCapacity SessionRef 2) countingEntropy)

def secondLogin : Outcome Unit :=
  sessionLayer "TRELLIS_SESSION" (Handler.ofRoutine login) (presenting "made-up") none firstLogin.realm

/-- A request that brings the cookie of the first login between other items, behind an unreadable header. -/
def returningRequest : Request where
  method := "GET"
  headers := [("Cookie", [0xff, 0x3b]), ("Accept", Bytes.ofText "text/html"),
    ("COOKIE", Bytes.ofText
      " flag ;theme = dark;\tTRELLIS_SESSION=AAAAAAAAAAAAAAAAAAAAAAAAAAAAAAAA ;TRELLIS_SESSIONS=x")]

theorem issued_cookie_finds_session_returningRequest :
    ServerSettings.ofProperties Properties.empty = .ok ⟨none, none, "", "TRELLIS"⟩ ∧
    firstLogin.response.headers.getLast? = some ("set-cookie", Bytes.ofText
      "TRELLIS_SESSION=AAAAAAAAAAAAAAAAAAAAAAAAAAAAAAAA; Path=/; HttpOnly; SameSite=Lax") ∧
    BringsCookie returningRequest.headers "TRELLIS_SESSION" "AAAAAAAAAAAAAAAAAAAAAAAAAAAAAAAA" ∧
    sessionLayer "TRELLIS_SESSION" (Handler.ofRoutine login) returningRequest none secondLogin.realm =
      settleStored "TRELLIS_SESSION" "AAAAAAAAAAAAAAAAAAAAAAAAAAAAAAAA" ⟨0⟩
        (Handler.ofRoutine login returningRequest (some ⟨0⟩) secondLogin.realm) := by
  have haccepted : ServerSettings.ofProperties Properties.empty = .ok ⟨none, none, "", "TRELLIS"⟩ := by
    decide +kernel
  have hcookies : returningRequest.headers.cookies = [("theme ", " dark"),
      ("TRELLIS_SESSION", "AAAAAAAAAAAAAAAAAAAAAAAAAAAAAAAA"), ("TRELLIS_SESSIONS", "x")] := by
    decide +kernel
  have hbrings : BringsCookie returningRequest.headers "TRELLIS_SESSION"
      "AAAAAAAAAAAAAAAAAAAAAAAAAAAAAAAA" := by
    refine ⟨mem_cookies_iff.mp (by simp [hcookies]), fun items hitems item hitem other hsays => ?_⟩
    have hmem := mem_cookies_iff.mpr ⟨items, hitems, item, hitem, hsays⟩
    simpa [hcookies] using hmem
  have hworks := Handler.ofRoutine_worksOn login
  have hbefore : (Realm.new (Store.withCapacity SessionRef 2) countingEntropy).load?
      "AAAAAAAAAAAAAAAAAAAAAAAAAAAAAAAA" = none := Realm.load?_new 2 _ _
  have hafter : firstLogin.realm.load? "AAAAAAAAAAAAAAAAAAAAAAAAAAAAAAAA" ≠ none := by decide +kernel
  have hserving : Serving "TRELLIS_SESSION" firstLogin.realm secondLogin.realm := by
    refine .serve (hworks (presenting "made-up")) none ?_
    rintro id ⟨-, -, rfl⟩
    decide +kernel
  obtain ⟨-, ⟨hheaders, -⟩, hfinds⟩ := issued_cookie_finds_session haccepted 2 countingEntropy .refl
    (hworks ⟨"POST", Target.ofText "/login", [], []⟩) none "AAAAAAAAAAAAAAAAAAAAAAAAAAAAAAAA" hbefore hafter
  refine ⟨haccepted, ?_, hbrings, ?_⟩
  · exact (congrArg List.getLast? hheaders).trans List.getLast?_concat
  · exact hfinds secondLogin.realm (.single ⟨hafter, hserving⟩) (by decide +kernel) returningRequest hbrings
      Unit (Handler.ofRoutine login) none

end AppServer.Http
