import AppServer.Proofs.Harness.Crowd
import AppServer.Proofs.Http.Form

/-!
# The guests of a server

Between two clearings a browser gets at most one session. The guests are those
that have got one, each with the id in its jar and the token of its session. A
turn adds one guest at most: the first request of a visit that makes use of the
session. All other requests leave jars and sessions as they are.
-/

namespace AppServer.Harness

open Http Url Demo

/-! ### Guests -/

/-- The visits that a session was created in, oldest first, each with the id and the token of its session. -/
abbrev Guests := List (Visit × SessionId × String)

/-- One guest has come if a session was created, and none otherwise. -/
def Grows (guests after : Guests) (created : Bool) : Prop :=
  ∃ new, after = guests ++ new ∧ new.length = if created then 1 else 0

theorem Grows.refl (guests : Guests) : Grows guests guests false := ⟨[], (List.append_nil guests).symm, rfl⟩

theorem Grows.of_plain {guests : Guests} {c : Crowd} {turn : Turn} {u : Url} {outcome : Outcome Unit} {world : World}
    (h : outcome.response.Plain) : Grows guests guests (c.answered turn u outcome world).issues := by
  have hnone : (c.answered turn u outcome world).issues = false :=
    Bool.eq_false_iff.mpr fun hissues => issues_answered.mp hissues h
  rw [hnone]
  exact .refl guests

theorem not_plain_addHeader (response : Response) (cookie : Bytes) :
    ¬(response.addHeader "set-cookie" cookie).Plain := by
  rw [Response.Plain, Response.addHeader, all_append_self]
  exact List.append_ne_nil_of_right_ne_nil _ (List.cons_ne_nil _ _)

theorem lookup_eq_none_iff_not_mem {guests : Guests} {visit : Visit} :
    guests.lookup visit = none ↔ visit ∉ guests.map Prod.fst := by
  rw [List.lookup_eq_none_iff, List.mem_map, not_exists]
  constructor
  · rintro hall guest ⟨hguest, rfl⟩
    exact absurd rfl (bne_iff_ne.mp (hall guest hguest))
  · exact fun hnot guest hguest => bne_iff_ne.mpr fun heq => hnot guest ⟨hguest, heq.symm⟩

theorem mem_of_lookup_guests {guests : Guests} {visit : Visit} {pair : SessionId × String}
    (h : guests.lookup visit = some pair) : (visit, pair) ∈ guests := by
  obtain ⟨before, after, rfl, -⟩ := List.lookup_eq_some_iff.mp h
  exact List.mem_append_right before List.mem_cons_self

theorem lookup_of_mem_guests {guests : Guests} (hnodup : (guests.map Prod.fst).Nodup)
    {guest : Visit × SessionId × String} (hguest : guest ∈ guests) : guests.lookup guest.1 = some guest.2 := by
  cases hlookup : guests.lookup guest.1 with
  | none => exact absurd (List.mem_map_of_mem hguest) (lookup_eq_none_iff_not_mem.mp hlookup)
  | some pair =>
    have hsame := List.inj_on_of_nodup_map hnodup (mem_of_lookup_guests hlookup) hguest rfl
    rw [← hsame]

/-! ### The invariant -/

/-- The server holds the sessions of the guests and no others, and each browser the cookie of its visit. -/
structure Settled (machine : Machine) (config : ServerConfig) (r : Running) (c : Crowd) (realm : Realm)
    (guests : Guests) : Prop where
  world : c.world = worldOf machine config r realm
  holds : Holds r.realm.entropy realm (guests.map Prod.snd)
  isOpen : ∀ who, (c.browsers who).isClosed = false
  jars : ∀ who, (c.browsers who).jar =
    jarOf r.siteHost r.settings.sessionCookieName ((guests.lookup (c.visit who)).map Prod.fst)
  owners : (guests.map Prod.fst).Nodup
  past : ∀ guest ∈ guests, guest.1.2 ≤ c.eras guest.1.1
  reached : guests ≠ [] → ∃ u, Url.parse r.baseUrl = .ok u

/-- A machine on which a server runs the demo application and can be connected to. -/
structure Serving (machine : Machine) (config : ServerConfig) (r : Running) (m : Machine) : Prop where
  demo : RunsDemo config
  started : r.StartedFrom config m
  connects : machine.network.connects = true

theorem Serving.isSessionCookie {machine m : Machine} {config : ServerConfig} {r : Running}
    (h : Serving machine config r m) : IsSessionCookie r.settings.sessionCookieName := by
  obtain ⟨properties, hsettings, -⟩ := h.started.settings
  exact isSessionCookie_of_accepted hsettings

namespace Settled

variable {machine m : Machine} {config : ServerConfig} {r : Running} {c : Crowd} {realm : Realm} {guests : Guests}

theorem symbols (h : Settled machine config r c realm guests) {visit : Visit} {pair : SessionId × String}
    (hlookup : guests.lookup visit = some pair) :
    (∀ c ∈ pair.1.toList, Text.Base64.IsSymbol c) ∧ ∀ c ∈ pair.2.toList, Text.Base64.IsSymbol c := by
  obtain ⟨n, -, -, rfl⟩ := h.holds.drawn pair (List.mem_map_of_mem (mem_of_lookup_guests hlookup))
  rw [Entropy.textAt, Entropy.textAt, String.toList_ofList, String.toList_ofList]
  exact ⟨Text.Base64.isSymbol_of_mem_encode _, Text.Base64.isSymbol_of_mem_encode _⟩

theorem symbols_id (h : Settled machine config r c realm guests) (visit : Visit) :
    ∀ id, (guests.lookup visit).map Prod.fst = some id → ∀ c ∈ id.toList, Text.Base64.IsSymbol c := by
  intro id hid
  obtain ⟨pair, hlookup, rfl⟩ := Option.map_eq_some_iff.mp hid
  exact (h.symbols hlookup).1

theorem cookie?_eq (h : Settled machine config r c realm guests) (hserving : Serving machine config r m)
    (who now : Nat) : ((c.browsers who).cookie? r.baseUrl r.settings.sessionCookieName now).toOption.join =
      (guests.lookup (c.visit who)).map Prod.fst := by
  cases hparse : Url.parse r.baseUrl with
  | error e =>
    -- without a URL nobody can have come, and the jars are empty
    have hnobody : guests = [] := by
      by_contra hsome
      obtain ⟨u, hurl⟩ := h.reached hsome
      rw [hparse] at hurl
      cases hurl
    simp only [hnobody, List.lookup_nil, Option.map_none, Browser.cookie?, Browser.cookies,
      Browser.urlOf_of_error hparse]
    rfl
  | ok u =>
    have hsite : Browser.cookieHost u = r.siteHost :=
      (hserving.started.origin startsBehind_empty (by rw [String.append_empty, hparse])).2.1
    have hjar := h.jars who
    rw [← hsite] at hjar
    rw [cookie?_jarOf (Browser.urlOf_of_ok hparse) hserving.isSessionCookie.isSymbol (h.symbols_id _) hjar]
    rfl

theorem token?_eq (h : Settled machine config r c realm guests) (hserving : Serving machine config r m) (who : Nat) :
    c.token? who = (guests.lookup (c.visit who)).map Prod.snd := by
  have hrunning : c.running? = some { r with realm } := by
    rw [Crowd.running?, h.world]
    rfl
  have hcookie : ((c.browsers who).cookie? ({ r with realm } : Running).baseUrl
      r.settings.sessionCookieName c.world.machine.now).toOption.join = (guests.lookup (c.visit who)).map Prod.fst :=
    h.cookie?_eq hserving who _
  simp only [Crowd.token?, hrunning, Option.bind_eq_bind, Option.bind_some, hcookie]
  cases hlookup : guests.lookup (c.visit who) with
  | none => rfl
  | some pair =>
    obtain ⟨s, hstored, htoken⟩ := h.holds.tokens pair (List.mem_map_of_mem (mem_of_lookup_guests hlookup))
    simp only [Option.map_some, Option.bind_some, hstored, htoken]

theorem stay (h : Settled machine config r c realm guests) (turn : Turn) (u : Url) {outcome : Outcome Unit}
    (hplain : outcome.response.Plain) (hholds : Holds r.realm.entropy outcome.realm (guests.map Prod.snd)) :
    Settled machine config r (c.answered turn u outcome (worldOf machine config r outcome.realm)).after outcome.realm
      guests := by
  simp only [Crowd.answered, receive_plain hplain, Function.update_eq_self]
  exact ⟨rfl, hholds, h.isOpen, h.jars, h.owners, h.past, h.reached⟩

theorem clear (h : Settled machine config r c realm guests) (who : Nat) :
    Settled machine config r
      { c with
        browsers := Function.update c.browsers who (c.browsers who).clearCookies.2
        eras := Function.update c.eras who (c.eras who + 1) } realm guests := by
  have hopen : ¬(c.browsers who).isClosed = true := by
    rw [h.isOpen who]
    exact Bool.false_ne_true
  have hclear : (c.browsers who).clearCookies.2 = { c.browsers who with jar := {} } :=
    congrArg Prod.snd (if_neg hopen)
  refine ⟨h.world, h.holds, fun other => ?_, fun other => ?_, h.owners, fun guest hguest => ?_, h.reached⟩
  · by_cases hother : other = who
    · subst hother
      simp only [Function.update_self, hclear, h.isOpen]
    · simp only [Function.update_of_ne hother, h.isOpen]
  · by_cases hother : other = who
    · subst hother
      -- no guest is of the visit that begins: all of them are of eras that have begun
      have hnew : guests.lookup (other, c.eras other + 1) = none := by
        refine lookup_eq_none_iff_not_mem.mpr fun hmem => ?_
        obtain ⟨guest, hguest, heq⟩ := List.mem_map.mp hmem
        have hpast := h.past guest hguest
        rw [heq] at hpast
        exact absurd hpast (Nat.not_succ_le_self _)
      simp only [Crowd.visit, Function.update_self, hclear, hnew]
      rfl
    · simp only [Crowd.visit, Function.update_of_ne hother]
      exact h.jars other
  · have hpast := h.past guest hguest
    by_cases hwho : guest.1.1 = who
    · rw [hwho] at hpast ⊢
      simp only [Function.update_self]
      omega
    · simp only [Function.update_of_ne hwho]
      exact hpast

theorem welcome (h : Settled machine config r c realm guests) (hname : IsSessionCookie r.settings.sessionCookieName)
    {turn : Turn} (hfirst : guests.lookup (c.visit turn.browser) = none)
    (hroom : guests.length < Store.defaultCapacity) {outcome : Outcome Unit} {response : Response}
    (hplain : response.Plain) (hrealm : outcome.realm = withNew realm)
    (hresponse : outcome.response = response.addHeader "set-cookie"
      (Bytes.ofText (issueCookie r.settings.sessionCookieName (newPair realm.entropy).1)))
    (hdistinct : r.realm.entropy.Distinct outcome.realm.entropy.drawn) {u : Url}
    (hsite : Browser.cookieHost u = r.siteHost) (hreached : ∃ u, Url.parse r.baseUrl = .ok u) :
    Settled machine config r (c.answered turn u outcome (worldOf machine config r outcome.realm)).after outcome.realm
      (guests ++ [(c.visit turn.browser, newPair realm.entropy)]) := by
  have hjar : (c.browsers turn.browser).jar = jarOf (Browser.cookieHost u) r.settings.sessionCookieName none := by
    rw [h.jars turn.browser, hfirst, hsite]
    rfl
  have hreceive := receive_issued hplain hname.isSymbol (isSymbol_sessionId realm.entropy.token.2) hjar
  rw [hsite] at hreceive
  have hholds : Holds r.realm.entropy outcome.realm
      ((guests ++ [(c.visit turn.browser, newPair realm.entropy)]).map Prod.snd) := by
    rw [hrealm] at hdistinct ⊢
    rw [List.map_append, List.map_singleton]
    refine h.holds.withNew ?_ hdistinct
    rw [List.length_map]
    exact hroom
  -- the jar of the browser takes in the cookie, and those of the others stay
  refine ⟨rfl, hholds, fun other => ?_, fun other => ?_, ?_, fun guest hguest => ?_, fun _ => hreached⟩
  · by_cases hother : other = turn.browser
    · rw [hother, browsers_answered_self]
      exact h.isOpen turn.browser
    · rw [browsers_answered_of_ne hother]
      exact h.isOpen other
  · rw [visit_answered, List.lookup_append]
    by_cases hother : other = turn.browser
    · rw [hother, browsers_answered_self, hresponse, hfirst, Option.none_or, List.lookup_cons_self]
      exact congrArg Browser.jar hreceive
    · have hvisit : (c.visit other == c.visit turn.browser) = false :=
        beq_false_of_ne fun heq => hother (Prod.mk.inj heq).1
      rw [browsers_answered_of_ne hother, List.lookup_cons, hvisit, List.lookup_nil, Option.or_none]
      exact h.jars other
  · rw [List.map_append, List.map_singleton, List.nodup_append]
    refine ⟨h.owners, List.nodup_singleton _, fun visit hvisit last hlast heq => ?_⟩
    rw [heq, List.mem_singleton.mp hlast] at hvisit
    exact lookup_eq_none_iff_not_mem.mp hfirst hvisit
  · rcases List.mem_append.mp hguest with hold | hlast
    · exact h.past guest hold
    · rw [List.mem_singleton.mp hlast]
      exact Nat.le_refl _

end Settled

/-! ### Requests that get to an endpoint -/

/-- The message of a scene gets, as a request, to a handler of the application in the session layer. -/
structure Scene.Brings (x : Scene) (r : Running) (message : Browser.Message) (inner : Handler Unit)
    (request : Request) : Prop where
  sent : ∃ tail u, x.move.sends? = some (tail, some message) ∧ Url.parse (r.baseUrl ++ tail) = .ok u ∧
    request.headers = ((x.before.browsers x.browser).requestFor u message).headers ∧
    ∀ realm, r.handler (rooted r ((x.before.browsers x.browser).requestFor u message)) none realm =
      sessionLayer r.settings.sessionCookieName inner request none realm
  method : request.method = message.method
  body : request.body = message.body

theorem Scene.Brings.method_of_isGet {x : Scene} {r : Running} {message : Browser.Message} {inner : Handler Unit}
    {request : Request} (h : x.Brings r message inner request) (hget : x.move.isGet = true) :
    request.method = "GET" := by
  obtain ⟨tail, u, hsends, -⟩ := h.sent
  obtain ⟨start, written, hmove⟩ := Move.eq_get_of_isGet hget
  rw [hmove] at hsends
  exact h.method.trans (getMessage?_eq_some (Move.getMessage?_of_sends? hsends)).1

/-- What comes of a scene whose request is answered by work on a session. -/
structure Scene.Served (x : Scene) (work : Session → Entropy → Ending Unit) (s : Session) (e : Entropy) : Prop where
  response : ∃ response, x.response? = some response ∧ response.status = (work s e).response.status ∧
    response.body = Bytes.toTextLenient (work s e).response.body
  before : s.token? = x.token?
  after : (work s e).session.token? = x.after.token? x.browser

section

variable {machine m : Machine} {config : ServerConfig} {r : Running} {x : Scene} {tail : String}
  {message : Browser.Message} {u : Url}

theorem Serving.brings (hserving : Serving machine config r m) (hsends : x.move.sends? = some (tail, some message))
    (hurl : Url.parse (r.baseUrl ++ tail) = .ok u) {router : Router Unit}
    (hrouter : Server.routerOf config r.settings r.injector = .ok router) {route : Route Unit} {captures : Captures}
    (hfind : router.find? ((⟨none, u.path, u.query⟩ : Target).withContextRoot r.settings.contextPath).path =
      some (route, captures)) :
    ∃ table written request, IsTable table ∧ written ∈ table ∧
      route.path = placedPath r.settings.contextPath written.1 ∧ x.Brings r message (written.2 captures) request := by
  obtain ⟨table, htable, hroutes⟩ := exists_table hserving.demo hserving.started hrouter
  obtain ⟨written, hwritten, hstands⟩ := hroutes route (Router.mem_of_find? hfind)
  obtain ⟨held, hheld, hhandler⟩ := hserving.started.handler
  obtain rfl : held = router := Except.ok.inj (hheld.symm.trans hrouter)
  obtain ⟨path, hserved⟩ := hstands.endpoint captures (rooted r ((x.before.browsers x.browser).requestFor u message))
  have hanswered (realm : Realm) :
      r.handler (rooted r ((x.before.browsers x.browser).requestFor u message)) none realm =
        route.endpoint captures (rooted r ((x.before.browsers x.browser).requestFor u message)) none realm := by
    rw [hhandler]
    simp only [Router.handler, rooted, Browser.requestFor, hfind]
  refine ⟨table, written, _, htable, hwritten, hstands.path,
    ⟨tail, u, hsends, hurl, ?_, fun realm => (hanswered realm).trans (hserved none realm)⟩, ?_, ?_⟩
  all_goals rfl

/-- A request leads to one route at most, and its endpoint answers. -/
theorem Serving.brings_of_arrivesAt (hserving : Serving machine config r m) {path : String} (hpath : path ≠ "")
    (harrives : x.ArrivesAt config r path) :
    ∃ table written captures message request, IsTable table ∧ written ∈ table ∧ written.1 = path ∧
      x.Brings r message (written.2 captures) request := by
  obtain ⟨tail, message, u, hsends, hurl, router, route, captures, hrouter, hfind, hplaced⟩ := harrives
  obtain ⟨table, written, request, htable, hwritten, hstands, hbrings⟩ := hserving.brings hsends hurl hrouter hfind
  have hsame := placedPath_injective (htable.path_ne hwritten) hpath (hstands.symm.trans hplaced)
  exact ⟨table, written, captures, message, request, htable, hwritten, hsame, hbrings⟩

end

/-! ### Posted forms -/

section

variable {b : Browser CookieJar} {u : Url} {fields : List (String × String)} {request : Request}

theorem isForm_of_formMessage
    (hheaders : request.headers = (b.requestFor u (Browser.formMessage fields)).headers) : request.isForm = true := by
  have hname : lowerName "content-type" ≠ "cookie" := by decide
  have htype : Headers.text? [("content-type", Bytes.ofText formContentType)] "content-type" =
      some formContentType := by decide
  have hmessage : (Browser.formMessage fields).headers.text? "content-type" = some formContentType := htype
  rw [Request.isForm, hheaders, text?_requestFor hname, hmessage]
  decide

theorem accepts_formMessage (hmethod : request.method = "POST")
    (hheaders : request.headers = (b.requestFor u (Browser.formMessage fields)).headers)
    (hbody : request.body = Form.encode fields) (hfits : (Form.encode fields).length ≤ 65536) (s : Session) :
    (Accepts s request ↔ ∃ token, s.token? = some token ∧ FirstPair fields "authenticityToken" token) ∧
      ¬Oversized request := by
  have hsafe : ¬IsSafe request.method := by
    rw [hmethod]
    unfold IsSafe
    decide
  have hname : lowerName authenticityHeader ≠ "cookie" := by decide
  have hother : Headers.text? [("content-type", Bytes.ofText formContentType)] authenticityHeader = none := by decide
  have hsilent : request.headers.text? authenticityHeader = none := by
    rw [hheaders, text?_requestFor hname]
    exact hother
  have hform := isForm_iff.mp (isForm_of_formMessage hheaders)
  constructor
  · rw [Accepts, or_iff_right hsafe]
    refine exists_congr fun token => and_congr_right fun _ => ?_
    rw [offers_iff_of_silent hsilent, hbody, Form.decode_encode, lookup_eq_some_iff]
    exact ⟨fun h => h.2.2, fun h => ⟨hform, hfits, h⟩⟩
  · rintro ⟨-, -, -, hlarge⟩
    rw [hbody] at hlarge
    omega

end

/-! ### Steps -/

namespace Settled

variable {machine m : Machine} {config : ServerConfig} {r : Running} {c : Crowd} {realm : Realm} {guests : Guests}
  {turn : Turn}

/-- A request that gets to a handler brings the cookie of its visit and goes through the session layer. -/
theorem exchange (h : Settled machine config r c realm guests) (hserving : Serving machine config r m)
    (hproper : turn.move.Proper) {message : Browser.Message} {inner : Handler Unit} {request : Request}
    (hbrings : (c.scene r.baseUrl turn).Brings r message inner request) :
    let outcome := sessionLayer r.settings.sessionCookieName inner request none realm
    ∃ u, Browser.cookieHost u = r.siteHost ∧ (∃ u, Url.parse r.baseUrl = .ok u) ∧
      request.headers.cookies = (((guests.lookup (c.visit turn.browser)).map Prod.fst).map
        fun id => (r.settings.sessionCookieName, id)).toList ∧
      c.scene r.baseUrl turn = c.answered turn u outcome (worldOf machine config r outcome.realm) := by
  intro outcome
  obtain ⟨⟨tail, u, hsends, hurl, hheaders, hhandler⟩, -, -⟩ := hbrings
  have hmove : turn.move.sends? = some (tail, some message) := hsends
  have htail := hproper.tail hmove
  have hsite : Browser.cookieHost u = r.siteHost := (hserving.started.origin htail hurl).2.1
  have hreached := hserving.started.parses htail startsBehind_empty hurl
  rw [String.append_empty] at hreached
  have hjar := h.jars turn.browser
  rw [← hsite] at hjar
  have hscene := scene_sent hmove hproper hserving.started hserving.connects (h.isOpen turn.browser)
    h.world hurl (hhandler realm)
  refine ⟨u, hsite, hreached, ?_, hscene⟩
  rw [hheaders]
  exact cookies_requestFor (hproper.uncooked hmove) hserving.isSessionCookie.isSymbol (h.symbols_id _) hjar

/-- What comes of a request of a visit, given the endings of sessions: the sessions stay, or the visit gets one. -/
inductive Comes (r : Running) (realm : Realm) (guests : Guests) (visit : Visit) (ending : Session → Ending Unit)
    (outcome : Outcome Unit) : Session → Prop where
  | stays {s : Session} (before : s.token? = (guests.lookup visit).map Prod.snd)
      (kept : (ending s).session.token? = s.token?) (response : outcome.response = (ending s).response)
      (holds : Holds r.realm.entropy outcome.realm (guests.map Prod.snd))
      (drawn : outcome.realm.entropy.drawn = realm.entropy.drawn) : Comes r realm guests visit ending outcome s
  | gets (first : guests.lookup visit = none)
      (kept : (ending Session.empty).session.token? = some (newPair realm.entropy).2)
      (response : outcome.response = (ending Session.empty).response.addHeader "set-cookie"
        (Bytes.ofText (issueCookie r.settings.sessionCookieName (newPair realm.entropy).1)))
      (created : outcome.realm = withNew realm) : Comes r realm guests visit ending outcome Session.empty

theorem comes (h : Settled machine config r c realm guests) (hname : IsSessionCookie r.settings.sessionCookieName)
    {visit : Visit} {inner : Handler Unit} {request : Request} {work : Session → Entropy → Ending Unit}
    (hworks : inner.WorksOn request work) (hmild : Mild work)
    (hcookies : request.headers.cookies = (((guests.lookup visit).map Prod.fst).map
      fun id => (r.settings.sessionCookieName, id)).toList) :
    ∃ s, Comes r realm guests visit (fun s => work s realm.entropy)
      (sessionLayer r.settings.sessionCookieName inner request none realm) s := by
  cases hlookup : guests.lookup visit with
  | some pair =>
    rw [hlookup] at hcookies
    have hpair : pair ∈ guests.map Prod.snd := List.mem_map_of_mem (mem_of_lookup_guests hlookup)
    obtain ⟨s, report, htoken, hserved⟩ := h.holds.serve_known hworks hmild hpair hcookies none
    refine ⟨s, .stays ?_ ?_ ?_ ?_ ?_⟩
    · rw [htoken, hlookup, Option.map_some]
    · rw [(hmild.settled htoken realm.entropy).1]
    · rw [hserved]
    · rw [hserved]
      exact h.holds
    · rw [hserved]
  | none =>
    rw [hlookup] at hcookies
    refine ⟨Session.empty, ?_⟩
    -- a session that stays empty is not stored
    rcases h.holds.serve_stranger hworks hmild hname hcookies none with
      ⟨hsession, hresponse, hrealm⟩ | ⟨hsession, hrealm, hresponse⟩
    · refine .stays ?_ ?_ hresponse ?_ ?_
      · rw [hlookup, Session.token?_empty, Option.map_none]
      · rw [hsession]
      · rw [hrealm]
        exact h.holds.begin Session.empty
      · rw [hrealm]
        rfl
    · refine .gets hlookup ?_ hresponse hrealm
      rcases hmild.fresh realm.entropy with ⟨hempty, -⟩ | ⟨hput, -⟩
      · exact absurd hempty hsession
      · rw [hput, Session.token?_put_authenticityKey]
        rfl

/-- A turn that does not get to a handler leaves the sessions alone. -/
theorem scene_cases (h : Settled machine config r c realm guests) (hserving : Serving machine config r m)
    (hproper : turn.move.Proper) :
    (Settled machine config r (c.scene r.baseUrl turn).after realm guests ∧
      (c.scene r.baseUrl turn).issues = false) ∨
    ∃ table written captures message request, IsTable table ∧ written ∈ table ∧
      (c.scene r.baseUrl turn).Brings r message (written.2 captures) request := by
  cases hsends : turn.move.sends? with
  | none =>
    rw [scene_clear hsends]
    exact .inl ⟨h.clear turn.browser, rfl⟩
  | some sent =>
    obtain ⟨tail, message?⟩ := sent
    have hlost (hunsent : (∃ e, Url.parse (r.baseUrl ++ tail) = .error e) ∨ message? = none) :
        Settled machine config r (c.scene r.baseUrl turn).after realm guests ∧
          (c.scene r.baseUrl turn).issues = false := by
      rw [scene_unsent hsends (h.isOpen turn.browser) hunsent]
      exact ⟨h, rfl⟩
    cases message? with
    | none => exact .inl (hlost (.inr rfl))
    | some message =>
      cases hurl : Url.parse (r.baseUrl ++ tail) with
      | error e => exact .inl (hlost (.inl ⟨e, hurl⟩))
      | ok u =>
        obtain ⟨router, hrouter, hhandler⟩ := hserving.started.handler
        cases hfind : router.find?
            ((⟨none, u.path, u.query⟩ : Target).withContextRoot r.settings.contextPath).path with
        | none =>
          have houtcome : r.handler (rooted r ((c.browsers turn.browser).requestFor u message)) none realm =
              ⟨notFound, realm, none⟩ := by
            rw [hhandler]
            simp only [Router.handler, rooted, Browser.requestFor, hfind]
          have hplain : (⟨notFound, realm, none⟩ : Outcome Unit).response.Plain := rfl
          rw [scene_sent hsends hproper hserving.started hserving.connects
            (h.isOpen turn.browser) h.world hurl houtcome]
          exact .inl ⟨h.stay turn u hplain h.holds, rfl⟩
        | some found =>
          obtain ⟨route, captures⟩ := found
          have hmove : (c.scene r.baseUrl turn).move.sends? = some (tail, some message) := hsends
          obtain ⟨table, written, request, htable, hwritten, -, hbrings⟩ :=
            hserving.brings hmove hurl hrouter hfind
          exact .inr ⟨table, written, captures, message, request, htable, hwritten, hbrings⟩

theorem drawn_eq (h : Settled machine config r c realm guests) : c.drawn = realm.entropy.drawn := by
  rw [Crowd.drawn, Crowd.running?, h.world]
  rfl

theorem drawn_scene_le (h : Settled machine config r c realm guests) (hserving : Serving machine config r m)
    (hproper : turn.move.Proper) : (c.scene r.baseUrl turn).after.drawn ≤ c.drawn + 2 := by
  rw [h.drawn_eq]
  rcases h.scene_cases hserving hproper with ⟨hsettled, -⟩ | ⟨table, written, captures, message, request, hserved⟩
  · rw [hsettled.drawn_eq]
    omega
  · obtain ⟨htable, hwritten, hbrings⟩ := hserved
    obtain ⟨work, hworks, hmild⟩ := htable.calm hwritten captures request
    obtain ⟨u, -, -, hcookies, hscene⟩ := h.exchange hserving hproper hbrings
    obtain ⟨s, hcomes⟩ := h.comes hserving.isSessionCookie hworks hmild hcookies
    rw [hscene]
    change (sessionLayer r.settings.sessionCookieName (written.2 captures) request none realm).realm.entropy.drawn ≤
      realm.entropy.drawn + 2
    cases hcomes with
    | stays _ _ _ _ drawn =>
      rw [drawn]
      omega
    | gets _ _ _ created => rw [created, drawn_withNew]

section

variable (h : Settled machine config r c realm guests) (hserving : Serving machine config r m)
  (hproper : turn.move.Proper)
  (hroom : (c.scene r.baseUrl turn).issues = true → guests.length < Store.defaultCapacity)
  (hdistinct : r.realm.entropy.Distinct (c.scene r.baseUrl turn).after.drawn)

include h hserving hproper hroom hdistinct

/-- A request that gets to a handler leaves its visit with the token that the work leaves its session with. -/
theorem serve {message : Browser.Message} {inner : Handler Unit} {request : Request}
    (hbrings : (c.scene r.baseUrl turn).Brings r message inner request) {work : Session → Entropy → Ending Unit}
    (hworks : inner.WorksOn request work) (hmild : Mild work) :
    ∃ s later after, (c.scene r.baseUrl turn).Served work s realm.entropy ∧
      Settled machine config r (c.scene r.baseUrl turn).after later after ∧
      Grows guests after (c.scene r.baseUrl turn).issues := by
  obtain ⟨u, hsite, hreached, hcookies, hscene⟩ := h.exchange hserving hproper hbrings
  obtain ⟨s, hcomes⟩ := h.comes hserving.isSessionCookie hworks hmild hcookies
  have hbefore := h.token?_eq hserving turn.browser
  rw [hscene] at hroom hdistinct ⊢
  -- only what the session layer made of the request matters from here on
  generalize sessionLayer r.settings.sessionCookieName inner request none realm = outcome at *
  have hplain := hmild.plain s realm.entropy
  cases hcomes with
  | stays before kept response holds =>
    rw [← response] at hplain
    have hsettled := h.stay turn u hplain holds
    refine ⟨s, _, guests, ⟨⟨_, rfl, by rw [← response], by rw [← response]⟩, before.trans hbefore.symm, ?_⟩,
      hsettled, .of_plain hplain⟩
    exact (kept.trans before).trans (hsettled.token?_eq hserving turn.browser).symm
  | gets first kept response created =>
    have hissues : (c.answered turn u outcome (worldOf machine config r outcome.realm)).issues = true := by
      rw [issues_answered, response]
      exact not_plain_addHeader _ _
    have hsettled := h.welcome hserving.isSessionCookie first (hroom hissues) hplain created response hdistinct hsite
      hreached
    refine ⟨_, _, _, ⟨⟨_, rfl, by rw [response]; rfl, by rw [response]; rfl⟩, ?_, ?_⟩, hsettled, ?_⟩
    · refine Eq.trans ?_ hbefore.symm
      rw [first, Session.token?_empty, Option.map_none]
    · refine Eq.trans kept (Eq.trans ?_ (hsettled.token?_eq hserving turn.browser).symm)
      rw [visit_answered, List.lookup_append, first, Option.none_or, List.lookup_cons_self, Option.map_some]
    · rw [hissues]
      exact ⟨_, rfl, rfl⟩

/-- A turn leads from guests to the same, or to one more if a session is created in it. -/
theorem step :
    ∃ later after, Settled machine config r (c.scene r.baseUrl turn).after later after ∧
      Grows guests after (c.scene r.baseUrl turn).issues := by
  rcases h.scene_cases hserving hproper with
    ⟨hsettled, hissues⟩ | ⟨table, written, captures, message, request, htable, hwritten, hbrings⟩
  · rw [hissues]
    exact ⟨realm, guests, hsettled, .refl guests⟩
  · obtain ⟨work, hworks, hmild⟩ := htable.calm hwritten captures request
    obtain ⟨s, later, after, -, hsettled, hgrows⟩ := h.serve hserving hproper hroom hdistinct hbrings hworks hmild
    exact ⟨later, after, hsettled, hgrows⟩

theorem asked {message : Browser.Message} {inner : Handler Unit} {request : Request}
    (hbrings : (c.scene r.baseUrl turn).Brings r message inner request) {page : String → Response}
    (hworks : inner.WorksOn request (asking page ())) (hplain : ∀ token, (page token).Plain) :
    ∃ response token, (c.scene r.baseUrl turn).response? = some response ∧ response.status = (page token).status ∧
      response.body = Bytes.toTextLenient (page token).body ∧
      (c.scene r.baseUrl turn).after.token? turn.browser = some token ∧ '"' ∉ token.toList := by
  obtain ⟨s, later, after, ⟨⟨response, hresponse, hstatus, hbody⟩, -, hafter⟩, hsettled, -⟩ :=
    h.serve hserving hproper hroom hdistinct hbrings hworks (mild_asking () hplain)
  have htoken : (c.scene r.baseUrl turn).after.token? turn.browser = some (s.authenticityToken realm.entropy).1 :=
    hafter.symm.trans (s.token?_authenticityToken realm.entropy)
  refine ⟨response, _, hresponse, hstatus, hbody, htoken, ?_⟩
  rw [hsettled.token?_eq hserving] at htoken
  obtain ⟨pair, hlookup, heq⟩ := Option.map_eq_some_iff.mp htoken
  rw [← heq]
  intro hquote
  have hsymbol := (hsettled.symbols hlookup).2 _ hquote
  revert hsymbol
  unfold Text.Base64.IsSymbol
  decide

theorem shows_token (hget : turn.move.isGet = true) (harrives : (c.scene r.baseUrl turn).ArrivesAt config r "/token") :
    ∃ response token, (c.scene r.baseUrl turn).response? = some response ∧ response.status = 200 ∧
      response.body = token ∧ (c.scene r.baseUrl turn).after.token? turn.browser = some token := by
  obtain ⟨table, written, captures, message, request, htable, hwritten, hpath, hbrings⟩ :=
    hserving.brings_of_arrivesAt (by decide) harrives
  have hworks : (written.2 captures).WorksOn request (asking text ()) :=
    htable.token_worksOn hwritten hpath (hbrings.method_of_isGet hget)
  obtain ⟨response, token, hresponse, hstatus, hbody, htoken, -⟩ :=
    h.asked hserving hproper hroom hdistinct hbrings hworks fun _ => plain_ofText _ _
  exact ⟨response, token, hresponse, hstatus, hbody.trans (Bytes.toTextLenient_ofText token), htoken⟩

theorem shows_form (hget : turn.move.isGet = true) (harrives : (c.scene r.baseUrl turn).ArrivesAt config r "/form") :
    ∃ response token, (c.scene r.baseUrl turn).response? = some response ∧ response.status = 200 ∧
      Template.hiddenValue? response.body = some token ∧
      (c.scene r.baseUrl turn).after.token? turn.browser = some token := by
  obtain ⟨table, written, captures, message, request, htable, hwritten, hpath, hbrings⟩ :=
    hserving.brings_of_arrivesAt (by decide) harrives
  have hworks : (written.2 captures).WorksOn request (asking (fun token => page (formText token)) ()) :=
    htable.form_worksOn hwritten hpath (hbrings.method_of_isGet hget)
  obtain ⟨response, token, hresponse, hstatus, hbody, htoken, hquote⟩ :=
    h.asked hserving hproper hroom hdistinct hbrings hworks fun _ => plain_page _
  refine ⟨response, token, hresponse, hstatus, ?_, htoken⟩
  rw [hbody, page, Bytes.toTextLenient_ofText]
  exact hiddenValue?_formText hquote

theorem submits {tail : String} {fields : List (String × String)} (hmove : turn.move = .postForm tail fields)
    (harrives : (c.scene r.baseUrl turn).ArrivesAt config r "/submit") (hfits : (Form.encode fields).length ≤ 65536) :
    ((c.scene r.baseUrl turn).Repeats fields → (c.scene r.baseUrl turn).Saves fields) ∧
      (¬(c.scene r.baseUrl turn).Repeats fields → (c.scene r.baseUrl turn).IsRefused) := by
  obtain ⟨table, written, captures, message, request, htable, hwritten, hpath, hbrings⟩ :=
    hserving.brings_of_arrivesAt (by decide) harrives
  obtain ⟨sentTail, u, hsends, hurl, hheaders, -⟩ := hbrings.sent
  have hsent : (Move.postForm tail fields).sends? = some (sentTail, some message) := hmove ▸ hsends
  obtain rfl : Browser.formMessage fields = message := Option.some.inj (Prod.mk.inj (Option.some.inj hsent)).2
  have hworks : (written.2 captures).WorksOn request
      (Http.guarded request fun s e => ⟨submitted request, some (), s, e⟩) :=
    htable.submit_worksOn hwritten hpath hbrings.method
  have hmild := (mild_looking (fun _ => some ()) fun _ => plain_submitted request).guarded request
  obtain ⟨s, later, after, ⟨⟨response, hresponse, hstatus, hbody⟩, hbefore, -⟩, -, -⟩ :=
    h.serve hserving hproper hroom hdistinct hbrings hworks hmild
  obtain ⟨haccepts, hsmall⟩ := accepts_formMessage hbrings.method hheaders hbrings.body hfits s
  rw [Scene.Repeats, ← hbefore, ← haccepts]
  refine ⟨fun hpasses => ⟨response, hresponse, ?_⟩, fun hfails => ⟨response, hresponse, ?_⟩⟩
  · have hsaved : submitted request = text ("saved " ++ (fields.reverse.lookup "name").getD "") := by
      have hbytes : request.body = Form.encode fields := hbrings.body
      rw [submitted, isForm_of_formMessage hheaders, hbytes, Form.decode_encode]
      rfl
    rw [guarded_of_accepts hpasses, hsaved] at hstatus hbody
    exact ⟨hstatus, hbody.trans (Bytes.toTextLenient_ofText _)⟩
  · rw [hstatus]
    exact status_guarded hfails hsmall _ _

end

end Settled

end AppServer.Harness
