import AppServer.Harness.Server
import AppServer.Proofs.Application.Demo
import AppServer.Proofs.Harness.Jar

/-!
# Several browsers and one server

Browsers take turns with a server: each of them asks for pages below the server's
base, posts to them, or forgets its cookies. A request that reaches the server is
answered by the endpoint of the route that its path leads to; all others change
nothing.
-/

namespace AppServer.Harness

open Http Url

/-! ### Moves -/

/-- What a browser does in a turn. The URL of a request is the base with a text behind it. -/
inductive Move where
  | get (tail : String) (headers : List (String × String))
  | postForm (tail : String) (fields : List (String × String))
  | postJson (tail : String) (value : Json)
  | clearCookies

/-- What stands behind the base in the URL of a request, and the message if it can be sent. -/
def Move.sends? : Move → Option (String × Option Browser.Message)
  | .get tail headers => some (tail, Browser.getMessage? headers)
  | .postForm tail fields => some (tail, some (Browser.formMessage fields))
  | .postJson tail value => some (tail, some (Browser.jsonMessage value))
  | .clearCookies => none

def Move.isGet : Move → Bool
  | .get _ _ => true
  | _ => false

/-- The URL lies below the base, and no cookie is set by hand. -/
def Move.Proper : Move → Prop
  | .get tail headers => StartsBehind tail.toList ∧ ∀ header ∈ headers, lowerName header.1 ≠ "cookie"
  | .postForm tail _ => StartsBehind tail.toList
  | .postJson tail _ => StartsBehind tail.toList
  | .clearCookies => True

/-- A browser and what it does. -/
structure Turn where
  browser : Nat
  move : Move

/-! ### Turns -/

/-- Browsers by their numbers, how often each has forgotten its cookies, and the world of their server. -/
structure Crowd where
  browsers : Nat → Browser CookieJar
  eras : Nat → Nat
  world : World

/-- Plays a turn; the response is that to a request, if one has come. -/
def Crowd.play (base : String) (c : Crowd) (turn : Turn) : Option BrowserResponse × Crowd :=
  let b := c.browsers turn.browser
  match turn.move.sends? with
  | some (tail, message) =>
    let (result, b, world) := b.send (base ++ tail) message (Transport.client World.transport) c.world
    (result.toOption, { c with browsers := Function.update c.browsers turn.browser b, world })
  | none =>
    (none, { c with
      browsers := Function.update c.browsers turn.browser b.clearCookies.2
      eras := Function.update c.eras turn.browser (c.eras turn.browser + 1) })

structure Scene extends Turn where
  before : Crowd
  response? : Option BrowserResponse
  after : Crowd

def Crowd.scene (base : String) (c : Crowd) (turn : Turn) : Scene :=
  ⟨turn, c, (c.play base turn).1, (c.play base turn).2⟩

/-- The scenes when turns are played one after another. -/
def Crowd.trace (base : String) (c : Crowd) : List Turn → List Scene
  | [] => []
  | turn :: rest => c.scene base turn :: (c.scene base turn).after.trace base rest

/-! ### Looking at scenes -/

/-- A browser between two clearings: its number, and how often it has forgotten its cookies. -/
abbrev Visit := Nat × Nat

namespace Crowd

def visit (c : Crowd) (who : Nat) : Visit := (who, c.eras who)

def running? (c : Crowd) : Option Running := c.world.server.bind Server.running

/-- The token of the session whose cookie a browser would send to the base. -/
def token? (c : Crowd) (who : Nat) : Option String := do
  let running ← c.running?
  let found := (c.browsers who).cookie? running.baseUrl running.settings.sessionCookieName c.world.machine.now
  let id ← found.toOption.join
  let s ← running.realm.sessionAt? id
  s.token?

def drawn (c : Crowd) : Nat := c.running?.elim 0 fun running => running.realm.entropy.drawn

end Crowd

namespace Scene

def visit (x : Scene) : Visit := x.before.visit x.browser

def token? (x : Scene) : Option String := x.before.token? x.browser

/-- A session has been created: its cookie comes with the response. -/
def issues (x : Scene) : Bool := x.response?.any fun response => response.headers.all "set-cookie" ≠ []

/-- A request is sent that leads to the route of a path. -/
def ArrivesAt (x : Scene) (config : ServerConfig) (r : Running) (path : String) : Prop :=
  ∃ tail message u, x.move.sends? = some (tail, some message) ∧ Url.parse (r.baseUrl ++ tail) = .ok u ∧
    r.LeadsTo config ⟨none, u.path, u.query⟩ path

/-- The browser gets to see a token, as a text of its own or in the hidden field of the form. -/
def Shows (x : Scene) (config : ServerConfig) (r : Running) (token : String) : Prop :=
  ∃ response, x.response? = some response ∧ x.move.isGet = true ∧
    (x.ArrivesAt config r "/token" ∧ response.body = token ∨
      x.ArrivesAt config r "/form" ∧ Template.hiddenValue? response.body = some token)

/-- The first token field of a form is the token of the browser's session. -/
def Repeats (x : Scene) (fields : List (String × String)) : Prop :=
  ∃ token, x.token? = some token ∧ FirstPair fields "authenticityToken" token

/-- The form has got to its handler, which saves the last name in it. -/
def Saves (x : Scene) (fields : List (String × String)) : Prop :=
  ∃ response, x.response? = some response ∧ response.status = 200 ∧
    response.body = "saved " ++ (fields.reverse.lookup "name").getD ""

def IsRefused (x : Scene) : Prop := ∃ response, x.response? = some response ∧ response.status = 403

/-- A token has to do with the browser of a scene: it is that of its session, or the browser gets to see it. -/
def Knows (x : Scene) (config : ServerConfig) (r : Running) (token : String) : Prop :=
  x.token? = some token ∨ x.Shows config r token

end Scene

/-! ### Messages -/

theorem Move.eq_get_of_isGet {move : Move} (h : move.isGet = true) : ∃ tail headers, move = .get tail headers := by
  cases move with
  | get tail headers => exact ⟨tail, headers, rfl⟩
  | postForm => cases h
  | postJson => cases h
  | clearCookies => cases h

theorem Move.Proper.tail {move : Move} (h : move.Proper) {tail : String} {message : Option Browser.Message}
    (hsends : move.sends? = some (tail, message)) : StartsBehind tail.toList := by
  cases move with
  | get =>
    cases hsends
    exact h.1
  | postForm =>
    cases hsends
    exact h
  | postJson =>
    cases hsends
    exact h
  | clearCookies => cases hsends

/-- What asks for a page has the headers that were written, by their names. -/
theorem getMessage?_eq_some {written : List (String × String)} {message : Browser.Message}
    (h : Browser.getMessage? written = some message) :
    message.method = "GET" ∧ ∀ header ∈ message.headers, ∃ one ∈ written, header.1 = one.1 := by
  obtain ⟨made, hmade, hmessage⟩ := Option.bind_eq_some_iff.mp h
  cases hmessage
  refine ⟨rfl, fun header hheader => ?_⟩
  obtain ⟨one, hone, heq⟩ := (mem_of_mapM hmade).2 header hheader
  refine ⟨one, hone, ?_⟩
  split at heq
  · obtain ⟨value, -, rfl⟩ := Option.map_eq_some_iff.mp heq
    rfl
  · cases heq

theorem Move.getMessage?_of_sends? {written : List (String × String)} {start tail : String}
    {message : Browser.Message} (h : (Move.get start written).sends? = some (tail, some message)) :
    Browser.getMessage? written = some message :=
  (Prod.mk.inj (Option.some.inj h)).2

theorem method_of_sends? {move : Move} {tail : String} {message : Browser.Message}
    (hsends : move.sends? = some (tail, some message)) : message.method ≠ "HEAD" := by
  cases move with
  | get _ written =>
    rw [(getMessage?_eq_some (Move.getMessage?_of_sends? hsends)).1]
    decide
  | postForm =>
    cases hsends
    exact (by decide : "POST" ≠ "HEAD")
  | postJson =>
    cases hsends
    exact (by decide : "POST" ≠ "HEAD")
  | clearCookies => cases hsends

theorem Move.Proper.uncooked {move : Move} (h : move.Proper) {tail : String}
    {message : Browser.Message} (hsends : move.sends? = some (tail, some message)) :
    message.headers.all "cookie" = [] := by
  have hlower : lowerName "cookie" = "cookie" := by decide
  have htype : lowerName "content-type" ≠ lowerName "cookie" := by decide
  cases move with
  | get _ written =>
    have hmade := (getMessage?_eq_some (Move.getMessage?_of_sends? hsends)).2
    refine List.map_eq_nil_iff.mpr (List.filter_eq_nil_iff.mpr fun header hheader => ?_)
    obtain ⟨one, hone, hname⟩ := hmade header hheader
    rw [hname, hlower, decide_eq_true_eq]
    exact h.2 one hone
  | postForm =>
    cases hsends
    simp [Browser.formMessage, Headers.all, htype]
  | postJson =>
    cases hsends
    simp [Browser.jsonMessage, Headers.all, htype]
  | clearCookies => cases hsends

/-! ### Answers of the server -/

def worldOf (machine : Machine) (config : ServerConfig) (r : Running) (realm : Realm) : World :=
  ⟨machine, some ⟨config, some { r with realm }⟩⟩

def rooted (r : Running) (request : Request) : Request :=
  { request with target := request.target.withContextRoot r.settings.contextPath }

section

variable {machine : Machine} {config : ServerConfig} {r : Running} {realm : Realm} {m : Machine}

theorem transport_worldOf (hconnects : machine.network.connects = true) {u : Url} (hscheme : u.scheme = "http")
    (hport : u.port.or (usualPorts.lookup u.scheme) = some r.port) (request : Request) :
    let outcome := r.handler (rooted r request) none realm
    World.transport u request (worldOf machine config r realm) =
      (some (outcome.response.sentTo request.method), worldOf machine config r outcome.realm) := by
  have hreached : (machine.network.connects = true ∧ u.scheme = "http" ∧
      u.port.or (usualPorts.lookup u.scheme) = (some { r with realm } : Option Running).map Running.port) :=
    ⟨hconnects, hscheme, hport⟩
  exact if_pos hreached

def Crowd.answered (c : Crowd) (turn : Turn) (u : Url) (outcome : Outcome Unit) (world : World) : Scene :=
  ⟨turn, c,
    some ⟨outcome.response.status, outcome.response.headers, Bytes.toTextLenient outcome.response.body⟩,
    { c with
      browsers := Function.update c.browsers turn.browser ((c.browsers turn.browser).receive u outcome.response)
      world }⟩

variable {c : Crowd} {turn : Turn} {tail : String}

theorem browsers_answered_self {u : Url} {outcome : Outcome Unit} {world : World} :
    (c.answered turn u outcome world).after.browsers turn.browser =
      (c.browsers turn.browser).receive u outcome.response := Function.update_self _ _ _

theorem browsers_answered_of_ne {u : Url} {outcome : Outcome Unit} {world : World} {other : Nat}
    (h : other ≠ turn.browser) : (c.answered turn u outcome world).after.browsers other = c.browsers other :=
  Function.update_of_ne h _ _

theorem visit_answered {u : Url} {outcome : Outcome Unit} {world : World} (who : Nat) :
    (c.answered turn u outcome world).after.visit who = c.visit who := rfl

theorem issues_answered {u : Url} {outcome : Outcome Unit} {world : World} :
    (c.answered turn u outcome world).issues = true ↔ ¬outcome.response.Plain := decide_eq_true_iff

theorem scene_clear (hsends : turn.move.sends? = none) {base : String} :
    c.scene base turn = ⟨turn, c, none, { c with
      browsers := Function.update c.browsers turn.browser (c.browsers turn.browser).clearCookies.2
      eras := Function.update c.eras turn.browser (c.eras turn.browser + 1) }⟩ := by
  simp only [Crowd.scene, Crowd.play, hsends]

/-- Only forgotten cookies end a visit. -/
theorem visit_scene {sent : String × Option Browser.Message} (hsends : turn.move.sends? = some sent) {base : String}
    (who : Nat) : (c.scene base turn).after.visit who = c.visit who := by
  simp only [Crowd.scene, Crowd.play, hsends, Crowd.visit]

theorem visit_of_mem_trace {base : String} {turns : List Turn} (hsends : ∀ turn ∈ turns, turn.move.sends? ≠ none) :
    ∀ x ∈ c.trace base turns, x.visit = c.visit x.browser := by
  induction turns generalizing c with
  | nil => exact fun x hx => absurd hx List.not_mem_nil
  | cons turn rest ih =>
    rw [List.forall_mem_cons] at hsends
    obtain ⟨sent, hsent⟩ := Option.ne_none_iff_exists'.mp hsends.1
    rw [Crowd.trace, List.forall_mem_cons]
    refine ⟨rfl, fun x hx => ?_⟩
    rw [ih hsends.2 x hx, visit_scene hsent]

theorem scene_unsent {message : Option Browser.Message} (hsends : turn.move.sends? = some (tail, message))
    (hopen : (c.browsers turn.browser).isClosed = false) {base : String}
    (hlost : (∃ e, Url.parse (base ++ tail) = .error e) ∨ message = none) :
    c.scene base turn = ⟨turn, c, none, c⟩ := by
  obtain ⟨e, hsend⟩ : ∃ e,
      (c.browsers turn.browser).send (base ++ tail) message (Transport.client World.transport) c.world =
        (.error e, c.browsers turn.browser, c.world) := by
    cases hparse : Url.parse (base ++ tail) with
    | error e =>
      refine ⟨.invalidUrl (base ++ tail) e.message, ?_⟩
      simp only [Browser.send, hopen, Bool.false_eq_true, if_false, Browser.urlOf_of_error hparse]
    | ok u =>
      rcases hlost with ⟨e, herror⟩ | rfl
      · rw [hparse] at herror
        cases herror
      · refine ⟨.request (base ++ tail) "builder error", ?_⟩
        simp only [Browser.send, hopen, Bool.false_eq_true, if_false, Browser.urlOf_of_ok hparse]
  simp only [Crowd.scene, Crowd.play, hsends, hsend, Function.update_eq_self]
  rfl

/-- A request to a URL below the base is answered by the server. -/
theorem scene_sent {message : Browser.Message}
    (hsends : turn.move.sends? = some (tail, some message)) (hproper : turn.move.Proper)
    (hstarted : r.StartedFrom config m) (hconnects : machine.network.connects = true)
    (hopen : (c.browsers turn.browser).isClosed = false)
    (hworld : c.world = worldOf machine config r realm) {u : Url}
    (hurl : Url.parse (r.baseUrl ++ tail) = .ok u) {outcome : Outcome Unit}
    (houtcome : r.handler (rooted r ((c.browsers turn.browser).requestFor u message)) none realm =
      outcome) :
    c.scene r.baseUrl turn =
      c.answered turn u outcome (worldOf machine config r outcome.realm) := by
  subst houtcome
  obtain ⟨hscheme, -, hport⟩ := hstarted.origin (hproper.tail hsends) hurl
  have htransport : World.transport u ((c.browsers turn.browser).requestFor u message)
      (worldOf machine config r realm) = _ := transport_worldOf hconnects hscheme hport _
  -- only the answer to a HEAD request loses its body on the way
  have hwhole (response : Response) :
      response.sentTo ((c.browsers turn.browser).requestFor u message).method = response :=
    if_neg (method_of_sends? hsends)
  rw [hwhole] at htransport
  simp only [Crowd.scene, Crowd.play, hsends, Browser.send, hopen, Bool.false_eq_true, if_false,
    Browser.urlOf_of_ok hurl, hworld, client_eq World.transport (c.browsers turn.browser) u message htransport]
  rfl

end

end AppServer.Harness
