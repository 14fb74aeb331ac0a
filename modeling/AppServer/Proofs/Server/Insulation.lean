import AppServer.Proofs.Http.SessionLayer
import AppServer.Proofs.Server.Services

/-!
# What bindings cannot change

Two servers with the same files, overrides, port and mode go through the same
life, whatever services their applications and override modules bind, as long
as the applications configure themselves and make routes alike. None of them
asks its injector for anything: the sessions are those of the store that a
start has made, and the session layer hands requests on with no others.
-/

namespace AppServer

open Http

/-! ### Paths of routers -/

namespace Http.Router

variable {ν : Type}

def paths (router : Router ν) : List String := router.routes.map Route.path

def readable? (paths : List String) : Option (List String) :=
  paths.mapM fun path => (readRoute? path).map fun _ => path

theorem map_paths_ofList? (table : List (String × Endpoint ν)) :
    (ofList? table).map paths = readable? (table.map Prod.fst) := by
  rw [readable?, mapM_map, ofList?, Option.map_map]
  refine (map_mapM _ Route.path table).trans ?_
  congr 1
  funext route
  rw [Option.map_map]
  rfl

theorem paths_layer (router : Router ν) (wrap : Handler ν → Handler ν) : (router.layer wrap).paths = router.paths := by
  rw [paths, paths, layer, List.map_map]
  rfl

theorem map_paths_nest? (router : Router ν) (outer : String) :
    (router.nest? outer).map paths =
      if mayNest outer then readable? (router.paths.map (nestedPath outer)) else none := by
  rw [nest?]
  cases mayNest outer with
  | false => rfl
  | true =>
    refine (map_paths_ofList? _).trans ?_
    rw [paths, List.map_map, List.map_map]
    rfl

end Http.Router

/-! ### Servers alike -/

/-- Two machines are the same to a server, but for the randomness they have left. -/
structure Machine.Agrees (m n : Machine) : Prop where
  files : m.files = n.files
  network : m.network = n.network
  confDirVar : m.confDirVar = n.confDirVar
  now : m.now = n.now
  handed : m.handed = n.handed

namespace Server

/-- Two configurations are the same but for what is bound: the applications configure themselves alike, and from
the services that are bound in the end they make routes with the same paths. -/
structure AlikeConfigs (c d : ServerConfig) : Prop where
  mode : c.mode = d.mode
  port : c.port = d.port
  overrides : c.overrides.toList = d.overrides.toList
  confDir : c.confDir = d.confDir
  configure : ∀ properties,
    Alike (fun _ _ => True) (c.application.configure properties) (d.application.configure properties)
  routes : ∀ properties settings i j, injectorOf c properties settings = .ok i →
    injectorOf d properties settings = .ok j →
    Alike (fun table other => table.map Prod.fst = other.map Prod.fst) (c.application.routes i) (d.application.routes j)

/-- What runs is the same but for its services and what they answer. -/
structure Matches (r q : Running) : Prop where
  settings : r.settings = q.settings
  port : r.port = q.port
  events : r.events = q.events

variable {c d : ServerConfig} {m n : Machine} {properties : Properties} {settings : ServerSettings}

/-! ### Starting alike -/

theorem AlikeConfigs.loadProperties (h : AlikeConfigs c d) (hm : m.Agrees n) :
    loadProperties c m = loadProperties d n := by
  rw [Server.loadProperties, Server.loadProperties, h.mode, h.overrides, h.confDir, hm.files, hm.confDirVar]

theorem AlikeConfigs.bindingSteps (h : AlikeConfigs c d) (properties : Properties) (settings : ServerSettings) :
    Alike (fun _ _ => True) (bindingSteps c properties settings) (bindingSteps d properties settings) := by
  have hconfigure := h.configure properties
  rw [Server.bindingSteps, Server.bindingSteps]
  generalize c.application.configure properties = configured at hconfigure ⊢
  generalize d.application.configure properties = other at hconfigure ⊢
  cases hconfigure with
  | ok => exact .ok trivial
  | error cause => exact .error _

theorem AlikeConfigs.injectorOf (h : AlikeConfigs c d) (properties : Properties) (settings : ServerSettings) :
    Alike (fun _ _ => True) (injectorOf c properties settings) (injectorOf d properties settings) :=
  (h.bindingSteps properties settings).bind fun _ _ _ => .ok trivial

def placed (settings : ServerSettings) (table : RouteTable) : Option (Router Unit) :=
  let router := (Router.ofList? table).map (·.layer (sessionLayer settings.sessionCookieName))
  if settings.contextPath = "" then router else router.bind (·.nest? settings.contextPath)

theorem rel_placed {table other : RouteTable} (h : table.map Prod.fst = other.map Prod.fst)
    (settings : ServerSettings) :
    Option.Rel (fun router other => router.paths = other.paths) (placed settings table) (placed settings other) := by
  have hread : (Router.ofList? table).map Router.paths = (Router.ofList? other).map Router.paths := by
    rw [Router.map_paths_ofList?, Router.map_paths_ofList?, h]
  have hrel := rel_of_map_eq hread
  apply rel_of_map_eq
  rw [placed, placed]
  generalize Router.ofList? table = router at hrel ⊢
  generalize Router.ofList? other = bare at hrel ⊢
  cases hrel with
  | none => rfl
  | some hpaths =>
    split
    · simp only [Option.map_some, Router.paths_layer, hpaths]
    · simp only [Option.map_some, Option.bind_some, Router.map_paths_nest?, Router.paths_layer, hpaths]

theorem routerOf_eq (config : ServerConfig) (settings : ServerSettings) (injector : Injector Service) :
    Server.routerOf config settings injector =
      (config.application.routes injector).mapError ServerError.application >>= fun table =>
        (placed settings table).elim (.error (.unroutable settings.contextPath)) .ok := by
  rw [Server.routerOf]
  cases config.application.routes injector with
  | error cause => rfl
  | ok table =>
    simp only [bind, Except.bind, Except.mapError, placed]
    split
    · next hplaced => rw [hplaced, Option.elim_some]
    · next hplaced => rw [hplaced, Option.elim_none]

theorem AlikeConfigs.routerOf (h : AlikeConfigs c d) {i j : Injector Service}
    (hi : Server.injectorOf c properties settings = .ok i) (hj : Server.injectorOf d properties settings = .ok j) :
    Alike (fun router other => router.paths = other.paths) (routerOf c settings i) (routerOf d settings j) := by
  rw [routerOf_eq, routerOf_eq]
  refine (h.routes properties settings i j hi hj).mapError.bind fun table other htables => ?_
  have hplaced := rel_placed htables settings
  generalize placed settings table = router at hplaced ⊢
  generalize placed settings other = bare at hplaced ⊢
  cases hplaced with
  | none => exact .error _
  | some hpaths => exact .ok hpaths

theorem AlikeConfigs.handlerOf (h : AlikeConfigs c d) {i j : Injector Service}
    (hi : Server.injectorOf c properties settings = .ok i) (hj : Server.injectorOf d properties settings = .ok j) :
    Alike (fun _ _ => True) (handlerOf c settings i) (handlerOf d settings j) :=
  (h.routerOf hi hj).bind fun _ _ _ => .ok trivial

theorem AlikeConfigs.takePort (h : AlikeConfigs c d) (settings : ServerSettings) (network : Network) :
    takePort c settings network = takePort d settings network := by
  rw [Server.takePort, Server.takePort, h.port]

theorem AlikeConfigs.made (h : AlikeConfigs c d) (properties : Properties) (settings : ServerSettings)
    (network : Network) :
    Alike (fun x y : Injector Service × Handler Unit × Nat × Network => x.2.2 = y.2.2)
      (do
        let injector ← Server.injectorOf c properties settings
        let handler ← Server.handlerOf c settings injector
        let (port, network) ← Server.takePort c settings network
        .ok (injector, handler, port, network))
      (do
        let injector ← Server.injectorOf d properties settings
        let handler ← Server.handlerOf d settings injector
        let (port, network) ← Server.takePort d settings network
        .ok (injector, handler, port, network)) := by
  refine (h.injectorOf properties settings).attach.bind fun i j hmade => ?_
  obtain ⟨hi, hj, -⟩ := hmade
  refine (h.handlerOf hi hj).bind fun _ _ _ => ?_
  rw [h.takePort]
  refine (alike_refl _).bind fun taken other htaken => ?_
  exact .ok htaken

/-- Whatever services are bound, the same comes of a start: what runs matches, and the machines change alike. -/
theorem AlikeConfigs.prepare (h : AlikeConfigs c d) (hm : m.Agrees n) : ∃ files network,
    Alike Matches (prepare c m).1 (prepare d n).1 ∧ (prepare c m).2 = { m with files, network } ∧
      (prepare d n).2 = { n with files, network } := by
  rw [Server.prepare, Server.prepare, h.loadProperties hm, hm.files, hm.network]
  split
  · next e hconfigured =>
    exact ⟨n.files, n.network, .error _, by rw [← hm.files, ← hm.network], rfl⟩
  · next properties settings events files hconfigured =>
    have hmade := h.made properties settings n.network
    dsimp only
    generalize (do
      let injector ← Server.injectorOf c properties settings
      let handler ← Server.handlerOf c settings injector
      let (port, network) ← Server.takePort c settings n.network
      Except.ok (injector, handler, port, network)) = x at hmade ⊢
    generalize (do
      let injector ← Server.injectorOf d properties settings
      let handler ← Server.handlerOf d settings injector
      let (port, network) ← Server.takePort d settings n.network
      Except.ok (injector, handler, port, network)) = y at hmade ⊢
    cases hmade with
    | error e => exact ⟨files, n.network, .error e, by rw [← hm.network], rfl⟩
    | @ok first second hsame =>
      obtain ⟨i, handler, port, network⟩ := first
      obtain ⟨j, other, port', network'⟩ := second
      cases hsame
      exact ⟨files, network, .ok ⟨rfl, rfl, rfl⟩, rfl, rfl⟩

/-! ### One step of both -/

/-- Calls that are the same to the two servers. What they are asked to answer need not be. -/
inductive SameCall : Call → Call → Prop
  | start : SameCall .start .start
  | shutdown : SameCall .shutdown .shutdown
  | answer (request other : Request) : SameCall (.answer request) (.answer other)
  | meanwhile {act other : Machine → Machine} (h : ∀ m n, m.Agrees n → (act m).Agrees (other n)) :
      SameCall (.meanwhile act) (.meanwhile other)

structure Twins (c d : ServerConfig) (s t : Server) : Prop where
  first : s.config = c
  second : t.config = d
  running : Option.Rel Matches s.running t.running

theorem Matches.serverUrl {r q : Running} (h : Matches r q) : r.serverUrl = q.serverUrl := by
  rw [Running.serverUrl, Running.serverUrl, h.settings, h.port]

theorem Matches.record {r q : Running} (h : Matches r q) (hm : m.Agrees n) (mode : Mode) (name : String) :
    (r.record m mode name).Agrees (q.record n mode name) := by
  have hevent : r.event m mode name = q.event n mode name := by
    rw [Running.event, Running.event, hm.now, h.serverUrl]
  constructor
  · show r.events.record m.files (r.event m mode name) = q.events.record n.files (q.event n mode name)
    rw [h.events, hm.files, hevent]
  · exact hm.network
  · exact hm.confDirVar
  · exact hm.now
  · show m.handed ++ [(r.events, r.event m mode name)] = n.handed ++ [(q.events, q.event n mode name)]
    rw [h.events, hm.handed, hevent]

theorem Twins.start {s t : Server} (h : AlikeConfigs c d) (hs : Twins c d s t) (hm : m.Agrees n) :
    (s.start m).1 = (t.start n).1 ∧ Twins c d (s.start m).2.1 (t.start n).2.1 ∧
      (s.start m).2.2.Agrees (t.start n).2.2 := by
  obtain ⟨c, running⟩ := s
  obtain ⟨d, other⟩ := t
  obtain ⟨rfl, rfl, hrunning⟩ := hs
  dsimp only at hrunning
  cases hrunning with
  | some hmatch => exact ⟨rfl, ⟨rfl, rfl, .some hmatch⟩, hm⟩
  | none =>
    obtain ⟨files, network, hmade, hfirst, hsecond⟩ := h.prepare hm
    have hafter : Machine.Agrees { m with files, network } { n with files, network } :=
      ⟨rfl, rfl, hm.confDirVar, hm.now, hm.handed⟩
    simp only [Server.start]
    generalize Server.prepare c m = first at hmade hfirst ⊢
    generalize Server.prepare d n = second at hmade hsecond ⊢
    obtain ⟨made, _⟩ := first
    obtain ⟨others, _⟩ := second
    dsimp only at hmade hfirst hsecond
    subst hfirst hsecond
    cases hmade with
    | error e => exact ⟨rfl, ⟨rfl, rfl, .none⟩, hafter⟩
    | ok hmatch =>
      refine ⟨rfl, ⟨rfl, rfl, .some hmatch⟩, ?_⟩
      dsimp only
      rw [h.mode]
      exact hmatch.record hafter d.mode "standalone_started"

theorem Twins.shutdown {s t : Server} (h : AlikeConfigs c d) (hs : Twins c d s t) (hm : m.Agrees n) :
    (s.shutdown m).1 = (t.shutdown n).1 ∧ Twins c d (s.shutdown m).2.1 (t.shutdown n).2.1 ∧
      (s.shutdown m).2.2.Agrees (t.shutdown n).2.2 := by
  obtain ⟨c, running⟩ := s
  obtain ⟨d, other⟩ := t
  obtain ⟨rfl, rfl, hrunning⟩ := hs
  dsimp only at hrunning
  cases hrunning with
  | none => exact ⟨rfl, ⟨rfl, rfl, .none⟩, hm⟩
  | @some r q hmatch =>
    have hrecord := hmatch.record hm d.mode "standalone_stopped"
    rw [← h.mode] at hrecord
    rw [shutdown_of_running rfl, shutdown_of_running rfl, ← h.mode]
    refine ⟨rfl, ⟨rfl, rfl, .none⟩, hrecord.files, ?_, hrecord.confDirVar, hrecord.now, hrecord.handed⟩
    show m.network.release r.port = n.network.release q.port
    rw [hm.network, hmatch.port]

theorem Twins.answer {s t : Server} (hs : Twins c d s t) (request other : Request) :
    Twins c d (s.answer request).2 (t.answer other).2 := by
  obtain ⟨c, running⟩ := s
  obtain ⟨d, others⟩ := t
  obtain ⟨rfl, rfl, hrunning⟩ := hs
  dsimp only at hrunning
  cases hrunning with
  | none => exact ⟨rfl, rfl, .none⟩
  | some hmatch => exact ⟨rfl, rfl, .some ⟨hmatch.settings, hmatch.port, hmatch.events⟩⟩

theorem Twins.perform {s t : Server} {call other : Call} (h : AlikeConfigs c d) (hs : Twins c d s t) (hm : m.Agrees n)
    (hcall : SameCall call other) :
    (s.perform m call).1 = (t.perform n other).1 ∧
      Twins c d (s.perform m call).2.1 (t.perform n other).2.1 ∧
      (s.perform m call).2.2.Agrees (t.perform n other).2.2 := by
  cases hcall with
  | start => exact hs.start h hm
  | shutdown => exact hs.shutdown h hm
  | answer request other => exact ⟨rfl, hs.answer request other, hm⟩
  | meanwhile hact =>
    have hafter := hact m n hm
    exact ⟨rfl, hs, ⟨hafter.files, hafter.network, hafter.confDirVar, hafter.now, hm.handed⟩⟩

/-! ### Whose sessions they are -/

/-- One is what has become of the other by answering requests. -/
def Served (first r : Running) : Prop :=
  ∃ requests : List Request, r = requests.foldl (fun held request => (held.answer request).2) first

theorem Served.refl (r : Running) : Served r r := ⟨[], rfl⟩

theorem Served.answer {first r : Running} (h : Served first r) (request : Request) :
    Served first (r.answer request).2 := by
  obtain ⟨requests, rfl⟩ := h
  exact ⟨requests ++ [request], by rw [List.foldl_append]; rfl⟩

theorem Served.same {first r : Running} (h : Served first r) : r = { first with realm := r.realm } := by
  obtain ⟨requests, rfl⟩ := h
  induction requests using List.reverseRecOn with
  | nil => rfl
  | append_singleton requests request ih =>
    rw [List.foldl_append]
    generalize requests.foldl (fun held request => (held.answer request).2) first = held at ih ⊢
    rw [ih]
    rfl

/-- A server that runs what was opened, with the requests since then answered, still does after one more call. -/
theorem Step.serves (x : Step) {held : Option Running} (h : Option.Rel Served held x.server.running) :
    Option.Rel Served (Step.leaves held x) x.result.2.1.running := by
  obtain ⟨s, m, call⟩ := x
  dsimp only at h
  cases call with
  | start =>
    cases hrunning : s.running with
    | some r =>
      have hresult : Step.result ⟨s, m, .start⟩ = (.error .alreadyStarted, s, m) := start_of_running hrunning m
      rw [Step.leaves, Step.opened?, hresult]
      exact h
    | none =>
      obtain ⟨e, files, hstart, -⟩ | ⟨r, files, network, hstart, -⟩ := start_cases hrunning m
      · have hresult : Step.result ⟨s, m, .start⟩ = (.error e, s, { m with files }) := hstart
        rw [Step.leaves, Step.opened?, hresult]
        exact h
      · have hresult : Step.result ⟨s, m, .start⟩ = (.ok (), ⟨s.config, some r⟩,
          r.record { m with files, network } s.config.mode "standalone_started") := hstart
        rw [Step.leaves, Step.opened?, hresult]
        exact .some (Served.refl r)
  | shutdown =>
    have hstopped : (s.shutdown m).2.1.running = none := by
      cases hrunning : s.running with
      | none => rw [shutdown_of_stopped hrunning, hrunning]
      | some r => rw [shutdown_of_running hrunning]
    show Option.Rel Served none (s.shutdown m).2.1.running
    rw [hstopped]
    exact .none
  | answer request =>
    show Option.Rel Served held (s.answer request).2.running
    rw [Server.answer]
    cases hrunning : s.running with
    | none =>
      rw [hrunning] at h
      dsimp only
      rw [hrunning]
      exact h
    | some r =>
      rw [hrunning] at h
      cases h with
      | some hserved => exact .some (hserved.answer request)
  | meanwhile act => exact h

theorem run_serves {s : Server} {held : Option Running} (h : Option.Rel Served held s.running) (m : Machine)
    (calls : List Call) :
    Option.Rel Served ((trace s m calls).foldl Step.leaves held) (run s m calls).1.running := by
  induction calls generalizing s m held with
  | nil => exact h
  | cons call rest ih => exact ih (Step.serves ⟨s, m, call⟩ h) (s.perform m call).2.2

/-- The sessions of what runs are those of the store that the start has made which opened it, changed by nothing but
the requests answered since. A request finds no route, or comes to an endpoint of the application through the
session layer, which works in the sessions it is given. -/
structure OwnSessions (config : ServerConfig) (steps : List Step) (r : Running) : Prop where
  store : ∃ first, current steps = some first ∧ Served first r ∧
    ∃ x ∈ steps, x.opened? = some first ∧ first.realm = Realm.new (Store.new SessionRef) x.machine.entropy
  layer : ∃ table, config.application.routes r.injector = .ok table ∧ ∀ request realm,
    r.outcome request realm = ⟨notFound, realm, none⟩ ∨
    ∃ written ∈ table, ∃ captures path, r.outcome request realm =
      sessionLayer r.settings.sessionCookieName (written.2 captures)
        { request with target := { request.target with path } } none realm

theorem withContextRoot_path (target : Target) (contextPath path : String) :
    { target.withContextRoot contextPath with path } = { target with path } := by
  rw [Target.withContextRoot_eq]
  split
  · rfl
  · rfl

theorem ownSessions_of_running {config : ServerConfig} {calls : List Call} {r : Running}
    (h : (run { config } m calls).1.running = some r) : OwnSessions config (trace { config } m calls) r := by
  have hnew : Option.Rel Served none ({ config } : Server).running := .none
  have hserved := run_serves hnew m calls
  rw [h] at hserved
  cases hcurrent : current (trace { config } m calls) with
  | none =>
    rw [current] at hcurrent
    rw [hcurrent] at hserved
    cases hserved
  | some first =>
    have hopen := hcurrent
    rw [current] at hopen
    rw [hopen] at hserved
    cases hserved with
    | some hserved =>
      obtain ⟨x, hx, hopened⟩ := mem_of_current hcurrent
      obtain ⟨-, files, network, hmade⟩ := madeFrom_of_opened? hopened
      rw [(obeys_of_mem_trace rfl hx).keeps] at hmade
      obtain ⟨_, router, -, -, -, -, hrouter, hhandler⟩ := hmade.parts
      refine ⟨⟨first, hcurrent, hserved, x, hx, hopened, hmade.realm⟩, ?_⟩
      obtain ⟨table, htable, hstands⟩ := standsFor_of_routerOf hrouter
      rw [hserved.same]
      refine ⟨table, htable, fun request realm => ?_⟩
      simp only [Running.outcome, hhandler, Router.handler]
      split
      · next route captures hfound =>
        obtain ⟨written, hwritten, hroute⟩ := hstands route (Router.mem_of_find? hfound)
        obtain ⟨path, hendpoint⟩ := hroute.endpoint captures
          (request.withContextRoot first.settings.contextPath)
        refine .inr ⟨written, hwritten, captures, path, ?_⟩
        rw [hendpoint, Request.withContextRoot, withContextRoot_path]
      · exact .inl rfl

/-! ### Both runs -/

/-- What can be seen of two servers that run, but for what they answer. -/
structure ShowAlike (c d : ServerConfig) (r q : Running) : Prop where
  bindAddress : r.settings.bindAddress defaultHost ((c.port.or r.settings.port).getD defaultPort) =
    q.settings.bindAddress defaultHost ((d.port.or q.settings.port).getD defaultPort)
  port : r.port = q.port
  contextPath : r.settings.contextPath = q.settings.contextPath
  serverUrl : r.serverUrl = q.serverUrl
  baseUrl : r.baseUrl = q.baseUrl
  cookieName : r.settings.sessionCookieName = q.settings.sessionCookieName
  events : ∀ name, dueEvent c name r = dueEvent d name q

theorem Matches.showAlike {r q : Running} (h : AlikeConfigs c d) (hmatch : Matches r q) : ShowAlike c d r q where
  bindAddress := by rw [h.port, hmatch.settings]
  port := hmatch.port
  contextPath := by rw [hmatch.settings]
  serverUrl := hmatch.serverUrl
  baseUrl := by rw [Running.baseUrl, Running.baseUrl, hmatch.serverUrl, hmatch.settings]
  cookieName := by rw [hmatch.settings]
  events name := by rw [dueEvent, dueEvent, h.mode, hmatch.events, hmatch.serverUrl]

/-- The same comes of a step of both: success or the same error, what runs, and what is done to the machine. -/
structure StepAlike (c d : ServerConfig) (x y : Step) : Prop where
  outcome : x.result.1 = y.result.1
  running : Option.Rel (ShowAlike c d) x.result.2.1.running y.result.2.1.running
  machine : x.result.2.2.Agrees y.result.2.2

theorem trace_alike {s t : Server} {calls others : List Call} (h : AlikeConfigs c d) (hs : Twins c d s t)
    (hm : m.Agrees n) (hcalls : List.Forall₂ SameCall calls others) :
    List.Forall₂ (StepAlike c d) (trace s m calls) (trace t n others) := by
  induction hcalls generalizing s t m n with
  | nil => exact .nil
  | @cons call other rest later hcall hrest ih =>
    obtain ⟨houtcome, hafter, hmachine⟩ := hs.perform h hm hcall
    have hstep : StepAlike c d ⟨s, m, call⟩ ⟨t, n, other⟩ :=
      ⟨houtcome, rel_mono (fun r q hmatch => hmatch.showAlike h) hafter.running, hmachine⟩
    exact .cons hstep (ih hafter hmachine)

/-- Two servers whose configurations differ in nothing but what is bound are alike at every step of their lives,
whatever is bound; and each works with the sessions of the store made at its own start. -/
theorem insulated_from_injector :
    (∀ (c d : ServerConfig) (m n : Machine) (calls others : List Call), AlikeConfigs c d → m.Agrees n →
      List.Forall₂ SameCall calls others →
      List.Forall₂ (StepAlike c d) (trace { config := c } m calls) (trace { config := d } n others)) ∧
    ∀ (config : ServerConfig) (m : Machine) (calls : List Call) (r : Running),
      (run { config } m calls).1.running = some r → OwnSessions config (trace { config } m calls) r :=
  ⟨fun _ _ _ _ _ _ h hm hcalls => trace_alike h ⟨rfl, rfl, .none⟩ hm hcalls,
    fun _ _ _ _ h => ownSessions_of_running h⟩

/-- An application that shows the mode it finds among its services, and notes it in the session. -/
def modeShown (overrideModule : Option (List (BindingStep Service))) : ServerConfig where
  application := { routes := fun injector => .ok [("/mode", fun _ => Handler.ofRoutine fun _ =>
    match injector.get? Service.modeType with
    | some ⟨_, .mode mode⟩ =>
      .perform (.put "mode" mode.token) fun _ => .respond ⟨200, [], Bytes.ofText mode.token⟩ ()
    | _ => .respond notFound ())] }
  mode := .test
  port := some 8080
  overrideModule
  overrides := ({} : Std.TreeMap String String).insert "server.host" "::1"

def countingMachine : Machine := { emptyMachine with entropy := countingEntropy }

/-- What a server has bound for the mode and for the sessions, what it answers to a first visitor, and the sessions
it then stores. -/
def firstVisit (r : Running) : Option Nat × Option Nat × Response × List SessionId :=
  let (response, after) := r.answer { method := "GET", target := Target.ofText "/mode" }
  ((r.injector.get? Service.modeType).map Instance.id, (r.injector.get? Service.sessionsType).map Instance.id,
    response, after.realm.store.order)

def modePage (token : String) : Response :=
  ⟨200, [("set-cookie", Bytes.ofText
    "TRELLIS_SESSION=AAAAAAAAAAAAAAAAAAAAAAAAAAAAAAAA; Path=/; HttpOnly; SameSite=Lax")], Bytes.ofText token⟩

theorem insulated_from_injector_modesShown :
    let others := [Service.bindAs 20 (.mode .dev), Service.bindAs 21 (.sessions (.separate (Store.new SessionRef)))]
    ∃ r q, (run { config := modeShown none } countingMachine [.start]).1.running = some r ∧
      (run { config := modeShown (some others) } countingMachine [.start]).1.running = some q ∧
      firstVisit r = (some 0, some 3, modePage "test", ["AAAAAAAAAAAAAAAAAAAAAAAAAAAAAAAA"]) ∧
      firstVisit q = (some 20, some 21, modePage "dev", ["AAAAAAAAAAAAAAAAAAAAAAAAAAAAAAAA"]) ∧
      ShowAlike (modeShown none) (modeShown (some others)) r q ∧
      OwnSessions (modeShown none) (trace { config := modeShown none } countingMachine [.start]) r ∧
      OwnSessions (modeShown (some others))
        (trace { config := modeShown (some others) } countingMachine [.start]) q := by
  intro others
  have hfirst : (run { config := modeShown none } countingMachine [.start]).1.running.map firstVisit =
      some (some 0, some 3, modePage "test", ["AAAAAAAAAAAAAAAAAAAAAAAAAAAAAAAA"]) := by decide +kernel
  have hsecond : (run { config := modeShown (some others) } countingMachine [.start]).1.running.map firstVisit =
      some (some 20, some 21, modePage "dev", ["AAAAAAAAAAAAAAAAAAAAAAAAAAAAAAAA"]) := by decide +kernel
  obtain ⟨r, hr, hvisit⟩ := Option.map_eq_some_iff.mp hfirst
  obtain ⟨q, hq, hother⟩ := Option.map_eq_some_iff.mp hsecond
  have halike : AlikeConfigs (modeShown none) (modeShown (some others)) :=
    ⟨rfl, rfl, rfl, rfl, fun _ => .ok trivial, fun _ _ _ _ _ _ => .ok rfl⟩
  have hsteps := insulated_from_injector.1 _ _ countingMachine countingMachine [.start] [.start] halike
    ⟨rfl, rfl, rfl, rfl, rfl⟩ (.cons .start .nil)
  have hshown : ShowAlike (modeShown none) (modeShown (some others)) r q := by
    cases hsteps with
    | cons hstep _ =>
      have hrunning : Option.Rel _ (run { config := modeShown none } countingMachine [.start]).1.running
        (run { config := modeShown (some others) } countingMachine [.start]).1.running := hstep.running
      rw [hr, hq] at hrunning
      cases hrunning with
      | some hshown => exact hshown
  exact ⟨r, q, hr, hq, hvisit, hother, hshown, insulated_from_injector.2 _ _ _ r hr,
    insulated_from_injector.2 _ _ _ q hq⟩

end Server

end AppServer
