import Mathlib
import AppServer.Proofs.Http.ContextRoot
import AppServer.Proofs.Http.Nesting
import AppServer.Proofs.Server.Routes
import AppServer.Proofs.Server.Start
import AppServer.Proofs.Url.Below

/-!
# Below a context path

A context path that URLs and routes read as it is written makes no difference to
an application: what is asked for below the base of the server arrives where it
would without the context path, and elsewhere nothing is found. An endpoint can
tell the two apart only if two slashes follow the base, of which it then sees one.
Other context paths are accepted too, and below some of them no routes can be made.
-/

namespace AppServer

open Http Url

/-- A context path that URLs and routes read as it is written: its characters are neither escaped in a URL nor
marks of a capture, and none of its parts is a step to elsewhere. -/
structure Servable (contextPath : String) : Prop where
  kept : ∀ c ∈ contextPath.toList, IsKept c
  marks : (Text.cutAll '/' contextPath.toList).any isOldCapture = false
  steps : (Text.cutAll '/' contextPath.toList).any isStep = false

instance (contextPath : String) : Decidable (Servable contextPath) :=
  decidable_of_iff (contextPath.toList.all (fun c => decide (IsKept c)) = true ∧
      (Text.cutAll '/' contextPath.toList).any isOldCapture = false ∧
      (Text.cutAll '/' contextPath.toList).any isStep = false)
    ⟨fun h => ⟨fun c hc => of_decide_eq_true (List.all_eq_true.mp h.1 c hc), h.2.1, h.2.2⟩,
      fun h => ⟨List.all_eq_true.mpr fun c hc => decide_eq_true (h.kept c hc), h.marks, h.steps⟩⟩

namespace Servable

variable {contextPath : String}

theorem isLiteral (h : Servable contextPath) (hslash : contextPath.toList.head? = some '/') :
    IsLiteral contextPath.toList := by
  obtain ⟨rest, hrest⟩ : ∃ rest, contextPath.toList = '/' :: rest := List.head?_eq_some_iff.mp hslash
  have hmarks := h.marks
  rw [hrest, Text.cutAll, if_pos rfl, List.any_cons, Bool.or_eq_false_iff] at hmarks
  have hescape {c : Char} (hc : c ∈ pathEscapes) : c ∉ contextPath.toList := fun hmem => (h.kept c hmem).2.2.1 hc
  exact ⟨isRoutePath_iff.mpr ⟨rest, hrest, hmarks.2⟩, hescape (by decide), hescape (by decide)⟩

theorem isPlainPath (h : Servable contextPath) (hslash : contextPath.toList.head? = some '/') :
    IsPlainPath contextPath.toList := ⟨hslash, h.kept, h.steps⟩

theorem visible (h : Servable contextPath) : ∀ c ∈ contextPath.toList, 32 < c.toNat := fun c hc => (h.kept c hc).1

end Servable

/-! ### Routes -/

namespace Http.Router

variable {ν : Type}

/-- The router below a context path; without one it stays as it is. -/
def placed (contextPath : String) (router : Router ν) : Router ν :=
  if contextPath = "" then router else router.below contextPath

/-- The path that an endpoint sees of a request for a path below a context path. -/
def seenPath (contextPath plain : String) : String := if contextPath = "" then plain else handedOn plain

variable {own : Router ν} {contextPath plain path : String}

/-- The path that a request below the base is left with is that of the routes below the context path. -/
theorem withContextRoot_of_liesBelow (h : LiesBelow contextPath plain path) {query : Option String}
    (huri : (⟨none, path, query⟩ : Target).IsUri) :
    (⟨none, path, query⟩ : Target).withContextRoot contextPath = ⟨none, placedPath contextPath plain, query⟩ := by
  rw [Target.withContextRoot_eq, placedPath]
  dsimp only
  by_cases hempty : contextPath = ""
  · have hsame : path = plain := by
      rcases h with h | ⟨hne, -⟩
      · rw [h, hempty, String.empty_append]
      · exact absurd hempty hne
    rw [if_neg (fun hne => hne.2.1 hempty), if_pos hempty, hsame]
  · rw [if_neg hempty, nestedPath]
    rcases h with rfl | ⟨-, rfl, rfl⟩
    · by_cases hroot : plain = "/"
      · rw [hroot] at huri ⊢
        rw [if_pos ⟨huri, hempty, rfl⟩, if_pos rfl]
      · rw [if_neg (fun hsame => hroot (String.append_right_inj contextPath |>.mp hsame.2.2)), if_neg hroot]
    · have hlonger : path ≠ path ++ "/" := by
        intro heq
        have hlength := congrArg String.length heq
        rw [String.length_append] at hlength
        have hone : "/".length = 1 := rfl
        omega
      rw [if_neg (fun hsame => hlonger hsame.2.2), if_pos rfl]

/-- A request below the context path is answered by the endpoint that the routes themselves have for its path. -/
theorem handler_placed (hown : own.IsRead) (h : LiesBelow contextPath plain path) {rest : List Char}
    (hplain : plain.toList = '/' :: rest) (request : Request) {query : Option String}
    (huri : (⟨none, path, query⟩ : Target).IsUri) (realm : Realm) :
    (own.placed contextPath).handler
        { request with target := (⟨none, path, query⟩ : Target).withContextRoot contextPath } none realm =
      match own.find? plain with
      | some (route, captures) =>
        route.endpoint captures { request with target := ⟨none, seenPath contextPath plain, query⟩ } none realm
      | none => ⟨notFound, realm, none⟩ := by
  rw [withContextRoot_of_liesBelow h huri, placed, placedPath, seenPath]
  split
  · rfl
  · exact @handler_below ν contextPath own hown { request with target := ⟨none, plain, query⟩ } rest hplain none realm

theorem handler_outside (hown : own.IsRead) {request : Request} (hhere : request.target.path ≠ contextPath)
    (hbehind : ∀ rest, request.target.path.toList ≠ contextPath.toList ++ '/' :: rest) (realm : Realm) :
    (own.placed contextPath).handler { request with target := request.target.withContextRoot contextPath } none realm =
      ⟨notFound, realm, none⟩ := by
  have hkept : request.target.withContextRoot contextPath = request.target := by
    refine Target.withContextRoot_of_not_root ?_
    rintro ⟨-, hslash⟩
    exact hbehind [] (by rw [hslash, String.toList_append]; rfl)
  have hnone : (own.placed contextPath).find? request.target.path = none := by
    rw [placed]
    split
    · next hempty =>
      rw [hempty] at hbehind
      exact find?_eq_none_of_ne_slash hown hbehind
    · exact find?_below_eq_none hown hhere hbehind
  simp only [handler, hkept, hnone]

end Http.Router

/-! ### Servers -/

namespace Server

/-- The session layer reads the headers of a request; all else is for the handler that it wraps. -/
theorem sessionLayer_congr {ν : Type} (name : String) (inner : Handler ν) {request asked : Request}
    (h : inner request = inner asked) (hheaders : request.headers = asked.headers) :
    sessionLayer name inner request = sessionLayer name inner asked := by
  funext context realm
  have hpresented : presented? name request realm = presented? name asked realm := by
    rw [presented?, presented?, hheaders]
  rw [sessionLayer, sessionLayer, hpresented, h]

/-- What a configuration offers on a machine: the routes of its application by themselves, and the settings they
are served with. -/
structure Offers (config : ServerConfig) (m : Machine) (settings : ServerSettings) (own : Router Unit) : Prop where
  read : ∃ properties injector table, loadProperties config m = .ok properties ∧
    ServerSettings.ofProperties properties = .ok settings ∧ injectorOf config properties settings = .ok injector ∧
    config.application.routes injector = .ok table ∧ Router.ofList? table = some own

def placedRouter (settings : ServerSettings) (own : Router Unit) : Router Unit :=
  (own.layer (sessionLayer settings.sessionCookieName)).placed settings.contextPath

variable {config : ServerConfig} {m : Machine} {settings : ServerSettings} {own : Router Unit}

theorem routerOf_servable {injector : Injector Service} {table : RouteTable}
    (htable : config.application.routes injector = .ok table) (hown : Router.ofList? table = some own)
    (hslash : settings.contextPath = "" ∨ settings.contextPath.toList.head? = some '/')
    (hservable : Servable settings.contextPath) :
    routerOf config settings injector = .ok (placedRouter settings own) := by
  have hlayer : ((Router.ofList? table).map (·.layer (sessionLayer settings.sessionCookieName))) =
      some (own.layer (sessionLayer settings.sessionCookieName)) := by rw [hown, Option.map_some]
  rw [routerOf, htable]
  dsimp only [bind, Except.bind]
  rw [hlayer, placedRouter, Router.placed]
  by_cases hempty : settings.contextPath = ""
  · rw [if_pos hempty, if_pos hempty]
  · have hliteral := hservable.isLiteral (hslash.resolve_left hempty)
    have hread := (Router.isRead_of_ofList? hown).layer (sessionLayer settings.sessionCookieName)
    rw [if_neg hempty, if_neg hempty, Option.bind_some, Router.nest?_literal hread hliteral]

theorem Offers.ne_unroutable (h : Offers config m settings own) (hservable : Servable settings.contextPath)
    (path : String) : (start { config } m).1 ≠ .error (.unroutable path) := by
  obtain ⟨properties, injector, table, hload, hsettings, hinjector, htable, hown⟩ := h.read
  obtain ⟨-, -, hpath, -⟩ := ServerSettings.ofProperties_eq_ok_iff.mp hsettings
  have hrouter := routerOf_servable htable hown (ServerSettings.normalizeContextPath_eq_ok hpath) hservable
  intro hstart
  cases hsink : EventSink.ofProperties m.files properties with
  | error e =>
    simp only [start, prepare, hload, hsettings, hsink, bind, Except.bind] at hstart
    cases hstart
  | ok sink =>
    cases htaken :
        m.network.bind (settings.host.getD defaultHost) ((config.port.or settings.port).getD defaultPort) with
    | error e =>
      simp only [start, prepare, hload, hsettings, hsink, handlerOf, hinjector, hrouter, takePort, htaken, bind,
        Except.bind] at hstart
      cases hstart
    | ok taken =>
      simp only [start, prepare, hload, hsettings, hsink, handlerOf, hinjector, hrouter, takePort, htaken, bind,
        Except.bind] at hstart
      cases hstart

theorem Offers.running (h : Offers config m settings own) (hservable : Servable settings.contextPath)
    {r : Running} {after : Machine} (hstart : start { config } m = (.ok (), ⟨config, some r⟩, after)) :
    r.settings = settings ∧ r.handler = (placedRouter settings own).handler := by
  obtain ⟨properties, injector, table, hload, hsettings, hinjector, htable, hown⟩ := h.read
  obtain ⟨-, -, hpath, -⟩ := ServerSettings.ofProperties_eq_ok_iff.mp hsettings
  have hrouter := routerOf_servable htable hown (ServerSettings.normalizeContextPath_eq_ok hpath) hservable
  obtain ⟨files, network, hmade⟩ := madeFrom_of_start hstart
  obtain ⟨held, router, hagain, hheld, -, hservices, hroutes, hhandler⟩ := hmade.parts
  cases hload.symm.trans hagain
  have hsame : r.settings = settings := Except.ok.inj (hheld.symm.trans hsettings)
  rw [hsame] at hservices hroutes
  cases hinjector.symm.trans hservices
  cases hrouter.symm.trans hroutes
  exact ⟨hsame, hhandler⟩

end Server

/-- What stands behind the base is read as it would be behind the address of the server, and only the path of the
URL differs, which lies below the context path. -/
theorem Running.StartedFrom.parse_below {r : Running} {config : ServerConfig} {m : Machine}
    (h : r.StartedFrom config m) (hservable : Servable r.settings.contextPath) {tail : String}
    (htail : StartsBehind tail.toList) (hstays : StaysBelow tail.toList) {v : Url}
    (hparse : Url.parse (r.serverUrl ++ tail) = .ok v) :
    ∃ path, Url.parse (r.baseUrl ++ tail) = .ok { v with path } ∧ LiesBelow r.settings.contextPath v.path path := by
  rw [h.parse_serverUrl htail] at hparse
  rw [h.parse_eq htail]
  cases hhost : readHost true (placeOf r.settings.advertisedHost) with
  | error e =>
    rw [hhost] at hparse
    cases hparse
  | ok host =>
    rw [hhost, Except.bind] at hparse
    rw [Except.bind]
    split at hparse
    · cases hparse
    · next hport =>
      cases hparse
      rw [if_neg hport]
      by_cases hempty : r.settings.contextPath = ""
      · rw [hempty, String.empty_append]
        exact ⟨_, rfl, .inl (String.empty_append).symm⟩
      · obtain ⟨properties, hsettings, -⟩ := h.settings
        obtain ⟨-, -, hpath, -⟩ := ServerSettings.ofProperties_eq_ok_iff.mp hsettings
        have hplain := hservable.isPlainPath ((ServerSettings.normalizeContextPath_eq_ok hpath).resolve_left hempty)
        obtain ⟨path, hread, hbelow⟩ := ofPlace_append hplain host r.port (startsBehind_tidy htail) hstays
        refine ⟨path, ?_, hbelow⟩
        rw [String.toList_append, tidy_append hservable.visible, hread]

theorem Running.StartedFrom.path_eq_readPath {r : Running} {config : ServerConfig} {m : Machine}
    (h : r.StartedFrom config m) {tail : String} (htail : StartsBehind tail.toList) {v : Url}
    (hparse : Url.parse (r.serverUrl ++ tail) = .ok v) :
    v.path = readPath true ((tidy tail.toList).takeWhile fun c => c ≠ '?' ∧ c ≠ '#') := by
  rw [h.parse_serverUrl htail] at hparse
  cases hhost : readHost true (placeOf r.settings.advertisedHost) with
  | error e =>
    rw [hhost] at hparse
    cases hparse
  | ok host =>
    rw [hhost, Except.bind] at hparse
    split at hparse
    · cases hparse
    · cases hparse
      rfl

theorem Running.StartedFrom.isUri {r : Running} {config : ServerConfig} {m : Machine} (h : r.StartedFrom config m)
    {tail : String} (htail : StartsBehind tail.toList) {u : Url} (hparse : Url.parse (r.baseUrl ++ tail) = .ok u) :
    (⟨none, u.path, u.query⟩ : Target).IsUri := by
  rw [h.parse_eq htail] at hparse
  cases hhost : readHost true (placeOf r.settings.advertisedHost) with
  | error e =>
    rw [hhost] at hparse
    cases hparse
  | ok host =>
    rw [hhost, Except.bind] at hparse
    split at hparse
    · cases hparse
    · cases hparse
      exact isUri_ofPlace host r.port _

namespace Server

variable {config : ServerConfig} {m : Machine} {settings : ServerSettings} {own : Router Unit}

/-- A servable context path makes no difference: the server does not fail to start for it, a request for elsewhere is
not found, and a text behind the base is a URL exactly as it is behind the address of the server, from which a request
gets to the endpoint of the application's own routes that has its path, with its captures and its query. Of two slashes
behind the base the endpoint sees one; if that makes no difference to it, all is just as on a server of these routes
without a context path. -/
theorem served_below_context_path (hoffers : Offers config m settings own)
    (hservable : Servable settings.contextPath) :
    (∀ path, (start { config } m).1 ≠ .error (.unroutable path)) ∧
    ∀ r after, start { config } m = (.ok (), ⟨config, some r⟩, after) →
      (∀ (request : Request) (realm : Realm), request.target.path ≠ settings.contextPath →
        (∀ rest, request.target.path.toList ≠ settings.contextPath.toList ++ '/' :: rest) →
        r.outcome request realm = ⟨notFound, realm, none⟩) ∧
      ∀ tail, StartsBehind tail.toList → StaysBelow tail.toList → ∀ v, Url.parse (r.serverUrl ++ tail) = .ok v →
        (tail = "" ∨ tail = "/" → v.path = "/") ∧
        ∃ path, Url.parse (r.baseUrl ++ tail) = .ok { v with path } ∧ ∀ (request : Request) (realm : Realm),
          let seen := { request with target := ⟨none, Router.seenPath settings.contextPath v.path, v.query⟩ }
          (∀ route captures, own.find? v.path = some (route, captures) →
            r.outcome { request with target := ⟨none, path, v.query⟩ } realm =
              sessionLayer settings.sessionCookieName (route.endpoint captures) seen none realm) ∧
          ∀ bare n plain p more, Offers bare n plain own → plain.contextPath = "" →
            plain.sessionCookieName = settings.sessionCookieName →
            start { config := bare } n = (.ok (), ⟨bare, some p⟩, more) →
            (∀ route captures, own.find? v.path = some (route, captures) →
              route.endpoint captures seen =
                route.endpoint captures { request with target := ⟨none, v.path, v.query⟩ }) →
            r.outcome { request with target := ⟨none, path, v.query⟩ } realm =
              p.outcome { request with target := ⟨none, v.path, v.query⟩ } realm := by
  refine ⟨hoffers.ne_unroutable hservable, fun r after hstart => ?_⟩
  obtain ⟨hsettings, hhandler⟩ := hoffers.running hservable hstart
  have hstarted := startedFrom hstart
  have hown : (own.layer (sessionLayer settings.sessionCookieName)).IsRead := by
    obtain ⟨_, _, _, -, -, -, -, hread⟩ := hoffers.read
    exact (Router.isRead_of_ofList? hread).layer _
  refine ⟨fun request realm hhere hbehind => ?_, fun tail htail hstays v hparse => ⟨?_, ?_⟩⟩
  · rw [Running.outcome, hhandler, hsettings]
    exact Router.handler_outside hown hhere hbehind realm
  · rw [hstarted.path_eq_readPath htail hparse]
    rintro (rfl | rfl) <;> rfl
  · obtain ⟨path, hbelow, hlies⟩ := hstarted.parse_below (hsettings ▸ hservable) htail hstays hparse
    obtain ⟨rest, hplain⟩ := startsWithSlash_readPath ((tidy tail.toList).takeWhile fun c => c ≠ '?' ∧ c ≠ '#')
    rw [← hstarted.path_eq_readPath htail hparse] at hplain
    refine ⟨path, hbelow, fun request realm => ?_⟩
    have houtcome : r.outcome { request with target := ⟨none, path, v.query⟩ } realm =
        (placedRouter settings own).handler
          { request with target := (⟨none, path, v.query⟩ : Target).withContextRoot settings.contextPath }
          none realm := by
      rw [Running.outcome, hhandler, hsettings]
      rfl
    rw [placedRouter, Router.handler_placed hown (hsettings ▸ hlies) hplain request (hstarted.isUri htail hbelow),
      Router.find?_layer_eq] at houtcome
    refine ⟨fun route captures hfind => ?_, ?_⟩
    · rw [hfind] at houtcome
      exact houtcome
    · intro bare n plain p more hbare hroot hname hrunning hoverlooks
      -- without a context path the own routes stay where they are, whatever else serves them
      have hempty : Servable plain.contextPath := by
        rw [hroot]
        exact ⟨fun c hc => absurd hc List.not_mem_nil, rfl, rfl⟩
      obtain ⟨hheld, hanswers⟩ := hbare.running hempty hrunning
      rw [houtcome, Running.outcome, hanswers, hheld, placedRouter, Router.placed, hroot, if_pos rfl, hname,
        Request.withContextRoot, Target.withContextRoot_empty, Router.handler, Router.find?_layer_eq]
      cases hfind : own.find? v.path with
      | none => rfl
      | some found =>
        have hsame := sessionLayer_congr settings.sessionCookieName (found.1.endpoint found.2)
          (hoverlooks found.1 found.2 hfind) rfl
        exact congrFun (congrFun hsame none) realm

def pages : RouteTable :=
  [("/", fun _ _ _ realm => ⟨Response.ofText 200 "root", realm, none⟩),
    ("/{name}", fun captures _ _ realm => ⟨Response.ofText 200 ((captures.lookup "name").getD ""), realm, none⟩)]

def pagesBelow (contextPath : String) : ServerConfig where
  application := { routes := fun _ => .ok pages }
  mode := .test
  port := some 8080
  overrides := (({} : Std.TreeMap String String).insert "server.host" "::1").insert "server.context_path" contextPath

def settingsRead? (config : ServerConfig) : Option (Option String × String) :=
  (loadProperties config emptyMachine).toOption.bind fun properties =>
    (ServerSettings.ofProperties properties).toOption.bind fun settings =>
      (EventSink.ofProperties {} properties).toOption.map fun _ => (settings.host, settings.contextPath)

theorem exists_of_settingsRead? {config : ServerConfig} {host : Option String} {contextPath : String}
    (h : settingsRead? config = some (host, contextPath)) :
    ∃ properties settings sink, loadProperties config emptyMachine = .ok properties ∧
      ServerSettings.ofProperties properties = .ok settings ∧ EventSink.ofProperties {} properties = .ok sink ∧
      settings.host = host ∧ settings.contextPath = contextPath := by
  obtain ⟨properties, hload, h⟩ := Option.bind_eq_some_iff.mp h
  obtain ⟨settings, hsettings, h⟩ := Option.bind_eq_some_iff.mp h
  obtain ⟨sink, hsink, h⟩ := Option.map_eq_some_iff.mp h
  obtain ⟨hhost, hpath⟩ := Prod.mk.inj h
  exact ⟨properties, settings, sink, ok_of_toOption hload, ok_of_toOption hsettings, ok_of_toOption hsink, hhost, hpath⟩

theorem starts_pagesBelow_shop : ∃ settings own r after,
    Offers (pagesBelow "/shop") emptyMachine settings own ∧ Servable settings.contextPath ∧
    start { config := pagesBelow "/shop" } emptyMachine = (.ok (), ⟨pagesBelow "/shop", some r⟩, after) ∧
    Router.ofList? pages = some own ∧ r.serverUrl = "http://[::1]:8080" := by
  have hread : settingsRead? (pagesBelow "/shop") = some (some "::1", "/shop") := by decide +kernel
  obtain ⟨properties, settings, sink, hload, hsettings, hsink, hhost, hpath⟩ := exists_of_settingsRead? hread
  obtain ⟨own, hown⟩ : ∃ own, Router.ofList? pages = some own := ⟨_, rfl⟩
  obtain ⟨injector, hinjector⟩ : ∃ injector, injectorOf (pagesBelow "/shop") properties settings = .ok injector :=
    ⟨_, rfl⟩
  have hoffers : Offers (pagesBelow "/shop") emptyMachine settings own :=
    ⟨properties, injector, pages, hload, hsettings, hinjector, rfl, hown⟩
  have hservable : Servable settings.contextPath := by
    rw [hpath]
    decide +kernel
  have hslash : settings.contextPath.toList.head? = some '/' := by
    rw [hpath]
    decide
  have hrouter : routerOf (pagesBelow "/shop") settings injector = .ok (placedRouter settings own) :=
    routerOf_servable rfl hown (.inr hslash) hservable
  have htaken : takePort (pagesBelow "/shop") settings emptyMachine.network =
      .ok (8080, { nextFree := 49152, taken := [8080] }) := by
    have hbind : emptyMachine.network.bind "::1" 8080 = .ok (8080, { nextFree := 49152, taken := [8080] }) := by
      decide +kernel
    have hport : ((pagesBelow "/shop").port.or settings.port).getD defaultPort = 8080 := rfl
    simp only [takePort, hport, hhost, Option.getD_some, hbind]
  obtain ⟨r, after, hstart, hkept, hheld, -⟩ := start_of_parts hload hsettings hsink hinjector hrouter htaken
  refine ⟨settings, own, r, after, hoffers, hservable, hstart, hown, ?_⟩
  have hadvertised : settings.advertisedHost = "::1" := by
    rw [ServerSettings.advertisedHost, hhost]
    rfl
  rw [Running.serverUrl, ServerSettings.advertisedAuthority, hkept, hheld, hadvertised]
  decide +kernel

theorem served_below_context_path_shop : ∃ settings own r after v path,
    Offers (pagesBelow "/shop") emptyMachine settings own ∧ Servable settings.contextPath ∧
    start { config := pagesBelow "/shop" } emptyMachine = (.ok (), ⟨pagesBelow "/shop", some r⟩, after) ∧
    Url.parse (r.serverUrl ++ "/tea?hot") = .ok v ∧ Url.parse (r.baseUrl ++ "/tea?hot") = .ok { v with path } ∧
    ∃ route, own.find? v.path = some (route, [("name", "tea")]) ∧ ∀ (request : Request) (realm : Realm),
      r.outcome { request with target := ⟨none, path, v.query⟩ } realm =
        sessionLayer settings.sessionCookieName (route.endpoint [("name", "tea")])
          { request with target := ⟨none, v.path, v.query⟩ } none realm := by
  obtain ⟨settings, own, r, after, hoffers, hservable, hstart, hown, hserver⟩ := starts_pagesBelow_shop
  have hfind : ((own.find? "/tea").map fun found => found.2) = some [("name", "tea")] := by
    obtain ⟨known, hknown, hfind⟩ : ∃ known, Router.ofList? pages = some known ∧
        ((known.find? "/tea").map fun found => found.2) = some [("name", "tea")] := by
      refine ⟨_, rfl, ?_⟩
      cbv
    cases hknown.symm.trans hown
    exact hfind
  obtain ⟨v, hparse, hplace⟩ : ∃ v, Url.parse "http://[::1]:8080/tea?hot" = .ok v ∧ v.path = "/tea" := by
    have hurl : (Url.parse "http://[::1]:8080/tea?hot").toOption.map Url.path = some "/tea" := by decide +kernel
    obtain ⟨v, hv, hpath⟩ := Option.map_eq_some_iff.mp hurl
    exact ⟨v, ok_of_toOption hv, hpath⟩
  have hbehind : StartsBehind "/tea?hot".toList := fun c hc => .inl (Option.some.inj hc).symm
  have hstays : StaysBelow "/tea?hot".toList := by
    rw [StaysBelow]
    decide +kernel
  have hv : Url.parse (r.serverUrl ++ "/tea?hot") = .ok v := by
    rw [hserver]
    exact hparse
  obtain ⟨-, hserved⟩ := served_below_context_path hoffers hservable
  obtain ⟨-, path, hbelow, hanswers⟩ := (hserved r after hstart).2 "/tea?hot" hbehind hstays v hv
  obtain ⟨⟨route, captures⟩, hfound, hcaptures⟩ := Option.map_eq_some_iff.mp hfind
  cases hcaptures
  rw [← hplace] at hfound
  have hseen : Router.seenPath settings.contextPath v.path = v.path := by
    rw [Router.seenPath, hplace]
    split <;> decide
  rw [hseen] at hanswers
  exact ⟨settings, own, r, after, v, path, hoffers, hservable, hstart, hv, hbelow, route, hfound,
    fun request realm => (hanswers request realm).1 route _ hfound⟩

/-- A context path with a brace is accepted, and the server does not start with it. -/
theorem brace_unroutable :
    (∃ properties settings, loadProperties (pagesBelow "/\x7b") emptyMachine = .ok properties ∧
      ServerSettings.ofProperties properties = .ok settings ∧ settings.contextPath = "/\x7b") ∧
    (start { config := pagesBelow "/\x7b" } emptyMachine).1 = .error (.unroutable "/\x7b") := by
  have hread : settingsRead? (pagesBelow "/\x7b") = some (some "::1", "/\x7b") := by decide +kernel
  obtain ⟨properties, settings, sink, hload, hsettings, hsink, -, hpath⟩ := exists_of_settingsRead? hread
  obtain ⟨injector, hinjector⟩ : ∃ injector, injectorOf (pagesBelow "/\x7b") properties settings = .ok injector :=
    ⟨_, rfl⟩
  have hnest (name : String) : (((Router.ofList? pages).map (·.layer (sessionLayer name))).bind
      (·.nest? "/\x7b")).isNone = true := by
    cbv
  have hrouter : routerOf (pagesBelow "/\x7b") settings injector = .error (.unroutable "/\x7b") := by
    have hroutes : (pagesBelow "/\x7b").application.routes injector = .ok pages := rfl
    have hnone := Option.isNone_iff_eq_none.mp (hnest settings.sessionCookieName)
    have hne : ("/\x7b" : String) ≠ "" := by decide
    simp only [routerOf, hroutes, hpath, if_neg hne, bind, Except.bind, hnone]
  refine ⟨⟨properties, settings, hload, hsettings, hpath⟩, ?_⟩
  have hfiles : emptyMachine.files = {} := rfl
  simp only [start, prepare, hload, hsettings, hfiles, hsink, hinjector, handlerOf, hrouter, bind, Except.bind]

end Server

end AppServer
