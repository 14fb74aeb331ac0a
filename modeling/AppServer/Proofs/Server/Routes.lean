import AppServer.Proofs.Except
import AppServer.Server.Basic

/-!
# Routes of a server

A server answers a request by the endpoint of a route that the request's path
matches. Each of its routes stands for one of the application: it lies below the
context path, and its endpoint is that of the application in the session layer.
-/

namespace AppServer

open Http

/-! ### Routers -/

theorem mem_of_foldl_choice {α : Type} {choose : Option α → α → Option α}
    (hchoose : ∀ held next, choose held next = held ∨ choose held next = some next) {found : List α}
    {best : Option α} {chosen : α} (h : found.foldl choose best = some chosen) :
    best = some chosen ∨ chosen ∈ found := by
  induction found generalizing best with
  | nil => exact .inl h
  | cons next rest ih =>
    rcases ih h with hnow | hlater
    · rcases hchoose best next with hsame | hnext
      · rw [hsame] at hnow
        exact .inl hnow
      · rw [hnext, Option.some.injEq] at hnow
        rw [hnow]
        exact .inr List.mem_cons_self
    · exact .inr (List.mem_cons_of_mem _ hlater)

namespace Http.Router

variable {router : Router ν}

theorem mem_of_find? {path : String} {route : Route ν} {captures : Captures}
    (h : router.find? path = some (route, captures)) : route ∈ router.routes := by
  refine (mem_of_foldl_choice (fun held next => ?_) h).elim (fun hnone => ?_) fun hmem => ?_
  · cases held with
    | none => exact .inr rfl
    | some held =>
      dsimp only
      split
      · exact .inr rfl
      · exact .inl rfl
  · cases hnone
  · obtain ⟨found, hfound, hmatch⟩ := List.mem_filterMap.mp hmem
    obtain ⟨held, -, heq⟩ := Option.map_eq_some_iff.mp hmatch
    cases heq
    exact hfound

theorem mem_routes_of_ofList? {table : List (String × Endpoint ν)} (h : ofList? table = some router)
    {route : Route ν} (hroute : route ∈ router.routes) : (route.path, route.endpoint) ∈ table := by
  obtain ⟨routes, hroutes, rfl⟩ := Option.map_eq_some_iff.mp h
  obtain ⟨written, hwritten, hmade⟩ := (mem_of_mapM hroutes).2 route hroute
  obtain ⟨pieces, -, rfl⟩ := Option.map_eq_some_iff.mp hmade
  exact hwritten

end Http.Router

/-! ### Servers -/

/-- The path of an application's route below a context path. -/
def placedPath (contextPath path : String) : String :=
  if contextPath = "" then path else Router.nestedPath contextPath path

theorem placedPath_injective {contextPath path other : String} (hpath : path ≠ "") (hother : other ≠ "")
    (h : placedPath contextPath path = placedPath contextPath other) : path = other := by
  have hnested {inner : String} (hinner : inner ≠ "") : contextPath ++ inner ≠ contextPath := by
    intro heq
    have hlength := congrArg String.length heq
    rw [String.length_append] at hlength
    exact hinner (String.length_eq_zero_iff.mp (by omega))
  rw [placedPath, placedPath] at h
  split at h
  · exact h
  · rw [Router.nestedPath, Router.nestedPath] at h
    split at h <;> split at h
    · next hpath hother => rw [hpath, hother]
    · exact absurd h.symm (hnested hother)
    · exact absurd h (hnested hpath)
    · exact String.append_right_inj contextPath |>.mp h

structure StandsFor (contextPath name : String) (route : Route Unit) (written : String × Endpoint Unit) : Prop where
  path : route.path = placedPath contextPath written.1
  endpoint : ∀ captures request, ∃ path : String, ∀ context realm,
    route.endpoint captures request context realm =
      sessionLayer name (written.2 captures) { request with target := { request.target with path } } context realm

theorem standsFor_of_layer {table : RouteTable} {name : String} {router : Router Unit}
    (h : (Router.ofList? table).map (·.layer (sessionLayer name)) = some router) {route : Route Unit}
    (hroute : route ∈ router.routes) : ∃ written ∈ table, StandsFor "" name route written := by
  obtain ⟨plain, hplain, rfl⟩ := Option.map_eq_some_iff.mp h
  obtain ⟨bare, hbare, rfl⟩ := List.mem_map.mp hroute
  refine ⟨(bare.path, bare.endpoint), Router.mem_routes_of_ofList? hplain hbare, rfl, ?_⟩
  exact fun captures request => ⟨request.target.path, fun context realm => rfl⟩

theorem standsFor_of_nest? {table : RouteTable} {contextPath name : String} (hpath : contextPath ≠ "")
    {layered router : Router Unit} (hlayered : (Router.ofList? table).map (·.layer (sessionLayer name)) = some layered)
    (h : layered.nest? contextPath = some router) {route : Route Unit} (hroute : route ∈ router.routes) :
    ∃ written ∈ table, StandsFor contextPath name route written := by
  rw [Router.nest?] at h
  split at h
  · cases h
  · obtain ⟨inner, hinner, heq⟩ := List.mem_map.mp (Router.mem_routes_of_ofList? h hroute)
    obtain ⟨written, hwritten, hstands⟩ := standsFor_of_layer hlayered hinner
    obtain ⟨hplaced, hendpoint⟩ := Prod.mk.inj heq
    refine ⟨written, hwritten, ?_, fun captures request => ?_⟩
    · rw [← hplaced, hstands.path, placedPath, placedPath, if_pos rfl, if_neg hpath]
    · obtain ⟨path, hserved⟩ := hstands.endpoint captures
        { request with target := { request.target with path := Router.restBelow contextPath request.target.path } }
      refine ⟨path, fun context realm => ?_⟩
      exact (congrFun (congrFun (congrFun (congrFun hendpoint captures) request) context) realm).symm.trans
        (hserved context realm)

theorem Server.standsFor_of_routerOf {config : ServerConfig} {settings : ServerSettings} {injector : Injector Service}
    {router : Router Unit} (h : Server.routerOf config settings injector = .ok router) :
    ∃ table, config.application.routes injector = .ok table ∧ ∀ route ∈ router.routes, ∃ written ∈ table,
      StandsFor settings.contextPath settings.sessionCookieName route written := by
  rw [routerOf] at h
  split at h
  · next table htable =>
    refine ⟨table, htable, fun route hroute => ?_⟩
    dsimp only [bind, Except.bind] at h
    split at h
    · next nested hnested =>
      cases h
      split at hnested
      · next hpath =>
        rw [hpath]
        exact standsFor_of_layer hnested hroute
      · next hpath =>
        obtain ⟨layered, hlayered, hnest⟩ := Option.bind_eq_some_iff.mp hnested
        exact standsFor_of_nest? hpath hlayered hnest hroute
    · cases h
  · cases h

/-- A target leads a running server to the route of its application that has a path. -/
def Running.LeadsTo (r : Running) (config : ServerConfig) (target : Target) (path : String) : Prop :=
  ∃ router route captures, Server.routerOf config r.settings r.injector = .ok router ∧
    router.find? (target.withContextRoot r.settings.contextPath).path = some (route, captures) ∧
    route.path = placedPath r.settings.contextPath path

end AppServer
