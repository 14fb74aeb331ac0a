import AppServer.Proofs.Config.Settings
import AppServer.Proofs.Network
import AppServer.Proofs.Server.Lifecycle

/-!
# Servers that have started

A server that has started runs with accepted settings, on a host that the machine
knows, with an empty store of sessions. Its base is such that every URL below it
has the scheme, the host and the port of the server.
-/

namespace AppServer

open Url

/-! ### Starting -/

/-- A running server is as it was started: what it is made of comes from accepted settings, and no session
is stored. -/
structure Running.StartedFrom (r : Running) (config : ServerConfig) (m : Machine) : Prop where
  settings : ∃ properties, ServerSettings.ofProperties properties = .ok r.settings ∧
    Server.injectorOf config properties r.settings = .ok r.injector
  handler : ∃ router, Server.routerOf config r.settings r.injector = .ok router ∧ r.handler = router.handler
  host : Network.knowsHost (r.settings.host.getD Server.defaultHost) = true
  realm : r.realm = Realm.new (Store.new SessionRef) m.entropy

theorem knowsHost_of_bind {n : Network} {host : String} {port : Nat} {taken : Nat × Network}
    (h : n.bind host port = .ok taken) : Network.knowsHost host = true := by
  cases hknows : Network.knowsHost host with
  | true => rfl
  | false =>
    rw [Network.bind, hknows] at h
    cases h

theorem Server.MadeFrom.startedFrom {config : ServerConfig} {m : Machine} {r : Running} {files : Files}
    {network : Network} (h : Server.MadeFrom r config m files network) : r.StartedFrom config m := by
  obtain ⟨properties, router, -, hsettings, -, hinjector, hrouter, hhandler⟩ := h.parts
  refine ⟨⟨properties, hsettings, hinjector⟩, ⟨router, hrouter, hhandler⟩, ?_, h.realm⟩
  have hport := h.port
  simp only [Server.takePort] at hport
  split at hport
  · next taken htaken => exact knowsHost_of_bind htaken
  · cases hport

theorem Server.startedFrom {config : ServerConfig} {m after : Machine} {running : Running}
    (h : Server.start { config } m = (.ok (), ⟨config, some running⟩, after)) :
    running.StartedFrom config m := by
  obtain ⟨files, network, hmade⟩ := Server.madeFrom_of_start h
  exact hmade.startedFrom

/-- A server starts when each part of it can be made. -/
theorem Server.start_of_parts {config : ServerConfig} {m : Machine} {properties : Properties}
    {settings : ServerSettings} {sink : EventSink × Files} {injector : Injector Service} {router : Http.Router Unit}
    {taken : Nat × Network} (hload : loadProperties config m = .ok properties)
    (hsettings : ServerSettings.ofProperties properties = .ok settings)
    (hsink : EventSink.ofProperties m.files properties = .ok sink)
    (hinjector : injectorOf config properties settings = .ok injector)
    (hrouter : routerOf config settings injector = .ok router)
    (htaken : takePort config settings m.network = .ok taken) :
    ∃ r after, start { config } m = (.ok (), ⟨config, some r⟩, after) ∧ r.settings = settings ∧ r.port = taken.1 ∧
      after.network = taken.2 := by
  simp only [start, prepare, hload, hsettings, hsink, handlerOf, hinjector, hrouter, htaken, bind, Except.bind]
  exact ⟨_, _, rfl, rfl, rfl, rfl⟩

/-! ### Bases -/

namespace Running

variable {r : Running} {config : ServerConfig} {m : Machine}

theorem StartedFrom.contextPath (h : r.StartedFrom config m) : StartsBehind r.settings.contextPath.toList := by
  obtain ⟨properties, hsettings, -⟩ := h.settings
  obtain ⟨-, -, hpath, -⟩ := ServerSettings.ofProperties_eq_ok_iff.mp hsettings
  intro c hc
  rcases ServerSettings.normalizeContextPath_eq_ok hpath with hempty | hslash
  · rw [hempty] at hc
    exact startsBehind_empty c hc
  · exact .inl (Option.some.inj (hc.symm.trans hslash))

theorem StartedFrom.isPlace (h : r.StartedFrom config m) : IsPlace (placeOf r.settings.advertisedHost) := by
  refine isPlace_placeOf ?_
  have hhost := h.host
  rw [ServerSettings.advertisedHost]
  cases hset : r.settings.host with
  | none => decide
  | some host => rwa [hset] at hhost

theorem toList_serverUrl (r : Running) : r.serverUrl.toList =
    "http://".toList ++ (placeOf r.settings.advertisedHost ++ ':' :: (Text.decimal r.port).toList) := by
  have hauthority : (r.settings.advertisedAuthority r.port).toList =
      placeOf r.settings.advertisedHost ++ ':' :: (Text.decimal r.port).toList := by
    rw [ServerSettings.advertisedAuthority, ServerSettings.authority, placeOf]
    split
    · simp only [String.toList_append, List.append_assoc]
      rfl
    · simp only [String.toList_append, List.append_assoc]
      rfl
  rw [serverUrl, String.toList_append, hauthority]

theorem startsBehind_append {first second : List Char} (hfirst : StartsBehind first) (hsecond : StartsBehind second) :
    StartsBehind (first ++ second) := by
  cases first with
  | nil => exact hsecond
  | cons c first => exact hfirst

/-- Whether a text behind the address of the server is a URL does not depend on what stands there. -/
theorem StartedFrom.parse_serverUrl (h : r.StartedFrom config m) {text : String} (htext : StartsBehind text.toList) :
    Url.parse (r.serverUrl ++ text) = (readHost true (placeOf r.settings.advertisedHost)).bind fun host =>
      if 65535 < r.port then .error .badPort else .ok (ofPlace host r.port (tidy text.toList)) := by
  have hcs : r.serverUrl ++ text = String.ofList ("http://".toList ++
      (placeOf r.settings.advertisedHost ++ ':' :: (Text.decimal r.port).toList) ++ text.toList) := by
    rw [← String.toList_inj, String.toList_append, toList_serverUrl]
    exact String.toList_ofList.symm
  rw [hcs, parse_place h.isPlace r.port htext]

theorem StartedFrom.parse_eq (h : r.StartedFrom config m) {tail : String} (htail : StartsBehind tail.toList) :
    Url.parse (r.baseUrl ++ tail) = (readHost true (placeOf r.settings.advertisedHost)).bind fun host =>
      if 65535 < r.port then .error .badPort
      else .ok (ofPlace host r.port (tidy (r.settings.contextPath ++ tail).toList)) := by
  have hbehind : StartsBehind (r.settings.contextPath ++ tail).toList := by
    rw [String.toList_append]
    exact startsBehind_append h.contextPath htail
  rw [baseUrl, String.append_assoc, h.parse_serverUrl hbehind]

def siteHost (r : Running) : String :=
  match readHost true (placeOf r.settings.advertisedHost) with
  | .ok host => host.text
  | .error _ => ""

/-- A URL below the base has the scheme, the host and the port of the server. -/
theorem StartedFrom.origin (h : r.StartedFrom config m) {tail : String} (htail : StartsBehind tail.toList)
    {u : Url} (hparse : Url.parse (r.baseUrl ++ tail) = .ok u) :
    u.scheme = "http" ∧ u.host.elim "" Host.text = r.siteHost ∧
      u.port.or (usualPorts.lookup u.scheme) = some r.port := by
  have hread := h.parse_eq htail
  rw [hread] at hparse
  rw [siteHost]
  cases hhost : readHost true (placeOf r.settings.advertisedHost) with
  | error e =>
    rw [hhost] at hparse
    cases hparse
  | ok host =>
    rw [hhost, Except.bind] at hparse
    split at hparse
    · cases hparse
    · cases hparse
      obtain ⟨hscheme, hheld, hport⟩ := ofPlace_origin host r.port (tidy (r.settings.contextPath ++ tail).toList)
      exact ⟨hscheme, by rw [hheld, Option.elim_some], hport⟩

/-- When one text below the base is a URL, all of them are. -/
theorem StartedFrom.parses (h : r.StartedFrom config m) {tail other : String} (htail : StartsBehind tail.toList)
    (hother : StartsBehind other.toList) {u : Url} (hparse : Url.parse (r.baseUrl ++ tail) = .ok u) :
    ∃ v, Url.parse (r.baseUrl ++ other) = .ok v := by
  have hread := h.parse_eq htail
  have hagain := h.parse_eq hother
  rw [hread] at hparse
  rw [hagain]
  cases hhost : readHost true (placeOf r.settings.advertisedHost) with
  | error e =>
    rw [hhost] at hparse
    cases hparse
  | ok host =>
    rw [hhost, Except.bind] at hparse
    split at hparse
    · cases hparse
    · next hport => exact ⟨_, if_neg hport⟩

end Running

end AppServer
