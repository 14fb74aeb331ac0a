import AppServer.Proofs.Files
import AppServer.Server.Basic

/-!
# The life of a server

A server runs from a start that succeeds to the next shutdown, or to its end,
and hands its sink one event at each of the two. Whatever else is asked of it
leaves it as it is, and no event is made of it.
-/

namespace AppServer

/-! ### Starts -/

/-- A file for events is open: it was there before, or it is there now, and empty. -/
def Files.OpensLog (files after : Files) : Prop :=
  after = files ∨ ∃ place, files.at? place = none ∧ after = files.put place (.file [])

theorem EventSink.opensLog_of_ofProperties {files after : Files} {p : Properties} {sink : EventSink}
    (h : EventSink.ofProperties files p = .ok (sink, after)) : files.OpensLog after := by
  obtain ⟨place, path, -, hopened⟩ | ⟨-, rfl⟩ := EventSink.ofProperties_cases h
  · obtain ⟨-, rfl⟩ := Files.openToAppend_eq_ok hopened
    split
    · next hnone => exact .inr ⟨place, hnone, rfl⟩
    · exact .inl rfl
  · exact .inl rfl

namespace Server

variable {config : ServerConfig} {s : Server} {m : Machine} {r : Running}

theorem injectorOf_ne_alreadyStarted {properties : Properties} {settings : ServerSettings} :
    injectorOf config properties settings ≠ .error .alreadyStarted := by
  intro h
  rw [injectorOf, bindingSteps] at h
  split at h
  · cases h
  · cases h

theorem handlerOf_ne_alreadyStarted {settings : ServerSettings} {injector : Injector Service} :
    handlerOf config settings injector ≠ .error .alreadyStarted := by
  intro h
  obtain hrouter | ⟨router, -, h⟩ := bind_eq_error_iff.mp h
  · rw [routerOf] at hrouter
    split at hrouter
    · dsimp only [bind, Except.bind] at hrouter
      split at hrouter
      · cases hrouter
      · cases hrouter
    · cases hrouter
  · cases h

theorem takePort_ne_alreadyStarted {settings : ServerSettings} {network : Network} :
    takePort config settings network ≠ .error .alreadyStarted := by
  intro h
  simp only [takePort] at h
  split at h
  · cases h
  · cases h

structure MadeFrom (r : Running) (config : ServerConfig) (m : Machine) (files : Files) (network : Network) : Prop where
  parts : ∃ properties router, loadProperties config m = .ok properties ∧
    ServerSettings.ofProperties properties = .ok r.settings ∧
    EventSink.ofProperties m.files properties = .ok (r.events, files) ∧
    injectorOf config properties r.settings = .ok r.injector ∧
    routerOf config r.settings r.injector = .ok router ∧ r.handler = router.handler
  port : takePort config r.settings m.network = .ok (r.port, network)
  realm : r.realm = Realm.new (Store.new SessionRef) m.entropy

theorem MadeFrom.opensLog {files : Files} {network : Network} (h : MadeFrom r config m files network) :
    m.files.OpensLog files := by
  obtain ⟨_, _, -, -, hsink, -⟩ := h.parts
  exact EventSink.opensLog_of_ofProperties hsink

/-- A configuration either has all that is needed to run, or is refused. Beyond the port, only the file for
events is touched. -/
theorem prepare_cases (config : ServerConfig) (m : Machine) :
    (∃ e files, prepare config m = (.error e, { m with files }) ∧ e ≠ .alreadyStarted ∧ m.files.OpensLog files) ∨
    ∃ r files network, prepare config m = (.ok r, { m with files, network }) ∧
      MadeFrom r config m files network := by
  rw [prepare]
  split
  · next e hconfigured => exact .inl ⟨.config e, m.files, rfl, fun h => (nomatch h), .inl rfl⟩
  · next properties settings events files hconfigured =>
    simp only [bind_eq_ok_iff, Except.ok.injEq, Prod.mk.injEq] at hconfigured
    obtain ⟨_, hload, _, hsettings, ⟨_, _⟩, hsink, rfl, rfl, rfl, rfl⟩ := hconfigured
    dsimp only
    split
    · next e hmade =>
      refine .inl ⟨e, _, rfl, ?_, EventSink.opensLog_of_ofProperties hsink⟩
      rintro rfl
      simp only [bind_eq_error_iff] at hmade
      obtain h | ⟨_, -, h | ⟨_, -, h | ⟨_, -, h⟩⟩⟩ := hmade
      · exact injectorOf_ne_alreadyStarted h
      · exact handlerOf_ne_alreadyStarted h
      · exact takePort_ne_alreadyStarted h
      · cases h
    · next injector handler port network hmade =>
      simp only [bind_eq_ok_iff, Except.ok.injEq, Prod.mk.injEq] at hmade
      obtain ⟨_, hinjector, _, hhandler, ⟨_, _⟩, hport, rfl, rfl, rfl, rfl⟩ := hmade
      simp only [handlerOf, bind_eq_ok_iff, Except.ok.injEq] at hhandler
      obtain ⟨router, hrouter, rfl⟩ := hhandler
      exact .inr ⟨_, _, _, rfl, ⟨_, router, hload, hsettings, hsink, hinjector, hrouter, rfl⟩, hport, rfl⟩

theorem start_of_running (h : s.running = some r) (m : Machine) : s.start m = (.error .alreadyStarted, s, m) := by
  rw [start, h]

theorem start_cases (hstopped : s.running = none) (m : Machine) :
    (∃ e files, s.start m = (.error e, s, { m with files }) ∧ e ≠ .alreadyStarted ∧ m.files.OpensLog files) ∨
    ∃ r files network, s.start m = (.ok (), ⟨s.config, some r⟩,
        r.record { m with files, network } s.config.mode "standalone_started") ∧
      MadeFrom r s.config m files network := by
  obtain ⟨e, files, hprepare, he, hopens⟩ | ⟨r, files, network, hprepare, hmade⟩ := prepare_cases s.config m
  · refine .inl ⟨e, files, ?_, he, hopens⟩
    rw [start, hstopped, hprepare]
  · refine .inr ⟨r, files, network, ?_, hmade⟩
    rw [start, hstopped, hprepare]

theorem madeFrom_of_start {after : Machine} (h : start { config } m = (.ok (), ⟨config, some r⟩, after)) :
    ∃ files network, MadeFrom r config m files network := by
  obtain ⟨e, files, hstart, -⟩ | ⟨made, files, network, hstart, hmade⟩ :=
    @start_cases { config } rfl m
  · rw [hstart] at h
    cases h
  · rw [hstart] at h
    cases h
    exact ⟨files, network, hmade⟩

theorem shutdown_of_stopped (hstopped : s.running = none) (m : Machine) : s.shutdown m = (.ok (), s, m) := by
  rw [shutdown, hstopped]

theorem shutdown_of_running (h : s.running = some r) (m : Machine) :
    s.shutdown m = (.ok (), ⟨s.config, none⟩, { r.record m s.config.mode "standalone_stopped" with
      network := m.network.release r.port, entropy := r.realm.entropy }) := by
  rw [shutdown, h]
  rfl

/-! ### Calls -/

/-- What happens to a server: it is asked to start, to shut down or to answer, or the world goes on. -/
inductive Call where
  | start
  | shutdown
  | answer (request : Http.Request)
  | meanwhile (act : Machine → Machine)

/-- Makes a call. Whatever else changes the machine, it is not this server that records an event then. -/
def perform (s : Server) (m : Machine) : Call → Except ServerError Unit × Server × Machine
  | .start => s.start m
  | .shutdown => s.shutdown m
  | .answer request => (.ok (), (s.answer request).2, m)
  | .meanwhile act => (.ok (), s, { act m with handed := m.handed })

def run (s : Server) (m : Machine) : List Call → Server × Machine
  | [] => (s, m)
  | call :: rest => run (s.perform m call).2.1 (s.perform m call).2.2 rest

structure Step where
  server : Server
  machine : Machine
  call : Call

def Step.result (x : Step) : Except ServerError Unit × Server × Machine := x.server.perform x.machine x.call

def trace (s : Server) (m : Machine) : List Call → List Step
  | [] => []
  | call :: rest => ⟨s, m, call⟩ :: trace (s.perform m call).2.1 (s.perform m call).2.2 rest

def Step.opened? (x : Step) : Option Running :=
  match x.call, x.result with
  | .start, (.ok (), after, _) => after.running
  | _, _ => none

def Step.leaves (held : Option Running) (x : Step) : Option Running :=
  match x.call with
  | .shutdown => none
  | _ => x.opened?.or held

/-- What the last start that succeeded has opened, unless there was a shutdown after it. -/
def current (steps : List Step) : Option Running := steps.foldl Step.leaves none

/-- The event of a server, whenever it happens, with the sink it is handed to. -/
def dueEvent (config : ServerConfig) (name : String) (r : Running) : EventSink × LifecycleEvent :=
  (r.events, ⟨name, 0, config.mode, some r.serverUrl, none⟩)

def dueEvents (config : ServerConfig) (r : Running) : List (EventSink × LifecycleEvent) :=
  [dueEvent config "standalone_started" r, dueEvent config "standalone_stopped" r]

def untimed (handed : List (EventSink × LifecycleEvent)) : List (EventSink × LifecycleEvent) :=
  handed.map fun event => (event.1, { event.2 with timestamp := 0 })

/-! ### One step -/

/-- What a step does to a server of a configuration. When a server stops, or does not start, it is as a new one. -/
structure Step.Obeys (config : ServerConfig) (x : Step) : Prop where
  keeps : x.server.config = config
  again : ∀ r, x.call = .start → x.server = ⟨config, some r⟩ →
    x.result = (.error .alreadyStarted, ⟨config, some r⟩, x.machine)
  start : x.call = .start → x.server = ⟨config, none⟩ →
    (∃ e files, x.result = (.error e, ⟨config, none⟩, { x.machine with files }) ∧ e ≠ .alreadyStarted ∧
      x.machine.files.OpensLog files) ∨
    ∃ r files network, x.result = (.ok (), ⟨config, some r⟩,
        r.record { x.machine with files, network } config.mode "standalone_started") ∧
      MadeFrom r config x.machine files network ∧ x.machine.files.OpensLog files
  stop : ∀ r, x.call = .shutdown → x.server = ⟨config, some r⟩ →
    x.result = (.ok (), ⟨config, none⟩, { r.record x.machine config.mode "standalone_stopped" with
      network := x.machine.network.release r.port, entropy := r.realm.entropy })
  idle : x.call = .shutdown → x.server = ⟨config, none⟩ → x.result = (.ok (), ⟨config, none⟩, x.machine)

theorem Step.obeys (x : Step) : x.Obeys x.server.config where
  keeps := rfl
  again r hcall hserver := by
    have hrunning : x.server.running = some r := congrArg Server.running hserver
    rw [result, hcall, perform, start_of_running hrunning, ← hserver]
  start hcall hserver := by
    have hstopped : x.server.running = none := congrArg Server.running hserver
    rw [result, hcall, perform, ← hserver]
    obtain hrefused | ⟨r, files, network, hstart, hmade⟩ := start_cases hstopped x.machine
    · exact .inl hrefused
    · exact .inr ⟨r, files, network, hstart, hmade, hmade.opensLog⟩
  stop r hcall hserver := by
    rw [result, hcall]
    exact shutdown_of_running (congrArg Server.running hserver) x.machine
  idle hcall hserver := by
    rw [result, hcall, perform, shutdown_of_stopped (congrArg Server.running hserver), ← hserver]

/-- What runs is what was opened, except for its sessions. -/
def Continues (running opened : Option Running) : Prop :=
  Option.Rel (fun now before => now = { before with realm := now.realm }) running opened

theorem continues_self (running : Option Running) : Continues running running := by
  cases running with
  | none => exact .none
  | some r => exact .some rfl

theorem Continues.trans {now before opened : Option Running} (hnow : Continues now before)
    (hbefore : Continues before opened) : Continues now opened := by
  cases hbefore with
  | none => exact hnow
  | some hopened =>
    cases hnow with
    | some hsame =>
      rw [hopened] at hsame
      exact .some hsame

def pending (config : ServerConfig) (held : Option Running) : List (EventSink × LifecycleEvent) :=
  (held.map (dueEvent config "standalone_stopped")).toList

theorem untimed_record (m : Machine) (config : ServerConfig) (name : String) :
    untimed (r.record m config.mode name).handed = untimed m.handed ++ [dueEvent config name r] := by
  rw [untimed, untimed, Running.record, List.map_append]
  rfl

/-- The kinds of steps: the server goes on as it is, begins to run, or comes to a stop. -/
inductive Step.Kind (x : Step) : Prop where
  | quiet (hopened : x.opened? = none) (hcall : x.call ≠ .shutdown)
      (hconfig : x.result.2.1.config = x.server.config) (hrunning : Continues x.result.2.1.running x.server.running)
      (hhanded : x.result.2.2.handed = x.machine.handed)
  | opens (r : Running) (hopened : x.opened? = some r) (hcall : x.call = .start) (hstopped : x.server.running = none)
      (hserver : x.result.2.1 = ⟨x.server.config, some r⟩)
      (hhanded : untimed x.result.2.2.handed =
        untimed x.machine.handed ++ [dueEvent x.server.config "standalone_started" r])
  | ends (hopened : x.opened? = none) (hcall : x.call = .shutdown)
      (hserver : x.result.2.1 = ⟨x.server.config, none⟩)
      (hhanded : untimed x.result.2.2.handed =
        untimed x.machine.handed ++ pending x.server.config x.server.running)

theorem kind_start (s : Server) (m : Machine) : Step.Kind ⟨s, m, .start⟩ := by
  cases hrunning : s.running with
  | some r =>
    have hresult : Step.result ⟨s, m, .start⟩ = (.error .alreadyStarted, s, m) := start_of_running hrunning m
    refine .quiet ?_ (fun h => nomatch h) ?_ ?_ ?_
    · rw [Step.opened?, hresult]
    · rw [hresult]
    · rw [hresult]
      exact continues_self s.running
    · rw [hresult]
  | none =>
    obtain ⟨e, files, hstart, -⟩ | ⟨r, files, network, hstart, -⟩ := start_cases hrunning m
    · have hresult : Step.result ⟨s, m, .start⟩ = (.error e, s, { m with files }) := hstart
      refine .quiet ?_ (fun h => nomatch h) ?_ ?_ ?_
      · rw [Step.opened?, hresult]
      · rw [hresult]
      · rw [hresult]
        exact continues_self s.running
      · rw [hresult]
    · have hresult : Step.result ⟨s, m, .start⟩ = (.ok (), ⟨s.config, some r⟩,
          r.record { m with files, network } s.config.mode "standalone_started") := hstart
      refine .opens r ?_ rfl hrunning ?_ ?_
      · rw [Step.opened?, hresult]
      · rw [hresult]
      · rw [hresult, untimed_record]

theorem kind_shutdown (s : Server) (m : Machine) : Step.Kind ⟨s, m, .shutdown⟩ := by
  cases hrunning : s.running with
  | none =>
    have hresult : Step.result ⟨s, m, .shutdown⟩ = (.ok (), s, m) := shutdown_of_stopped hrunning m
    refine .ends rfl rfl ?_ ?_
    · rw [hresult, ← hrunning]
    · rw [hresult, hrunning]
      exact (List.append_nil _).symm
  | some r =>
    have hresult := shutdown_of_running hrunning m
    refine .ends rfl rfl ?_ ?_
    · rw [Step.result, perform, hresult]
    · rw [Step.result, perform, hresult, hrunning]
      exact untimed_record m s.config "standalone_stopped"

theorem kind_answer (s : Server) (m : Machine) (request : Http.Request) : Step.Kind ⟨s, m, .answer request⟩ := by
  have hcontinues : Continues (s.answer request).2.running s.running ∧ (s.answer request).2.config = s.config := by
    rw [answer]
    split
    · exact ⟨continues_self s.running, rfl⟩
    · next r hrunning =>
      rw [hrunning]
      exact ⟨.some rfl, rfl⟩
  exact .quiet rfl (fun h => nomatch h) hcontinues.2 hcontinues.1 rfl

theorem Step.kind (x : Step) : x.Kind := by
  obtain ⟨s, m, call⟩ := x
  cases call with
  | start => exact kind_start s m
  | shutdown => exact kind_shutdown s m
  | answer request => exact kind_answer s m request
  | meanwhile act => exact .quiet rfl (fun h => nomatch h) rfl (continues_self s.running) rfl

theorem Continues.pending {now opened : Option Running} (h : Continues now opened) (config : ServerConfig) :
    pending config now = pending config opened := by
  cases h with
  | none => rfl
  | some hsame =>
    rw [hsame]
    rfl

/-- The server after a step is what the step leaves open, and with its stop still due, the events it has handed on
are those from before and the pair of a start that has succeeded. -/
theorem Step.advances (x : Step) {held : Option Running} (h : Continues x.server.running held) :
    x.result.2.1.config = x.server.config ∧ Continues x.result.2.1.running (Step.leaves held x) ∧
      untimed x.result.2.2.handed ++ pending x.server.config (Step.leaves held x) =
        untimed x.machine.handed ++ pending x.server.config held ++
          x.opened?.toList.flatMap (dueEvents x.server.config) := by
  cases x.kind with
  | quiet hopened hcall hconfig hrunning hhanded =>
    have hleaves : Step.leaves held x = held := by
      rw [Step.leaves]
      split
      · next hshutdown => exact absurd hshutdown hcall
      · rw [hopened, Option.none_or]
    rw [hleaves, hopened, hhanded]
    exact ⟨hconfig, hrunning.trans h, (List.append_nil _).symm⟩
  | opens r hopened hcall hstopped hserver hhanded =>
    -- a server that begins to run was stopped, so no other stop is due
    have hheld : held = none := by
      rw [hstopped] at h
      cases h
      rfl
    have hleaves : Step.leaves held x = some r := by rw [Step.leaves, hcall, hopened, Option.some_or]
    rw [hleaves, hopened, hserver, hhanded, hheld]
    exact ⟨rfl, continues_self _, by simp [Server.pending, dueEvents]⟩
  | ends hopened hcall hserver hhanded =>
    have hleaves : Step.leaves held x = none := by rw [Step.leaves, hcall]
    rw [hleaves, hopened, hserver, hhanded, h.pending]
    exact ⟨rfl, continues_self _, rfl⟩

/-! ### Runs -/

theorem run_advances {held : Option Running} (hconfig : s.config = config) (h : Continues s.running held)
    (m : Machine) (calls : List Call) :
    let open? := (trace s m calls).foldl Step.leaves held
    (run s m calls).1.config = config ∧ Continues (run s m calls).1.running open? ∧
      untimed (run s m calls).2.handed ++ pending config open? =
        untimed m.handed ++ pending config held ++
          ((trace s m calls).filterMap Step.opened?).flatMap (dueEvents config) := by
  -- on the calls; with the stop that is still due, the events always come in pairs
  induction calls generalizing s m held with
  | nil => exact ⟨hconfig, h, (List.append_nil _).symm⟩
  | cons call rest ih =>
    subst hconfig
    obtain ⟨hkept, hcontinues, hhanded⟩ := Step.advances ⟨s, m, call⟩ h
    obtain ⟨hafter, hruns, hevents⟩ := ih hkept hcontinues (s.perform m call).2.2
    have hopened : (trace s m (call :: rest)).filterMap Step.opened? =
        (Step.opened? ⟨s, m, call⟩).toList ++
          (trace (s.perform m call).2.1 (s.perform m call).2.2 rest).filterMap Step.opened? := by
      rw [trace, List.filterMap_cons]
      cases Step.opened? ⟨s, m, call⟩ with
      | none => rfl
      | some r => rfl
    refine ⟨hafter, hruns, hevents.trans ?_⟩
    rw [hopened, List.flatMap_append, ← List.append_assoc]
    exact congrArg (· ++ _) hhanded

theorem obeys_of_mem_trace (hconfig : s.config = config) {calls : List Call} {x : Step} (hx : x ∈ trace s m calls) :
    x.Obeys config := by
  induction calls generalizing s m with
  | nil => exact absurd hx List.not_mem_nil
  | cons call rest ih =>
    rcases List.mem_cons.mp hx with rfl | hrest
    · exact hconfig ▸ Step.obeys ⟨s, m, call⟩
    · exact ih ((Step.advances ⟨s, m, call⟩ (continues_self _)).1.trans hconfig) hrest

structure Shows (s : Server) (opened : Option Running) : Prop where
  running : s.running.isSome = opened.isSome
  injector : s.injector = opened.map Running.injector
  serverUrls : s.serverUrls = (opened.map Running.serverUrl).toList
  baseUrls : s.baseUrls = (opened.map Running.baseUrl).toList
  port : s.port = (opened.map Running.port).or s.config.port

theorem Continues.shows {opened : Option Running} (h : Continues s.running opened) : s.Shows opened := by
  obtain ⟨config, running⟩ := s
  dsimp only at h
  cases h with
  | none => exact ⟨rfl, rfl, rfl, rfl, rfl⟩
  | some hsame =>
    rw [hsame]
    exact ⟨rfl, rfl, rfl, rfl, rfl⟩

theorem untimed_drop (s : Server) (m : Machine) :
    untimed (s.drop m).handed = untimed m.handed ++ pending s.config s.running := by
  cases Step.kind ⟨s, m, .shutdown⟩ with
  | quiet _ hcall => exact absurd rfl hcall
  | opens _ _ hcall => cases hcall
  | ends _ _ _ hhanded => exact hhanded

/-- Whatever is asked of a server, it runs exactly from a start that succeeds to the next shutdown or its end, and
shows what that start has opened; each step does what its call says, and a stopped server is as a new one. In the
end, one pair of events has been handed on for each start that succeeded. -/
theorem lifecycle (config : ServerConfig) (m : Machine) (calls : List Call) :
    let steps := trace { config } m calls
    let s := (run { config } m calls).1
    (∀ x ∈ steps, x.Obeys config) ∧ s.config = config ∧ s.Shows (current steps) ∧
      untimed (s.drop (run { config } m calls).2).handed =
        untimed m.handed ++ (steps.filterMap Step.opened?).flatMap (dueEvents config) := by
  intro steps s
  have hnew : Continues ({ config } : Server).running none := .none
  obtain ⟨hconfig, hruns, hhanded⟩ := run_advances rfl hnew m calls
  refine ⟨fun x hx => obeys_of_mem_trace rfl hx, hconfig, hruns.shows, ?_⟩
  rw [untimed_drop, hruns.pending, hconfig]
  exact hhanded.trans (by rw [pending, Option.map_none, Option.toList_none, List.append_nil])

def emptyMachine : Machine where
  files := {}
  network := { nextFree := 49152 }
  entropy := ⟨fun _ _ => [], 0⟩

def onePage : ServerConfig where
  application := { routes := fun _ => .ok [("/", fun _ _ _ realm => ⟨Http.Response.ofText 200 "page", realm, none⟩)] }
  mode := .test
  port := some 0

/-- Between the two starts that succeed one is refused, and the second shutdown finds nothing to stop. -/
def restart : List Call := [.start, .start, .shutdown, .shutdown, .start]

theorem lifecycle_restart :
    let s := (run { config := onePage } emptyMachine restart).1
    s.serverUrls = ["http://localhost:49153"] ∧
      untimed (s.drop (run { config := onePage } emptyMachine restart).2).handed =
        ["http://localhost:49152", "http://localhost:49153"].flatMap fun url =>
          [(.errorStream, ⟨"standalone_started", 0, .test, some url, none⟩),
            (.errorStream, ⟨"standalone_stopped", 0, .test, some url, none⟩)] := by
  intro s
  obtain ⟨-, -, hshows, hhanded⟩ := lifecycle onePage emptyMachine restart
  have hcurrent : (current (trace { config := onePage } emptyMachine restart)).map Running.serverUrl =
      some "http://localhost:49153" := by decide +kernel
  refine ⟨?_, hhanded.trans ?_⟩
  · rw [hshows.serverUrls, hcurrent]
    rfl
  · decide +kernel

end Server

end AppServer
