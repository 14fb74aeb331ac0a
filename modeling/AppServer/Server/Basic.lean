import AppServer.Application.Basic
import AppServer.Config.Load
import AppServer.EventSink
import AppServer.Http.Uri
import AppServer.Server.Error

/-!
# Servers

A server runs one application on a machine. Each start reads the configuration
afresh, binds the services, makes the routes and takes a port; nothing of a
start that fails remains but what it did to the machine. A server records its
starts and stops, each pair with the address of that start.

The threads that serve are taken for granted. That they cannot be made at a start,
or end with an error, is left out, and so is the event `standalone_failed` that is
recorded then.
-/

namespace AppServer

structure Machine where
  files : Files
  network : Network
  confDirVar : Option String := none
  timeoutVar : Option String := none
  now : Nat := 1
  entropy : Entropy
  /-- The events that its servers have handed to their sinks, in order. -/
  handed : List (EventSink × LifecycleEvent) := []

structure ServerConfig where
  application : Application
  mode : Mode
  /-- The port; without one the properties name it. -/
  port : Option Nat := none
  overrideModule : Option (List (BindingStep Service)) := none
  /-- The properties that count before those of the files. -/
  overrides : Std.TreeMap String String := {}
  /-- The configuration directory; without one the environment names it. -/
  confDir : Option String := none

def ServerConfig.ofEnvironment (application : Application) (held : Option Bytes) :
    Except Mode.ParseError ServerConfig := do
  let mode ← Mode.ofEnvironment held
  .ok { application, mode }

structure Running where
  injector : Injector Service
  settings : ServerSettings
  port : Nat
  events : EventSink
  handler : Http.Handler Unit
  realm : Realm

structure Server where
  config : ServerConfig
  running : Option Running := none

namespace Running

def serverUrl (r : Running) : String := "http://" ++ r.settings.advertisedAuthority r.port

def baseUrl (r : Running) : String := r.serverUrl ++ r.settings.contextPath

def event (r : Running) (m : Machine) (mode : Mode) (name : String) : LifecycleEvent :=
  ⟨name, m.now, mode, some r.serverUrl, none⟩

def record (r : Running) (m : Machine) (mode : Mode) (name : String) : Machine :=
  let event := r.event m mode name
  { m with files := r.events.record m.files event, handed := m.handed ++ [(r.events, event)] }

/-- What comes of a request in a realm; the slash behind the context path is taken off before. -/
def outcome (r : Running) (request : Http.Request) (realm : Realm) : Http.Outcome Unit :=
  r.handler (request.withContextRoot r.settings.contextPath) none realm

def answer (r : Running) (request : Http.Request) : Http.Response × Running :=
  let outcome := r.outcome request r.realm
  (outcome.response.sentTo request.method, { r with realm := outcome.realm })

end Running

namespace Server

/-! ### Starting -/

def defaultPort : Nat := 8080

def defaultHost : String := "127.0.0.1"

def loadProperties (config : ServerConfig) (m : Machine) : Except ConfigError Properties := do
  let properties ← Properties.load m.files config.confDir m.confDirVar config.mode
  let (properties, outcome) := properties.applyOverrides config.overrides.toList
  outcome
  .ok properties

def ownServices (mode : Mode) (properties : Properties) (settings : ServerSettings) :
    List (BindingStep Service) :=
  [Service.bindAs 0 (.mode mode), Service.bindAs 1 (.properties properties),
    Service.bindAs 2 (.settings settings), Service.bindAs 3 (.sessions .ofServer)]

/-- The steps that bind the services: the server's own, the application's, the override module's. -/
def bindingSteps (config : ServerConfig) (properties : Properties) (settings : ServerSettings) :
    Except ServerError (List (BindingStep Service)) :=
  match config.application.configure properties with
  | .error cause => .error (.application cause)
  | .ok steps =>
    .ok (ownServices config.mode properties settings ++ steps ++
      (config.overrideModule.map BindingStep.install).toList)

def injectorOf (config : ServerConfig) (properties : Properties) (settings : ServerSettings) :
    Except ServerError (Injector Service) := do
  let steps ← bindingSteps config properties settings
  .ok (runSteps steps {}).1.build

/-- The routes of a server: those of the application in the session layer, below the context path. -/
def routerOf (config : ServerConfig) (settings : ServerSettings) (injector : Injector Service) :
    Except ServerError (Http.Router Unit) := do
  let routes ← match config.application.routes injector with
    | .ok routes => .ok routes
    | .error cause => .error (.application cause)
  let router := (Http.Router.ofList? routes).map
    (·.layer (Http.sessionLayer settings.sessionCookieName))
  let nested := if settings.contextPath = "" then router
    else router.bind (·.nest? settings.contextPath)
  match nested with
  | some router => .ok router
  | none => .error (.unroutable settings.contextPath)

def handlerOf (config : ServerConfig) (settings : ServerSettings) (injector : Injector Service) :
    Except ServerError (Http.Handler Unit) := do
  let router ← routerOf config settings injector
  .ok router.handler

def takePort (config : ServerConfig) (settings : ServerSettings) (network : Network) :
    Except ServerError (Nat × Network) :=
  let port := (config.port.or settings.port).getD defaultPort
  match network.bind (settings.host.getD defaultHost) port with
  | .ok taken => .ok taken
  | .error cause => .error (.bind (settings.bindAddress defaultHost port) cause.message)

/-- Makes all that is needed to run. A file for events that was made stays even if the rest fails. -/
def prepare (config : ServerConfig) (m : Machine) : Except ServerError Running × Machine :=
  let configured := do
    let properties ← loadProperties config m
    let settings ← ServerSettings.ofProperties properties
    let (events, files) ← EventSink.ofProperties m.files properties
    .ok (properties, settings, events, files)
  match configured with
  | .error e => (.error (.config e), m)
  | .ok (properties, settings, events, files) =>
    let m := { m with files := files }
    let made := do
      let injector ← injectorOf config properties settings
      let handler ← handlerOf config settings injector
      let (port, network) ← takePort config settings m.network
      .ok (injector, handler, port, network)
    match made with
    | .error e => (.error e, m)
    | .ok (injector, handler, port, network) =>
      let realm := Realm.new (Store.new SessionRef) m.entropy
      (.ok { injector, settings, port, events, handler, realm }, { m with network := network })

def start (s : Server) (m : Machine) : Except ServerError Unit × Server × Machine :=
  match s.running with
  | some _ => (.error .alreadyStarted, s, m)
  | none =>
    match prepare s.config m with
    | (.error e, m) => (.error e, s, m)
    | (.ok running, m) =>
      (.ok (), { s with running := some running }, running.record m s.config.mode "standalone_started")

def shutdown (s : Server) (m : Machine) : Except ServerError Unit × Server × Machine :=
  match s.running with
  | none => (.ok (), s, m)
  | some running =>
    let m := running.record m s.config.mode "standalone_stopped"
    (.ok (), { s with running := none },
      { m with network := m.network.release running.port, entropy := running.realm.entropy })

/-- What a server leaves behind, which is shut down if it still runs. -/
def drop (s : Server) (m : Machine) : Machine := (s.shutdown m).2.2

/-! ### Looking at a server -/

def port (s : Server) : Option Nat := (s.running.map Running.port).or s.config.port

def injector (s : Server) : Option (Injector Service) := s.running.map Running.injector

def serverUrls (s : Server) : List String := (s.running.map Running.serverUrl).toList

def baseUrls (s : Server) : List String := (s.running.map Running.baseUrl).toList

def answer (s : Server) (request : Http.Request) : Option Http.Response × Server :=
  match s.running with
  | none => (none, s)
  | some running =>
    let (response, running) := running.answer request
    (some response, { s with running := some running })

def storeOf (s : Server) : StoreHandle → Store SessionRef
  | .separate store => store
  | .ofServer => match s.running with
    | some running => running.realm.store
    | none => Store.new SessionRef

end Server

end AppServer
