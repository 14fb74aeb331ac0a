import AppServer.Harness.Error
import AppServer.Server.Basic
import AppServer.Url.Basic

/-!
# Test servers

A test server runs an application for one test. Its builder gathers the
settings and starts the server, on the first free port of a range unless a port
is given; when that fails, or the server offers no address, it is shut down
again. A test server is shut down once, however often it is asked to.
-/

namespace AppServer.Harness

/-- A kind of servers, in a world `σ` that holds one of them. -/
structure Standalone (σ : Type) where
  create : ServerConfig → σ → σ
  start : σ → Except ServerError Unit × σ
  shutdown : σ → Except ServerError Unit × σ
  drop : σ → σ
  injector : σ → Option (Injector Service)
  serverUrls : σ → List String
  baseUrls : σ → List String
  port : σ → Option Nat
  mode : σ → Mode

/-! ### Building -/

def minPort : Nat := 1000

def maxPort : Nat := 10000

structure TestServerBuilder (σ : Type) where
  application : Application
  mode : Option Mode := none
  port : Option Nat := none
  standalone : Option (Standalone σ) := none
  overrideModule : Option (List (BindingStep Service)) := none
  overrides : Option (Std.TreeMap String String) := none
  confDir : Option String := none

namespace TestServerBuilder

variable {σ : Type}

def withMode (b : TestServerBuilder σ) (mode : Mode) : TestServerBuilder σ := { b with mode := some mode }

def withPort (b : TestServerBuilder σ) (port : Nat) : TestServerBuilder σ := { b with port := some port }

def withStandalone (b : TestServerBuilder σ) (standalone : Standalone σ) : TestServerBuilder σ :=
  { b with standalone := some standalone }

def withOverrideModule (b : TestServerBuilder σ) (steps : List (BindingStep Service)) :
    TestServerBuilder σ :=
  { b with overrideModule := some steps }

def withOverrides (b : TestServerBuilder σ) (overrides : Std.TreeMap String String) :
    TestServerBuilder σ :=
  { b with overrides := some overrides }

def withOverride (b : TestServerBuilder σ) (key value : String) : TestServerBuilder σ :=
  { b with overrides := some ((b.overrides.getD {}).insert key value) }

def withConfDir (b : TestServerBuilder σ) (dir : String) : TestServerBuilder σ :=
  { b with confDir := some dir }

def choosePort (b : TestServerBuilder σ) (network : Network) : Except TestServerError Nat :=
  match b.port.or (network.firstFree? minPort maxPort) with
  | some port => .ok port
  | none => .error (.noAvailablePort minPort maxPort)

def config (b : TestServerBuilder σ) (port : Nat) : ServerConfig where
  application := b.application
  mode := b.mode.getD .test
  port := some port
  overrideModule := b.overrideModule
  overrides := b.overrides.getD {}
  confDir := b.confDir

end TestServerBuilder

structure TestServer (σ : Type) where
  standalone : Standalone σ
  injector : Injector Service
  serverUrl : String
  baseUrl : String
  isStopped : Bool := false

namespace TestServerBuilder

variable {σ : Type}

/-- Puts a server that cannot be used out of the world again, after one shutdown. -/
def giveUp (standalone : Standalone σ) (world : σ) : σ := standalone.drop (standalone.shutdown world).2

def build (b : TestServerBuilder σ) (default : Standalone σ) (network : Network) (world : σ) :
    Except TestServerError (TestServer σ) × σ :=
  match b.choosePort network with
  | .error e => (.error e, world)
  | .ok port =>
    let standalone := b.standalone.getD default
    match standalone.start (standalone.create (b.config port) world) with
    | (.error e, world) => (.error (.startup e), giveUp standalone world)
    | (.ok (), world) =>
      match standalone.injector world, (standalone.serverUrls world).head?, (standalone.baseUrls world).head? with
      | some injector, some serverUrl, some baseUrl =>
        (.ok { standalone, injector, serverUrl, baseUrl }, world)
      | _, _, _ => (.error .notServing, giveUp standalone world)

end TestServerBuilder

/-! ### Test servers -/

namespace TestServer

variable {σ : Type}

/-- Shuts the server down, the first time only. -/
def shutdown (s : TestServer σ) (world : σ) : Except TestServerError Unit × TestServer σ × σ :=
  if s.isStopped then (.ok (), s, world)
  else
    let (outcome, world) := s.standalone.shutdown world
    (outcome.mapError .shutdown, { s with isStopped := true }, world)

def close (s : TestServer σ) (world : σ) : Except TestServerError Unit × TestServer σ × σ := s.shutdown world

/-- Shuts the server down if that has not been done, and takes it out of the world. -/
def drop (s : TestServer σ) (world : σ) : σ :=
  let (_, s, world) := s.shutdown world
  s.standalone.drop world

def port (s : TestServer σ) (world : σ) : Option Nat := s.standalone.port world

def mode (s : TestServer σ) (world : σ) : Mode := s.standalone.mode world

def serverAddress (s : TestServer σ) : String := s.serverUrl ++ "/"

def serverAddressUrl (s : TestServer σ) : Except TestServerError Url :=
  match Url.parse s.serverAddress with
  | .ok u => .ok u
  | .error e => .error (.invalidUrl s.serverAddress e.message)

end TestServer

/-! ### The usual kind of servers -/

structure World where
  machine : Machine
  server : Option Server := none

namespace World

/-- Runs an operation of the server; without a server nothing happens. -/
def update (w : World) (step : Server → Machine → Except ServerError Unit × Server × Machine) :
    Except ServerError Unit × World :=
  match w.server with
  | none => (.ok (), w)
  | some server =>
    let (outcome, server, machine) := step server w.machine
    (outcome, ⟨machine, some server⟩)

/-- Answers a request to the server's port if connections can be made. -/
def transport (u : Url) (request : Http.Request) (w : World) : Option Http.Response × World :=
  match w.server with
  | some server =>
    let port := u.port.or (Url.usualPorts.lookup u.scheme)
    if w.machine.network.connects ∧ u.scheme = "http" ∧ port = server.running.map Running.port then
      let (response, server) := server.answer request
      (response, { w with server := some server })
    else (none, w)
  | none => (none, w)

end World

def Standalone.plain : Standalone World where
  create config w := { w with server := some { config } }
  start w := w.update Server.start
  shutdown w := w.update Server.shutdown
  drop w := ⟨w.server.elim w.machine fun server => server.drop w.machine, none⟩
  injector w := w.server.bind Server.injector
  serverUrls w := w.server.elim [] Server.serverUrls
  baseUrls w := w.server.elim [] Server.baseUrls
  port w := w.server.bind Server.port
  mode w := w.server.elim .test fun server => server.config.mode

end AppServer.Harness
