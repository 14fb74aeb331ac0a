import AppServer.Harness.Browser
import AppServer.Harness.Server

/-!
# Fixtures

A fixture holds a test server and a browser for one test. It is torn down once:
all that fails then is reported together, to the one who asks for it or, if
nobody did, as an event.
-/

namespace AppServer.Harness

/-- A test server and a browser, as long as they are not torn down. -/
structure Fixture (σ : Type) where
  server? : Option (TestServer σ)
  browser? : Option (Browser CookieJar)
  mode : Mode

namespace Fixture

variable {σ : Type}

def start (b : TestServerBuilder σ) (default : Standalone σ) (network : Network) (env : Option String)
    (world : σ) : Except FixtureError (Fixture σ) × σ :=
  match b.build default network world with
  | (.error e, world) => (.error (.server e), world)
  | (.ok server, world) =>
    match Browser.create defaultTimeout env with
    | .error e => (.error (.browser e), server.drop world)
    | .ok browser => (.ok ⟨some server, some browser, server.mode world⟩, world)

/-! ### While it is open -/

def server (f : Fixture σ) : Except FixtureError (TestServer σ) :=
  match f.server? with
  | some server => .ok server
  | none => .error .closed

def browser (f : Fixture σ) : Except FixtureError (Browser CookieJar) :=
  match f.browser? with
  | some browser => .ok browser
  | none => .error .closed

def require (f : Fixture σ) (type : TypeName) : Except FixtureError Service := do
  let server ← f.server
  match server.injector.require type with
  | .ok service => .ok service.value
  | .error e => .error (.unbound e)

/-- The URL of a path of the application; the path is looked at first. -/
def url (f : Fixture σ) (path : String) : Except FixtureError String :=
  match path.toList with
  | [] => .error (.invalidPath "path must not be empty")
  | '/' :: _ => do
    let server ← f.server
    .ok (server.baseUrl ++ path)
  | _ => .error (.invalidPath ("path must start with '/': " ++ path))

/-! ### Tearing down -/

/-- Shuts down the server if there is one: what failed, and the world afterwards. -/
def closeServer (f : Fixture σ) (world : σ) : List String × σ :=
  match f.server? with
  | none => ([], world)
  | some server =>
    match server.shutdown world with
    | (.ok (), server, world) => ([], server.drop world)
    | (.error e, server, world) => ([e.message], server.drop world)

def closeBrowser (f : Fixture σ) : List String :=
  match f.browser? with
  | none => []
  | some browser => match browser.shutdown with
    | (.ok (), _) => []
    | (.error e, _) => [e.message]

/-- Tears the fixture down; the browser is closed even if the server fails. -/
def shutdown (f : Fixture σ) (world : σ) : Except FixtureError Unit × Fixture σ × σ :=
  let (serverFailures, world) := f.closeServer world
  let failures := serverFailures ++ f.closeBrowser
  let torn : Fixture σ := { f with server? := none, browser? := none }
  if failures = [] then (.ok (), torn, world) else (.error (.teardown failures), torn, world)

/-- Tears the fixture down if that has not been done; what fails makes an event. -/
def drop (f : Fixture σ) (now : Nat) (world : σ) : Option LifecycleEvent × σ :=
  match f.shutdown world with
  | (.ok (), _, world) => (none, world)
  | (.error e, _, world) => (some ⟨"fixture_teardown_failed", now, f.mode, none, some e.message⟩, world)

end Fixture

end AppServer.Harness
