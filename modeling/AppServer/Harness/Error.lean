import AppServer.Harness.Timeout
import AppServer.Injector
import AppServer.Server.Error

/-!
# Errors of the test harness

Why a test server, a browser or the fixture that holds both fails.
-/

namespace AppServer.Harness

inductive TestServerError where
  /-- No port is free from `low` up to, but not including, `high`. -/
  | noAvailablePort (low high : Nat)
  | startup (cause : ServerError)
  | notServing
  | shutdown (cause : ServerError)
  | invalidUrl (address cause : String)
deriving DecidableEq, Repr

def TestServerError.message : TestServerError → String
  | .noAvailablePort low high =>
    "no free port in [" ++ Text.decimal low ++ ", " ++ Text.decimal high ++ ")"
  | .startup cause => "test server failed to start: " ++ cause.message
  | .notServing => "test server started but is not serving"
  | .shutdown cause => "test server shutdown failed: " ++ cause.message
  | .invalidUrl address cause => "invalid server url: " ++ address ++ ": " ++ cause

inductive BrowserError where
  | closed
  | invalidUrl (url cause : String)
  | request (url cause : String)
  | decode (url cause : String)
  | setup (cause : String)
  | timeout (cause : TimeoutError)
deriving DecidableEq, Repr

def BrowserError.message : BrowserError → String
  | .closed => "browser is closed"
  | .invalidUrl url cause => "invalid url " ++ url ++ ": " ++ cause
  | .request url cause => "request to " ++ url ++ " failed: " ++ cause
  | .decode url cause => "response from " ++ url ++ " is not the expected json: " ++ cause
  | .setup cause => "http client setup failed: " ++ cause
  | .timeout cause => cause.message

inductive FixtureError where
  | server (cause : TestServerError)
  | browser (cause : BrowserError)
  | unbound (cause : UnboundError)
  | invalidPath (cause : String)
  | closed
  | teardown (causes : List String)
deriving DecidableEq, Repr

def FixtureError.message : FixtureError → String
  | .server cause => cause.message
  | .browser cause => cause.message
  | .unbound cause => cause.message
  | .invalidPath cause => "invalid path: " ++ cause
  | .closed => "fixture is torn down"
  | .teardown causes => "teardown failed: " ++ Text.join "; " causes

end AppServer.Harness
