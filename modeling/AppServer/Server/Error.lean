import AppServer.Config.Error
import AppServer.Network

/-!
# Errors of an application server

Why an application or the server that runs it fails.
-/

namespace AppServer

inductive ServerError where
  | config (cause : ConfigError)
  | application (cause : String)
  | bind (address cause : String)
  /-- There are no threads to serve with. A start takes them for granted; only a faulty server is refused them. -/
  | runtime (cause : String)
  | alreadyStarted
  /-- The threads of a server have ended with an error; they too fail only where a server is faulty. -/
  | serve (cause : String)
  /-- Nothing can be served below its context path, which is no path of routes. -/
  | unroutable (contextPath : String)
deriving DecidableEq, Repr

def ServerError.message : ServerError → String
  | .config cause => cause.message
  | .application cause => "application error: " ++ cause
  | .bind address cause => "bind failed on " ++ address ++ ": " ++ cause
  | .runtime cause => "runtime error: " ++ cause
  | .alreadyStarted => "server already started"
  | .serve cause => "server error: " ++ cause
  | .unroutable contextPath => "invalid route: " ++ contextPath

end AppServer
