import AppServer.Http.Cookie
import AppServer.Session.Realm

/-!
# Handlers and the session layer

A handler answers a request; around it stand layers. The session layer gives
the handler the session that the request's cookie leads to, or a new one, and
afterwards keeps cookie and store in step with it: a new session that holds
something is stored and its cookie issued, a stored session that holds nothing
any more is removed and its cookie taken back.
-/

namespace AppServer.Http

structure Outcome (ν : Type) where
  response : Response
  realm : Realm
  /-- What the innermost handler reports; none when it did not run. -/
  report : Option ν := none

/-- Answers a request, given the session that a layer put beside it. -/
abbrev Handler (ν : Type) := Request → Option SessionRef → Realm → Outcome ν

def sessionLayerMissing : Response := Response.ofText 500 "session layer not installed"

/-- A handler that needs a session; without one it does not run. -/
def needSession (inner : Request → SessionRef → Realm → Outcome ν) : Handler ν :=
  fun request context realm =>
    match context with
    | some ref => inner request ref realm
    | none => ⟨sessionLayerMissing, realm, none⟩

/-! ### The session layer -/

/-- The stored session that a request presents, with its id. -/
def presented? (cookieName : String) (request : Request) (realm : Realm) :
    Option (SessionId × SessionRef) := do
  let id ← request.headers.cookie? cookieName
  some (id, ← realm.load? id)

/-- Keeps cookie and store in step with a session that was not stored before. -/
def settleNew (cookieName : String) (ref : SessionRef) (outcome : Outcome ν) : Outcome ν :=
  if (outcome.realm.session ref).isEmpty then outcome
  else
    let (id, realm) := outcome.realm.insert ref
    { outcome with response := outcome.response.setCookie (issueCookie cookieName id), realm := realm }

/-- Keeps cookie and store in step with a session that was stored. -/
def settleStored (cookieName : String) (id : SessionId) (ref : SessionRef) (outcome : Outcome ν) :
    Outcome ν :=
  if (outcome.realm.session ref).isEmpty then
    { outcome with
      response := outcome.response.setCookie (expireCookie cookieName)
      realm := outcome.realm.remove id }
  else outcome

/-- Gives a handler the session of each request. -/
def sessionLayer (cookieName : String) (inner : Handler ν) : Handler ν :=
  fun request _ realm =>
    match presented? cookieName request realm with
    | some (id, ref) => settleStored cookieName id ref (inner request (some ref) realm)
    | none =>
      let (ref, realm) := realm.create
      settleNew cookieName ref (inner request (some ref) realm)

end AppServer.Http
