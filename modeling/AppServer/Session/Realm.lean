import AppServer.Session.Basic
import AppServer.Session.Store

/-!
# Sessions of a running server

All sessions that exist, each with its own identity, beside the store that
finds some of them by id and the source of random texts. A request works on a
session by its identity, so what it does is seen wherever the session is held.
-/

namespace AppServer

/-- The identity of a session: two ids in a store may lead to the same session. -/
structure SessionRef where
  /-- The number of the session, in the order in which sessions came to be. -/
  index : Nat
deriving DecidableEq, Repr

/-- The sessions that exist, those stored, and the source of random texts. -/
structure Realm where
  sessions : Array Session
  store : Store SessionRef
  entropy : Entropy

namespace Realm

def new (store : Store SessionRef) (entropy : Entropy) : Realm := ⟨#[], store, entropy⟩

def create (r : Realm) : SessionRef × Realm :=
  (⟨r.sessions.size⟩, { r with sessions := r.sessions.push Session.empty })

def session (r : Realm) (ref : SessionRef) : Session := r.sessions[ref.index]?.getD Session.empty

def write (r : Realm) (ref : SessionRef) (s : Session) : Realm :=
  { r with sessions := r.sessions.setIfInBounds ref.index s }

def load? (r : Realm) (id : SessionId) : Option SessionRef := r.store.load? id

def insert (r : Realm) (ref : SessionRef) : SessionId × Realm :=
  let (id, entropy) := r.entropy.sessionId
  (id, { r with store := r.store.insert id ref, entropy := entropy })

/-- Stores so many new empty sessions: their ids in order. -/
def insertFresh (r : Realm) : Nat → List SessionId × Realm
  | 0 => ([], r)
  | n + 1 =>
    let (ref, r) := r.create
    let (id, r) := r.insert ref
    let (ids, r) := insertFresh r n
    (id :: ids, r)

def remove (r : Realm) (id : SessionId) : Realm := { r with store := r.store.remove id }

def token (ref : SessionRef) (r : Realm) : String × Realm :=
  let (token, s, entropy) := (r.session ref).authenticityToken r.entropy
  (token, { r.write ref s with entropy := entropy })

def runStep (r : Realm) (ref : SessionRef) (step : Session.Step) : Session.Answer × Realm :=
  let (answer, s, entropy) := step.run (r.session ref) r.entropy
  (answer, { r.write ref s with entropy := entropy })

def runSteps (r : Realm) (ref : SessionRef) (steps : List Session.Step) :
    List Session.Answer × Realm :=
  let (answers, s, entropy) := Session.runSteps (r.session ref) r.entropy steps
  (answers, { r.write ref s with entropy := entropy })

end Realm

end AppServer
