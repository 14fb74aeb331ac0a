import Std.Data.TreeMap
import AppServer.Session.Entropy

/-!
# Sessions

The values that a user's session holds under keys. One key holds the
authenticity token, which is drawn when it is first asked for and stays until
it is removed or the session is cleared. A candidate is verified against the
token byte for byte; looking at a session never changes it.
-/

namespace AppServer

structure Session where
  values : Std.TreeMap String String

namespace Session

def empty : Session := ⟨{}⟩

instance : Inhabited Session := ⟨empty⟩

def authenticityKey : String := "_authenticity"

def get? (s : Session) (key : String) : Option String := s.values[key]?

def put (s : Session) (key value : String) : Session := ⟨s.values.insert key value⟩

def remove (s : Session) (key : String) : Session := ⟨s.values.erase key⟩

def isEmpty (s : Session) : Bool := s.values.isEmpty

theorem get?_empty (key : String) : empty.get? key = none := by
  simp [get?, empty]

theorem get?_put (s : Session) (key value other : String) :
    (s.put key value).get? other = if key = other then some value else s.get? other := by
  simp [get?, put, Std.TreeMap.getElem?_insert, Std.LawfulEqCmp.compare_eq_iff_eq]

theorem get?_remove (s : Session) (key other : String) :
    (s.remove key).get? other = if key = other then none else s.get? other := by
  simp [get?, remove, Std.TreeMap.getElem?_erase, Std.LawfulEqCmp.compare_eq_iff_eq]

def token? (s : Session) : Option String := s.get? authenticityKey

def authenticityToken (s : Session) (e : Entropy) : String × Session × Entropy :=
  match s.token? with
  | some token => (token, s, e)
  | none =>
    let (token, e) := e.token
    (token, s.put authenticityKey token, e)

def verify (s : Session) (candidate : String) : Bool := s.token? = some candidate

/-! ### Steps -/

inductive Step where
  | token
  | get (key : String)
  | put (key value : String)
  | remove (key : String)
  | clear
  | isEmpty
  | verify (candidate : String)
deriving DecidableEq, Repr

inductive Answer where
  | text (value : String)
  | value (found : Option String)
  | flag (value : Bool)
deriving DecidableEq, Repr

/-- Runs an operation; those that change the session answer whether it is empty afterwards. -/
def Step.run (s : Session) (e : Entropy) : Step → Answer × Session × Entropy
  | .token =>
    let (text, s, e) := s.authenticityToken e
    (.text text, s, e)
  | .get key => (.value (s.get? key), s, e)
  | .put key value => let s := s.put key value; (.flag s.isEmpty, s, e)
  | .remove key => let s := s.remove key; (.flag s.isEmpty, s, e)
  | .clear => (.flag Session.empty.isEmpty, Session.empty, e)
  | .isEmpty => (.flag s.isEmpty, s, e)
  | .verify candidate => (.flag (s.verify candidate), s, e)

def runSteps (s : Session) (e : Entropy) : List Step → List Answer × Session × Entropy
  | [] => ([], s, e)
  | step :: rest =>
    let (answer, s, e) := step.run s e
    let (answers, s, e) := runSteps s e rest
    (answer :: answers, s, e)

end Session

end AppServer
