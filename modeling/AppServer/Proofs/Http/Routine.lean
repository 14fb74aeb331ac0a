import AppServer.Proofs.Http.Authenticity
import AppServer.Proofs.Session.Realm

/-!
# Handlers that work on their session

What a handler does with its session is a sequence of operations, each chosen by
what those before it answered, and a response at the end. Such a handler touches
no other session: all it leaves is its own session as it ends and the rest of
the source of random texts. Behind the authenticity check this stays so.
-/

namespace AppServer.Http

/-! ### Routines -/

/-- The work of a handler on its session. -/
inductive Routine (ν : Type) where
  | respond (response : Response) (report : ν)
  | perform (step : Session.Step) (next : Session.Answer → Routine ν)

/-- What work on a session leaves. -/
structure Ending (ν : Type) where
  response : Response
  /-- What the handler reports; none when it did not run. -/
  report : Option ν
  session : Session
  entropy : Entropy

def Routine.ending (s : Session) (e : Entropy) : Routine ν → Ending ν
  | .respond response report => ⟨response, some report, s, e⟩
  | .perform step next =>
    let (answer, s, e) := step.run s e
    (next answer).ending s e

def Routine.run (ref : SessionRef) : Routine ν → Realm → Outcome ν
  | .respond response report, realm => ⟨response, realm, some report⟩
  | .perform step next, realm =>
    let (answer, realm) := realm.runStep ref step
    (next answer).run ref realm

/-- The handler that runs a routine for each request. -/
def Handler.ofRoutine (routine : Request → Routine ν) : Handler ν :=
  needSession fun request ref realm => (routine request).run ref realm

def Ending.outcome (ending : Ending ν) (ref : SessionRef) (realm : Realm) : Outcome ν :=
  ⟨ending.response, realm.update ref ending.session ending.entropy, ending.report⟩

/-- A handler answers a request by work on its session alone. -/
def Handler.WorksOn (inner : Handler ν) (request : Request) (work : Session → Entropy → Ending ν) :
    Prop :=
  ∀ ref realm, ref.index < realm.sessions.size →
    inner request (some ref) realm = (work (realm.session ref) realm.entropy).outcome ref realm

theorem Routine.run_eq {ref : SessionRef} {realm : Realm}
    (h : ref.index < realm.sessions.size) (routine : Routine ν) :
    routine.run ref realm = (routine.ending (realm.session ref) realm.entropy).outcome ref realm := by
  induction routine generalizing realm with
  | respond response report =>
    simp only [Routine.run, Routine.ending, Ending.outcome, Realm.update_session h]
  | perform step next ih =>
    -- after one operation the session is the one that the operation leaves
    have hsize := realm.size_update ref (step.run (realm.session ref) realm.entropy).2.1
      (step.run (realm.session ref) realm.entropy).2.2
    rw [Routine.run, Realm.runStep_eq]
    simp only [Routine.ending]
    rw [ih _ (hsize ▸ h), Realm.session_update_self h]
    simp only [Ending.outcome, Realm.update_update]
    rfl

theorem Handler.ofRoutine_worksOn (routine : Request → Routine ν) (request : Request) :
    (Handler.ofRoutine routine).WorksOn request fun s e => (routine request).ending s e :=
  fun _ _ h => Routine.run_eq h (routine request)

/-! ### Behind the check -/

/-- How work ends behind the authenticity check: a request that may not pass changes nothing. -/
def guarded (request : Request) (work : Session → Entropy → Ending ν) (s : Session) (e : Entropy) :
    Ending ν :=
  match (judge s request).rejection? with
  | some response => ⟨response, none, s, e⟩
  | none => work s e

theorem requireToken_worksOn {inner : Handler ν} {request : Request}
    {work : Session → Entropy → Ending ν} (h : inner.WorksOn request work) :
    (requireToken inner).WorksOn request (guarded request work) := by
  intro ref realm hexists
  cases hrejection : (judge (realm.session ref) request).rejection? with
  | some response =>
    simp only [requireToken, guarded, hrejection, Ending.outcome, Realm.update_session hexists]
  | none =>
    simp only [requireToken, guarded, hrejection]
    exact h ref realm hexists

theorem guarded_of_accepts {request : Request} {s : Session} (h : Accepts s request)
    (work : Session → Entropy → Ending ν) (e : Entropy) : guarded request work s e = work s e := by
  simp only [guarded, rejection?_of_accepts h]

theorem guarded_of_not_accepts {request : Request} {s : Session} (h : ¬ Accepts s request)
    (work : Session → Entropy → Ending ν) (e : Entropy) :
    ∃ status text, guarded request work s e = ⟨Response.ofText status text, none, s, e⟩ := by
  obtain ⟨status, text, hrejection, -⟩ := rejection?_of_not_accepts h
  refine ⟨status, text, ?_⟩
  simp only [guarded, hrejection]

theorem status_guarded {request : Request} {s : Session} (h : ¬ Accepts s request) (hfits : ¬ Oversized request)
    (work : Session → Entropy → Ending ν) (e : Entropy) : (guarded request work s e).response.status = 403 := by
  obtain ⟨status, text, hrejection, -, hforbidden⟩ := rejection?_of_not_accepts h
  simp only [guarded, hrejection]
  exact hforbidden.mpr hfits

end AppServer.Http
