import AppServer.Proofs.Http.SessionLayer
import AppServer.Proofs.Session.Token

/-!
# Exchanges, one after another

Requests come one after another to a session layer around the authenticity
check. Each of them is an exchange: it works on one session, performs operations
when its handler runs, and may make the layer generate an id, expire one or evict
one. The history of a session is what the exchanges on it have performed.
-/

namespace AppServer.Http

/-! ### Operations of a routine -/

def Routine.performed (s : Session) (e : Entropy) : Routine ν → List Session.Performed
  | .respond _ _ => []
  | .perform step next =>
    let (answer, after, rest) := step.run s e
    ⟨s, step, answer⟩ :: (next answer).performed after rest

theorem Routine.current_ending (routine : Routine ν) {s : Session} {e : Entropy}
    {history : List Session.Performed}
    (h : ∀ token, s.token? = some token → Session.Current history token)
    (hforges : ∀ p ∈ routine.performed s e, ¬ p.Forges) :
    ∀ token, (routine.ending s e).session.token? = some token →
      Session.Current (history ++ routine.performed s e) token := by
  induction routine generalizing s e history with
  | respond response report =>
    intro token htoken
    rw [Routine.performed, List.append_nil]
    exact h token htoken
  | perform step next ih =>
    simp only [Routine.performed, List.forall_mem_cons] at hforges
    have hstep := Session.current_step h e step hforges.1
    have hnext := ih (step.run s e).1 hstep hforges.2
    intro token htoken
    rw [Routine.performed, List.append_cons]
    exact hnext token htoken

/-! ### Exchanges -/

/-- A request and the handler that it is for. -/
structure Visit (ν : Type) where
  request : Request
  handler : Request → Routine ν

/-- A visit that has been served, with the realm before it and what came of it. -/
structure Exchange (ν : Type) extends Visit ν where
  before : Realm
  outcome : Outcome ν

/-- Serves a visit: the session layer stands outside of the authenticity check. -/
def Visit.serve (name : String) (visit : Visit ν) (realm : Realm) : Exchange ν :=
  ⟨visit, realm,
    sessionLayer name (requireToken (Handler.ofRoutine visit.handler)) visit.request none realm⟩

def trace (name : String) (realm : Realm) : List (Visit ν) → List (Exchange ν)
  | [] => []
  | visit :: rest =>
    visit.serve name realm :: trace name (visit.serve name realm).outcome.realm rest

namespace Exchange

variable (name : String) (x : Exchange ν)

/-- The identity of the session that an exchange is about. -/
def ref : SessionRef := openedRef name x.request x.before

/-- What the check and the handler leave to the layer. -/
def ending : Ending ν :=
  guarded x.request (fun s e => (x.handler x.request).ending s e)
    (opened name x.request x.before) x.before.entropy

/-- The operations that are performed on the session; none when the handler does not run. -/
def performed : List Session.Performed :=
  match x.outcome.report with
  | some _ => (x.handler x.request).performed (opened name x.request x.before) x.before.entropy
  | none => []

/-- The layer generates an id for the session. -/
def Generates (id : SessionId) : Prop :=
  Http.Generates name x.request x.before (x.ending name) id

/-- The layer issues an id: it generates it and adds a cookie of it to the response. -/
def Issues (id : SessionId) : Prop :=
  x.Generates name id ∧ x.outcome.response.headers = (x.ending name).response.headers ++
    [("set-cookie", Bytes.ofText (name ++ "=" ++ id ++ "; Path=/; HttpOnly; SameSite=Lax"))]

/-- The layer expires an id. -/
def Expires (id : SessionId) : Prop := TakesBack name x.request x.before (x.ending name) id

/-- The store evicts an id: it is full, the id is its oldest, and another is generated. -/
def Evicts (id : SessionId) : Prop :=
  (∃ new, x.Generates name new) ∧ x.before.store.capacity ≤ x.before.store.size ∧
    x.before.store.order.head? = some id

end Exchange

/-- What the exchanges about a session have performed on it. -/
def history (name : String) (ref : SessionRef) (past : List (Exchange ν)) : List Session.Performed :=
  past.flatMap fun x => if x.ref name = ref then x.performed name else []

/-- No id is generated twice in a run, and no token. -/
structure Distinct (name : String) (run : List (Exchange ν)) : Prop where
  ids : run.Pairwise fun x y => ∀ id, x.Generates name id → ¬ y.Generates name id
  tokens : ((run.flatMap (Exchange.performed name)).filterMap Session.Performed.generated?).Nodup

/-! ### One exchange -/

theorem history_append_singleton (name : String) (ref : SessionRef) (past : List (Exchange ν))
    (x : Exchange ν) : history name ref (past ++ [x]) =
      history name ref past ++ if x.ref name = ref then x.performed name else [] := by
  simp [history]

theorem Serves.session_eq {name : String} {request : Request} {realm : Realm} {ending : Ending ν}
    {outcome : Outcome ν} (h : Serves name request realm ending outcome) (hsound : realm.Sound)
    (ref : SessionRef) : outcome.realm.session ref =
      if openedRef name request realm = ref then ending.session else realm.session ref := by
  have hbegin (absent : ∀ id, ¬ Presents name request realm id) :
      (realm.begin ending.session ending.entropy).session ref =
        if openedRef name request realm = ref then ending.session else realm.session ref := by
    rw [openedRef_of_absent absent]
    split
    · next heq => rw [← heq, Realm.session_begin]
    · next hne => exact realm.session_begin_of_ne hne _ _
  have hupdate {id : SessionId} (presents : Presents name request realm id) :
      (realm.update (openedRef name request realm) ending.session ending.entropy).session ref =
        if openedRef name request realm = ref then ending.session else realm.session ref := by
    have hexists := hsound.exist id _ (openedRef_of_presents presents)
    split
    · next heq => rw [← heq, Realm.session_update_self hexists]
    · next hne => rw [Realm.session_update_of_ne realm hne]
  cases h with
  | kept presents => exact hupdate presents
  | dropped presents => exact hupdate presents
  | ignored absent => exact hbegin absent
  | stored absent => exact hbegin absent

theorem Routine.report_ending (routine : Routine ν) (s : Session) (e : Entropy) :
    (routine.ending s e).report ≠ none := by
  induction routine generalizing s e with
  | respond response report => exact Option.some_ne_none report
  | perform step next ih => exact ih _ _ _

namespace Visit

variable {name : String} {realm : Realm}

theorem serves (name : String) (h : realm.Sound) (visit : Visit ν) :
    Serves name visit.request realm ((visit.serve name realm).ending name)
      (visit.serve name realm).outcome :=
  sessionLayer_serves
    (requireToken_worksOn (Handler.ofRoutine_worksOn visit.handler visit.request)) h name none

theorem serve_of_accepts (h : realm.Sound) {visit : Visit ν}
    (haccepts : Accepts (opened name visit.request realm) visit.request) :
    let s := opened name visit.request realm
    let x := visit.serve name realm
    x.outcome.report ≠ none ∧ x.ending name = (visit.handler visit.request).ending s realm.entropy ∧
      x.performed name = (visit.handler visit.request).performed s realm.entropy := by
  intro s x
  have hending : x.ending name = (visit.handler visit.request).ending s realm.entropy :=
    guarded_of_accepts haccepts _ _
  have hreport : x.outcome.report ≠ none := by
    rw [(serves name h visit).response_eq.1, hending]
    exact Routine.report_ending _ _ _
  refine ⟨hreport, hending, ?_⟩
  obtain ⟨report, hsome⟩ := Option.ne_none_iff_exists'.mp hreport
  simp only [Exchange.performed, hsome]
  rfl

theorem serve_of_not_accepts (h : realm.Sound) {visit : Visit ν}
    (hrejects : ¬ Accepts (opened name visit.request realm) visit.request) :
    let s := opened name visit.request realm
    let x := visit.serve name realm
    x.outcome.report = none ∧ x.performed name = [] ∧
      ∃ status text, x.ending name = ⟨Response.ofText status text, none, s, realm.entropy⟩ := by
  intro s x
  obtain ⟨status, text, hguarded⟩ := guarded_of_not_accepts hrejects
    (fun s e => (visit.handler visit.request).ending s e) realm.entropy
  have hending : x.ending name = ⟨Response.ofText status text, none, s, realm.entropy⟩ := hguarded
  have hreport : x.outcome.report = none := by rw [(serves name h visit).response_eq.1, hending]
  refine ⟨hreport, ?_, status, text, hending⟩
  simp only [Exchange.performed, hreport]

end Visit

end AppServer.Http
