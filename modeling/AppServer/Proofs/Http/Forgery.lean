import AppServer.Proofs.Http.Exchange
import Mathlib.Data.List.Nodup
import Mathlib.Data.List.Pairwise

/-!
# No forged requests

In a run from an empty store, a live id was issued to a client, and the token of
a session was generated in the history of that session. An unsafe request that
reaches its handler therefore comes with an id that the layer issued and that is
still live, and with the token that was generated last for its own session. All
other unsafe requests leave no trace.
-/

namespace AppServer.Http

/-! ### The invariant -/

/-- What the past of a run has to do with the realm that it led to. -/
structure Chronicle (name : String) (past : List (Exchange ν)) (realm : Realm) : Prop where
  inStep : realm.InStep
  issued : ∀ id ref, realm.load? id = some ref → ∃ x ∈ past, x.Issues name id ∧ x.ref name = ref
  spared : ∀ id, realm.load? id ≠ none → ∀ x ∈ past, ¬ x.Expires name id ∧ ¬ x.Evicts name id
  known : ∀ x ∈ past, ∀ id, x.Expires name id ∨ x.Evicts name id →
    ∃ y ∈ past, y.Generates name id
  tokens : ∀ ref token, (realm.session ref).token? = some token →
    Session.Current (history name ref past) token

theorem chronicle_nil (name : String) (capacity : Nat) (e : Entropy) :
    Chronicle (ν := ν) name [] (Realm.new (Store.withCapacity SessionRef capacity) e) where
  inStep := Realm.inStep_new capacity e
  issued id ref hid := by
    rw [Realm.load?_new] at hid
    cases hid
  spared id _ x hx := absurd hx List.not_mem_nil
  known x hx := absurd hx List.not_mem_nil
  tokens ref token htoken := by
    have hempty : (Realm.new (Store.withCapacity SessionRef capacity) e).session ref =
        Session.empty := rfl
    rw [hempty, Session.token?, Session.get?_empty] at htoken
    cases htoken

/-! ### Ids -/

section
variable {name : String} {request : Request} {before : Realm} {ending : Ending ν}
  {outcome : Outcome ν} {id : SessionId}

theorem load?_eq_none_of_sessionAt? {realm : Realm} (h : realm.sessionAt? id = none) :
    realm.load? id = none := Option.map_eq_none_iff.mp h

theorem Settles.load?_of_takesBack (h : Settles name request before ending outcome)
    (hid : TakesBack name request before ending id) : outcome.realm.load? id = none := by
  cases h with
  | stores new generated => exact (generated.1 id hid.1).elim
  | removes held takenBack _ removed =>
    obtain rfl : held = id := takenBack.1.unique hid.1
    exact load?_eq_none_of_sessionAt? removed.gone
  | keeps _ untaken => exact (untaken id hid).elim

theorem Settles.load?_of_oldest (h : Settles name request before ending outcome) {new : SessionId}
    (hnew : Generates name request before ending new)
    (hfull : before.store.capacity ≤ before.store.size)
    (holdest : before.store.order.head? = some id) : outcome.realm.load? id = none := by
  cases h with
  | stores _ _ _ _ stored =>
    obtain ⟨oldest, rest, horder, -, hgone, -⟩ := stored.evicts hfull
    rw [horder, List.head?_cons, Option.some.injEq] at holdest
    exact load?_eq_none_of_sessionAt? (holdest ▸ hgone)
  | removes held takenBack => exact (hnew.1 held takenBack.1).elim
  | keeps unissued => exact (unissued new hnew).elim

end

namespace Chronicle

variable {name : String} {past : List (Exchange ν)} {realm : Realm} {visit : Visit ν}

theorem generated (h : Chronicle name past realm) {id : SessionId} (hid : realm.load? id ≠ none) :
    ∃ x ∈ past, x.Generates name id := by
  obtain ⟨ref, hload⟩ := Option.ne_none_iff_exists'.mp hid
  obtain ⟨x, hx, hissues, -⟩ := h.issued id ref hload
  exact ⟨x, hx, hissues.1⟩

/-- An id that no past exchange generated is not live. -/
theorem fresh (h : Chronicle name past realm)
    (hids : ∀ x ∈ past, ∀ id, x.Generates name id → ¬ (visit.serve name realm).Generates name id) :
    ∀ id, Generates name visit.request realm ((visit.serve name realm).ending name) id →
      realm.load? id = none := by
  intro id hid
  by_contra hlive
  obtain ⟨x, hx, hgenerates⟩ := h.generated hlive
  exact hids x hx id hgenerates hid

theorem live_of_lost (h : Chronicle name past realm) {id : SessionId}
    (hid : (visit.serve name realm).Expires name id ∨ (visit.serve name realm).Evicts name id) :
    realm.load? id ≠ none := by
  rcases hid with hexpires | ⟨-, -, holdest⟩
  · exact hexpires.1.2
  · rw [Realm.load?, ← h.inStep.sound.store.mem_order]
    exact List.mem_of_head? holdest

/-- The token of a session is that of its history, whichever way the exchange goes. -/
theorem tokens_step (h : Chronicle name past realm)
    (hforges : ∀ p ∈ (visit.serve name realm).performed name, ¬ p.Forges) (ref : SessionRef)
    (token : String)
    (htoken : ((visit.serve name realm).outcome.realm.session ref).token? = some token) :
    Session.Current (history name ref (past ++ [visit.serve name realm])) token := by
  have hsound := h.inStep.sound
  have hopened := h.tokens (openedRef name visit.request realm)
  have href : (visit.serve name realm).ref name = openedRef name visit.request realm := rfl
  rw [(Visit.serves name hsound visit).session_eq hsound] at htoken
  rw [history_append_singleton, href]
  split at htoken
  · next heq =>
    rw [if_pos heq, ← heq]
    by_cases haccepts : Accepts (opened name visit.request realm) visit.request
    · obtain ⟨-, hending, hperformed⟩ := Visit.serve_of_accepts hsound haccepts
      rw [hending] at htoken
      rw [hperformed] at hforges ⊢
      exact Routine.current_ending _ hopened hforges token htoken
    · obtain ⟨-, hperformed, status, text, hending⟩ := Visit.serve_of_not_accepts hsound haccepts
      rw [hending] at htoken
      rw [hperformed, List.append_nil]
      exact hopened token htoken
  · next hne =>
    rw [if_neg hne, List.append_nil]
    exact h.tokens ref token htoken

/-- The invariant is kept by an exchange that generates no id again and does not set the token. -/
theorem step (h : Chronicle name past realm) (hname : IsSessionCookie name)
    (hids : ∀ x ∈ past, ∀ id, x.Generates name id → ¬ (visit.serve name realm).Generates name id)
    (hforges : ∀ p ∈ (visit.serve name realm).performed name, ¬ p.Forges) :
    Chronicle name (past ++ [visit.serve name realm]) (visit.serve name realm).outcome.realm := by
  have hsound := h.inStep.sound
  have hserves := Visit.serves name hsound visit
  have hsettles := hserves.settles hname hsound (h.fresh hids)
  refine ⟨hserves.inStep h.inStep (h.fresh hids), ?_, ?_, ?_, h.tokens_step hforges⟩
  · intro id ref hid
    rcases hserves.live_before hsound hid with hbefore | ⟨generates, rfl⟩
    · obtain ⟨x, hx, hissued⟩ := h.issued id ref hbefore
      exact ⟨x, List.mem_append_left _ hx, hissued⟩
    · exact ⟨visit.serve name realm, List.mem_append_right _ List.mem_cons_self,
        ⟨generates, (hsettles.of_generates generates).1⟩, rfl⟩
  · intro id hid x hx
    rw [List.mem_append, List.mem_singleton] at hx
    rcases hx with hx | rfl
    · obtain ⟨ref, hload⟩ := Option.ne_none_iff_exists'.mp hid
      rcases hserves.live_before hsound hload with hbefore | ⟨generates, -⟩
      · exact h.spared id (hbefore ▸ Option.some_ne_none ref) x hx
      · -- the id is new, so that nothing in the past can have lost it
        rw [← not_or]
        intro hlost
        obtain ⟨y, hy, hgenerates⟩ := h.known x hx id hlost
        exact hids y hy id hgenerates generates
    · refine ⟨fun hexpires => hid (hsettles.load?_of_takesBack hexpires), ?_⟩
      rintro ⟨⟨new, hnew⟩, hfull, holdest⟩
      exact hid (hsettles.load?_of_oldest hnew hfull holdest)
  · intro x hx id hlost
    rw [List.mem_append, List.mem_singleton] at hx
    have hknown : ∃ y ∈ past, y.Generates name id := by
      rcases hx with hx | rfl
      · exact h.known x hx id hlost
      · exact h.generated (h.live_of_lost hlost)
    obtain ⟨y, hy, hgenerates⟩ := hknown
    exact ⟨y, List.mem_append_left _ hy, hgenerates⟩

end Chronicle

/-! ### Runs -/

/-- Before each exchange of a run, the invariant holds of those that came before it. -/
theorem Chronicle.run {name : String} (hname : IsSessionCookie name) {visits : List (Visit ν)}
    {past : List (Exchange ν)} {realm : Realm} (h : Chronicle name past realm)
    (hids : (past ++ trace name realm visits).Pairwise
      fun x y => ∀ id, x.Generates name id → ¬ y.Generates name id)
    (hforges : ∀ x ∈ trace name realm visits, ∀ p ∈ x.performed name, ¬ p.Forges)
    {before : List (Exchange ν)} {x : Exchange ν} {rest : List (Exchange ν)}
    (hrun : trace name realm visits = before ++ x :: rest) :
    Chronicle name (past ++ before) x.before ∧ x.toVisit.serve name x.before = x := by
  induction visits generalizing past realm before with
  | nil => exact (List.append_ne_nil_of_right_ne_nil _ (List.cons_ne_nil _ _) hrun.symm).elim
  | cons visit visits ih =>
    rw [trace] at hids hforges hrun
    rw [List.forall_mem_cons] at hforges
    cases before with
    | nil =>
      rw [List.nil_append, List.cons.injEq] at hrun
      obtain ⟨rfl, -⟩ := hrun
      rw [List.append_nil]
      exact ⟨h, rfl⟩
    | cons first before =>
      rw [List.cons_append, List.cons.injEq] at hrun
      obtain ⟨rfl, hrest⟩ := hrun
      have hfirst : ∀ y ∈ past, ∀ id, y.Generates name id →
          ¬ (visit.serve name realm).Generates name id :=
        fun y hy => (List.pairwise_append.mp hids).2.2 y hy _ List.mem_cons_self
      rw [List.append_cons] at hids ⊢
      exact ih (h.step hname hfirst hforges.1) hids hforges.2 hrest

/-- A token is generated in one exchange of a run only. -/
theorem Distinct.exchange_eq {name : String} {run : List (Exchange ν)} (h : Distinct name run)
    {x y : Exchange ν} (hx : x ∈ run) (hy : y ∈ run) {p q : Session.Performed} {token : String}
    (hp : p ∈ x.performed name) (hq : q ∈ y.performed name) (hptoken : p.generated? = some token)
    (hqtoken : q.generated? = some token) : x = y := by
  by_contra hne
  have htokens := h.tokens
  rw [List.filterMap_flatMap, List.nodup_flatMap] at htokens
  have hsymm : Std.Symm (Function.onFun List.Disjoint fun z : Exchange ν =>
      (z.performed name).filterMap Session.Performed.generated?) :=
    ⟨fun _ _ hdisjoint => List.disjoint_symm hdisjoint⟩
  have hdisjoint := htokens.2.forall hx hy hne
  exact hdisjoint (List.mem_filterMap.mpr ⟨p, hp, hptoken⟩) (List.mem_filterMap.mpr ⟨q, hq, hqtoken⟩)

/-! ### Unsafe requests -/

/-- A request comes with an id that was issued for its session and is not lost since, and with the
token that was generated last for that session. -/
structure Authentic (name : String) (past : List (Exchange ν)) (x : Exchange ν) : Prop where
  cookie : ∃ id, FirstPair x.request.headers.cookies name id ∧
    x.before.load? id = some (x.ref name) ∧
    (∃ y ∈ past, y.Issues name id ∧ y.ref name = x.ref name) ∧
    ∀ y ∈ past, ¬ y.Expires name id ∧ ¬ y.Evicts name id
  token : ∃ token, Offers x.request token ∧
    Session.Current (history name (x.ref name) past) token

/-- An exchange without its handler leaves no trace in headers, store or stored sessions. -/
structure Traceless (x : Exchange ν) : Prop where
  silent : x.outcome.report = none
  headers : ∀ header ∈ x.outcome.response.headers, lowerName header.1 ≠ "set-cookie"
  store : x.outcome.realm.store = x.before.store
  sessions : ∀ id, x.outcome.realm.sessionAt? id = x.before.sessionAt? id

namespace Chronicle

variable {name : String} {past : List (Exchange ν)} {realm : Realm}

theorem authentic (h : Chronicle name past realm) {visit : Visit ν}
    (hmethod : ¬ IsSafe visit.request.method)
    (hran : (visit.serve name realm).outcome.report ≠ none) :
    Authentic name past (visit.serve name realm) := by
  have haccepts : Accepts (opened name visit.request realm) visit.request := by
    by_contra hrejects
    exact hran (Visit.serve_of_not_accepts h.inStep.sound hrejects).1
  obtain ⟨token, htoken, hoffers⟩ := haccepts.resolve_left hmethod
  refine ⟨?_, token, hoffers, h.tokens _ token htoken⟩
  -- a new session holds no token, so that a stored one is presented
  have hpresents : ∃ id, Presents name visit.request realm id := by
    by_contra habsent
    rw [opened_of_absent (not_exists.mp habsent), Session.token?, Session.get?_empty] at htoken
    cases htoken
  obtain ⟨id, hid⟩ := hpresents
  have hload := openedRef_of_presents hid
  exact ⟨id, hid.1, hload, h.issued id _ hload, h.spared id hid.2⟩

theorem traceless (h : Chronicle name past realm) (hname : IsSessionCookie name) {visit : Visit ν}
    (hsilent : (visit.serve name realm).outcome.report = none) :
    Traceless (visit.serve name realm) := by
  have hsound := h.inStep.sound
  have hrejects : ¬ Accepts (opened name visit.request realm) visit.request :=
    fun haccepts => (Visit.serve_of_accepts hsound haccepts).1 hsilent
  obtain ⟨-, -, status, text, hending⟩ := Visit.serve_of_not_accepts hsound hrejects
  have hsession : ((visit.serve name realm).ending name).session =
      opened name visit.request realm := by rw [hending]
  have hunissued : ∀ id, ¬ (visit.serve name realm).Generates name id := by
    rintro id ⟨absent, filled, -⟩
    have hempty : opened name visit.request realm = Session.empty := opened_of_absent absent
    rw [hsession, hempty] at filled
    cases filled
  have huntaken : ∀ id, ¬ (visit.serve name realm).Expires name id := by
    rintro id ⟨presents, emptied⟩
    have hfilled : (opened name visit.request realm).isEmpty = false :=
      h.inStep.filled id _ (opened_of_presents presents)
    rw [hsession, hfilled] at emptied
    cases emptied
  have hsettles := (Visit.serves name hsound visit).settles hname hsound
    fun id hid => (hunissued id hid).elim
  cases hsettles with
  | stores id generated => exact (hunissued id generated).elim
  | removes id takenBack => exact (huntaken id takenBack).elim
  | keeps _ _ headers store worked others =>
    refine ⟨hsilent, fun header hheader => ?_, store, fun id => ?_⟩
    · rw [headers, hending, Response.ofText, List.mem_singleton] at hheader
      rw [hheader]
      decide
    · by_cases presents : Presents name visit.request realm id
      · rw [worked id presents, hsession]
        exact (opened_of_presents presents).symm
      · exact others id presents

end Chronicle

/-- In every run of requests from an empty store, whose handlers do not set the token's key, an unsafe
request reaches its handler only if it is authentic; otherwise it is traceless. So it is with an id
that was never issued, or was expired or evicted, and with the token of another session. -/
theorem state_change_authentic {name : String} (hname : IsSessionCookie name) (capacity : Nat)
    (e : Entropy) (visits : List (Visit ν)) :
    let run := trace name (Realm.new (Store.withCapacity SessionRef capacity) e) visits
    Distinct name run → (∀ x ∈ run, ∀ p ∈ x.performed name, ¬ p.Forges) →
    ∀ past x rest, run = past ++ x :: rest → ¬ IsSafe x.request.method →
      (x.outcome.report ≠ none → Authentic name past x) ∧
      (x.outcome.report = none → Traceless x) ∧
      ((∀ id, FirstPair x.request.headers.cookies name id → (∀ y ∈ past, ¬ y.Issues name id) ∨
        ∃ y ∈ past, y.Expires name id ∨ y.Evicts name id) → Traceless x) ∧
      ∀ token, Offers x.request token → (∃ y ∈ past, y.ref name ≠ x.ref name ∧
        ∃ p ∈ y.performed name, p.generated? = some token) → Traceless x := by
  intro run hdistinct hforges past x rest hrun hmethod
  obtain ⟨hchronicle, hx⟩ := (chronicle_nil name capacity e).run hname
    (by rw [List.nil_append]; exact hdistinct.ids) hforges hrun
  rw [List.nil_append] at hchronicle
  have hauthentic : x.outcome.report ≠ none → Authentic name past x := by
    rw [← hx]
    exact hchronicle.authentic hmethod
  have htraceless : x.outcome.report = none → Traceless x := by
    rw [← hx]
    exact hchronicle.traceless hname
  refine ⟨hauthentic, htraceless, fun hlost => ?_, fun token hoffers hother => ?_⟩
  · refine htraceless ?_
    by_contra hran
    obtain ⟨id, hfirst, -, ⟨y, hy, hissues, -⟩, hspared⟩ := (hauthentic hran).cookie
    rcases hlost id hfirst with hnever | ⟨z, hz, hgone⟩
    · exact hnever y hy hissues
    · exact not_or.mpr (hspared z hz) hgone
  · refine htraceless ?_
    by_contra hran
    obtain ⟨current, hcurrent, hhistory⟩ := (hauthentic hran).token
    obtain rfl := hcurrent.unique hoffers
    obtain ⟨p, hp, hptoken⟩ := hhistory.generated
    obtain ⟨z, hz, hpz⟩ := List.mem_flatMap.mp hp
    obtain ⟨y, hy, href, q, hq, hqtoken⟩ := hother
    split at hpz
    · next hzref =>
      have hpast {w : Exchange ν} (hw : w ∈ past) : w ∈ run := hrun ▸ List.mem_append_left _ hw
      obtain rfl := hdistinct.exchange_eq (hpast hz) (hpast hy) hpz hq hptoken hqtoken
      exact href hzref
    · cases hpz

def showForm : Request → Routine Unit := fun _ =>
  .perform .token fun _ => .respond (Response.ofText 200 "form") ()

def keepNote : Request → Routine Unit := fun _ =>
  .perform (.put "note" "milk") fun _ => .respond (Response.ofText 200 "kept") ()

/-- The form is fetched and sent; then a stranger sends it with an id that was made up. -/
def noteRun : List (Exchange Unit) :=
  trace "TRELLIS_SESSION" (Realm.new (Store.withCapacity SessionRef 1) countingEntropy)
    [⟨⟨"GET", Target.ofText "/note", [], []⟩, showForm⟩,
      ⟨⟨"POST", Target.ofText "/note",
        [("Cookie", Bytes.ofText "TRELLIS_SESSION=AQEBAQEBAQEBAQEBAQEBAQEBAQEBAQEB"),
          ("X-Authenticity-Token", Bytes.ofText "AAAAAAAAAAAAAAAAAAAAAA")], []⟩, keepNote⟩,
      ⟨⟨"POST", Target.ofText "/note",
        [("Cookie", Bytes.ofText "TRELLIS_SESSION=made-up"),
          ("X-Authenticity-Token", Bytes.ofText "AAAAAAAAAAAAAAAAAAAAAA")], []⟩, keepNote⟩]

theorem state_change_authentic_noteRun :
    IsSessionCookie "TRELLIS_SESSION" ∧ Distinct "TRELLIS_SESSION" noteRun ∧
    (∀ x ∈ noteRun, ∀ p ∈ x.performed "TRELLIS_SESSION", ¬ p.Forges) ∧
    ∃ shown kept stranger, noteRun = [shown, kept, stranger] ∧
      (¬ IsSafe kept.request.method ∧ kept.outcome.report ≠ none ∧
        Authentic "TRELLIS_SESSION" [shown] kept) ∧
      ¬ IsSafe stranger.request.method ∧ Traceless stranger := by
  have hname : IsSessionCookie "TRELLIS_SESSION" :=
    ⟨" TRELLIS ", ⟨none, none, "", "TRELLIS"⟩, by decide +kernel, by decide⟩
  obtain ⟨shown, kept, stranger, hrun⟩ : ∃ shown kept stranger, noteRun = [shown, kept, stranger] :=
    ⟨_, _, _, rfl⟩
  have hreports : noteRun.map (fun x => x.outcome.report) = [some (), some (), none] := by
    decide +kernel
  have hmethods : noteRun.map (fun x => x.request.method) = ["GET", "POST", "POST"] := by
    decide +kernel
  have hissuing : noteRun.map (fun x => (presented? "TRELLIS_SESSION" x.request x.before).isNone &&
      !(x.ending "TRELLIS_SESSION").session.isEmpty) = [true, false, false] := by decide +kernel
  have htokens : ((noteRun.flatMap (Exchange.performed "TRELLIS_SESSION")).filterMap
      Session.Performed.generated?) = ["AAAAAAAAAAAAAAAAAAAAAA"] := by decide +kernel
  have hsteps : (noteRun.flatMap (Exchange.performed "TRELLIS_SESSION")).map (·.step) =
      [.token, .put "note" "milk"] := by decide +kernel
  have hforges : ∀ x ∈ noteRun, ∀ p ∈ x.performed "TRELLIS_SESSION", ¬ p.Forges := by
    rintro x hx p hp ⟨value, hput⟩
    have hmem := List.mem_map.mpr ⟨p, List.mem_flatMap.mpr ⟨x, hx, hp⟩, hput⟩
    rw [hsteps] at hmem
    simp at hmem
  have hquiet (x : Exchange Unit) (h : ((presented? "TRELLIS_SESSION" x.request x.before).isNone &&
      !(x.ending "TRELLIS_SESSION").session.isEmpty) = false) (id : SessionId) :
      ¬ x.Generates "TRELLIS_SESSION" id := by
    rintro ⟨absent, filled, -⟩
    rw [presented?_eq_none_iff.mpr absent, filled] at h
    cases h
  rw [hrun, List.map_cons, List.map_cons, List.map_cons, List.map_nil] at hreports hmethods hissuing
  simp only [List.cons.injEq, and_true] at hreports hmethods hissuing
  have hdistinct : Distinct "TRELLIS_SESSION" noteRun := by
    refine ⟨?_, ?_⟩
    · rw [hrun]
      refine .cons ?_ (.cons ?_ (.cons ?_ .nil))
      · intro x hx id _
        rw [List.mem_cons, List.mem_singleton] at hx
        rcases hx with rfl | rfl
        · exact hquiet _ hissuing.2.1 id
        · exact hquiet _ hissuing.2.2 id
      · intro x hx id _
        rw [List.mem_singleton] at hx
        subst hx
        exact hquiet _ hissuing.2.2 id
      · exact fun x hx => absurd hx List.not_mem_nil
    · rw [htokens]
      exact List.nodup_singleton _
  have hkept : ¬ IsSafe kept.request.method := by simp [hmethods.2.1, IsSafe]
  have hstranger : ¬ IsSafe stranger.request.method := by simp [hmethods.2.2, IsSafe]
  have hran : kept.outcome.report ≠ none := by simp [hreports.2.1]
  obtain ⟨hauthentic, -⟩ := state_change_authentic hname 1 countingEntropy _ hdistinct hforges
    [shown] kept [stranger] hrun hkept
  obtain ⟨-, htraceless, -⟩ := state_change_authentic hname 1 countingEntropy _ hdistinct hforges
    [shown, kept] stranger [] hrun hstranger
  exact ⟨hname, hdistinct, hforges, shown, kept, stranger, hrun, ⟨hkept, hran, hauthentic hran⟩,
    hstranger, htraceless hreports.2.2⟩

end AppServer.Http
