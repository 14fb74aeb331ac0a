import AppServer.Proofs.Config.Settings
import AppServer.Proofs.Http.Routine

/-!
# What the session layer does with one request

The layer shows the handler the stored session that the request presents, or a
new empty one, and settles afterwards what the handler leaves: a new session that
holds something is stored under a generated id, a stored one that is left empty
is removed, and in all other cases store and headers stay as they are. Stored
sessions are therefore never empty, and no id becomes live but a generated one.
-/

namespace AppServer.Http

/-! ### The texts of the session cookie -/

/-- A name of the session cookie, made from an accepted cookie prefix. -/
def IsSessionCookie (name : String) : Prop :=
  ∃ (raw : String) (settings : ServerSettings),
    ServerSettings.normalizeCookiePrefix raw = .ok settings.cookiePrefix ∧
      name = settings.sessionCookieName

theorem visible_of_all {text : String}
    (h : text.toList.all (fun c => 32 ≤ c.toNat && c.toNat < 127) = true) :
    ∀ c ∈ text.toList, IsVisible c := by
  intro c hc
  have hvisible := List.all_eq_true.mp h c hc
  rw [Bool.and_eq_true, decide_eq_true_eq, decide_eq_true_eq] at hvisible
  exact hvisible

theorem IsSessionCookie.isSymbol {name : String} (h : IsSessionCookie name) :
    ∀ c ∈ name.toList, Text.Base64.IsSymbol c := by
  obtain ⟨raw, settings, haccepted, rfl⟩ := h
  obtain ⟨-, -, hchars⟩ := ServerSettings.normalizeCookiePrefix_eq_ok_iff.mp haccepted
  intro c hc
  rw [ServerSettings.sessionCookieName, String.toList_append, List.mem_append] at hc
  rcases hc with hc | hc
  · have hsymbol := hchars c hc
    simp only [ServerSettings.isPrefixChar, Bool.or_eq_true, decide_eq_true_eq] at hsymbol
    rcases hsymbol with (halnum | rfl) | rfl
    · exact .inl halnum
    · exact .inr (.inr rfl)
    · exact .inr (.inl rfl)
  · have hall : "_SESSION".toList.all (fun c => decide (c.isAlphanum = true ∨ c = '-' ∨ c = '_')) = true := by
      decide
    have hsymbol : c.isAlphanum = true ∨ c = '-' ∨ c = '_' := of_decide_eq_true (List.all_eq_true.mp hall c hc)
    exact hsymbol

theorem IsSessionCookie.visible {name : String} (h : IsSessionCookie name) :
    ∀ c ∈ name.toList, IsVisible c := fun c hc => visible_of_isSymbol (h.isSymbol c hc)

theorem isSymbol_sessionId (e : Entropy) : ∀ c ∈ e.sessionId.1.toList, Text.Base64.IsSymbol c := by
  intro c hc
  rw [Entropy.sessionId, Entropy.draw, Entropy.textAt, String.toList_ofList] at hc
  exact Text.Base64.isSymbol_of_mem_encode _ c hc

theorem visible_sessionId (e : Entropy) : ∀ c ∈ (e.sessionId).1.toList, IsVisible c :=
  fun c hc => visible_of_isSymbol (isSymbol_sessionId e c hc)

theorem setCookie_of_visible (response : Response) {text : String}
    (h : ∀ c ∈ text.toList, IsVisible c) :
    response.setCookie text = response.addHeader "set-cookie" (Bytes.ofText text) := by
  simp only [Response.setCookie, headerValue?_of_visible h]

theorem setCookie_issueCookie {name : String} (h : IsSessionCookie name) (response : Response)
    (e : Entropy) :
    response.setCookie (issueCookie name (e.sessionId).1) =
      response.addHeader "set-cookie" (Bytes.ofText (issueCookie name (e.sessionId).1)) := by
  refine setCookie_of_visible response fun c hc => ?_
  simp only [issueCookie, String.toList_append, List.mem_append] at hc
  rcases hc with ((hc | hc) | hc) | hc
  · exact h.visible c hc
  · exact visible_of_all (by decide) c hc
  · exact visible_sessionId e c hc
  · exact visible_of_all (by decide) c hc

theorem setCookie_expireCookie {name : String} (h : IsSessionCookie name) (response : Response) :
    response.setCookie (expireCookie name) =
      response.addHeader "set-cookie" (Bytes.ofText (expireCookie name)) := by
  refine setCookie_of_visible response fun c hc => ?_
  rw [expireCookie, String.toList_append, List.mem_append] at hc
  rcases hc with hc | hc
  · exact h.visible c hc
  · exact visible_of_all (by decide) c hc

/-! ### The session of a request -/

/-- A request presents a live id: it is the value of the first cookie of the name. -/
def Presents (name : String) (request : Request) (realm : Realm) (id : SessionId) : Prop :=
  FirstPair request.headers.cookies name id ∧ realm.load? id ≠ none

/-- The identity of the session that a request works on: the presented one, or else a new one. -/
def openedRef (name : String) (request : Request) (realm : Realm) : SessionRef :=
  match presented? name request realm with
  | some (_, ref) => ref
  | none => realm.create.1

/-- The session that a handler gets to see. -/
def opened (name : String) (request : Request) (realm : Realm) : Session :=
  realm.session (openedRef name request realm)

theorem presented?_eq_some_iff {name : String} {request : Request} {realm : Realm} {id : SessionId}
    {ref : SessionRef} : presented? name request realm = some (id, ref) ↔
      FirstPair request.headers.cookies name id ∧ realm.load? id = some ref := by
  rw [← lookup_eq_some_iff, presented?, Headers.cookie?]
  cases request.headers.cookies.lookup name with
  | none => simp
  | some value =>
    cases hload : realm.load? value with
    | none =>
      constructor
      · intro h
        simp [hload] at h
      · rintro ⟨hvalue, hid⟩
        rw [← Option.some.inj hvalue, hload] at hid
        cases hid
    | some held =>
      simp only [Option.bind_eq_bind, Option.bind_some, hload, Option.some.injEq, Prod.mk.injEq]
      constructor
      · rintro ⟨rfl, rfl⟩
        exact ⟨rfl, hload⟩
      · rintro ⟨rfl, hid⟩
        exact ⟨rfl, Option.some.inj (hload.symm.trans hid)⟩

theorem presented?_eq_none_iff {name : String} {request : Request} {realm : Realm} :
    presented? name request realm = none ↔ ∀ id, ¬ Presents name request realm id := by
  constructor
  · rintro hnone id ⟨hfirst, hlive⟩
    obtain ⟨ref, hload⟩ := Option.ne_none_iff_exists'.mp hlive
    rw [presented?_eq_some_iff.mpr ⟨hfirst, hload⟩] at hnone
    cases hnone
  · intro habsent
    cases hpresented : presented? name request realm with
    | none => rfl
    | some held =>
      obtain ⟨hfirst, hload⟩ := presented?_eq_some_iff.mp hpresented
      exact (habsent held.1 ⟨hfirst, hload ▸ Option.some_ne_none held.2⟩).elim

section
variable {name : String} {request : Request} {realm : Realm}

theorem Presents.unique {id other : SessionId} (h : Presents name request realm id)
    (hother : Presents name request realm other) : id = other := by
  have hid := lookup_eq_some_iff.mpr h.1
  rw [lookup_eq_some_iff.mpr hother.1] at hid
  exact (Option.some.inj hid).symm

theorem openedRef_of_presents {id : SessionId} (h : Presents name request realm id) :
    realm.load? id = some (openedRef name request realm) := by
  obtain ⟨ref, hload⟩ := Option.ne_none_iff_exists'.mp h.2
  simp only [openedRef, presented?_eq_some_iff.mpr ⟨h.1, hload⟩, hload]

theorem openedRef_of_absent (h : ∀ id, ¬ Presents name request realm id) :
    openedRef name request realm = realm.create.1 := by
  simp only [openedRef, presented?_eq_none_iff.mpr h]

theorem opened_of_presents {id : SessionId} (h : Presents name request realm id) :
    realm.sessionAt? id = some (opened name request realm) := by
  rw [Realm.sessionAt?, openedRef_of_presents h, Option.map_some, opened]

theorem opened_of_absent (h : ∀ id, ¬ Presents name request realm id) :
    opened name request realm = Session.empty := by
  rw [opened, openedRef_of_absent h, Realm.session_unborn]

end

/-! ### One request -/

/-- The layer generates an id: no stored session is presented, and the new one holds something. -/
def Generates (name : String) (request : Request) (realm : Realm) (ending : Ending ν)
    (id : SessionId) : Prop :=
  (∀ held, ¬ Presents name request realm held) ∧ ending.session.isEmpty = false ∧
    (ending.entropy.sessionId).1 = id

/-- The layer takes an id back: its session is presented and left empty. -/
def TakesBack (name : String) (request : Request) (realm : Realm) (ending : Ending ν)
    (id : SessionId) : Prop :=
  Presents name request realm id ∧ ending.session.isEmpty = true

/-- What comes of a request whose handler leaves an ending. -/
inductive Serves (name : String) (request : Request) (realm : Realm) (ending : Ending ν) :
    Outcome ν → Prop where
  | kept {id : SessionId} (presents : Presents name request realm id)
      (filled : ending.session.isEmpty = false) :
      Serves name request realm ending (ending.outcome (openedRef name request realm) realm)
  | dropped {id : SessionId} (presents : Presents name request realm id)
      (emptied : ending.session.isEmpty = true) :
      Serves name request realm ending
        ⟨ending.response.setCookie (expireCookie name),
          (realm.update (openedRef name request realm) ending.session ending.entropy).remove id,
          ending.report⟩
  | ignored (absent : ∀ id, ¬ Presents name request realm id)
      (emptied : ending.session.isEmpty = true) :
      Serves name request realm ending
        ⟨ending.response, realm.begin ending.session ending.entropy, ending.report⟩
  | stored (absent : ∀ id, ¬ Presents name request realm id)
      (filled : ending.session.isEmpty = false) :
      Serves name request realm ending
        ⟨ending.response.setCookie (issueCookie name (ending.entropy.sessionId).1),
          ((realm.begin ending.session ending.entropy).insert realm.create.1).2, ending.report⟩

theorem sessionLayer_serves {inner : Handler ν} {request : Request} {realm : Realm}
    {work : Session → Entropy → Ending ν} (h : inner.WorksOn request work) (hsound : realm.Sound)
    (name : String) (context : Option SessionRef) :
    Serves name request realm (work (opened name request realm) realm.entropy)
      (sessionLayer name inner request context realm) := by
  cases hpresented : presented? name request realm with
  | some held =>
    obtain ⟨id, ref⟩ := held
    obtain ⟨hfirst, hload⟩ := presented?_eq_some_iff.mp hpresented
    have hpresents : Presents name request realm id := ⟨hfirst, hload ▸ Option.some_ne_none ref⟩
    obtain rfl : openedRef name request realm = ref := by simp only [openedRef, hpresented]
    have hexists := hsound.exist id _ hload
    simp only [sessionLayer, hpresented, settleStored, h _ realm hexists, Ending.outcome,
      Realm.session_update_self hexists]
    rw [← opened]
    split
    · next hemptied => exact .dropped hpresents hemptied
    · next hfilled => exact .kept hpresents (Bool.eq_false_iff.mpr hfilled)
  | none =>
    have habsent := presented?_eq_none_iff.mp hpresented
    have hexists := realm.create_exists
    have hnew : realm.create.2.session realm.create.1 = opened name request realm := by
      rw [opened_of_absent habsent, Realm.session_create]
    have hentropy : realm.create.2.entropy = realm.entropy := rfl
    simp only [sessionLayer, hpresented, settleNew, h _ _ hexists, Ending.outcome,
      Realm.session_update_self hexists, hnew, hentropy]
    split
    · next hemptied => exact .ignored habsent hemptied
    · next hfilled => exact .stored habsent (Bool.eq_false_iff.mpr hfilled)

namespace Serves

variable {name : String} {request : Request} {realm : Realm} {ending : Ending ν}
  {outcome : Outcome ν}

theorem sessionAt?_stored (hsound : realm.Sound) (id : SessionId) :
    (((realm.begin ending.session ending.entropy).insert realm.create.1).2).sessionAt? id =
      if (ending.entropy.sessionId).1 = id then some ending.session
      else if realm.store.victim? = some id then none else realm.sessionAt? id := by
  have hid : ((realm.begin ending.session ending.entropy).insert realm.create.1).1 =
      (ending.entropy.sessionId).1 := rfl
  have hstore : (realm.begin ending.session ending.entropy).store = realm.store := rfl
  rw [(hsound.begin _ _).sessionAt?_insert, hid, hstore, Realm.session_begin,
    hsound.sessionAt?_begin]

theorem sessionAt?_dropped (hsound : realm.Sound) {id : SessionId}
    (h : Presents name request realm id) (other : SessionId) :
    ((realm.update (openedRef name request realm) ending.session ending.entropy).remove id).sessionAt?
      other = if id = other then none else realm.sessionAt? other := by
  rw [Realm.sessionAt?_remove, hsound.sessionAt?_update_of_load? (openedRef_of_presents h)]
  split <;> rfl

theorem sessionAt?_kept (hsound : realm.Sound) {id : SessionId}
    (h : Presents name request realm id) (other : SessionId) :
    (ending.outcome (openedRef name request realm) realm).realm.sessionAt? other =
      if id = other then some ending.session else realm.sessionAt? other :=
  hsound.sessionAt?_update_of_load? (openedRef_of_presents h) ending.session ending.entropy other

theorem response_eq (h : Serves name request realm ending outcome) :
    outcome.report = ending.report ∧ outcome.response.status = ending.response.status ∧
      outcome.response.body = ending.response.body := by
  have hsetCookie (text : String) : (ending.response.setCookie text).status = ending.response.status ∧
      (ending.response.setCookie text).body = ending.response.body := by
    rw [Response.setCookie]
    split <;> exact ⟨rfl, rfl⟩
  cases h with
  | kept => exact ⟨rfl, rfl, rfl⟩
  | dropped => exact ⟨rfl, hsetCookie _⟩
  | ignored => exact ⟨rfl, rfl, rfl⟩
  | stored => exact ⟨rfl, hsetCookie _⟩

theorem inStep (h : Serves name request realm ending outcome) (hin : realm.InStep)
    (hfresh : ∀ id, Generates name request realm ending id → realm.load? id = none) :
    outcome.realm.InStep := by
  have hsound := hin.sound
  cases h with
  | kept presents filled =>
    refine ⟨hsound.update _ _ _, fun id s hid => ?_⟩
    rw [sessionAt?_kept hsound presents] at hid
    split at hid
    · exact Option.some.inj hid ▸ filled
    · exact hin.filled id s hid
  | @dropped held presents emptied =>
    refine ⟨(hsound.update _ _ _).remove held, fun id s hid => ?_⟩
    rw [sessionAt?_dropped hsound presents] at hid
    split at hid
    · cases hid
    · exact hin.filled id s hid
  | ignored absent emptied =>
    refine ⟨hsound.begin _ _, fun id s hid => ?_⟩
    rw [hsound.sessionAt?_begin] at hid
    exact hin.filled id s hid
  | stored absent filled =>
    refine ⟨(hsound.begin _ _).insert (realm.begin_exists _ _) hsound.load?_create_ne
      (hfresh _ ⟨absent, filled, rfl⟩), fun id s hid => ?_⟩
    rw [sessionAt?_stored hsound] at hid
    split at hid
    · exact Option.some.inj hid ▸ filled
    · split at hid
      · cases hid
      · exact hin.filled id s hid

/-- No id becomes live but a generated one. -/
theorem live_before (h : Serves name request realm ending outcome) (hsound : realm.Sound)
    {id : SessionId} {ref : SessionRef} (hid : outcome.realm.load? id = some ref) :
    realm.load? id = some ref ∨
      Generates name request realm ending id ∧ ref = openedRef name request realm := by
  cases h with
  | kept => exact .inl hid
  | dropped =>
    rw [Realm.load?_remove] at hid
    split at hid
    · cases hid
    · exact .inl hid
  | ignored => exact .inl hid
  | stored absent filled =>
    rw [Realm.load?_insert (hsound.begin _ _).store] at hid
    split at hid
    · next hnew =>
      rw [openedRef_of_absent absent]
      exact .inr ⟨⟨absent, filled, hnew⟩, (Option.some.inj hid).symm⟩
    · split at hid
      · cases hid
      · exact .inl hid

end Serves

/-! ### The three cases -/

/-- A session is stored under an id, behind all others; in a full store the oldest gives way. -/
structure StoredUnder (before after : Realm) (id : SessionId) (s : Session) : Prop where
  held : after.sessionAt? id = some s
  spares : before.store.size < before.store.capacity →
    after.store.order = before.store.order ++ [id] ∧
      ∀ other, other ≠ id → after.sessionAt? other = before.sessionAt? other
  evicts : before.store.capacity ≤ before.store.size → ∃ oldest rest,
    before.store.order = oldest :: rest ∧ after.store.order = rest ++ [id] ∧
      after.sessionAt? oldest = none ∧
      ∀ other, other ≠ id → other ≠ oldest → after.sessionAt? other = before.sessionAt? other

/-- An id is removed from the store, and nothing else. -/
structure RemovedAlone (before after : Realm) (id : SessionId) : Prop where
  gone : after.sessionAt? id = none
  order : after.store.order = before.store.order.filter (· ≠ id)
  others : ∀ other, other ≠ id → after.sessionAt? other = before.sessionAt? other

/-- The layer settles a request in one of three ways. -/
inductive Settles (name : String) (request : Request) (before : Realm) (ending : Ending ν)
    (outcome : Outcome ν) : Prop where
  /-- The new session is stored under a generated id, whose cookie is issued. -/
  | stores (id : SessionId) (generated : Generates name request before ending id)
      (fresh : before.load? id = none)
      (headers : outcome.response.headers = ending.response.headers ++
        [("set-cookie", Bytes.ofText (name ++ "=" ++ id ++ "; Path=/; HttpOnly; SameSite=Lax"))])
      (stored : StoredUnder before outcome.realm id ending.session)
  /-- The presented session is removed and its cookie expired. -/
  | removes (id : SessionId) (takenBack : TakesBack name request before ending id)
      (headers : outcome.response.headers = ending.response.headers ++
        [("set-cookie", Bytes.ofText (name ++ "=; Path=/; HttpOnly; SameSite=Lax; Max-Age=0"))])
      (removed : RemovedAlone before outcome.realm id)
  /-- Store and headers stay as they are, and the work shows in the presented session alone. -/
  | keeps (unissued : ∀ id, ¬ Generates name request before ending id)
      (untaken : ∀ id, ¬ TakesBack name request before ending id)
      (headers : outcome.response.headers = ending.response.headers)
      (store : outcome.realm.store = before.store)
      (worked : ∀ id, Presents name request before id →
        outcome.realm.sessionAt? id = some ending.session)
      (others : ∀ id, ¬ Presents name request before id →
        outcome.realm.sessionAt? id = before.sessionAt? id)

theorem storedUnder_insert {realm : Realm} (hsound : realm.Sound) (ending : Ending ν)
    (hfresh : realm.load? (ending.entropy.sessionId).1 = none) :
    StoredUnder realm ((realm.begin ending.session ending.entropy).insert realm.create.1).2
      (ending.entropy.sessionId).1 ending.session := by
  have horder := hsound.store.order_insert (ending.entropy.sessionId).1 realm.create.1
  refine ⟨?_, fun hroom => ⟨?_, fun other hother => ?_⟩, fun hfull => ?_⟩
  · rw [Serves.sessionAt?_stored hsound, if_pos rfl]
  · exact horder.trans (by rw [if_pos hroom])
  · rw [Serves.sessionAt?_stored hsound, if_neg (Ne.symm hother),
      Store.WellFormed.victim?_of_lt hroom, if_neg (by simp)]
  · have heq := Nat.le_antisymm hsound.store.size_le hfull
    obtain ⟨oldest, rest, hrest⟩ := hsound.store.order_of_full heq
    have hvictim := Store.WellFormed.victim?_of_full heq hrest
    have hne := hsound.store.ne_oldest hfresh hrest
    refine ⟨oldest, rest, hrest, ?_, ?_, fun other hother hold => ?_⟩
    · exact horder.trans (by rw [if_neg (by omega), hrest, List.tail_cons])
    · rw [Serves.sessionAt?_stored hsound, if_neg hne, if_pos hvictim]
    · rw [Serves.sessionAt?_stored hsound, if_neg (Ne.symm hother), hvictim, if_neg]
      exact fun heq => hold (Option.some.inj heq).symm

theorem Serves.settles {name : String} {request : Request} {realm : Realm} {ending : Ending ν}
    {outcome : Outcome ν} (h : Serves name request realm ending outcome) (hname : IsSessionCookie name)
    (hsound : realm.Sound)
    (hfresh : ∀ id, Generates name request realm ending id → realm.load? id = none) :
    Settles name request realm ending outcome := by
  cases h with
  | @kept id presents filled =>
    refine .keeps ?_ ?_ rfl rfl ?_ ?_
    · exact fun _ generated => generated.1 id presents
    · rintro _ ⟨-, emptied⟩
      rw [filled] at emptied
      cases emptied
    · intro other hother
      rw [sessionAt?_kept hsound presents, if_pos (presents.unique hother)]
    · intro other hother
      rw [sessionAt?_kept hsound presents, if_neg fun heq : id = other => hother (heq ▸ presents)]
  | @dropped id presents emptied =>
    refine .removes id ⟨presents, emptied⟩ ?_ ⟨?_, ?_, fun other hother => ?_⟩
    · rw [setCookie_expireCookie hname]
      rfl
    · rw [sessionAt?_dropped hsound presents, if_pos rfl]
    · exact hsound.store.order_remove id
    · rw [sessionAt?_dropped hsound presents, if_neg (Ne.symm hother)]
  | ignored absent emptied =>
    refine .keeps ?_ ?_ rfl rfl ?_ ?_
    · rintro _ ⟨-, filled, -⟩
      rw [emptied] at filled
      cases filled
    · exact fun id takenBack => absent id takenBack.1
    · exact fun id presents => (absent id presents).elim
    · exact fun id _ => hsound.sessionAt?_begin _ _ id
  | stored absent filled =>
    have generated : Generates name request realm ending (ending.entropy.sessionId).1 :=
      ⟨absent, filled, rfl⟩
    refine .stores _ generated (hfresh _ generated) ?_
      (storedUnder_insert hsound ending (hfresh _ generated))
    rw [setCookie_issueCookie hname]
    rfl

theorem Settles.of_generates {name : String} {request : Request} {before : Realm} {ending : Ending ν}
    {outcome : Outcome ν} {id : SessionId} (h : Settles name request before ending outcome)
    (hid : Generates name request before ending id) :
    outcome.response.headers = ending.response.headers ++
        [("set-cookie", Bytes.ofText (name ++ "=" ++ id ++ "; Path=/; HttpOnly; SameSite=Lax"))] ∧
      StoredUnder before outcome.realm id ending.session := by
  cases h with
  | stores new generated _ headers stored =>
    obtain rfl : new = id := generated.2.2.symm.trans hid.2.2
    exact ⟨headers, stored⟩
  | removes held takenBack => exact (hid.1 held takenBack.1).elim
  | keeps unissued => exact (unissued id hid).elim

/-! ### Requests one after another -/

/-- The realms that requests through the layer lead to, one after another, from an empty store. -/
inductive Reachable (name : String) : Realm → Prop where
  | start (capacity : Nat) (e : Entropy) :
      Reachable name (Realm.new (Store.withCapacity SessionRef capacity) e)
  | serve {ν : Type} {realm : Realm} (reachable : Reachable name realm)
      (routine : Request → Routine ν) (request : Request) (context : Option SessionRef)
      (fresh : ∀ id, Generates name request realm
        ((routine request).ending (opened name request realm) realm.entropy) id →
          realm.load? id = none) :
      Reachable name (sessionLayer name (Handler.ofRoutine routine) request context realm).realm

theorem Reachable.inStep {name : String} {realm : Realm} (h : Reachable name realm) :
    realm.InStep := by
  induction h with
  | start capacity e => exact Realm.inStep_new capacity e
  | serve _ routine request context fresh ih =>
    have hserves := sessionLayer_serves (Handler.ofRoutine_worksOn routine request) ih.sound name context
    exact hserves.inStep ih fresh

/-- In every reachable state, a handler sees the stored session that its request presents, or a new
empty one, and its answer is what comes of that session. Afterwards the layer settles the request in
exactly one of its three ways; stored sessions still hold something, and no id is live that was not
live before or generated for this request. -/
theorem sessionLayer_settles {name : String} (hname : IsSessionCookie name) {realm : Realm}
    (hreachable : Reachable name realm) (routine : Request → Routine ν) (request : Request)
    (context : Option SessionRef) :
    let ending := (routine request).ending (opened name request realm) realm.entropy
    let outcome := sessionLayer name (Handler.ofRoutine routine) request context realm
    (∀ id, Generates name request realm ending id → realm.load? id = none) →
    ((∀ id, Presents name request realm id →
        realm.sessionAt? id = some (opened name request realm)) ∧
      ((∀ id, ¬ Presents name request realm id) → opened name request realm = Session.empty)) ∧
    (outcome.report = ending.report ∧ outcome.response.status = ending.response.status ∧
      outcome.response.body = ending.response.body) ∧
    Settles name request realm ending outcome ∧
    (∀ id other, Generates name request realm ending id → ¬ TakesBack name request realm ending other) ∧
    (∀ id s, outcome.realm.sessionAt? id = some s → s.isEmpty = false) ∧
    ∀ id, outcome.realm.load? id ≠ none →
      realm.load? id ≠ none ∨ Generates name request realm ending id := by
  intro ending outcome hfresh
  have hin := hreachable.inStep
  have hserves : Serves name request realm ending outcome :=
    sessionLayer_serves (Handler.ofRoutine_worksOn routine request) hin.sound name context
  refine ⟨⟨fun id => opened_of_presents, opened_of_absent⟩, hserves.response_eq,
    hserves.settles hname hin.sound hfresh, ?_, (hserves.inStep hin hfresh).filled, ?_⟩
  · exact fun id other generated takenBack => generated.1 other takenBack.1
  · intro id hlive
    obtain ⟨ref, hload⟩ := Option.ne_none_iff_exists'.mp hlive
    rcases hserves.live_before hin.sound hload with hbefore | ⟨generated, -⟩
    · exact .inl (hbefore ▸ Option.some_ne_none ref)
    · exact .inr generated

def countingEntropy : Entropy := ⟨fun draw size => List.replicate size draw.toUInt8, 0⟩

def login : Request → Routine Unit := fun _ =>
  .perform (.put "user" "ann") fun _ => .respond (Response.ofText 200 "hello") ()

/-- A store for one session, which somebody has logged in to. -/
def loggedIn : Realm :=
  (sessionLayer "TRELLIS_SESSION" (Handler.ofRoutine login) ⟨"POST", Target.ofText "/login", [], []⟩ none
    (Realm.new (Store.withCapacity SessionRef 1) countingEntropy)).realm

def logout : Request → Routine Unit := fun _ =>
  .perform .clear fun _ => .respond (Response.ofText 200 "bye") ()

def presenting (id : SessionId) : Request where
  method := "POST"
  headers := [("Cookie", Bytes.ofText ("theme=dark; TRELLIS_SESSION=" ++ id))]

/-- A login with an id that does not exist, one more with that of the stored session, and a logout from it. -/
def visits : List ((Request → Routine Unit) × Request) :=
  [(login, presenting "made-up"), (login, presenting "AAAAAAAAAAAAAAAAAAAAAAAAAAAAAAAA"),
    (logout, presenting "AAAAAAAAAAAAAAAAAAAAAAAAAAAAAAAA")]

/-- The first visit evicts the stored session, the second one keeps it, and the third one takes it back. -/
theorem sessionLayer_settles_visits :
    IsSessionCookie "TRELLIS_SESSION" ∧ Reachable "TRELLIS_SESSION" loggedIn ∧
    loggedIn.store.order = ["AAAAAAAAAAAAAAAAAAAAAAAAAAAAAAAA"] ∧
    (∀ visit ∈ visits,
      let ending := (visit.1 visit.2).ending (opened "TRELLIS_SESSION" visit.2 loggedIn) loggedIn.entropy
      (∀ id, Generates "TRELLIS_SESSION" visit.2 loggedIn ending id → loggedIn.load? id = none) ∧
      Settles "TRELLIS_SESSION" visit.2 loggedIn ending
        (sessionLayer "TRELLIS_SESSION" (Handler.ofRoutine visit.1) visit.2 none loggedIn)) ∧
    visits.map (fun visit =>
      let outcome := sessionLayer "TRELLIS_SESSION" (Handler.ofRoutine visit.1) visit.2 none loggedIn
      (outcome.realm.store.order, outcome.response.headers.lookup "set-cookie")) =
      [(["AQEBAQEBAQEBAQEBAQEBAQEBAQEBAQEB"], some (Bytes.ofText
          "TRELLIS_SESSION=AQEBAQEBAQEBAQEBAQEBAQEBAQEBAQEB; Path=/; HttpOnly; SameSite=Lax")),
        (["AAAAAAAAAAAAAAAAAAAAAAAAAAAAAAAA"], none),
        ([], some (Bytes.ofText "TRELLIS_SESSION=; Path=/; HttpOnly; SameSite=Lax; Max-Age=0"))] := by
  have hname : IsSessionCookie "TRELLIS_SESSION" :=
    ⟨" TRELLIS ", ⟨none, none, "", "TRELLIS"⟩, by decide +kernel, by decide⟩
  have hreachable : Reachable "TRELLIS_SESSION" loggedIn := by
    exact .serve (.start 1 countingEntropy) login _ none fun id _ => Realm.load?_new 1 _ id
  refine ⟨hname, hreachable, by decide +kernel, fun visit hvisit => ?_, by decide +kernel⟩
  have hfresh : ∀ id, Generates "TRELLIS_SESSION" visit.2 loggedIn
      ((visit.1 visit.2).ending (opened "TRELLIS_SESSION" visit.2 loggedIn) loggedIn.entropy) id →
        loggedIn.load? id = none := by
    simp only [visits, List.mem_cons, List.not_mem_nil, or_false] at hvisit
    rintro id ⟨-, -, rfl⟩
    rcases hvisit with rfl | rfl | rfl <;> decide +kernel
  obtain ⟨-, -, hsettles, -⟩ := sessionLayer_settles hname hreachable visit.1 visit.2 none hfresh
  exact ⟨hfresh, hsettles⟩

end AppServer.Http
