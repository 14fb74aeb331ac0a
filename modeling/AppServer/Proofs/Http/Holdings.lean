import AppServer.Proofs.Http.SessionLayer
import AppServer.Proofs.Session.TokenRun

/-!
# Sessions that only hold their token

Handlers that do no more than ask for the token leave a session that has one as
it is. In a store that is not full, each session that is stored then keeps its id
and its token, and every new one gets an id and a token of its own.
-/

namespace AppServer

namespace Session

theorem isEmpty_put (s : Session) (key value : String) : (s.put key value).isEmpty = false := by
  simp [isEmpty, put]

theorem isEmpty_empty : Session.empty.isEmpty = true := by
  simp [isEmpty, empty]

end Session

/-- The texts that are drawn before a draw are distinct: the tokens, and the ids of sessions. -/
def Entropy.Distinct (start : Entropy) (final : Nat) : Prop :=
  ∀ i j, start.drawn ≤ i → i < j → j < final →
    start.textAt i tokenBytes ≠ start.textAt j tokenBytes ∧
      start.textAt i sessionIdBytes ≠ start.textAt j sessionIdBytes

theorem Entropy.Distinct.mono {start : Entropy} {final less : Nat} (h : start.Distinct final) (hless : less ≤ final) :
    start.Distinct less :=
  fun i j hi hij hj => h i j hi hij (Nat.lt_of_lt_of_le hj hless)

theorem Session.Follows.textAt {start e : Entropy} (h : Session.Follows start e) (n size : Nat) :
    e.textAt n size = start.textAt n size := by
  rw [Entropy.textAt, Entropy.textAt, h.block]

namespace Http

/-! ### Mild work -/

/-- A response without a cookie for the client. -/
def Response.Plain (r : Response) : Prop := r.headers.all "set-cookie" = []

/-- Work that at most asks for the token: a session that has one stays as it is, and an empty one stays
empty or gets one. -/
structure Mild (work : Session → Entropy → Ending ν) : Prop where
  settled : ∀ {s token}, s.token? = some token → ∀ e, (work s e).session = s ∧ (work s e).entropy = e
  fresh : ∀ e, (work .empty e).session = .empty ∧ (work .empty e).entropy = e ∨
    (work .empty e).session = Session.empty.put Session.authenticityKey e.token.1 ∧
      (work .empty e).entropy = e.token.2
  plain : ∀ s e, (work s e).response.Plain

theorem Mild.fresh_of_empty {work : Session → Entropy → Ending ν} (h : Mild work) {e : Entropy}
    (hempty : (work .empty e).session.isEmpty = true) :
    (work .empty e).session = .empty ∧ (work .empty e).entropy = e := by
  rcases h.fresh e with hleft | ⟨hsession, -⟩
  · exact hleft
  · rw [hsession, Session.isEmpty_put] at hempty
    cases hempty

theorem Mild.fresh_of_filled {work : Session → Entropy → Ending ν} (h : Mild work) {e : Entropy}
    (hfilled : (work .empty e).session.isEmpty = false) :
    (work .empty e).session = Session.empty.put Session.authenticityKey e.token.1 ∧
      (work .empty e).entropy = e.token.2 := by
  rcases h.fresh e with ⟨hsession, -⟩ | hright
  · rw [hsession, Session.isEmpty_empty] at hfilled
    cases hfilled
  · exact hright

theorem plain_ofText (status : Nat) (text : String) : (Response.ofText status text).Plain := by
  have hname : lowerName "content-type" ≠ lowerName "set-cookie" := by decide
  simp [Response.Plain, Response.ofText, Headers.all, hname]

theorem mild_looking {respond : Session → Response} (report : Session → Option ν)
    (hplain : ∀ s, (respond s).Plain) : Mild fun s e => ⟨respond s, report s, s, e⟩ where
  settled _ _ := ⟨rfl, rfl⟩
  fresh _ := .inl ⟨rfl, rfl⟩
  plain s _ := hplain s

def asking (page : String → Response) (report : ν) (s : Session) (e : Entropy) : Ending ν :=
  ⟨page (s.authenticityToken e).1, some report, (s.authenticityToken e).2.1, (s.authenticityToken e).2.2⟩

theorem mild_asking {page : String → Response} (report : ν) (hplain : ∀ token, (page token).Plain) :
    Mild (asking page report) where
  settled htoken e := by
    rw [asking, Session.authenticityToken_of_some htoken]
    exact ⟨rfl, rfl⟩
  fresh e := by
    rw [asking, Session.authenticityToken_of_none Session.token?_empty]
    exact .inr ⟨rfl, rfl⟩
  plain s e := hplain _

theorem Mild.guarded {work : Session → Entropy → Ending ν} (h : Mild work) (request : Request) :
    Mild (guarded request work) := by
  refine ⟨fun htoken e => ?_, fun e => ?_, fun s e => ?_⟩
  · rw [Http.guarded]
    split
    · exact ⟨rfl, rfl⟩
    · exact h.settled htoken e
  · rw [Http.guarded]
    split
    · exact .inl ⟨rfl, rfl⟩
    · exact h.fresh e
  · by_cases haccepts : Accepts s request
    · rw [guarded_of_accepts haccepts]
      exact h.plain s e
    · obtain ⟨status, text, heq⟩ := guarded_of_not_accepts haccepts work e
      rw [heq]
      exact plain_ofText status text

/-! ### Holdings -/

/-- The sessions that are stored, oldest first: each with its id and its token, which were drawn one after
the other. -/
structure Holds (start : Entropy) (realm : Realm) (held : List (SessionId × String)) : Prop where
  inStep : realm.InStep
  capacity : realm.store.capacity = Store.defaultCapacity
  order : realm.store.order = held.map Prod.fst
  tokens : ∀ pair ∈ held, ∃ s, realm.sessionAt? pair.1 = some s ∧ s.token? = some pair.2
  follows : Session.Follows start realm.entropy
  drawn : ∀ pair ∈ held, ∃ n, start.drawn ≤ n ∧ n + 1 < realm.entropy.drawn ∧
    pair = (start.textAt (n + 1) Entropy.sessionIdBytes, start.textAt n Entropy.tokenBytes)
  apart : (held.map Prod.snd).Nodup

def newPair (e : Entropy) : SessionId × String := (e.token.2.sessionId.1, e.token.1)

/-- The realm in which one more session is stored, which holds a token. -/
def withNew (realm : Realm) : Realm :=
  ((realm.begin (Session.empty.put Session.authenticityKey realm.entropy.token.1) realm.entropy.token.2).insert
    realm.create.1).2

theorem drawn_withNew (realm : Realm) : (withNew realm).entropy.drawn = realm.entropy.drawn + 2 := rfl

theorem holds_new (e : Entropy) : Holds e (Realm.new (Store.new SessionRef) e) [] where
  inStep := Realm.inStep_new _ e
  capacity := rfl
  order := rfl
  tokens _ hpair := absurd hpair List.not_mem_nil
  follows := .refl e
  drawn _ hpair := absurd hpair List.not_mem_nil
  apart := List.nodup_nil

namespace Holds

variable {start : Entropy} {realm : Realm} {held : List (SessionId × String)}

theorem begin (h : Holds start realm held) (s : Session) : Holds start (realm.begin s realm.entropy) held where
  inStep := by
    refine ⟨h.inStep.sound.begin _ _, fun id held hid => h.inStep.filled id held ?_⟩
    rwa [h.inStep.sound.sessionAt?_begin] at hid
  capacity := h.capacity
  order := h.order
  tokens pair hpair := by
    obtain ⟨s, hstored, htoken⟩ := h.tokens pair hpair
    exact ⟨s, (h.inStep.sound.sessionAt?_begin _ _ _).trans hstored, htoken⟩
  follows := h.follows
  drawn := h.drawn
  apart := h.apart

/-- The id that is drawn next is not live, and the token before it belongs to no stored session. -/
theorem newPair_apart (h : Holds start realm held) (hdistinct : start.Distinct (realm.entropy.drawn + 2)) :
    newPair realm.entropy = (start.textAt (realm.entropy.drawn + 1) Entropy.sessionIdBytes,
      start.textAt realm.entropy.drawn Entropy.tokenBytes) ∧
    ∀ pair ∈ held, pair.1 ≠ (newPair realm.entropy).1 ∧ pair.2 ≠ (newPair realm.entropy).2 := by
  have hdrawn : newPair realm.entropy = (start.textAt (realm.entropy.drawn + 1) Entropy.sessionIdBytes,
      start.textAt realm.entropy.drawn Entropy.tokenBytes) := by
    rw [← h.follows.textAt, ← h.follows.textAt]
    rfl
  refine ⟨hdrawn, fun pair hpair => ?_⟩
  obtain ⟨n, hlow, hhigh, rfl⟩ := h.drawn pair hpair
  rw [hdrawn]
  exact ⟨(hdistinct (n + 1) (realm.entropy.drawn + 1) (by omega) (by omega) (by omega)).2,
    (hdistinct n realm.entropy.drawn hlow (by omega) (by omega)).1⟩

theorem sessionAt?_withNew (h : Holds start realm held) (hroom : realm.store.size < realm.store.capacity)
    (id : SessionId) : (Http.withNew realm).sessionAt? id =
      if (newPair realm.entropy).1 = id then
        some (Session.empty.put Session.authenticityKey realm.entropy.token.1)
      else realm.sessionAt? id := by
  have hsound := h.inStep.sound
  have hvictim : realm.store.victim? = none := Store.WellFormed.victim?_of_lt hroom
  have hinsert := (hsound.begin (Session.empty.put Session.authenticityKey realm.entropy.token.1)
    realm.entropy.token.2).sessionAt?_insert realm.create.1 id
  have hstore : (realm.begin (Session.empty.put Session.authenticityKey realm.entropy.token.1)
    realm.entropy.token.2).store = realm.store := rfl
  rw [hstore, hvictim, Realm.session_begin, hsound.sessionAt?_begin] at hinsert
  rw [if_neg (Option.some_ne_none id).symm] at hinsert
  exact hinsert

/-- In a store that is not full, a new session is added to the others. -/
theorem withNew (h : Holds start realm held) (hroom : held.length < Store.defaultCapacity)
    (hdistinct : start.Distinct (realm.entropy.drawn + 2)) :
    Holds start (withNew realm) (held ++ [newPair realm.entropy]) := by
  obtain ⟨hdrawn, hnew⟩ := h.newPair_apart hdistinct
  have hsound := h.inStep.sound
  have hfresh : realm.load? (newPair realm.entropy).1 = none := by
    refine hsound.store.load?_eq_none.mpr fun hmem => ?_
    rw [h.order] at hmem
    obtain ⟨pair, hpair, heq⟩ := List.mem_map.mp hmem
    exact (hnew pair hpair).1 heq
  have hsize : realm.store.size < realm.store.capacity := by
    rw [hsound.store.size_eq, h.order, List.length_map, h.capacity]
    exact hroom
  have hstored := h.sessionAt?_withNew hsize
  refine ⟨⟨?_, fun id s hid => ?_⟩, h.capacity, ?_, fun pair hpair => ?_, ?_, fun pair hpair => ?_, ?_⟩
  · exact (hsound.begin _ _).insert (realm.begin_exists _ _) hsound.load?_create_ne hfresh
  · rw [hstored] at hid
    split at hid
    · rw [← Option.some.inj hid]
      exact Session.isEmpty_put _ _ _
    · exact h.inStep.filled id s hid
  · have horder := hsound.store.order_insert (newPair realm.entropy).1 realm.create.1
    rw [if_pos hsize, h.order] at horder
    rw [List.map_append, List.map_singleton]
    exact horder
  · rcases List.mem_append.mp hpair with hold | hlast
    · obtain ⟨s, hs, htoken⟩ := h.tokens pair hold
      exact ⟨s, by rw [hstored, if_neg (hnew pair hold).1.symm, hs], htoken⟩
    · rw [List.mem_singleton.mp hlast]
      exact ⟨_, (hstored _).trans (if_pos rfl), Session.token?_put_authenticityKey _ _⟩
  · exact ⟨h.follows.block, Nat.le_trans h.follows.later (by rw [drawn_withNew]; omega)⟩
  · rw [drawn_withNew]
    rcases List.mem_append.mp hpair with hold | hlast
    · obtain ⟨n, hlow, hhigh, heq⟩ := h.drawn pair hold
      exact ⟨n, hlow, by omega, heq⟩
    · rw [List.mem_singleton.mp hlast]
      exact ⟨realm.entropy.drawn, h.follows.later, by omega, hdrawn⟩
  · rw [List.map_append, List.map_singleton, List.nodup_append]
    refine ⟨h.apart, List.nodup_singleton _, fun token htoken last hlast => ?_⟩
    obtain ⟨pair, hpair, rfl⟩ := List.mem_map.mp htoken
    rw [List.mem_singleton.mp hlast]
    exact (hnew pair hpair).2

/-! ### Requests -/

variable {name : String} {inner : Handler ν} {request : Request} {work : Session → Entropy → Ending ν}

/-- A request that brings the cookie of a stored session leaves everything as it is. -/
theorem serve_known (h : Holds start realm held) (hworks : inner.WorksOn request work) (hmild : Mild work)
    {pair : SessionId × String} (hpair : pair ∈ held) (hcookies : request.headers.cookies = [(name, pair.1)])
    (context : Option SessionRef) :
    ∃ s report, s.token? = some pair.2 ∧
      sessionLayer name inner request context realm = ⟨(work s realm.entropy).response, realm, report⟩ := by
  obtain ⟨s, hstored, htoken⟩ := h.tokens pair hpair
  have hfirst : FirstPair request.headers.cookies name pair.1 := by
    rw [hcookies]
    exact ⟨[], [], rfl, fun other hother => absurd hother List.not_mem_nil⟩
  have hlive : realm.load? pair.1 ≠ none := by
    intro hnone
    rw [Realm.sessionAt?, hnone] at hstored
    cases hstored
  have hpresents : Presents name request realm pair.1 := ⟨hfirst, hlive⟩
  obtain rfl : opened name request realm = s :=
    Option.some.inj ((opened_of_presents hpresents).symm.trans hstored)
  obtain ⟨hsession, hentropy⟩ := hmild.settled htoken realm.entropy
  have hserves := sessionLayer_serves hworks h.inStep.sound name context
  generalize sessionLayer name inner request context realm = outcome at hserves
  refine ⟨_, (work (opened name request realm) realm.entropy).report, htoken, ?_⟩
  cases hserves with
  | kept presents filled =>
    rw [Ending.outcome, hsession, hentropy, opened]
    rw [Realm.update_session (h.inStep.sound.exist _ _ (openedRef_of_presents presents))]
  | dropped presents emptied =>
    rw [hsession, h.inStep.filled _ _ hstored] at emptied
    cases emptied
  | ignored absent => exact absurd hpresents (absent _)
  | stored absent => exact absurd hpresents (absent _)

/-- A request without a cookie leaves the stored sessions alone, or adds one to them and issues its cookie. -/
theorem serve_stranger (h : Holds start realm held) (hworks : inner.WorksOn request work) (hmild : Mild work)
    (hname : IsSessionCookie name) (hcookies : request.headers.cookies = []) (context : Option SessionRef) :
    let ending := work Session.empty realm.entropy
    let outcome := sessionLayer name inner request context realm
    (ending.session = Session.empty ∧ outcome.response = ending.response ∧
      outcome.realm = realm.begin Session.empty realm.entropy) ∨
    (ending.session ≠ Session.empty ∧ outcome.realm = Http.withNew realm ∧ outcome.response =
      ending.response.addHeader "set-cookie" (Bytes.ofText (issueCookie name (newPair realm.entropy).1))) := by
  have habsent : ∀ id, ¬Presents name request realm id := by
    rintro id ⟨⟨before, after, hpairs, -⟩, -⟩
    rw [hcookies] at hpairs
    exact List.cons_ne_nil _ _ (List.append_eq_nil_iff.mp hpairs.symm).2
  have hserves := sessionLayer_serves hworks h.inStep.sound name context
  rw [opened_of_absent habsent] at hserves
  dsimp only
  generalize sessionLayer name inner request context realm = outcome at hserves
  cases hserves with
  | kept presents => exact absurd presents (habsent _)
  | dropped presents => exact absurd presents (habsent _)
  | ignored _ emptied =>
    obtain ⟨hsession, hentropy⟩ := hmild.fresh_of_empty emptied
    exact .inl ⟨hsession, rfl, by rw [hsession, hentropy]⟩
  | stored _ filled =>
    obtain ⟨hsession, hentropy⟩ := hmild.fresh_of_filled filled
    refine .inr ⟨fun hempty => ?_, ?_, ?_⟩
    · rw [hempty, Session.isEmpty_empty] at filled
      cases filled
    · rw [hsession, hentropy]
      rfl
    · rw [setCookie_issueCookie hname, hentropy]
      rfl

end Holds

end Http

end AppServer
