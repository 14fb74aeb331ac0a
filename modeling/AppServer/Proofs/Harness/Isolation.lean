import AppServer.Proofs.Harness.Guests

/-!
# Sessions continue and stay apart

In a run of several browsers against one server, a browser sees one token until
it forgets its cookies, and nobody else ever sees it. What it submits is saved if
it repeats that token, and refused otherwise.
-/

namespace AppServer.Harness

open Http Url Demo

/-! ### Runs -/

/-- No two guests are the same visit, and no two of their tokens are the same. -/
structure Apart (guests : Guests) : Prop where
  visits : (guests.map fun guest => guest.1).Nodup
  tokens : (guests.map fun guest => guest.2.2).Nodup

structure Stage (machine : Machine) (config : ServerConfig) (r : Running) (guests : Guests) (x : Scene)
    (after : Guests) : Prop where
  made : ∃ c turn, x = Crowd.scene r.baseUrl c turn
  proper : x.move.Proper
  opens : ∃ realm, Settled machine config r x.before realm guests
  closes : ∃ realm, Settled machine config r x.after realm after
  grows : Grows guests after x.issues
  room : x.issues = true → guests.length < Store.defaultCapacity
  distinct : r.realm.entropy.Distinct x.after.drawn

inductive Plays (machine : Machine) (config : ServerConfig) (r : Running) : Guests → List Scene → Guests → Prop
  | nil (guests : Guests) : Plays machine config r guests [] guests
  | cons {guests next final : Guests} {x : Scene} {rest : List Scene}
      (stage : Stage machine config r guests x next) (others : Plays machine config r next rest final) :
      Plays machine config r guests (x :: rest) final

section

variable {machine m : Machine} {config : ServerConfig} {r : Running} {c : Crowd} {realm : Realm}
  {guests after final : Guests} {x : Scene} {scenes : List Scene}

theorem Settled.apart (h : Settled machine config r c realm guests) : Apart guests := by
  refine ⟨h.owners, ?_⟩
  have htokens := h.holds.apart
  rwa [List.map_map] at htokens

theorem Grows.mem {created : Bool} (h : Grows guests after created) {guest : Visit × SessionId × String}
    (hguest : guest ∈ guests) : guest ∈ after := by
  obtain ⟨new, rfl, -⟩ := h
  exact List.mem_append_left new hguest

/-- Turns are played one after another as long as there is room and all texts are distinct. -/
theorem Settled.plays (h : Settled machine config r c realm guests) (hserving : Serving machine config r m)
    {turns : List Turn} (hproper : ∀ turn ∈ turns, turn.move.Proper)
    (hroom : guests.length + (c.trace r.baseUrl turns).countP Scene.issues ≤ Store.defaultCapacity)
    (hdistinct : ∀ x ∈ c.trace r.baseUrl turns, r.realm.entropy.Distinct x.after.drawn) :
    ∃ final, Plays machine config r guests (c.trace r.baseUrl turns) final := by
  -- on the turns; the guests grow by one for each session that is created, so the room is used up with the count
  induction turns generalizing c realm guests with
  | nil => exact ⟨guests, .nil guests⟩
  | cons turn rest ih =>
    rw [Crowd.trace, List.forall_mem_cons] at hdistinct
    rw [List.forall_mem_cons] at hproper
    rw [Crowd.trace, List.countP_cons] at hroom
    have hfits : (c.scene r.baseUrl turn).issues = true → guests.length < Store.defaultCapacity := by
      intro hissues
      rw [if_pos hissues] at hroom
      omega
    obtain ⟨later, next, hsettled, hgrows⟩ := h.step hserving hproper.1 hfits hdistinct.1
    have hlength : next.length = guests.length + if (c.scene r.baseUrl turn).issues then 1 else 0 := by
      obtain ⟨new, rfl, hnew⟩ := hgrows
      rw [List.length_append, hnew]
    obtain ⟨final, hplays⟩ := ih hsettled hproper.2 (by omega) hdistinct.2
    exact ⟨final, .cons ⟨⟨c, turn, rfl⟩, hproper.1, ⟨realm, h⟩, ⟨later, hsettled⟩, hgrows, hfits, hdistinct.1⟩ hplays⟩

/-- At most two texts are drawn in a turn: when so many are distinct, all that are drawn in a run are. -/
theorem Settled.distinct_of_bound (h : Settled machine config r c realm guests) (hserving : Serving machine config r m)
    {turns : List Turn} (hproper : ∀ turn ∈ turns, turn.move.Proper)
    (hroom : guests.length + turns.length ≤ Store.defaultCapacity)
    (hdistinct : r.realm.entropy.Distinct (c.drawn + 2 * turns.length)) :
    ∀ x ∈ c.trace r.baseUrl turns, r.realm.entropy.Distinct x.after.drawn := by
  induction turns generalizing c realm guests with
  | nil => exact fun x hx => absurd hx List.not_mem_nil
  | cons turn rest ih =>
    rw [List.forall_mem_cons] at hproper
    rw [List.length_cons] at hroom hdistinct
    have hdrawn := h.drawn_scene_le hserving hproper.1
    have hnow : r.realm.entropy.Distinct (c.scene r.baseUrl turn).after.drawn := hdistinct.mono (by omega)
    obtain ⟨later, next, hsettled, new, rfl, hnew⟩ := h.step hserving hproper.1 (fun _ => by omega) hnow
    have hlength : (guests ++ new).length ≤ guests.length + 1 := by
      rw [List.length_append, hnew]
      split <;> omega
    rw [Crowd.trace, List.forall_mem_cons]
    exact ⟨hnow, ih hsettled hproper.2 (by omega) (hdistinct.mono (by omega))⟩

/-! ### Scenes -/

theorem not_saves_of_isRefused {fields : List (String × String)} (h : x.IsRefused) : ¬x.Saves fields := by
  rintro ⟨response, hresponse, hstatus, -⟩
  obtain ⟨other, hother, hforbidden⟩ := h
  obtain rfl : response = other := Option.some.inj (hresponse.symm.trans hother)
  omega

namespace Stage

variable (h : Stage machine config r guests x after) (hserving : Serving machine config r m)

include h hserving

theorem token?_eq : x.token? = (guests.lookup x.visit).map Prod.snd := by
  obtain ⟨realm, hsettled⟩ := h.opens
  exact hsettled.token?_eq hserving x.browser

theorem token?_of_mem {guest : Visit × SessionId × String} (hguest : guest ∈ guests) (hvisit : x.visit = guest.1) :
    x.token? = some guest.2.2 := by
  obtain ⟨realm, hsettled⟩ := h.opens
  rw [h.token?_eq hserving, hvisit, lookup_of_mem_guests hsettled.owners hguest, Option.map_some]

theorem shown (hget : x.move.isGet = true)
    (harrives : x.ArrivesAt config r "/token" ∨ x.ArrivesAt config r "/form") :
    ∃ response token, x.response? = some response ∧ response.status = 200 ∧
      x.Shows config r token := by
  obtain ⟨realm, hsettled⟩ := h.opens
  obtain ⟨⟨c, turn, rfl⟩, hproper, -, -, -, hroom, hdistinct⟩ := h
  rcases harrives with harrives | harrives
  · obtain ⟨response, token, hresponse, hstatus, hbody, -⟩ :=
      hsettled.shows_token hserving hproper hroom hdistinct hget harrives
    exact ⟨response, token, hresponse, hstatus, response, hresponse, hget, .inl ⟨harrives, hbody⟩⟩
  · obtain ⟨response, token, hresponse, hstatus, hbody, -⟩ :=
      hsettled.shows_form hserving hproper hroom hdistinct hget harrives
    exact ⟨response, token, hresponse, hstatus, response, hresponse, hget, .inr ⟨harrives, hbody⟩⟩

/-- The token that is shown in a turn is that of the session after it. -/
theorem token?_of_shows {token : String} (hshows : x.Shows config r token) :
    x.after.token? x.browser = some token := by
  obtain ⟨realm, hsettled⟩ := h.opens
  obtain ⟨⟨c, turn, rfl⟩, hproper, -, -, -, hroom, hdistinct⟩ := h
  obtain ⟨response, hresponse, hget, ⟨harrives, hbody⟩ | ⟨harrives, hvalue⟩⟩ := hshows
  · obtain ⟨other, shown, hother, -, hsame, htoken⟩ :=
      hsettled.shows_token hserving hproper hroom hdistinct hget harrives
    obtain rfl : response = other := Option.some.inj (hresponse.symm.trans hother)
    rw [← hbody, hsame]
    exact htoken
  · obtain ⟨other, shown, hother, -, hsame, htoken⟩ :=
      hsettled.shows_form hserving hproper hroom hdistinct hget harrives
    obtain rfl : response = other := Option.some.inj (hresponse.symm.trans hother)
    rw [hvalue] at hsame
    rw [hsame]
    exact htoken

omit hserving in
theorem visit_after (hget : x.move.isGet = true) : x.after.visit x.browser = x.visit := by
  obtain ⟨⟨c, turn, rfl⟩, -⟩ := h
  obtain ⟨tail, headers, hmove⟩ := Move.eq_get_of_isGet hget
  exact visit_scene (congrArg Move.sends? hmove) turn.browser

theorem knows {token : String} (hknows : x.Knows config r token) :
    ∃ guest ∈ after, guest.1 = x.visit ∧ guest.2.2 = token := by
  rcases hknows with htoken | hshows
  · rw [h.token?_eq hserving] at htoken
    obtain ⟨pair, hlookup, heq⟩ := Option.map_eq_some_iff.mp htoken
    exact ⟨_, h.grows.mem (mem_of_lookup_guests hlookup), rfl, heq⟩
  · -- the guest may have come in this very turn
    obtain ⟨later, hends⟩ := h.closes
    have hafter := h.token?_of_shows hserving hshows
    obtain ⟨_, -, hget, -⟩ := hshows
    rw [hends.token?_eq hserving, h.visit_after hget] at hafter
    obtain ⟨pair, hlookup, heq⟩ := Option.map_eq_some_iff.mp hafter
    exact ⟨_, mem_of_lookup_guests hlookup, rfl, heq⟩

theorem submitted {tail : String} {fields : List (String × String)} (hmove : x.move = .postForm tail fields)
    (harrives : x.ArrivesAt config r "/submit") (hfits : (Form.encode fields).length ≤ 65536) :
    (x.Saves fields ↔ x.Repeats fields) ∧ (x.IsRefused ↔ ¬x.Repeats fields) := by
  obtain ⟨realm, hsettled⟩ := h.opens
  obtain ⟨⟨c, turn, rfl⟩, hproper, -, -, -, hroom, hdistinct⟩ := h
  obtain ⟨hsaves, hrefuses⟩ := hsettled.submits hserving hproper hroom hdistinct hmove harrives hfits
  refine ⟨⟨fun hsaved => ?_, hsaves⟩, ⟨fun hrefused hrepeats => ?_, hrefuses⟩⟩
  · by_contra hother
    exact not_saves_of_isRefused (hrefuses hother) hsaved
  · exact not_saves_of_isRefused hrefused (hsaves hrepeats)

end Stage

/-! ### Scenes of a run -/

namespace Plays

variable (h : Plays machine config r guests scenes final)

include h

theorem mem {guest : Visit × SessionId × String} (hguest : guest ∈ guests) : guest ∈ final := by
  induction h with
  | nil => exact hguest
  | cons stage _ ih => exact ih (stage.grows.mem hguest)

theorem apart (hapart : Apart guests) : Apart final := by
  induction h with
  | nil => exact hapart
  | cons stage _ ih =>
    obtain ⟨realm, hsettled⟩ := stage.closes
    exact ih hsettled.apart

theorem stage_of_mem (hx : x ∈ scenes) :
    ∃ guests after, Stage machine config r guests x after ∧ ∀ guest ∈ after, guest ∈ final := by
  induction h with
  | nil => exact absurd hx List.not_mem_nil
  | @cons guests next _ _ _ stage others ih =>
    rcases List.mem_cons.mp hx with rfl | hrest
    · exact ⟨guests, next, stage, fun guest hguest => others.mem hguest⟩
    · exact ih hrest

theorem token?_of_mem (hserving : Serving machine config r m) {guest : Visit × SessionId × String}
    (hguest : guest ∈ guests) : ∀ x ∈ scenes, x.visit = guest.1 → x.token? = some guest.2.2 := by
  induction h with
  | nil => exact fun x hx => absurd hx List.not_mem_nil
  | cons stage _ ih =>
    rw [List.forall_mem_cons]
    exact ⟨stage.token?_of_mem hserving hguest, ih (stage.grows.mem hguest)⟩

theorem continues (hserving : Serving machine config r m) :
    scenes.Pairwise fun x y => ∀ token, x.Knows config r token → x.visit = y.visit → y.token? = some token := by
  -- after a scene whose browser knows a token, its guest is there, and guests stay
  induction h with
  | nil => exact .nil
  | cons stage others ih =>
    refine .cons (fun y hy token hknows hvisit => ?_) ih
    obtain ⟨guest, hguest, howner, rfl⟩ := stage.knows hserving hknows
    exact others.token?_of_mem hserving hguest y hy (hvisit.symm.trans howner.symm)

/-- Two tokens that browsers have to do with are the same if they belong to one visit. -/
theorem eq_iff (hserving : Serving machine config r m) (hapart : Apart guests) {y : Scene} (hx : x ∈ scenes)
    (hy : y ∈ scenes) {s t : String} (hs : x.Knows config r s) (ht : y.Knows config r t) :
    s = t ↔ x.visit = y.visit := by
  obtain ⟨_, _, hstage, hmem⟩ := h.stage_of_mem hx
  obtain ⟨_, _, hother, hotherMem⟩ := h.stage_of_mem hy
  obtain ⟨guest, hguest, hvisit, rfl⟩ := hstage.knows hserving hs
  obtain ⟨other, hotherGuest, hotherVisit, rfl⟩ := hother.knows hserving ht
  have hfinal := h.apart hapart
  rw [← hvisit, ← hotherVisit]
  constructor
  · intro htoken
    rw [List.inj_on_of_nodup_map hfinal.tokens (hmem _ hguest) (hotherMem _ hotherGuest) htoken]
  · intro hsame
    rw [List.inj_on_of_nodup_map hfinal.visits (hmem _ hguest) (hotherMem _ hotherGuest) hsame]

end Plays

/-! ### From the start of a server -/

def Crowd.around (browsers : Nat → Browser CookieJar) (machine : Machine) (config : ServerConfig) (r : Running) :
    Crowd :=
  ⟨browsers, fun _ => 0, ⟨machine, some ⟨config, some r⟩⟩⟩

theorem settled_around {browsers : Nat → Browser CookieJar} (hstarted : r.StartedFrom config m)
    (hbrowsers : ∀ who, ∃ requested env, Browser.create requested env = .ok (browsers who)) :
    Settled machine config r (Crowd.around browsers machine config r) r.realm [] := by
  have hnew (who : Nat) : ∃ timeout, browsers who = { jar := Jar.empty, timeout } := by
    obtain ⟨requested, env, hcreate⟩ := hbrowsers who
    obtain ⟨timeout, -, heq⟩ := Browser.create_eq_ok_iff.mp hcreate
    exact ⟨timeout, heq⟩
  refine ⟨rfl, ?_, fun who => ?_, fun who => ?_, List.nodup_nil,
    fun _ hguest => absurd hguest List.not_mem_nil, fun hne => absurd rfl hne⟩
  · rw [hstarted.realm]
    exact holds_new m.entropy
  · obtain ⟨timeout, heq⟩ := hnew who
    exact congrArg Browser.isClosed heq
  · obtain ⟨timeout, heq⟩ := hnew who
    exact congrArg Browser.jar heq

/-- New browsers take turns with a server that has just been started and runs the demo application, at most
10000 sessions are created, and no token and no id is drawn twice. Then each request for the token or the form
is answered with a token. The tokens that browsers see and have are the same within a visit, and different for
any two browsers and for any two visits of one browser. A token that is seen stays that of the session for the
rest of the visit. A form that is submitted gets to its handler exactly when its first token field is the token
of the session, and is refused with 403 otherwise: so it is without a session, and so it is with a token from
any other visit. -/
theorem visits_kept_apart {after : Machine} {browsers : Nat → Browser CookieJar} {turns : List Turn}
    (hdemo : RunsDemo config) (hstart : Server.start { config } m = (.ok (), ⟨config, some r⟩, after))
    (hconnects : after.network.connects = true)
    (hbrowsers : ∀ who, ∃ requested env, Browser.create requested env = .ok (browsers who))
    (hproper : ∀ turn ∈ turns, turn.move.Proper)
    (hroom : ((Crowd.around browsers after config r).trace r.baseUrl turns).countP Scene.issues ≤ 10000)
    (hdistinct : ∀ x ∈ (Crowd.around browsers after config r).trace r.baseUrl turns,
      m.entropy.Distinct x.after.drawn) :
    let scenes := (Crowd.around browsers after config r).trace r.baseUrl turns
    (∀ x ∈ scenes, x.move.isGet = true → x.ArrivesAt config r "/token" ∨ x.ArrivesAt config r "/form" →
      ∃ response token, x.response? = some response ∧ response.status = 200 ∧ x.Shows config r token) ∧
    (∀ x ∈ scenes, ∀ y ∈ scenes, ∀ s t, x.Knows config r s → y.Knows config r t →
      (s = t ↔ x.visit = y.visit)) ∧
    scenes.Pairwise (fun x y => ∀ token, x.Knows config r token → x.visit = y.visit → y.token? = some token) ∧
    ∀ x ∈ scenes, ∀ tail fields, x.move = .postForm tail fields → x.ArrivesAt config r "/submit" →
      (Form.encode fields).length ≤ 65536 →
        (x.Saves fields ↔ x.Repeats fields) ∧ (x.IsRefused ↔ ¬x.Repeats fields) ∧
        (x.token? = none → x.IsRefused) ∧
        ∀ y ∈ scenes, ∀ token, y.Knows config r token → y.visit ≠ x.visit →
          FirstPair fields "authenticityToken" token → x.IsRefused := by
  intro scenes
  have hstarted := Server.startedFrom hstart
  have hserving : Serving after config r m := ⟨hdemo, hstarted, hconnects⟩
  have hentropy : r.realm.entropy = m.entropy := by
    rw [hstarted.realm]
    rfl
  have hfits : ([] : Guests).length + scenes.countP Scene.issues ≤ Store.defaultCapacity := by
    rw [List.length_nil, Nat.zero_add]
    exact hroom
  obtain ⟨final, hplays⟩ := (settled_around hstarted hbrowsers).plays hserving hproper hfits (hentropy ▸ hdistinct)
  have happart : Apart [] := ⟨List.nodup_nil, List.nodup_nil⟩
  refine ⟨fun x hx => ?_, fun x hx y hy s t hs ht => hplays.eq_iff hserving happart hx hy hs ht,
    hplays.continues hserving, fun x hx tail fields hmove harrives hsmall => ?_⟩
  · obtain ⟨_, _, hstage, -⟩ := hplays.stage_of_mem hx
    exact hstage.shown hserving
  · obtain ⟨_, _, hstage, -⟩ := hplays.stage_of_mem hx
    obtain ⟨hsaves, hrefused⟩ := hstage.submitted hserving hmove harrives hsmall
    refine ⟨hsaves, hrefused, fun hnone => hrefused.mpr ?_, fun y hy token hknows hvisit hfirst => hrefused.mpr ?_⟩
    · rintro ⟨token, htoken, -⟩
      rw [hnone] at htoken
      cases htoken
    · rintro ⟨own, htoken, hown⟩
      have hsame := (lookup_eq_some_iff.mpr hfirst).symm.trans (lookup_eq_some_iff.mpr hown)
      exact hvisit ((hplays.eq_iff hserving happart hy hx hknows (.inl htoken)).mp (Option.some.inj hsame))

end

def loopbackConfig : ServerConfig where
  application := application
  mode := .test
  port := some 8080
  overrides := ({} : Std.TreeMap String String).insert "server.host" "::1"

def quietMachine : Machine where
  files := {}
  network := { nextFree := 49152 }
  entropy := countingEntropy

def newBrowsers : Nat → Browser CookieJar := fun _ => { jar := Jar.empty, timeout := defaultTimeout }

/-- Two browsers that ask for the token, and a form without it. -/
def twoBrowsers : List Turn :=
  [⟨0, .get "/token" []⟩, ⟨1, .get "/form" []⟩, ⟨0, .postForm "/submit" [("name", "ada")]⟩, ⟨0, .get "/token" []⟩]

theorem distinct_countingEntropy : countingEntropy.Distinct 8 := by
  have hall : ∀ j < 8, ∀ i < j,
      countingEntropy.textAt i Entropy.tokenBytes ≠ countingEntropy.textAt j Entropy.tokenBytes ∧
        countingEntropy.textAt i Entropy.sessionIdBytes ≠ countingEntropy.textAt j Entropy.sessionIdBytes := by
    decide +kernel
  exact fun i j _ hij hj => hall j hj i hij

theorem proper_twoBrowsers : ∀ turn ∈ twoBrowsers, turn.move.Proper := by
  have hbehind {tail : String} (h : tail.toList.head? = some '/') : StartsBehind tail.toList := by
    intro c hc
    rw [h] at hc
    exact .inl (Option.some.inj hc).symm
  have hnone : ∀ header ∈ ([] : List (String × String)), lowerName header.1 ≠ "cookie" := nofun
  simp only [twoBrowsers, List.forall_mem_cons]
  exact ⟨⟨hbehind rfl, hnone⟩, ⟨hbehind rfl, hnone⟩, hbehind rfl, ⟨hbehind rfl, hnone⟩, nofun⟩

theorem starts_loopbackConfig : ∃ r after,
    Server.start { config := loopbackConfig } quietMachine = (.ok (), ⟨loopbackConfig, some r⟩, after) ∧
      r.settings.contextPath = "" ∧ r.baseUrl = "http://[::1]:8080" ∧ after.network.connects = true := by
  have hread : ((Server.loadProperties loopbackConfig quietMachine).toOption.bind fun properties =>
      (ServerSettings.ofProperties properties).toOption.bind fun settings =>
        (EventSink.ofProperties {} properties).toOption.map fun _ => (settings.host, settings.contextPath)) =
      some (some "::1", "") := by decide +kernel
  obtain ⟨properties, hload, hread⟩ := Option.bind_eq_some_iff.mp hread
  obtain ⟨settings, hsettings, hread⟩ := Option.bind_eq_some_iff.mp hread
  obtain ⟨sink, hsink, hread⟩ := Option.map_eq_some_iff.mp hread
  obtain ⟨hhost, hpath⟩ := Prod.mk.inj hread
  have hdemo : RunsDemo loopbackConfig := ⟨rfl, nofun⟩
  obtain ⟨injector, router, hinjector, hrouter⟩ := exists_routerOf hdemo rfl properties hpath
  have htaken : Server.takePort loopbackConfig settings quietMachine.network =
      .ok (8080, { nextFree := 49152, taken := [8080] }) := by
    have hbind : ({ nextFree := 49152 } : Network).bind "::1" 8080 =
        .ok (8080, { nextFree := 49152, taken := [8080] }) := by decide +kernel
    have hport : (loopbackConfig.port.or settings.port).getD Server.defaultPort = 8080 := rfl
    have hnetwork : quietMachine.network.bind (settings.host.getD Server.defaultHost) 8080 =
        .ok (8080, { nextFree := 49152, taken := [8080] }) := by
      rw [hhost]
      exact hbind
    simp only [Server.takePort, hport, hnetwork]
  obtain ⟨r, after, hstart, hkept, hheld, hnetwork⟩ := Server.start_of_parts (ok_of_toOption hload)
    (ok_of_toOption hsettings) (ok_of_toOption hsink) hinjector hrouter htaken
  refine ⟨r, after, hstart, hkept ▸ hpath, ?_, by rw [hnetwork]⟩
  have hadvertised : settings.advertisedHost = "::1" := by
    rw [ServerSettings.advertisedHost, hhost]
    decide
  rw [Running.baseUrl, Running.serverUrl, ServerSettings.advertisedAuthority, hkept, hheld, hadvertised, hpath]
  decide +kernel

theorem arrivesAt_of_path {config : ServerConfig} {m : Machine} {r : Running} {x : Scene}
    {tail : String} {message : Browser.Message} (hdemo : RunsDemo config)
    (hstarted : r.StartedFrom config m) (hroot : r.settings.contextPath = "")
    (hsends : x.move.sends? = some (tail, some message))
    (hpath : tail = "/token" ∨ tail = "/form" ∨ tail = "/submit")
    (hurl : (Url.parse (r.baseUrl ++ tail)).toOption.map Url.path = some tail) :
    x.ArrivesAt config r tail := by
  obtain ⟨u, hparse, hplace⟩ := Option.map_eq_some_iff.mp hurl
  refine ⟨tail, message, u, hsends, ok_of_toOption hparse, ?_⟩
  rw [hplace]
  exact hdemo.leadsTo hstarted hroot hpath u.query

theorem path_loopback {tail : String}
    (hpath : tail = "/token" ∨ tail = "/form" ∨ tail = "/submit") :
    (Url.parse ("http://[::1]:8080" ++ tail)).toOption.map Url.path = some tail := by
  rcases hpath with rfl | rfl | rfl <;> decide +kernel

/-- Both browsers get a token of their own, the first one keeps its own, and a form without it is refused. -/
theorem visits_kept_apart_twoBrowsers : ∃ r after x y z w,
    Server.start { config := loopbackConfig } quietMachine =
      (.ok (), ⟨loopbackConfig, some r⟩, after) ∧
    (Crowd.around newBrowsers after loopbackConfig r).trace r.baseUrl twoBrowsers = [x, y, z, w] ∧
    ∃ s t, x.Shows loopbackConfig r s ∧ y.Shows loopbackConfig r t ∧ w.Shows loopbackConfig r s ∧
      s ≠ t ∧ z.token? = some s ∧ z.IsRefused := by
  obtain ⟨r, after, hstart, hroot, hbase, hconnects⟩ := starts_loopbackConfig
  have hdemo : RunsDemo loopbackConfig := ⟨rfl, nofun⟩
  have hstarted := Server.startedFrom hstart
  have hentropy : r.realm.entropy = countingEntropy := by
    rw [hstarted.realm]
    rfl
  have hbrowsers : ∀ who, ∃ requested env, Browser.create requested env = .ok (newBrowsers who) :=
    fun _ => ⟨defaultTimeout, none, rfl⟩
  -- four turns draw eight texts at most, and those are distinct
  have hsettled : Settled after loopbackConfig r (Crowd.around newBrowsers after loopbackConfig r)
      r.realm [] := settled_around hstarted hbrowsers
  have hbound : r.realm.entropy.Distinct
      ((Crowd.around newBrowsers after loopbackConfig r).drawn + 2 * twoBrowsers.length) := by
    rw [hsettled.drawn_eq, hentropy]
    exact distinct_countingEntropy
  have hdistinct := hsettled.distinct_of_bound ⟨hdemo, hstarted, hconnects⟩ proper_twoBrowsers
    (by decide) hbound
  rw [hentropy] at hdistinct
  have hroom : ((Crowd.around newBrowsers after loopbackConfig r).trace r.baseUrl
      twoBrowsers).countP Scene.issues ≤ 10000 :=
    Nat.le_trans List.countP_le_length (by simp [twoBrowsers, Crowd.trace])
  obtain ⟨hshows, hsame, hcontinues, hposts⟩ :=
    visits_kept_apart hdemo hstart hconnects hbrowsers proper_twoBrowsers hroom hdistinct
  have hvisit : ∀ x ∈ (Crowd.around newBrowsers after loopbackConfig r).trace r.baseUrl twoBrowsers,
      x.visit = (x.browser, 0) := visit_of_mem_trace (by simp [twoBrowsers, Move.sends?])
  obtain ⟨x, y, z, w, hscenes, hx, hy, hz, hw⟩ : ∃ x y z w,
      (Crowd.around newBrowsers after loopbackConfig r).trace r.baseUrl twoBrowsers =
        [x, y, z, w] ∧
      x.toTurn = ⟨0, .get "/token" []⟩ ∧ y.toTurn = ⟨1, .get "/form" []⟩ ∧
      z.toTurn = ⟨0, .postForm "/submit" [("name", "ada")]⟩ ∧ w.toTurn = ⟨0, .get "/token" []⟩ :=
    ⟨_, _, _, _, rfl, rfl, rfl, rfl, rfl⟩
  rw [hscenes] at hshows hsame hcontinues hposts hvisit
  simp only [List.forall_mem_cons, hx, hy, hz, hw] at hvisit
  obtain ⟨hxv, hyv, hzv, hwv, -⟩ := hvisit
  have hxmem : x ∈ [x, y, z, w] := List.mem_cons_self
  have hymem : y ∈ [x, y, z, w] := List.mem_cons_of_mem _ List.mem_cons_self
  have hzmem : z ∈ [x, y, z, w] := List.mem_cons_of_mem _ (List.mem_cons_of_mem _ List.mem_cons_self)
  have hwmem : w ∈ [x, y, z, w] := List.mem_of_getLast? rfl
  have harrives {scene : Scene} {tail : String} {message : Browser.Message}
      (hsends : scene.move.sends? = some (tail, some message))
      (hpath : tail = "/token" ∨ tail = "/form" ∨ tail = "/submit") :
      scene.ArrivesAt loopbackConfig r tail := by
    refine arrivesAt_of_path hdemo hstarted hroot hsends hpath ?_
    rw [hbase]
    exact path_loopback hpath
  have hget {scene : Scene} {who : Nat} {tail : String}
      (hturn : scene.toTurn = ⟨who, .get tail []⟩) : scene.move = .get tail [] :=
    congrArg Turn.move hturn
  obtain ⟨_, s, -, -, hs⟩ := hshows x hxmem (congrArg Move.isGet (hget hx))
    (.inl (harrives (congrArg Move.sends? (hget hx)) (.inl rfl)))
  obtain ⟨_, t, -, -, ht⟩ := hshows y hymem (congrArg Move.isGet (hget hy))
    (.inr (harrives (congrArg Move.sends? (hget hy)) (.inr (.inl rfl))))
  obtain ⟨_, again, -, -, hagain⟩ := hshows w hwmem (congrArg Move.isGet (hget hw))
    (.inl (harrives (congrArg Move.sends? (hget hw)) (.inl rfl)))
  have hpost : z.move = .postForm "/submit" [("name", "ada")] := congrArg Turn.move hz
  obtain ⟨-, hrefused, -⟩ := hposts z hzmem _ _ hpost
    (harrives (congrArg Move.sends? hpost) (.inr (.inr rfl))) (by decide +kernel)
  have hkept : again = s :=
    (hsame w hwmem x hxmem _ _ (.inr hagain) (.inr hs)).mpr (hwv.trans hxv.symm)
  refine ⟨r, after, x, y, z, w, hstart, hscenes, s, t, hs, ht, hkept ▸ hagain, fun heq => ?_, ?_, ?_⟩
  · have hmixed := (hsame x hxmem y hymem s t (.inr hs) (.inr ht)).mp heq
    rw [hxv, hyv] at hmixed
    cases hmixed
  · exact (List.pairwise_cons.mp hcontinues).1 z (List.mem_cons_of_mem _ List.mem_cons_self) s
      (.inr hs) (hxv.trans hzv.symm)
  · refine hrefused.mpr ?_
    rintro ⟨token, -, hfirst⟩
    have hlookup := lookup_eq_some_iff.mpr hfirst
    revert hlookup
    simp

end AppServer.Harness
