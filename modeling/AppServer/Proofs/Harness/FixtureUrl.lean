import AppServer.Proofs.Config.NormalForm
import AppServer.Proofs.Harness.Teardown
import AppServer.Proofs.Server.ContextPath

/-!
# The URLs of a fixture

A fixture makes the URL of a path from the address of its server, the context path
and the path. Each of these is in a normal form in which it does not end with a
slash, so the path supplies the one slash at the joint. A path that does not start
with a slash is refused before the fixture looks whether it still has a server.
-/

namespace AppServer

open Text

/-! ### Addresses -/

namespace Running

variable {r : Running} {config : ServerConfig} {m : Machine}

theorem serverUrl_eq (r : Running) : r.serverUrl =
    "http://" ++ ServerSettings.inAuthority r.settings.advertisedHost ++ ":" ++ decimal r.port := by
  simp only [serverUrl, ServerSettings.advertisedAuthority, ServerSettings.authority, ServerSettings.inAuthority,
    String.append_assoc]

theorem getLast?_serverUrl (r : Running) : r.serverUrl.toList.getLast? ≠ some '/' := by
  have hne : (decimal r.port).toList ≠ [] := decimal_ne_nil r.port
  rw [serverUrl_eq, String.toList_append, List.getLast?_append_of_ne_nil _ hne]
  intro hslash
  exact absurd (isDigit_decimal r.port '/' (List.mem_of_getLast? hslash)) (by decide)

theorem getLast?_baseUrl (hpath : ServerSettings.NormalPath r.settings.contextPath) :
    r.baseUrl.toList.getLast? ≠ some '/' := by
  rw [baseUrl, String.toList_append]
  rcases hpath.slashes with hempty | ⟨hstart, hend⟩
  · rw [hempty]
    have hnil : "".toList = ([] : List Char) := rfl
    rw [hnil, List.append_nil]
    exact getLast?_serverUrl r
  · have hne : r.settings.contextPath.toList ≠ [] := by
      intro hnil
      rw [hnil] at hstart
      cases hstart
    rwa [List.getLast?_append_of_ne_nil _ hne]

end Running

theorem ServerSettings.normalizeContextPath_eq_empty_iff {raw path : String} (h : normalizeContextPath raw = .ok path) :
    path = "" ↔ trim raw = "" ∨ trim raw = "/" := by
  simp only [normalizeContextPath] at h
  split at h
  · next hroot =>
    cases h
    exact iff_of_true rfl hroot
  · next hroot =>
    split at h
    · cases h
    · split at h
      · cases h
      · cases h
        exact iff_of_false (fun hempty => hroot (.inl hempty)) hroot

theorem Server.resolved_of_start {config : ServerConfig} {m after : Machine} {r : Running}
    (h : start { config } m = (.ok (), ⟨config, some r⟩, after)) :
    ∃ properties, loadProperties config m = .ok properties ∧ ServerSettings.ofProperties properties = .ok r.settings ∧
      takePort config r.settings m.network = .ok (r.port, after.network) := by
  obtain ⟨e, files, hstart, -⟩ | ⟨made, files, network, hstart, hmade⟩ := start_cases (s := { config }) rfl m
  · rw [hstart] at h
    cases h
  · rw [hstart] at h
    cases h
    obtain ⟨properties, router, hload, hsettings, -⟩ := hmade.parts
    exact ⟨properties, hload, hsettings, hmade.port⟩

namespace Harness

variable {σ : Type}

/-- How many slashes stand in a row where one text is put behind another. -/
def slashesAtJoint (front behind : String) : Nat :=
  (front.toList.reverse.takeWhile (· = '/')).length + (behind.toList.takeWhile (· = '/')).length

theorem slashesAtJoint_eq_one_iff {front behind : String} (hfront : front.toList.getLast? ≠ some '/')
    (hbehind : behind.toList.head? = some '/') :
    slashesAtJoint front behind = 1 ↔ ¬['/', '/'] <+: behind.toList := by
  have hnone : front.toList.reverse.takeWhile (· = '/') = [] := by
    rw [← List.head?_reverse] at hfront
    cases hrev : front.toList.reverse with
    | nil => rfl
    | cons c rest =>
      rw [hrev] at hfront
      exact List.takeWhile_cons_of_neg (by simpa using hfront)
  obtain ⟨rest, hrest⟩ := List.head?_eq_some_iff.mp hbehind
  rw [slashesAtJoint, hnone, hrest, List.length_nil, Nat.zero_add, List.takeWhile_cons_of_pos (by decide),
    List.length_cons, List.cons_prefix_cons]
  cases rest with
  | nil => simp
  | cons c rest =>
    by_cases hslash : c = '/'
    · simp [hslash]
    · simp [hslash, Ne.symm hslash]

/-! ### Starting -/

section

variable {b : TestServerBuilder World} {default : Standalone World} {network : Network} {world after : World}

/-- A test server of the usual kind is built when its server starts, and has the addresses of that. -/
theorem TestServerBuilder.build_of_start (hkind : b.standalone.getD default = Standalone.plain) {chosen : Nat}
    (hchosen : b.choosePort network = .ok chosen) {r : Running} {m : Machine}
    (hstart : Server.start { config := b.config chosen } world.machine = (.ok (), ⟨b.config chosen, some r⟩, m)) :
    ∃ s, b.build default network world = (.ok s, ⟨m, some ⟨b.config chosen, some r⟩⟩) ∧
      s.serverUrl = r.serverUrl ∧ s.baseUrl = r.baseUrl := by
  simp only [build, hchosen, hkind, Standalone.plain, World.update, hstart, Option.bind_some, Option.elim_some,
    Server.injector, Server.serverUrls, Server.baseUrls, Option.map_some, Option.toList_some, List.head?_cons]
  exact ⟨_, rfl, rfl, rfl⟩

/-- A test server of the usual kind that is built has a server that has started. -/
theorem TestServerBuilder.start_of_build (hkind : b.standalone.getD default = Standalone.plain) {s : TestServer World}
    (hbuild : b.build default network world = (.ok s, after)) :
    ∃ chosen r, b.choosePort network = .ok chosen ∧
      Server.start { config := b.config chosen } world.machine = (.ok (), ⟨b.config chosen, some r⟩, after.machine) ∧
      after.server = some ⟨b.config chosen, some r⟩ ∧ s.serverUrl = r.serverUrl ∧ s.baseUrl = r.baseUrl := by
  cases hchosen : b.choosePort network with
  | error e =>
    rw [build, hchosen] at hbuild
    cases hbuild
  | ok chosen =>
    obtain ⟨e, files, hstart, -⟩ | ⟨r, files, made, hstart, -⟩ :=
      Server.start_cases (s := { config := b.config chosen }) rfl world.machine
    · simp only [build, hchosen, hkind, Standalone.plain, World.update, hstart] at hbuild
      cases hbuild
    · obtain ⟨built, hbuilt, hserverUrl, hbaseUrl⟩ := build_of_start hkind hchosen hstart
      cases hbuilt.symm.trans hbuild
      exact ⟨chosen, r, rfl, hstart, rfl, hserverUrl, hbaseUrl⟩

end

theorem Fixture.start_eq_ok {b : TestServerBuilder σ} {default : Standalone σ} {network : Network}
    {env : Option String} {world after : σ} {f : Fixture σ}
    (hstart : Fixture.start b default network env world = (.ok f, after)) :
    ∃ s, b.build default network world = (.ok s, after) ∧ f.server? = some s := by
  rw [start] at hstart
  split at hstart
  · cases hstart
  · next s built hbuild =>
    split at hstart
    · cases hstart
    · cases hstart
      exact ⟨s, hbuild, rfl⟩

theorem Fixture.starts_plain {b : TestServerBuilder World} {default : Standalone World}
    (hkind : b.standalone.getD default = Standalone.plain) {network : Network} {chosen : Nat}
    (hchosen : b.choosePort network = .ok chosen) {world : World} {r : Running} {m : Machine}
    (hrunning : Server.start { config := b.config chosen } world.machine = (.ok (), ⟨b.config chosen, some r⟩, m))
    {env : Option String} {browser : Browser CookieJar} (hbrowser : Browser.create defaultTimeout env = .ok browser) :
    ∃ f, Fixture.start b default network env world = (.ok f, ⟨m, some ⟨b.config chosen, some r⟩⟩) := by
  obtain ⟨s, hbuild, -⟩ := TestServerBuilder.build_of_start hkind hchosen hrunning
  rw [start, hbuild]
  simp only [hbrowser]
  exact ⟨_, rfl⟩

namespace Fixture

/-! ### Paths -/

def pathFault (path : String) : FixtureError :=
  .invalidPath (if path = "" then "path must not be empty" else "path must start with '/': " ++ path)

theorem url_of_not_slash (f : Fixture σ) {path : String} (h : path.toList.head? ≠ some '/') :
    f.url path = .error (pathFault path) := by
  rw [url, pathFault]
  split
  · next hnil => rw [if_pos (String.toList_eq_nil_iff.mp hnil)]
  · next rest hslash =>
    rw [hslash] at h
    exact absurd rfl h
  · next hnil _ => rw [if_neg fun hempty => hnil (String.toList_eq_nil_iff.mpr hempty)]

theorem url_of_slash (f : Fixture σ) {path : String} (h : path.toList.head? = some '/') :
    f.url path = f.server.map fun s => s.baseUrl ++ path := by
  obtain ⟨rest, hrest⟩ := List.head?_eq_some_iff.mp h
  rw [url, hrest]
  cases f.server with
  | ok s => rfl
  | error e => rfl

/-! ### Uses -/

def Call.apply (state : Fixture σ × σ) : Call σ → Fixture σ × σ
  | .shutdown => (state.1.shutdown state.2).2
  | .browse act => match state.1.browser? with
    | some browser =>
      ({ state.1 with browser? := some (act browser state.2).1 }, (act browser state.2).2)
    | none => state
  | .meanwhile act => (state.1, act state.2)

def afterCalls (f : Fixture σ) (world : σ) (calls : List (Call σ)) : Fixture σ × σ :=
  calls.foldl (fun state call => call.apply state) (f, world)

theorem Call.server?_apply (state : Fixture σ × σ) (call : Call σ) :
    (call.apply state).1.server? = if call.asksForEnd then none else state.1.server? := by
  cases call with
  | shutdown =>
    simp only [apply, Fixture.shutdown, asksForEnd, if_true]
    split <;> rfl
  | browse act =>
    simp only [apply, asksForEnd, Bool.false_eq_true, if_false]
    split <;> rfl
  | meanwhile act => rfl

/-- A fixture has its server until somebody asks for the end. -/
theorem server?_afterCalls (f : Fixture σ) (world : σ) (calls : List (Call σ)) :
    (f.afterCalls world calls).1.server? = if calls.any Call.asksForEnd then none else f.server? := by
  have hstate (state : Fixture σ × σ) :
      (calls.foldl (fun state call => call.apply state) state).1.server? =
        if calls.any Call.asksForEnd then none else state.1.server? := by
    induction calls generalizing state with
    | nil => rfl
    | cons call rest ih =>
      rw [List.foldl_cons, ih, Call.server?_apply, List.any_cons]
      cases call.asksForEnd with
      | true => simp
      | false => simp
  exact hstate (f, world)

/-! ### URLs -/

structure Addresses (s : TestServer σ) (properties : Properties) (settings : ServerSettings) (port : Nat) : Prop where
  serverUrl : s.serverUrl =
    "http://" ++ ServerSettings.inAuthority settings.advertisedHost ++ ":" ++ decimal port
  baseUrl : s.baseUrl = s.serverUrl ++ settings.contextPath
  serverEnd : s.serverUrl.toList.getLast? ≠ some '/'
  baseEnd : s.baseUrl.toList.getLast? ≠ some '/'
  atRoot : s.baseUrl = s.serverUrl ↔
    trim (properties.getD ServerSettings.contextPathKey "") = "" ∨
      trim (properties.getD ServerSettings.contextPathKey "") = "/"
  joint : ∀ path, path.toList.head? = some '/' → (slashesAtJoint s.baseUrl path = 1 ↔ ¬['/', '/'] <+: path.toList)

/-- The URLs that a fixture makes of paths, as long as it has a server with this base. -/
structure MakesUrls (f : Fixture σ) (base : String) (isTorn : Bool) : Prop where
  refused : ∀ path, path.toList.head? ≠ some '/' → f.url path = .error (pathFault path)
  made : ∀ path, path.toList.head? = some '/' →
    f.url path = if isTorn then .error .closed else .ok (base ++ path)
  distinct : ∀ path other u, f.url path = .ok u → f.url other = .ok u → path = other

theorem makesUrls {f : Fixture σ} {s : TestServer σ} {isTorn : Bool}
    (hserver : f.server? = if isTorn then none else some s) : MakesUrls f s.baseUrl isTorn := by
  have hmade (path : String) (hslash : path.toList.head? = some '/') :
      f.url path = if isTorn then .error .closed else .ok (s.baseUrl ++ path) := by
    rw [url_of_slash f hslash, server, hserver]
    cases isTorn with
    | true => rfl
    | false => rfl
  have hof {path u : String} (hurl : f.url path = .ok u) : u = s.baseUrl ++ path := by
    by_cases hslash : path.toList.head? = some '/'
    · rw [hmade path hslash] at hurl
      split at hurl
      · cases hurl
      · exact (Except.ok.inj hurl).symm
    · rw [url_of_not_slash f hslash] at hurl
      cases hurl
  refine ⟨fun path hslash => url_of_not_slash f hslash, hmade, fun path other u hpath hother => ?_⟩
  exact (String.append_right_inj s.baseUrl).mp ((hof hpath).symm.trans (hof hother))

theorem addresses {s : TestServer σ} {properties : Properties} {r : Running}
    (hsettings : ServerSettings.ofProperties properties = .ok r.settings) (hserver : s.serverUrl = r.serverUrl)
    (hbase : s.baseUrl = r.baseUrl) : Addresses s properties r.settings r.port := by
  obtain ⟨-, -, hpath, -⟩ := ServerSettings.ofProperties_eq_ok_iff.mp hsettings
  have hjoined : s.baseUrl = s.serverUrl ++ r.settings.contextPath := by rw [hbase, hserver, Running.baseUrl]
  have hend : s.baseUrl.toList.getLast? ≠ some '/' :=
    hbase ▸ Running.getLast?_baseUrl (ServerSettings.normalPath_of_normalizeContextPath hpath)
  refine ⟨hserver.trans r.serverUrl_eq, hjoined, hserver ▸ r.getLast?_serverUrl, hend, ?_,
    fun path hslash => slashesAtJoint_eq_one_iff hend hslash⟩
  rw [hjoined, ← ServerSettings.normalizeContextPath_eq_empty_iff hpath]
  exact String.append_eq_left_iff

/-- A fixture that has started makes URLs of the paths that start with a slash, whatever is done with it until it is
torn down, and of no others at any time. With a server of the usual kind, the one it has when no other is asked for,
the address is the host and the port that the server listens on, and the base adds the context path; neither ends with
a slash. -/
theorem urls_composed {b : TestServerBuilder World} {default : Standalone World} {network : Network}
    {env : Option String} {world after : World} {f : Fixture World}
    (hstart : Fixture.start b default network env world = (.ok f, after)) :
    ∃ s, f.server = .ok s ∧
      (∀ calls, MakesUrls (f.afterCalls after calls).1 s.baseUrl (calls.any Call.asksForEnd)) ∧
      (b.standalone.getD default = Standalone.plain →
        ∃ chosen properties r, b.choosePort network = .ok chosen ∧
          Server.loadProperties (b.config chosen) world.machine = .ok properties ∧
          ServerSettings.ofProperties properties = .ok r.settings ∧
          Server.takePort (b.config chosen) r.settings world.machine.network = .ok (r.port, after.machine.network) ∧
          after.server = some ⟨b.config chosen, some r⟩ ∧ Addresses s properties r.settings r.port) := by
  obtain ⟨s, hbuild, hserver⟩ := start_eq_ok hstart
  refine ⟨s, by rw [server, hserver], fun calls => ?_, fun hkind => ?_⟩
  · refine makesUrls ?_
    rw [server?_afterCalls, hserver]
  · obtain ⟨chosen, r, hchosen, hrunning, hafter, hserverUrl, hbaseUrl⟩ := TestServerBuilder.start_of_build hkind hbuild
    obtain ⟨properties, hload, hsettings, hport⟩ := Server.resolved_of_start hrunning
    exact ⟨chosen, properties, r, hchosen, hload, hsettings, hport, hafter, addresses hsettings hserverUrl hbaseUrl⟩

def shopFixture : TestServerBuilder World where
  application := { routes := fun _ => .ok Server.pages }
  port := some 8080
  overrides := (Server.pagesBelow "/shop").overrides

theorem urls_composed_shopFixture : ∃ f after,
    Fixture.start shopFixture Standalone.plain Server.emptyMachine.network none ⟨Server.emptyMachine, none⟩ =
      (.ok f, after) ∧
    f.url "/tea" = .ok "http://[::1]:8080/shop/tea" ∧ f.url "tea" = .error (pathFault "tea") ∧
    (f.afterCalls after [.shutdown]).1.url "/tea" = .error .closed ∧
    (f.afterCalls after [.shutdown]).1.url "" = .error (pathFault "") := by
  obtain ⟨-, -, r, m, -, -, hrunning, -, -⟩ := Server.starts_pagesBelow_shop
  have hchosen : shopFixture.choosePort Server.emptyMachine.network = .ok 8080 := rfl
  obtain ⟨f, hstart⟩ : ∃ f, Fixture.start shopFixture Standalone.plain Server.emptyMachine.network none
      ⟨Server.emptyMachine, none⟩ = (.ok f, ⟨m, some ⟨Server.pagesBelow "/shop", some r⟩⟩) :=
    @starts_plain shopFixture Standalone.plain rfl _ 8080 hchosen ⟨Server.emptyMachine, none⟩ r m hrunning none _ rfl
  obtain ⟨s, -, hurls, hplain⟩ := urls_composed hstart
  obtain ⟨chosen, properties, r, hagain, hload, hsettings, hport, -, haddresses⟩ := hplain rfl
  obtain rfl : 8080 = chosen := Except.ok.inj (hchosen.symm.trans hagain)
  have hread : Server.settingsRead? (Server.pagesBelow "/shop") = some (some "::1", "/shop") := by decide +kernel
  obtain ⟨known, settings, sink, hknown, hresolved, -, hhost, hpath⟩ := Server.exists_of_settingsRead? hread
  obtain rfl : known = properties := Except.ok.inj (hknown.symm.trans hload)
  obtain rfl : settings = r.settings := Except.ok.inj (hresolved.symm.trans hsettings)
  have hbase : s.baseUrl = "http://[::1]:8080/shop" := by
    have hbound : Server.emptyMachine.network.bind "::1" 8080 = .ok (8080, { nextFree := 49152, taken := [8080] }) := by
      decide +kernel
    have htaken : Server.takePort (shopFixture.config 8080) r.settings Server.emptyMachine.network =
        .ok (8080, { nextFree := 49152, taken := [8080] }) := by
      have hasked : ((shopFixture.config 8080).port.or r.settings.port).getD Server.defaultPort = 8080 := rfl
      simp only [Server.takePort, hasked, hhost, Option.getD_some, hbound]
    have hplace : r.port = 8080 := congrArg Prod.fst (Except.ok.inj (hport.symm.trans htaken))
    rw [haddresses.baseUrl, haddresses.serverUrl, hpath, hplace, ServerSettings.advertisedHost, hhost]
    decide +kernel
  have hopen := hurls []
  have htorn := hurls [.shutdown]
  refine ⟨f, _, hstart, ?_, hopen.refused "tea" (by decide), htorn.made "/tea" (by decide),
    htorn.refused "" (by decide)⟩
  rw [hbase] at hopen
  exact hopen.made "/tea" (by decide)

end Fixture

end Harness

end AppServer
