import AppServer.Proofs.Harness.FixtureUrl
import AppServer.Proofs.Row
import AppServer.Proofs.Server.Port

/-!
# Test servers from their builder

Of several calls that set one thing the last counts. The overrides are set as a
whole or key by key: a new whole discards what was there, a key only what was under
it. A test server of the usual kind listens on the port that its builder was given,
or on the least one of the range that can be bound; if there is none, no server is
made. The properties have no say in it.
-/

namespace AppServer.Harness

variable {σ : Type}

/-! ### Calls of a builder -/

inductive BuilderCall (σ : Type) where
  | mode (mode : Mode)
  | port (port : Nat)
  | standalone (kind : Standalone σ)
  | overrideModule (steps : List (BindingStep Service))
  | overrides (overrides : Std.TreeMap String String)
  | override (key value : String)
  | confDir (dir : String)

namespace BuilderCall

def apply (b : TestServerBuilder σ) : BuilderCall σ → TestServerBuilder σ
  | mode m => b.withMode m
  | port p => b.withPort p
  | standalone kind => b.withStandalone kind
  | overrideModule steps => b.withOverrideModule steps
  | overrides all => b.withOverrides all
  | override key value => b.withOverride key value
  | confDir dir => b.withConfDir dir

/-- The last call of this setter sets this. -/
def LastSets {ν : Type} (setter : ν → BuilderCall σ) (calls : List (BuilderCall σ)) (v : ν) : Prop :=
  Stands (· = setter v) (fun call => ∃ u, call = setter u) calls

/-- The call sets an override, alone or among others. -/
inductive Overrides (key value : String) : BuilderCall σ → Prop
  | one : Overrides key value (.override key value)
  | all {all : Std.TreeMap String String} (h : all[key]? = some value) : Overrides key value (.overrides all)

/-- The call has a say in what overrides a key. -/
inductive Settles (key : String) : BuilderCall σ → Prop
  | one (value : String) : Settles key (.override key value)
  | all (all : Std.TreeMap String String) : Settles key (.overrides all)

end BuilderCall

/-- A builder of an application after calls in turn. -/
def TestServerBuilder.after (application : Application) (calls : List (BuilderCall σ)) : TestServerBuilder σ :=
  calls.foldl BuilderCall.apply { application }

namespace BuilderCall

/-- What a builder holds after calls in turn was set by the last call of the setter, if there was one. -/
theorem lastSets_iff {ν : Type} {held : TestServerBuilder σ → Option ν} {setter : ν → BuilderCall σ}
    (hset : ∀ b v, held ((setter v).apply b) = some v)
    (hkeep : ∀ b (call : BuilderCall σ), (¬∃ v, call = setter v) → held (call.apply b) = held b)
    {application : Application} (hfresh : held { application } = none) (calls : List (BuilderCall σ)) (v : ν) :
    held (.after application calls) = some v ↔ LastSets setter calls v := by
  have hact (b : TestServerBuilder σ) (call : BuilderCall σ) (v : ν) :
      held (call.apply b) = some v ↔ call = setter v ∨ ¬(∃ u, call = setter u) ∧ held b = some v := by
    by_cases hcall : ∃ u, call = setter u
    · obtain ⟨u, rfl⟩ := hcall
      have hlast : setter u = setter v ↔ some u = some v := by
        constructor
        · intro heq
          rw [← hset b u, heq, hset b v]
        · rintro ⟨⟩
          rfl
      rw [hset, hlast, or_iff_left fun h => h.1 ⟨u, rfl⟩]
    · rw [hkeep b call hcall, or_iff_right fun heq => hcall ⟨v, heq⟩, and_iff_right hcall]
  exact foldl_eq_some_iff_stands held hact hfresh calls v

theorem overrides_apply (b : TestServerBuilder σ) (call : BuilderCall σ) (port : Nat) (key value : String) :
    ((call.apply b).config port).overrides[key]? = some value ↔
      Overrides key value call ∨ ¬Settles key call ∧ (b.config port).overrides[key]? = some value := by
  cases call with
  | override k v =>
    have hheld : (((override k v).apply b).config port).overrides[key]? =
        if k = key then some v else (b.config port).overrides[key]? := by
      simp only [apply, TestServerBuilder.withOverride, TestServerBuilder.config, Option.getD_some,
        Std.TreeMap.getElem?_insert, Std.compare_eq_iff_eq]
    rw [hheld]
    by_cases heq : k = key
    · subst heq
      have hsettled : Settles k (.override k v : BuilderCall σ) := .one v
      rw [if_pos rfl, or_iff_left fun h => h.1 hsettled, Option.some.injEq]
      constructor
      · rintro rfl
        exact .one
      · rintro ⟨⟩
        rfl
    · have hother : ¬Settles key (.override k v : BuilderCall σ) := fun h => by
        cases h
        exact heq rfl
      have hnone : ¬Overrides key value (.override k v : BuilderCall σ) := fun h => by
        cases h
        exact heq rfl
      rw [if_neg heq, or_iff_right hnone, and_iff_right hother]
  | overrides all =>
    have hsettled : Settles key (.overrides all : BuilderCall σ) := .all all
    rw [or_iff_left fun h => h.1 hsettled]
    constructor
    · exact .all
    · rintro ⟨⟩
      assumption
  | mode _ | port _ | standalone _ | overrideModule _ | confDir _ =>
    -- the other setters leave the overrides alone
    exact ((or_iff_right nofun).trans (and_iff_right nofun)).symm

structure Held (calls : List (BuilderCall σ)) (b : TestServerBuilder σ) : Prop where
  mode (m : Mode) : b.mode = some m ↔ LastSets .mode calls m
  port (p : Nat) : b.port = some p ↔ LastSets .port calls p
  standalone (kind : Standalone σ) : b.standalone = some kind ↔ LastSets .standalone calls kind
  overrideModule (steps : List (BindingStep Service)) :
    b.overrideModule = some steps ↔ LastSets .overrideModule calls steps
  confDir (dir : String) : b.confDir = some dir ↔ LastSets .confDir calls dir
  overrides (port : Nat) (key value : String) : (b.config port).overrides[key]? = some value ↔
    Stands (Overrides key value) (Settles key) calls

theorem held_after (application : Application) (calls : List (BuilderCall σ)) :
    Held calls (.after application calls) where
  mode :=
    lastSets_iff (fun _ _ => rfl) (fun b call h => by cases call <;> first | rfl | exact absurd ⟨_, rfl⟩ h) rfl calls
  port :=
    lastSets_iff (fun _ _ => rfl) (fun b call h => by cases call <;> first | rfl | exact absurd ⟨_, rfl⟩ h) rfl calls
  standalone :=
    lastSets_iff (fun _ _ => rfl) (fun b call h => by cases call <;> first | rfl | exact absurd ⟨_, rfl⟩ h) rfl calls
  overrideModule :=
    lastSets_iff (fun _ _ => rfl) (fun b call h => by cases call <;> first | rfl | exact absurd ⟨_, rfl⟩ h) rfl calls
  confDir :=
    lastSets_iff (fun _ _ => rfl) (fun b call h => by cases call <;> first | rfl | exact absurd ⟨_, rfl⟩ h) rfl calls
  overrides port key :=
    foldl_eq_some_iff_stands (fun b => (b.config port).overrides[key]?)
      (fun b call => overrides_apply b call port key) Std.TreeMap.getElem?_emptyc calls

end BuilderCall

/-! ### The port of a test server -/

namespace TestServerBuilder

/-- A search that finds no port ends the building before a server is made, of whatever kind it was to be. -/
structure EndsWithoutPort (b : TestServerBuilder σ) (default : Standalone σ) (network : Network) (world : σ) :
    Prop where
  reported : (b.build default network world).1 = .error (.noAvailablePort 1000 10000) ↔
    b.port = none ∧ network.bindableIn 1000 10000 = ∅
  unmade : b.port = none → network.bindableIn 1000 10000 = ∅ → (b.build default network world).2 = world

theorem choosePort_eq_ok_iff {b : TestServerBuilder σ} {network : Network} {port : Nat} :
    b.choosePort network = .ok port ↔
      b.port = some port ∨ b.port = none ∧ IsLeast (network.bindableIn 1000 10000) port := by
  rw [← (network.findsLeast 1000 10000).found port, choosePort]
  cases b.port with
  | some given => simp
  | none =>
    rw [Option.none_or, minPort, maxPort]
    cases network.firstFree? 1000 10000 <;> simp

theorem choosePort_eq_error_iff {b : TestServerBuilder σ} {network : Network} {e : TestServerError} :
    b.choosePort network = .error e ↔
      b.port = none ∧ network.bindableIn 1000 10000 = ∅ ∧ .noAvailablePort 1000 10000 = e := by
  rw [← (network.findsLeast 1000 10000).none, choosePort]
  cases b.port with
  | some given => simp
  | none =>
    rw [Option.none_or, minPort, maxPort]
    cases network.firstFree? 1000 10000 <;> simp

theorem endsWithoutPort (b : TestServerBuilder σ) (default : Standalone σ) (network : Network) (world : σ) :
    EndsWithoutPort b default network world := by
  cases hchosen : b.choosePort network with
  | error e =>
    obtain ⟨hport, hempty, rfl⟩ := choosePort_eq_error_iff.mp hchosen
    have hbuild : b.build default network world = (.error (.noAvailablePort 1000 10000), world) := by
      rw [build, hchosen]
    exact ⟨iff_of_true (congrArg Prod.fst hbuild) ⟨hport, hempty⟩, fun _ _ => congrArg Prod.snd hbuild⟩
  | ok chosen =>
    have hsome : ¬(b.port = none ∧ network.bindableIn 1000 10000 = ∅) := by
      rintro ⟨hport, hempty⟩
      rw [choosePort_eq_error_iff.mpr ⟨hport, hempty, rfl⟩] at hchosen
      cases hchosen
    refine ⟨iff_of_false (fun hbuild => ?_) hsome, fun hport hempty => absurd ⟨hport, hempty⟩ hsome⟩
    -- the errors of a server that is made are others
    simp only [build, hchosen] at hbuild
    split at hbuild
    · cases hbuild
    · split at hbuild <;> cases hbuild

variable {b : TestServerBuilder World} {w : World} {named : Option Nat} {chosen port : Nat}

/-- The usual kind of server has all it needs, whatever its port. -/
structure Ready (b : TestServerBuilder World) (m : Machine) (named : Option Nat) : Prop where
  usual : b.standalone.getD Standalone.plain = Standalone.plain
  parts (port : Nat) : Server.Ready (b.config port) m named

def built (b : TestServerBuilder World) (w : World) : Except TestServerError (TestServer World) × World :=
  b.build Standalone.plain w.machine.network w

/-- A test server is built, and listens on this port. -/
def BuildsOn (b : TestServerBuilder World) (w : World) (port : Nat) : Prop :=
  ∃ s after, b.built w = (.ok s, after) ∧ s.port after = some port ∧
    after.machine.network.taken = port :: w.machine.network.taken

/-- The network has this port for a builder that asks for a port, or for none. -/
inductive Grants (n : Network) : Option Nat → Nat → Prop
  | given {port : Nat} (hport : port ≠ 0) (h : n.Bindable port) : Grants n (some port) port
  | any : Grants n (some 0) n.nextFree
  | least {port : Nat} (h : IsLeast (n.bindableIn 1000 10000) port) : Grants n none port

theorem BuildsOn.unique {other : Nat} (h : b.BuildsOn w port) (hother : b.BuildsOn w other) : port = other := by
  obtain ⟨s, after, hbuilt, hport, -⟩ := h
  obtain ⟨t, later, hagain, hheld, -⟩ := hother
  cases hbuilt.symm.trans hagain
  exact Option.some.inj (hport.symm.trans hheld)

theorem standalone_of_build {b : TestServerBuilder σ} {default : Standalone σ} {network : Network} {world after : σ}
    {s : TestServer σ} (h : b.build default network world = (.ok s, after)) :
    s.standalone = b.standalone.getD default := by
  simp only [build] at h
  split at h
  · cases h
  · split at h
    · cases h
    · split at h <;> cases h
      rfl

theorem buildsOn_of_startsOn (husual : b.standalone.getD Standalone.plain = Standalone.plain)
    (hchosen : b.choosePort w.machine.network = .ok chosen)
    (h : Server.StartsOn (b.config chosen) w.machine port) : b.BuildsOn w port := by
  obtain ⟨r, m, hstart, hheld, htaken⟩ := h
  obtain ⟨s, hbuild, -⟩ := build_of_start husual hchosen hstart
  refine ⟨s, _, hbuild, ?_, htaken⟩
  rw [TestServer.port, standalone_of_build hbuild, husual, ← hheld]
  rfl

theorem built_of_error (husual : b.standalone.getD Standalone.plain = Standalone.plain)
    (hchosen : b.choosePort w.machine.network = .ok chosen)
    {e : ServerError} (h : (Server.start { config := b.config chosen } w.machine).1 = .error e) :
    (b.built w).1 = .error (.startup e) := by
  rcases hstart : Server.start { config := b.config chosen } w.machine with ⟨outcome, s, m⟩
  obtain rfl : outcome = .error e := by rwa [hstart] at h
  simp only [built, build, hchosen, husual]
  simp only [Standalone.plain, World.update, hstart]

theorem Ready.usesPort (h : b.Ready w.machine named) (chosen : Nat) :
    Server.UsesPort (b.config chosen) w.machine chosen := (h.parts chosen).usesPort

theorem Ready.buildsOn (h : b.Ready w.machine named) (hgrants : Grants w.machine.network b.port port) :
    b.BuildsOn w port := by
  generalize hasked : b.port = asked at hgrants
  cases hgrants with
  | given hport hbinds =>
    exact buildsOn_of_startsOn h.usual (choosePort_eq_ok_iff.mpr (.inl hasked)) ((h.usesPort port).free hport hbinds)
  | any => exact buildsOn_of_startsOn h.usual (choosePort_eq_ok_iff.mpr (.inl hasked)) ((h.usesPort 0).any rfl)
  | least hleast =>
    obtain ⟨hlow, -, hbinds⟩ := hleast.1
    have hport : port ≠ 0 := by omega
    exact buildsOn_of_startsOn h.usual (choosePort_eq_ok_iff.mpr (.inr ⟨hasked, hleast⟩))
      ((h.usesPort port).free hport hbinds)

theorem Ready.built_of_inUse (h : b.Ready w.machine named) (hasked : b.port = some port)
    (htaken : ¬w.machine.network.Bindable port) : (b.built w).1 = .error (.startup (Server.portInUse port)) :=
  built_of_error h.usual (choosePort_eq_ok_iff.mpr (.inl hasked)) ((h.usesPort port).inUse htaken)

/-- What a builder asks for is granted, or nothing is built. -/
theorem Ready.granted_or_error (h : b.Ready w.machine named) :
    (∃ port, Grants w.machine.network b.port port) ∨ ∃ e, (b.built w).1 = .error e := by
  cases hasked : b.port with
  | none =>
    have hsearch := w.machine.network.findsLeast 1000 10000
    cases hfound : w.machine.network.firstFree? 1000 10000 with
    | none =>
      have hends := endsWithoutPort b Standalone.plain w.machine.network w
      exact .inr ⟨_, hends.reported.mpr ⟨hasked, hsearch.none.mp hfound⟩⟩
    | some port => exact .inl ⟨port, .least ((hsearch.found port).mp hfound)⟩
  | some asked =>
    by_cases hbinds : w.machine.network.Bindable asked
    · by_cases hzero : asked = 0
      · rw [hzero]
        exact .inl ⟨_, .any⟩
      · exact .inl ⟨asked, .given hzero hbinds⟩
    · exact .inr ⟨_, h.built_of_inUse hasked hbinds⟩

theorem Ready.buildsOn_iff (h : b.Ready w.machine named) :
    b.BuildsOn w port ↔ Grants w.machine.network b.port port := by
  refine ⟨fun hbuilds => ?_, h.buildsOn⟩
  obtain ⟨granted, hgrants⟩ | ⟨e, herror⟩ := h.granted_or_error
  · rwa [hbuilds.unique (h.buildsOn hgrants)]
  · obtain ⟨s, after, hbuilt, -⟩ := hbuilds
    rw [hbuilt] at herror
    cases herror

/-- A test server of the usual kind listens on the port that its builder was given, or on the least one of the range
that can be bound, whatever port its properties have; a given port that is in use is an error of the start, and when
the range is exhausted no server is made. A server on its own uses its port, else that of its properties, else 8080.
A search finds the least port that can be bound, and of several calls that set one thing the last counts. -/
theorem port_of_server (h : b.Ready w.machine named) :
    (∀ port, b.BuildsOn w port ↔ Grants w.machine.network b.port port) ∧
    (∀ port, b.port = some port → ¬w.machine.network.Bindable port →
      (b.built w).1 = .error (.startup (Server.portInUse port))) ∧
    (∀ (other : TestServerBuilder World) (v : World) (elsewhere : Option Nat), other.Ready v.machine elsewhere →
      other.port = b.port → v.machine.network = w.machine.network →
        ∀ port, other.BuildsOn v port ↔ b.BuildsOn w port) ∧
    (∀ {σ : Type} (any : TestServerBuilder σ) (default : Standalone σ) (network : Network) (world : σ),
      EndsWithoutPort any default network world) ∧
    (∀ (config : ServerConfig) (m : Machine) (named : Option Nat), Server.Ready config m named →
      Server.UsesPort config m ((config.port.or named).getD 8080)) ∧
    (∀ (n : Network) (low high : Nat), n.FindsLeast low high) ∧
    ∀ {σ : Type} (application : Application) (calls : List (BuilderCall σ)),
      BuilderCall.Held calls (.after application calls) := by
  refine ⟨fun port => h.buildsOn_iff, fun port => h.built_of_inUse,
    fun other v elsewhere hother hport hnetwork port => ?_, endsWithoutPort,
    fun config m named hready => hready.usesPort, Network.findsLeast, BuilderCall.held_after⟩
  rw [h.buildsOn_iff, hother.buildsOn_iff, hport, hnetwork]

def busyMachine : Machine := { Server.emptyMachine with network := { nextFree := 49152, taken := [1000] } }

def pagesAnywhere : TestServerBuilder World where
  application := { routes := fun _ => .ok Server.pages }
  overrides := some (({} : Std.TreeMap String String).insert "server.port" "5000")

theorem ready_pagesAnywhere : pagesAnywhere.Ready busyMachine (some 5000) := by
  refine ⟨rfl, fun port => ⟨?_⟩⟩
  have hread : Server.settingsRead? (pagesAnywhere.config port) = some (none, "") := by
    show Server.settingsRead? (pagesAnywhere.config 0) = some (none, "")
    decide +kernel
  obtain ⟨properties, settings, sink, hload, hsettings, hsink, hhost, hpath⟩ := Server.exists_of_settingsRead? hread
  have hport : properties.getPort ServerSettings.portKey = .ok (some 5000) := by
    have hnamed : ((Server.loadProperties (pagesAnywhere.config port) Server.emptyMachine).toOption.bind fun p =>
        (p.getPort ServerSettings.portKey).toOption) = some (some 5000) := by
      show ((Server.loadProperties (pagesAnywhere.config 0) Server.emptyMachine).toOption.bind fun p =>
        (p.getPort ServerSettings.portKey).toOption) = some (some 5000)
      decide +kernel
    rw [hload] at hnamed
    exact ok_of_toOption hnamed
  obtain ⟨own, hown⟩ : ∃ own, Http.Router.ofList? Server.pages = some own := ⟨_, rfl⟩
  have hservable : Servable settings.contextPath := by
    rw [hpath]
    decide +kernel
  exact ⟨properties, settings, sink, _, _, hload, hsettings, hhost, hport, hsink, rfl,
    Server.routerOf_servable rfl hown (.inl hpath) hservable⟩

theorem port_of_server_pagesAnywhere :
    pagesAnywhere.Ready busyMachine (some 5000) ∧ pagesAnywhere.BuildsOn ⟨busyMachine, none⟩ 1001 := by
  have hports := (@port_of_server pagesAnywhere ⟨busyMachine, none⟩ (some 5000) ready_pagesAnywhere).1
  refine ⟨ready_pagesAnywhere, (hports 1001).mpr (.least ⟨⟨by decide, by decide, ?_⟩, ?_⟩)⟩
  · exact Network.bindable_iff.mpr (.inr (by decide))
  · rintro other ⟨hlow, -, hbinds⟩
    rw [Network.bindable_iff] at hbinds
    have hother : other ≠ 1000 := by
      rintro rfl
      exact absurd hbinds (by decide)
    omega

end TestServerBuilder

end AppServer.Harness
