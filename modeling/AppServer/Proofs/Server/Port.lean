import AppServer.Proofs.Server.Start
import Mathlib.Data.Set.Basic
import Mathlib.Order.Bounds.Defs

/-!
# The port of a server

A port of the loopback address can be bound when nothing has taken it, and zero
stands for any of them. A range is searched from its low end, so what is found is
the least port that can be bound. A server that has all it needs except a port asks
for the one it was given, else for the one of its properties, else for 8080, and
starts on it exactly when it can be bound.
-/

namespace AppServer

/-! ### Ports that can be bound -/

namespace Network

variable {n : Network} {port low high : Nat}

/-- The loopback address grants the port. -/
def Bindable (n : Network) (port : Nat) : Prop := ∃ granted, n.bind loopback port = .ok granted

theorem bind_loopback (n : Network) (port : Nat) : n.bind loopback port =
    if port = 0 then .ok (n.nextFree, { n with taken := n.nextFree :: n.taken, nextFree := n.nextFree + 1 })
    else if n.isFree port then .ok (port, { n with taken := port :: n.taken }) else .error .addressInUse := by
  have hknown : knowsHost loopback = true := by decide +kernel
  have hhas : hasHost loopback = true := by decide +kernel
  rw [bind, hknown, hhas]
  rfl

theorem bindable_iff_isFree : n.Bindable port ↔ n.isFree port = true := by
  rw [Bindable, bind_loopback]
  split
  · next hzero =>
    refine iff_of_true ⟨_, rfl⟩ ?_
    rw [isFree, decide_eq_true hzero, Bool.true_or]
  · split
    · next hfree => exact iff_of_true ⟨_, rfl⟩ hfree
    · next htaken =>
      refine iff_of_false ?_ htaken
      rintro ⟨_, ⟨⟩⟩

/-- What can be bound are the ports that nothing has taken, and zero. -/
theorem bindable_iff : n.Bindable port ↔ port = 0 ∨ port ∉ n.taken := by
  rw [bindable_iff_isFree, isFree]
  simp

theorem bind_of_ne_zero (hport : port ≠ 0) (h : n.Bindable port) :
    n.bind loopback port = .ok (port, { n with taken := port :: n.taken }) := by
  rw [bind_loopback, if_neg hport, if_pos (bindable_iff_isFree.mp h)]

theorem bind_of_not_bindable (h : ¬n.Bindable port) : n.bind loopback port = .error .addressInUse := by
  have hport : port ≠ 0 := fun hzero => h (bindable_iff.mpr (.inl hzero))
  rw [bind_loopback, if_neg hport, if_neg (mt bindable_iff_isFree.mpr h)]

def bindableIn (n : Network) (low high : Nat) : Set Nat := {port | low ≤ port ∧ port < high ∧ n.Bindable port}

/-- A search finds the least port of the range that can be bound, and none exactly when there is none. -/
structure FindsLeast (n : Network) (low high : Nat) : Prop where
  found (port : Nat) : n.firstFree? low high = some port ↔ IsLeast (n.bindableIn low high) port
  none : n.firstFree? low high = none ↔ n.bindableIn low high = ∅
  empty : high ≤ low → n.firstFree? low high = Option.none

theorem findsLeast (n : Network) (low high : Nat) : FindsLeast n low high := by
  have hfound (port : Nat) : n.firstFree? low high = some port ↔ IsLeast (n.bindableIn low high) port := by
    rw [firstFree?, List.find?_range'_eq_some, ← bindable_iff_isFree, List.mem_range'_1]
    simp only [Bool.not_eq_true', Bool.eq_false_iff, ne_eq, ← bindable_iff_isFree]
    constructor
    · rintro ⟨hbinds, ⟨hlow, hhigh⟩, hleast⟩
      refine ⟨⟨hlow, by omega, hbinds⟩, ?_⟩
      rintro other ⟨hother, -, hcan⟩
      exact Nat.le_of_not_lt fun hlt => hleast other hother hlt hcan
    · rintro ⟨⟨hlow, hhigh, hbinds⟩, hleast⟩
      refine ⟨hbinds, ⟨hlow, by omega⟩, fun other hother hlt hcan => ?_⟩
      exact Nat.not_le_of_lt hlt (hleast ⟨hother, hlt.trans hhigh, hcan⟩)
  have hnone : n.firstFree? low high = none ↔ n.bindableIn low high = ∅ := by
    rw [firstFree?, List.find?_range'_eq_none, Set.eq_empty_iff_forall_notMem]
    simp only [Bool.not_eq_true', Bool.eq_false_iff, ne_eq, ← bindable_iff_isFree]
    constructor
    · rintro hall port ⟨hlow, hhigh, hbinds⟩
      exact hall port hlow (by omega) hbinds
    · intro hall port hlow hhigh hbinds
      exact hall port ⟨hlow, by omega, hbinds⟩
  refine ⟨hfound, hnone, fun hle => ?_⟩
  rw [firstFree?, Nat.sub_eq_zero_of_le hle]
  rfl

end Network

/-! ### Starting on a port -/

namespace Server

variable {config : ServerConfig} {m : Machine} {named : Option Nat}

/-- The configuration has all that a server needs except a port: properties that are accepted, with this port and
without a host, a sink for events, the services and the routes of the application. -/
structure Ready (config : ServerConfig) (m : Machine) (named : Option Nat) : Prop where
  parts : ∃ properties settings sink injector router, loadProperties config m = .ok properties ∧
    ServerSettings.ofProperties properties = .ok settings ∧ settings.host = none ∧
    properties.getPort ServerSettings.portKey = .ok named ∧ EventSink.ofProperties m.files properties = .ok sink ∧
    injectorOf config properties settings = .ok injector ∧ routerOf config settings injector = .ok router

/-- The port that a server is to listen on: its own, else that of its properties, else the usual one. -/
def askedPort (config : ServerConfig) (named : Option Nat) : Nat := (config.port.or named).getD 8080

/-- The configuration starts, and listens on this port then. -/
def StartsOn (config : ServerConfig) (m : Machine) (port : Nat) : Prop :=
  ∃ r after, start { config } m = (.ok (), ⟨config, some r⟩, after) ∧ r.port = port ∧
    after.network.taken = port :: m.network.taken

def portInUse (port : Nat) : ServerError :=
  .bind ("127.0.0.1:" ++ Text.decimal port) "Address already in use (os error 98)"

/-- A start uses the port that is asked for if it can be bound, any port for zero, and fails otherwise. -/
structure UsesPort (config : ServerConfig) (m : Machine) (asked : Nat) : Prop where
  free : asked ≠ 0 → m.network.Bindable asked → StartsOn config m asked
  any : asked = 0 → StartsOn config m m.network.nextFree
  inUse : ¬m.network.Bindable asked → (start { config } m).1 = .error (portInUse asked)

theorem takePort_eq {settings : ServerSettings} {asked : Nat} (hhost : settings.host = none)
    (hasked : (config.port.or settings.port).getD defaultPort = asked) (network : Network) :
    takePort config settings network =
      (network.bind Network.loopback asked).mapError fun cause =>
        .bind ("127.0.0.1:" ++ Text.decimal asked) cause.message := by
  have haddress : settings.bindAddress defaultHost asked = "127.0.0.1:" ++ Text.decimal asked := by
    have hliteral : Ipv6.isLiteral defaultHost = false := by decide +kernel
    rw [ServerSettings.bindAddress, hhost, Option.getD_none, ServerSettings.authority, hliteral]
    rfl
  have hloopback : settings.host.getD defaultHost = Network.loopback := by
    rw [hhost]
    rfl
  simp only [takePort, hasked, haddress, hloopback]
  cases network.bind Network.loopback asked <;> rfl

theorem Ready.starts (h : Ready config m named) : ∃ settings : ServerSettings,
    settings.host = none ∧ settings.port = named ∧
    (∀ granted, takePort config settings m.network = .ok granted →
      ∃ r after, start { config } m = (.ok (), ⟨config, some r⟩, after) ∧ r.port = granted.1 ∧
        after.network = granted.2) ∧
    ∀ e, takePort config settings m.network = .error e → (start { config } m).1 = .error e := by
  obtain ⟨properties, settings, sink, injector, router, hload, hsettings, hhost, hnamed, hsink, hinjector, hrouter⟩ :=
    h.parts
  obtain ⟨-, hport, -⟩ := ServerSettings.ofProperties_eq_ok_iff.mp hsettings
  refine ⟨settings, hhost, Except.ok.inj (hport.symm.trans hnamed), fun granted hgranted => ?_, fun e he => ?_⟩
  · obtain ⟨r, after, hstart, -, hheld, hafter⟩ := start_of_parts hload hsettings hsink hinjector hrouter hgranted
    exact ⟨r, after, hstart, hheld, hafter⟩
  · simp only [start, prepare, hload, hsettings, hsink, handlerOf, hinjector, hrouter, he, bind, Except.bind]

theorem Ready.usesPort (h : Ready config m named) : UsesPort config m (askedPort config named) := by
  obtain ⟨settings, hhost, hport, hstarts, hfails⟩ := h.starts
  have hasked : (config.port.or settings.port).getD defaultPort = askedPort config named := by
    rw [hport]
    rfl
  have htake := takePort_eq hhost hasked m.network
  refine ⟨fun hne hbinds => ?_, fun hzero => ?_, fun htaken => ?_⟩
  · rw [Network.bind_of_ne_zero hne hbinds] at htake
    obtain ⟨r, after, hstart, hheld, hafter⟩ := hstarts _ htake
    exact ⟨r, after, hstart, hheld, congrArg Network.taken hafter⟩
  · rw [Network.bind_loopback, if_pos hzero] at htake
    obtain ⟨r, after, hstart, hheld, hafter⟩ := hstarts _ htake
    exact ⟨r, after, hstart, hheld, congrArg Network.taken hafter⟩
  · rw [Network.bind_of_not_bindable htaken] at htake
    exact hfails _ htake

end Server

end AppServer
