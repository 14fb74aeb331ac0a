import AppServer.Proofs.Config.Settings
import AppServer.Proofs.Text.Number

/-!
# Port texts

A key is read as a port when its text writes a number of at most 65535: an optional
plus sign and digits, of which the first may be zeros, with blanks around them. Any
other text is a fault that names the key. The number zero is among those read, so
the documented range 1 to 65535 is what is read of texts that do not write zero.
-/

namespace AppServer.Properties

open Text

/-- A key is read as a port from a least one to 65535: as none when it is not set, as the number that its text
writes, and with a fault for any other text. -/
structure ReadsPortsFrom (least : Nat) (p : Properties) (key : String) : Prop where
  unset : p.getPort key = .ok none ↔ p.get? key = none
  port (n : Nat) : p.getPort key = .ok (some n) ↔
    ∃ raw, p.get? key = some raw ∧ least ≤ n ∧ n ≤ 65535 ∧ WritesNumber n raw
  fault (e : ConfigError) : p.getPort key = .error e ↔
    ∃ raw, p.get? key = some raw ∧ (∀ n, least ≤ n → n ≤ 65535 → ¬WritesNumber n raw) ∧ e = .notPort key

/-- The text of a key is zero, written in some way. -/
def SetsZero (p : Properties) (key : String) : Prop := ∃ raw, p.get? key = some raw ∧ WritesNumber 0 raw

theorem getPort_of_set {p : Properties} {key raw : String} (h : p.get? key = some raw) :
    p.getPort key ≠ .ok none ∧ (∀ n, p.getPort key = .ok (some n) ↔ n ≤ 65535 ∧ WritesNumber n raw) ∧
    ∀ e, p.getPort key = .error e ↔ (∀ n ≤ 65535, ¬WritesNumber n raw) ∧ e = .notPort key := by
  have hport (n : Nat) : readUnsigned maxPort (trim raw) = some n ↔ n ≤ 65535 ∧ WritesNumber n raw :=
    readUnsigned_trim_eq_some_iff
  rw [getPort, h]
  dsimp only
  cases hread : readUnsigned maxPort (trim raw) with
  | none =>
    have hnot : ∀ n ≤ 65535, ¬WritesNumber n raw := by
      intro n hn hwrites
      have hsome := (hport n).mpr ⟨hn, hwrites⟩
      rw [hread] at hsome
      cases hsome
    refine ⟨nofun, fun n => iff_of_false nofun fun hok => hnot n hok.1 hok.2, fun e => ?_⟩
    rw [Except.error.injEq]
    exact ⟨fun heq => ⟨hnot, heq.symm⟩, fun hfault => hfault.2.symm⟩
  | some m =>
    rw [hread] at hport
    refine ⟨nofun, fun n => ?_, fun e => iff_of_false nofun fun hfault => ?_⟩
    · rw [Except.ok.injEq]
      exact hport n
    · obtain ⟨hm, hwrites⟩ := (hport m).mp rfl
      exact hfault.1 m hm hwrites

theorem readsPortsFrom_zero (p : Properties) (key : String) : ReadsPortsFrom 0 p key := by
  cases hkey : p.get? key with
  | none =>
    have hread : p.getPort key = .ok none := by rw [getPort, hkey]
    exact ⟨by simp [hread, hkey], by simp [hread, hkey], by simp [hread, hkey]⟩
  | some raw =>
    obtain ⟨hset, hport, hfault⟩ := getPort_of_set hkey
    refine ⟨iff_of_false hset (hkey ▸ nofun), fun n => ?_, fun e => ?_⟩
    · simp only [hport, hkey, Option.some.injEq, exists_eq_left', Nat.zero_le, true_and]
    · simp only [hfault, hkey, Option.some.injEq, exists_eq_left', Nat.zero_le, forall_const]

theorem getPort_eq_zero_iff {p : Properties} {key : String} : p.getPort key = .ok (some 0) ↔ p.SetsZero key := by
  rw [(readsPortsFrom_zero p key).port 0]
  simp [SetsZero]

theorem ReadsPortsFrom.one {p : Properties} {key : String} (h : ¬p.SetsZero key) : ReadsPortsFrom 1 p key := by
  have hreads := readsPortsFrom_zero p key
  have hpos : ∀ raw, p.get? key = some raw → ∀ n, WritesNumber n raw → 1 ≤ n := by
    intro raw hraw n hwrites
    refine Nat.one_le_iff_ne_zero.mpr fun hzero => h ⟨raw, hraw, ?_⟩
    rwa [hzero] at hwrites
  refine ⟨hreads.unset, fun n => ?_, fun e => ?_⟩
  · rw [hreads.port n]
    refine exists_congr fun raw => and_congr_right fun hraw => ?_
    constructor
    · rintro ⟨-, hn, hwrites⟩
      exact ⟨hpos raw hraw n hwrites, hn, hwrites⟩
    · rintro ⟨-, hn, hwrites⟩
      exact ⟨Nat.zero_le n, hn, hwrites⟩
  · rw [hreads.fault e]
    refine exists_congr fun raw => and_congr_right fun hraw => and_congr_left fun _ => ?_
    constructor
    · exact fun hnot n _ hn => hnot n (Nat.zero_le n) hn
    · exact fun hnot n _ hn hwrites => hnot n (hpos raw hraw n hwrites) hn hwrites

/-! ### A port and nothing else -/

def portAlone (raw : String) : Properties := empty.insert ServerSettings.portKey raw

theorem get?_portAlone (raw : String) : (portAlone raw).get? ServerSettings.portKey = some raw :=
  get?_insert_self empty ServerSettings.portKey raw

theorem ofProperties_portAlone {raw : String} {port : Option Nat}
    (h : (portAlone raw).getPort ServerSettings.portKey = .ok port) :
    ServerSettings.ofProperties (portAlone raw) = .ok ⟨none, port, "", ServerSettings.defaultCookiePrefix⟩ := by
  have hunset : ∀ key, ServerSettings.portKey ≠ key → (portAlone raw).get? key = none := by
    intro key hne
    rw [portAlone, get?_insert_of_ne _ hne, get?_empty]
  refine ServerSettings.ofProperties_eq_ok_iff.mpr ⟨?_, h, ?_, ?_⟩
  · rw [ServerSettings.hostOf, hunset _ (by decide)]
  · rw [getD, hunset _ (by decide)]
    rfl
  · rw [getD, hunset _ (by decide)]
    rfl

/-! ### The documented range -/

/-- Ports are read from 0 on; they are read from 1 on, as documented, exactly when the text of the key is not
zero. A fault is of invalid data and names the key. Settings have the port 0 exactly when its text is zero. -/
theorem readsPortsFrom_one_iff (p : Properties) (key : String) :
    ReadsPortsFrom 0 p key ∧ (ReadsPortsFrom 1 p key ↔ ¬p.SetsZero key) ∧
    (ConfigError.notPort key).message = "invalid config: " ++ key ++ " must be an integer port" ∧
    ∀ s, ServerSettings.ofProperties p = .ok s → (s.port ≠ some 0 ↔ ¬p.SetsZero ServerSettings.portKey) := by
  refine ⟨readsPortsFrom_zero p key, ⟨fun hreads hzero => ?_, .one⟩, (String.append_assoc).symm, fun s hs => ?_⟩
  · obtain ⟨_, -, hpos, -⟩ := (hreads.port 0).mp (getPort_eq_zero_iff.mpr hzero)
    exact absurd hpos (by decide)
  · obtain ⟨-, hport, -⟩ := ServerSettings.ofProperties_eq_ok_iff.mp hs
    rw [← getPort_eq_zero_iff, hport, Except.ok.injEq]

theorem readsPortsFrom_one_iff_padded :
    ReadsPortsFrom 1 (portAlone " +0080\t") ServerSettings.portKey ∧
      (portAlone " +0080\t").getPort ServerSettings.portKey = .ok (some 80) ∧
      ∃ s, ServerSettings.ofProperties (portAlone " +0080\t") = .ok s ∧ s.port ≠ some 0 := by
  have hwrites : WritesNumber 80 " +0080\t" :=
    ⟨[' '], ['+'], 2, ['\t'], List.forall_mem_singleton.mpr (by decide), List.forall_mem_singleton.mpr (by decide),
      .inr rfl, rfl⟩
  obtain ⟨hreads, hdocumented, -, hsettings⟩ :=
    readsPortsFrom_one_iff (portAlone " +0080\t") ServerSettings.portKey
  have hread := (hreads.port 80).mpr ⟨_, get?_portAlone _, by decide, by decide, hwrites⟩
  have hnot : ¬(portAlone " +0080\t").SetsZero ServerSettings.portKey := by
    rw [← getPort_eq_zero_iff, hread]
    decide
  have hok := ofProperties_portAlone hread
  exact ⟨hdocumented.mpr hnot, hread, _, hok, (hsettings _ hok).mpr hnot⟩

theorem zero_port_read :
    (portAlone "0").getPort ServerSettings.portKey = .ok (some 0) ∧
      ¬ReadsPortsFrom 1 (portAlone "0") ServerSettings.portKey ∧
      ServerSettings.ofProperties (portAlone "0") = .ok ⟨none, some 0, "", "TRELLIS"⟩ := by
  have hread : (portAlone "0").getPort ServerSettings.portKey = .ok (some 0) := by
    rw [getPort, get?_portAlone]
    rfl
  refine ⟨hread, fun hreads => ?_, ofProperties_portAlone hread⟩
  obtain ⟨_, -, hpos, -⟩ := (hreads.port 0).mp hread
  exact absurd hpos (by decide)

end AppServer.Properties
