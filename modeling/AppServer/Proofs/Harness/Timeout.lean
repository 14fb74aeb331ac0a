import AppServer.Environment
import AppServer.Harness.Browser
import AppServer.Proofs.Text.Number
import Mathlib.Algebra.Group.Nat.Defs

/-!
# Timeouts that the environment raises

Of the duration that was asked for and the seconds that the variable's text writes the
longer one counts, to the nanosecond. A text that writes zero, in whatever way, is refused
for that; any other text that writes no number of 64 bits is refused as no number. So a
timeout is never shortened, and one that the variable has raised is not raised again.
-/

namespace AppServer.Harness

open Text

/-! ### Durations -/

namespace Duration

/-- The seconds are a number of 64 bits, and the nanoseconds are less than a second. -/
structure Valid (d : Duration) : Prop where
  seconds : d.seconds < 2 ^ 64
  nanos : d.nanos < 1000000000

variable {a b : Duration}

theorem valid_ofSeconds {n : Nat} (h : n < 2 ^ 64) : Valid ⟨n, 0⟩ := ⟨h, Nat.succ_pos _⟩

theorem total_ofSeconds (n : Nat) : total ⟨n, 0⟩ = n * 1000000000 := Nat.add_zero _

theorem total_longer (a b : Duration) : (a.longer b).total = max a.total b.total := by
  rw [longer]
  split
  · next h => exact (Nat.max_eq_right h).symm
  · next h => exact (Nat.max_eq_left (Nat.le_of_not_le h)).symm

theorem Valid.longer (ha : a.Valid) (hb : b.Valid) : (a.longer b).Valid := by
  rw [Duration.longer]
  split
  · exact hb
  · exact ha

theorem Valid.eq_of_total_eq (ha : a.Valid) (hb : b.Valid) (h : a.total = b.total) : a = b := by
  obtain ⟨secondsA, nanosA⟩ := a
  obtain ⟨secondsB, nanosB⟩ := b
  have hnanosA : nanosA < 1000000000 := ha.nanos
  have hnanosB : nanosB < 1000000000 := hb.nanos
  simp only [total, nanosPerSecond] at h
  have hseconds : secondsA = secondsB := by omega
  have hnanos : nanosA = nanosB := by omega
  rw [hseconds, hnanos]

end Duration

/-! ### Texts of seconds -/

variable {raw : String} {n : Nat}

theorem readUnsigned_seconds_iff :
    readUnsigned maxSeconds (trim raw) = some n ↔ n < 2 ^ 64 ∧ WritesNumber n raw := by
  have hbound : n ≤ maxSeconds ↔ n < 2 ^ 64 := Nat.le_sub_one_iff_lt (by decide)
  rw [readUnsigned_trim_eq_some_iff, hbound]

/-- What comes of reading a text as seconds. -/
inductive ReadsSeconds (raw : String) : Except TimeoutError Nat → Prop
  | ok {n : Nat} (hpos : 1 ≤ n) (hbound : n < 2 ^ 64) (hwrites : WritesNumber n raw) : ReadsSeconds raw (.ok n)
  | zero (hwrites : WritesNumber 0 raw) : ReadsSeconds raw (.error .zero)
  | notANumber (hother : ∀ n < 2 ^ 64, ¬WritesNumber n raw) : ReadsSeconds raw (.error .notANumber)

theorem readsSeconds (raw : String) : ReadsSeconds raw (readSeconds raw) := by
  rw [readSeconds]
  split
  · next hnone =>
    refine .notANumber fun n hbound hwrites => ?_
    rw [readUnsigned_seconds_iff.mpr ⟨hbound, hwrites⟩] at hnone
    cases hnone
  · next hzero => exact .zero (readUnsigned_seconds_iff.mp hzero).2
  · next n hpos hsome =>
    obtain ⟨hbound, hwrites⟩ := readUnsigned_seconds_iff.mp hsome
    exact .ok (Nat.one_le_iff_ne_zero.mpr hpos) hbound hwrites

/-! ### Raised timeouts -/

/-- What a text makes of a timeout: of the duration that was asked for and the seconds that the text writes the
longer one. Zero is refused as such, and as no number all that writes none of 64 bits, greater numbers included. -/
structure Raised (requested : Duration) (raw : String) (resolved : Except TimeoutError Duration) : Prop where
  accepted : (∃ d, resolved = .ok d) ↔ ∃ n, 1 ≤ n ∧ n < 2 ^ 64 ∧ WritesNumber n raw
  longer (d : Duration) (n : Nat) : resolved = .ok d → WritesNumber n raw →
    d.Valid ∧ d.total = max requested.total (n * 1000000000)
  zero : resolved = .error .zero ↔ WritesNumber 0 raw
  notANumber : resolved = .error .notANumber ↔ ∀ n < 2 ^ 64, ¬WritesNumber n raw
  tooLarge (n : Nat) : 2 ^ 64 ≤ n → WritesNumber n raw → resolved = .error .notANumber

variable {requested : Duration}

theorem raised (h : requested.Valid) (raw : String) : Raised requested raw (resolveTimeout requested (some raw)) := by
  rw [resolveTimeout]
  have hreads := readsSeconds raw
  generalize readSeconds raw = read at hreads
  -- each text writes one number at most, so the three outcomes exclude one another
  cases hreads with
  | ok hpos hbound hwrites =>
    next m =>
    have hsame {n : Nat} (hn : WritesNumber n raw) : n = m := hn.unique hwrites
    refine ⟨iff_of_true ⟨_, rfl⟩ ⟨m, hpos, hbound, hwrites⟩, fun d n hd hn => ?_, iff_of_false nofun fun hzero => ?_,
      iff_of_false nofun fun hother => hother m hbound hwrites, fun n hlarge hn => ?_⟩
    · cases hd
      rw [hsame hn, Duration.total_longer, Duration.total_ofSeconds]
      exact ⟨h.longer (Duration.valid_ofSeconds hbound), rfl⟩
    · have hm : 0 = m := hsame hzero
      omega
    · have hm : n = m := hsame hn
      omega
  | zero hwrites =>
    have hsame {n : Nat} (hn : WritesNumber n raw) : n = 0 := hn.unique hwrites
    refine ⟨iff_of_false nofun ?_, nofun, iff_of_true rfl hwrites,
      iff_of_false nofun fun hother => hother 0 (by decide) hwrites, fun n hlarge hn => ?_⟩
    · rintro ⟨n, hpos, -, hn⟩
      have hn : n = 0 := hsame hn
      omega
    · have hn : n = 0 := hsame hn
      omega
  | notANumber hother =>
    refine ⟨iff_of_false nofun ?_, nofun, iff_of_false nofun fun hzero => hother 0 (by decide) hzero,
      iff_of_true rfl hother, fun _ _ _ => rfl⟩
    rintro ⟨n, -, hbound, hn⟩
    exact hother n hbound hn

/-- What has been raised by a text is not raised by it again. -/
theorem resolve_resolved (h : requested.Valid) {d : Duration} (hd : resolveTimeout requested (some raw) = .ok d) :
    resolveTimeout d (some raw) = .ok d := by
  have hfirst := raised h raw
  obtain ⟨n, hpos, hbound, hwrites⟩ := hfirst.accepted.mp ⟨d, hd⟩
  obtain ⟨hvalid, htotal⟩ := hfirst.longer d n hd hwrites
  have hagain := raised hvalid raw
  obtain ⟨e, he⟩ := hagain.accepted.mpr ⟨n, hpos, hbound, hwrites⟩
  obtain ⟨hvalid', htotal'⟩ := hagain.longer e n he hwrites
  have hsame : e.total = d.total := by
    rw [htotal', htotal, Nat.max_assoc, Nat.max_self]
  rw [he, hvalid'.eq_of_total_eq hvalid hsame]

theorem Raised.mono {other d e : Duration} {text : String} {m n : Nat}
    {resolved resolved' : Except TimeoutError Duration}
    (hraised : Raised requested raw resolved) (hraised' : Raised other text resolved')
    (hrequested : requested.total ≤ other.total) (hm : WritesNumber m raw) (hn : WritesNumber n text) (hmn : m ≤ n)
    (hd : resolved = .ok d) (he : resolved' = .ok e) : d.total ≤ e.total := by
  have hseconds : m * 1000000000 ≤ n * 1000000000 := Nat.mul_le_mul_right _ hmn
  rw [(hraised.longer d m hd hm).2, (hraised'.longer e n he hn).2]
  omega

/-- A variable that holds text raises the timeouts of its process, and those of the browsers that are made in it.
None is shorter than was asked for, none gets shorter when more is asked for or a greater number is written, and a
timeout that has been raised is what it is raised to. -/
theorem timeout_raised (J : Type) [Jar J] (h : requested.Valid) (raw : String) :
    let resolve (d : Duration) (text : String) := resolveTimeout d (Environment.text? (some (Bytes.ofText text)))
    let create (d : Duration) (text : String) : Except BrowserError (Browser J) :=
      Browser.create d (Environment.text? (some (Bytes.ofText text)))
    Raised requested raw (resolve requested raw) ∧
    (∀ b, create requested raw = .ok b ↔ ∃ d, resolve requested raw = .ok d ∧ b = { jar := Jar.empty, timeout := d }) ∧
    (∀ e, create requested raw = .error e ↔ ∃ cause, resolve requested raw = .error cause ∧ e = .timeout cause) ∧
    (∀ d, resolve requested raw = .ok d → requested.total ≤ d.total ∧ resolve d raw = .ok d) ∧
    ∀ (other : Duration) (text : String) (m n : Nat) (d e : Duration), other.Valid →
      requested.total ≤ other.total → WritesNumber m raw → WritesNumber n text → m ≤ n →
      resolve requested raw = .ok d → resolve other text = .ok e → d.total ≤ e.total := by
  intro resolve create
  have htext (d : Duration) (text : String) : resolve d text = resolveTimeout d (some text) := by
    rw [← Environment.text?_ofText]
  have hraised := raised h raw
  simp only [htext]
  refine ⟨hraised, fun b => ?_, fun e => ?_, fun d hd => ⟨?_, resolve_resolved h hd⟩, ?_⟩
  · rw [← htext]
    exact Browser.create_eq_ok_iff
  · rw [← htext]
    exact Browser.create_eq_error_iff
  · obtain ⟨n, -, -, hwrites⟩ := hraised.accepted.mp ⟨d, hd⟩
    rw [(hraised.longer d n hd hwrites).2]
    exact Nat.le_max_left _ _
  · intro other text m n d e hother hle hm hn hmn hd he
    exact hraised.mono (raised hother text) hle hm hn hmn hd he

/-- A little more than ninety seconds, a text for ninety-one and one past 64 bits. -/
theorem timeout_raised_paddedText :
    Duration.Valid ⟨90, 999999999⟩ ∧
      resolveTimeout ⟨90, 999999999⟩ (Environment.text? (some (Bytes.ofText "\t+0091\u2003"))) = .ok ⟨91, 0⟩ ∧
      resolveTimeout ⟨90, 999999999⟩ (Environment.text? (some (Bytes.ofText "18446744073709551616"))) =
        .error .notANumber := by
  have hvalid : Duration.Valid ⟨90, 999999999⟩ := ⟨by decide, by decide⟩
  have hwrites : WritesNumber 91 "\t+0091\u2003" :=
    ⟨['\t'], ['+'], 2, ['\u2003'], List.forall_mem_singleton.mpr (by decide), List.forall_mem_singleton.mpr (by decide),
      .inr rfl, rfl⟩
  have hlarge : WritesNumber (2 ^ 64) "18446744073709551616" := writesNumber_decimal (2 ^ 64)
  obtain ⟨hraised, -⟩ := timeout_raised CookieJar hvalid "\t+0091\u2003"
  obtain ⟨hrefused, -⟩ := timeout_raised CookieJar hvalid "18446744073709551616"
  obtain ⟨d, hd⟩ := hraised.accepted.mpr ⟨91, by decide, by decide, hwrites⟩
  obtain ⟨hd', htotal⟩ := hraised.longer d 91 hd hwrites
  have hninetyOne : d = ⟨91, 0⟩ := hd'.eq_of_total_eq (Duration.valid_ofSeconds (by decide)) htotal
  exact ⟨hvalid, hninetyOne ▸ hd, hrefused.tooLarge _ (Nat.le_refl _) hlarge⟩

end AppServer.Harness
