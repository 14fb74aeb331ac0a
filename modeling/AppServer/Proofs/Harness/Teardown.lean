import AppServer.Harness.Faulty
import AppServer.Harness.Fixture

/-!
# Teardown happens once

Whatever a kind of servers answers, a server that the harness has made is shut
down once: when it cannot be used, when it is asked to, or when it is dropped.
What fails then is told once, to the first who asks or, if nobody did, as an
event.
-/

namespace AppServer.Harness

variable {σ : Type}

/-! ### Counted servers -/

namespace Standalone

variable (kind : Standalone σ)

/-- A kind of servers in a world that counts how often their shutdown is called. -/
abbrev counted : Standalone (Counted σ) := kind.faulty {}

def begin (config : ServerConfig) (world : σ) : Except ServerError Unit × σ :=
  kind.start (kind.create config world)

/-- A started server offers all that a test needs of it. -/
def Serves (world : σ) : Prop :=
  kind.injector world ≠ none ∧ kind.serverUrls world ≠ [] ∧ kind.baseUrls world ≠ []

end Standalone

/-- A test server that has not been shut down, of a kind whose shutdowns are counted. -/
structure TestServer.Fresh (kind : Standalone σ) (s : TestServer (Counted σ)) : Prop where
  standalone : s.standalone = kind.counted
  running : s.isStopped = false

/-! ### Building -/

namespace TestServerBuilder

/-- What comes of building a test server whose port is chosen. -/
structure Builds (kind : Standalone σ) (config : ServerConfig) (c : Counted σ)
    (built : Except TestServerError (TestServer (Counted σ)) × Counted σ) : Prop where
  startup : ∀ e, built.1 = .error (.startup e) ↔ (kind.begin config c.world).1 = .error e
  /-- A server that has started must offer all that is needed. -/
  notServing : built.1 = .error .notServing ↔
    (kind.begin config c.world).1 = .ok () ∧ ¬kind.Serves (kind.begin config c.world).2
  /-- There are no other errors, and with each of them the server has been shut down once. -/
  failed : ∀ e, built.1 = .error e →
    ((∃ cause, e = .startup cause) ∨ e = .notServing) ∧ built.2.shutdowns = c.shutdowns + 1
  fresh : ∀ s, built.1 = .ok s → s.Fresh kind ∧ built.2 = ⟨(kind.begin config c.world).2, c.shutdowns⟩

variable {kind : Standalone σ} {config : ServerConfig} {c : Counted σ}

theorem builds_refused {e : ServerError} (h : (kind.begin config c.world).1 = .error e) (world : σ) :
    Builds kind config c (.error (.startup e), giveUp kind.counted ⟨world, c.shutdowns⟩) where
  startup cause := by
    rw [h]
    constructor
    · rintro ⟨⟩
      rfl
    · rintro ⟨⟩
      rfl
  notServing := by
    rw [h]
    exact iff_of_false (fun heq => nomatch heq) (fun heq => nomatch heq.1)
  failed cause hcause := by
    cases hcause
    exact ⟨.inl ⟨e, rfl⟩, rfl⟩
  fresh s hs := nomatch hs

theorem builds_useless (h : (kind.begin config c.world).1 = .ok ())
    (hserves : ¬kind.Serves (kind.begin config c.world).2) (world : σ) :
    Builds kind config c (.error .notServing, giveUp kind.counted ⟨world, c.shutdowns⟩) where
  startup cause := by
    rw [h]
    exact iff_of_false (fun heq => nomatch heq) (fun heq => nomatch heq)
  notServing := iff_of_true rfl ⟨h, hserves⟩
  failed cause hcause := by
    cases hcause
    exact ⟨.inr rfl, rfl⟩
  fresh s hs := nomatch hs

theorem builds_serving (h : (kind.begin config c.world).1 = .ok ())
    (hserves : kind.Serves (kind.begin config c.world).2) {s : TestServer (Counted σ)} (hs : s.Fresh kind) :
    Builds kind config c (.ok s, ⟨(kind.begin config c.world).2, c.shutdowns⟩) where
  startup cause := by
    rw [h]
    exact iff_of_false (fun heq => nomatch heq) (fun heq => nomatch heq)
  notServing := iff_of_false (fun heq => nomatch heq) (fun hnot => hnot.2 hserves)
  failed cause hcause := nomatch hcause
  fresh other hother := by
    cases hother
    exact ⟨hs, rfl⟩

theorem builds {b : TestServerBuilder (Counted σ)} {default : Standalone (Counted σ)}
    (hkind : b.standalone.getD default = kind.counted) {network : Network} {port : Nat}
    (hport : b.choosePort network = .ok port) (c : Counted σ) :
    Builds kind (b.config port) c (b.build default network c) := by
  have hstarted : kind.counted.start (kind.counted.create (b.config port) c) =
      ((kind.begin (b.config port) c.world).1, ⟨(kind.begin (b.config port) c.world).2, c.shutdowns⟩) := rfl
  simp only [build, hport, hkind, hstarted]
  cases hbegin : (kind.begin (b.config port) c.world).1 with
  | error e => exact builds_refused hbegin _
  | ok _ =>
    dsimp only
    split
    · next injector serverUrl baseUrl hinjector hserver hbase =>
      refine builds_serving hbegin ⟨?_, ?_, ?_⟩ ⟨rfl, rfl⟩
      · exact Option.ne_none_iff_exists'.mpr ⟨injector, hinjector⟩
      · exact List.ne_nil_of_mem (List.mem_of_head? hserver)
      · exact List.ne_nil_of_mem (List.mem_of_head? hbase)
    · next hmissing =>
      refine builds_useless hbegin ?_ _
      rintro ⟨hinjector, hserver, hbase⟩
      obtain ⟨injector, hinjector⟩ := Option.ne_none_iff_exists'.mp hinjector
      exact hmissing injector _ _ hinjector (List.head?_eq_some_head hserver) (List.head?_eq_some_head hbase)

end TestServerBuilder

/-! ### Asking for the end -/

/-- The answers that are due to all who ask for the end: the first one is told the outcome, and the others
that all is well. -/
def dueReplies {ε : Type} (outcome : Except ε Unit) : Nat → List (Except ε Unit)
  | 0 => []
  | n + 1 => outcome :: List.replicate n (.ok ())

namespace TestServer

/-- What a test does with its server: it asks for its end, in one of two ways, or lets the world go on. -/
inductive Call (σ : Type) where
  | shutdown
  | close
  | meanwhile (act : σ → σ)

def Call.asksForEnd : Call σ → Bool
  | .meanwhile _ => false
  | _ => true

def run (s : TestServer (Counted σ)) (c : Counted σ) :
    List (Call σ) → List (Except TestServerError Unit) × TestServer (Counted σ) × Counted σ
  | [] => ([], s, c)
  | .shutdown :: rest =>
    let (reply, s, c) := s.shutdown c
    let (replies, after) := run s c rest
    (reply :: replies, after)
  | .close :: rest =>
    let (reply, s, c) := s.close c
    let (replies, after) := run s c rest
    (reply :: replies, after)
  | .meanwhile act :: rest => run s { c with world := act c.world } rest

/-- What the shutdown of the server comes to, at the first call that asks for it or else at the end. -/
def outcome (kind : Standalone σ) (world : σ) : List (Call σ) → Except ServerError Unit
  | .meanwhile act :: rest => outcome kind (act world) rest
  | _ => (kind.shutdown world).1

def stopped (s : TestServer σ) : TestServer σ := { s with isStopped := true }

variable {kind : Standalone σ} {s : TestServer (Counted σ)}

theorem Fresh.shutdown (h : s.Fresh kind) (c : Counted σ) :
    s.shutdown c = ((kind.shutdown c.world).1.mapError .shutdown, s.stopped,
      ⟨(kind.shutdown c.world).2, c.shutdowns + 1⟩) := by
  have hinner : s.standalone.shutdown c =
      ((kind.shutdown c.world).1, ⟨(kind.shutdown c.world).2, c.shutdowns + 1⟩) := by
    rw [h.standalone]
    rfl
  rw [TestServer.shutdown, h.running, hinner]
  rfl

theorem shutdown_stopped (s : TestServer (Counted σ)) (c : Counted σ) :
    s.stopped.shutdown c = (.ok (), s.stopped, c) := rfl

theorem Fresh.shutdowns_drop (h : s.Fresh kind) (c : Counted σ) : (s.drop c).shutdowns = c.shutdowns + 1 := by
  rw [drop, h.shutdown, stopped, h.standalone]
  rfl

theorem Fresh.shutdowns_drop_stopped (h : s.Fresh kind) (c : Counted σ) :
    (s.stopped.drop c).shutdowns = c.shutdowns := by
  rw [drop, shutdown_stopped, stopped, h.standalone]
  rfl

/-- A server that has been shut down answers that all is well, and is not shut down again. -/
theorem run_stopped (s : TestServer (Counted σ)) (c : Counted σ) (calls : List (Call σ)) :
    (s.stopped.run c calls).1 = List.replicate (calls.countP Call.asksForEnd) (.ok ()) ∧
      (s.stopped.run c calls).2.1 = s.stopped ∧ (s.stopped.run c calls).2.2.shutdowns = c.shutdowns := by
  induction calls generalizing c with
  | nil => exact ⟨rfl, rfl, rfl⟩
  | cons call rest ih =>
    cases call with
    | shutdown =>
      rw [run, shutdown_stopped, List.countP_cons_of_pos rfl, List.replicate_succ]
      exact ⟨congrArg _ (ih c).1, (ih c).2⟩
    | close =>
      rw [run, close, shutdown_stopped, List.countP_cons_of_pos rfl, List.replicate_succ]
      exact ⟨congrArg _ (ih c).1, (ih c).2⟩
    | meanwhile act =>
      rw [run, List.countP_cons_of_neg (by simp [Call.asksForEnd])]
      exact ih { c with world := act c.world }

theorem Fresh.run_ended (h : s.Fresh kind) (c : Counted σ) (rest : List (Call σ)) :
    let after := s.stopped.run ⟨(kind.shutdown c.world).2, c.shutdowns + 1⟩ rest
    (kind.shutdown c.world).1.mapError .shutdown :: after.1 =
        dueReplies ((kind.shutdown c.world).1.mapError .shutdown) (rest.countP Call.asksForEnd + 1) ∧
      (after.2.1.drop after.2.2).shutdowns = c.shutdowns + 1 := by
  intro after
  obtain ⟨hreplies, hserver, hcount⟩ := run_stopped s ⟨(kind.shutdown c.world).2, c.shutdowns + 1⟩ rest
  refine ⟨congrArg _ hreplies, ?_⟩
  rw [hserver, h.shutdowns_drop_stopped, hcount]

theorem Fresh.run (h : s.Fresh kind) (c : Counted σ) (calls : List (Call σ)) :
    (s.run c calls).1 =
        dueReplies ((outcome kind c.world calls).mapError .shutdown) (calls.countP Call.asksForEnd) ∧
      ((s.run c calls).2.1.drop (s.run c calls).2.2).shutdowns = c.shutdowns + 1 := by
  -- on the calls up to the first that asks for the end; from there on nothing is left to be done
  induction calls generalizing c with
  | nil => exact ⟨rfl, h.shutdowns_drop c⟩
  | cons call rest ih =>
    cases call with
    | shutdown =>
      rw [TestServer.run, h.shutdown, List.countP_cons_of_pos rfl]
      exact h.run_ended c rest
    | close =>
      rw [TestServer.run, close, h.shutdown, List.countP_cons_of_pos rfl]
      exact h.run_ended c rest
    | meanwhile act =>
      rw [TestServer.run, List.countP_cons_of_neg (by simp [Call.asksForEnd])]
      exact ih { c with world := act c.world }

end TestServer

/-! ### Fixtures -/

namespace Fixture

/-- What a test does with its fixture: it asks for its end, works with its browser, which may change the
world and the browser, or lets the world go on. -/
inductive Call (σ : Type) where
  | shutdown
  | browse (act : Browser CookieJar → σ → Browser CookieJar × σ)
  | meanwhile (act : σ → σ)

def Call.asksForEnd : Call σ → Bool
  | .shutdown => true
  | _ => false

def browse (f : Fixture (Counted σ)) (c : Counted σ) (act : Browser CookieJar → σ → Browser CookieJar × σ) :
    Fixture (Counted σ) × Counted σ :=
  match f.browser? with
  | some browser =>
    ({ f with browser? := some (act browser c.world).1 }, { c with world := (act browser c.world).2 })
  | none => (f, c)

def run (f : Fixture (Counted σ)) (c : Counted σ) :
    List (Call σ) → List (Except FixtureError Unit) × Fixture (Counted σ) × Counted σ
  | [] => ([], f, c)
  | .shutdown :: rest =>
    let (reply, f, c) := f.shutdown c
    let (replies, after) := run f c rest
    (reply :: replies, after)
  | .browse act :: rest => run (f.browse c act).1 (f.browse c act).2 rest
  | .meanwhile act :: rest => run f { c with world := act c.world } rest

def outcome (kind : Standalone σ) (browser : Browser CookieJar) (world : σ) : List (Call σ) → Except ServerError Unit
  | .browse act :: rest => outcome kind (act browser world).1 (act browser world).2 rest
  | .meanwhile act :: rest => outcome kind browser (act world) rest
  | _ => (kind.shutdown world).1

def teardownError (e : ServerError) : FixtureError := .teardown [(TestServerError.shutdown e).message]

/-- The event of a fixture that is dropped: none unless the server cannot be shut down. -/
def teardownEvent (mode : Mode) (now : Nat) : Except ServerError Unit → Option LifecycleEvent
  | .ok () => none
  | .error e => some ⟨"fixture_teardown_failed", now, mode, none, some (teardownError e).message⟩

structure Open (kind : Standalone σ) (f : Fixture (Counted σ)) (browser : Browser CookieJar) : Prop where
  server : ∃ s, f.server? = some s ∧ s.Fresh kind
  browser : f.browser? = some browser

def torn (f : Fixture σ) : Fixture σ := { f with server? := none, browser? := none }

variable {kind : Standalone σ} {f : Fixture (Counted σ)} {browser : Browser CookieJar}

theorem Open.shutdown (h : f.Open kind browser) (c : Counted σ) : ∃ world : σ,
    f.shutdown c = ((kind.shutdown c.world).1.mapError teardownError, f.torn, ⟨world, c.shutdowns + 1⟩) := by
  obtain ⟨s, hs, hfresh⟩ := h.server
  have hdropped (world : σ) (n : Nat) : s.stopped.drop ⟨world, n⟩ = ⟨kind.drop world, n⟩ := by
    rw [TestServer.drop, TestServer.shutdown_stopped, TestServer.stopped, hfresh.standalone]
    rfl
  -- to close a browser cannot fail, so whatever fails is of the server
  have hbrowser : f.closeBrowser = [] := by
    rw [closeBrowser, h.browser]
    rfl
  refine ⟨kind.drop (kind.shutdown c.world).2, ?_⟩
  rw [Fixture.shutdown, closeServer, hs]
  dsimp only
  rw [hfresh.shutdown, hbrowser]
  cases (kind.shutdown c.world).1 with
  | ok _ =>
    dsimp only [Except.mapError]
    rw [hdropped]
    rfl
  | error e =>
    dsimp only [Except.mapError]
    rw [hdropped]
    rfl

theorem shutdown_torn (f : Fixture (Counted σ)) (c : Counted σ) : f.torn.shutdown c = (.ok (), f.torn, c) := rfl

theorem browse_torn (f : Fixture (Counted σ)) (c : Counted σ) (act : Browser CookieJar → σ → Browser CookieJar × σ) :
    f.torn.browse c act = (f.torn, c) := rfl

theorem Open.browse (h : f.Open kind browser) (c : Counted σ) (act : Browser CookieJar → σ → Browser CookieJar × σ) :
    (f.browse c act).1.Open kind (act browser c.world).1 ∧ (f.browse c act).1.mode = f.mode ∧
      (f.browse c act).2 = { c with world := (act browser c.world).2 } := by
  rw [Fixture.browse, h.browser]
  exact ⟨⟨h.server, rfl⟩, rfl, rfl⟩

theorem run_torn (f : Fixture (Counted σ)) (c : Counted σ) (calls : List (Call σ)) :
    (f.torn.run c calls).1 = List.replicate (calls.countP Call.asksForEnd) (.ok ()) ∧
      (f.torn.run c calls).2.1 = f.torn ∧ (f.torn.run c calls).2.2.shutdowns = c.shutdowns := by
  induction calls generalizing c with
  | nil => exact ⟨rfl, rfl, rfl⟩
  | cons call rest ih =>
    cases call with
    | shutdown =>
      rw [run, shutdown_torn, List.countP_cons_of_pos rfl, List.replicate_succ]
      exact ⟨congrArg _ (ih c).1, (ih c).2⟩
    | browse act =>
      rw [run, browse_torn, List.countP_cons_of_neg (by simp [Call.asksForEnd])]
      exact ih c
    | meanwhile act =>
      rw [run, List.countP_cons_of_neg (by simp [Call.asksForEnd])]
      exact ih { c with world := act c.world }

theorem Open.drop (h : f.Open kind browser) (now : Nat) (c : Counted σ) :
    (f.drop now c).1 = teardownEvent f.mode now (kind.shutdown c.world).1 ∧
      (f.drop now c).2.shutdowns = c.shutdowns + 1 := by
  obtain ⟨world, hshutdown⟩ := h.shutdown c
  rw [Fixture.drop, hshutdown]
  cases (kind.shutdown c.world).1 with
  | ok _ => exact ⟨rfl, rfl⟩
  | error e => exact ⟨rfl, rfl⟩

/-- The run of a fixture's calls, ended by its drop, makes one shutdown, whose outcome is told once. -/
structure EndsOnce (kind : Standalone σ) (f : Fixture (Counted σ)) (browser : Browser CookieJar) (c : Counted σ)
    (calls : List (Call σ)) : Prop where
  replies : (f.run c calls).1 = dueReplies ((outcome kind browser c.world calls).mapError teardownError)
    (calls.countP Call.asksForEnd)
  event : ∀ now, ((f.run c calls).2.1.drop now (f.run c calls).2.2).1 =
    if calls.any Call.asksForEnd then none else teardownEvent f.mode now (outcome kind browser c.world calls)
  shutdowns : ∀ now, ((f.run c calls).2.1.drop now (f.run c calls).2.2).2.shutdowns = c.shutdowns + 1
  closed : calls.any Call.asksForEnd = true →
    (f.run c calls).2.1.browser = .error .closed ∧ (f.run c calls).2.1.server = .error .closed

theorem Open.run (h : f.Open kind browser) (c : Counted σ) (calls : List (Call σ)) :
    EndsOnce kind f browser c calls := by
  induction calls generalizing f browser c with
  | nil => exact ⟨rfl, fun now => (h.drop now c).1, fun now => (h.drop now c).2, fun hany => nomatch hany⟩
  | cons call rest ih =>
    cases call with
    | shutdown =>
      obtain ⟨world, hshutdown⟩ := h.shutdown c
      obtain ⟨hreplies, hfixture, hcount⟩ := run_torn f ⟨world, c.shutdowns + 1⟩ rest
      refine ⟨?_, fun now => ?_, fun now => ?_, fun _ => ?_⟩
      · rw [Fixture.run, hshutdown, List.countP_cons_of_pos rfl]
        exact congrArg _ hreplies
      · simp only [Fixture.run, hshutdown, hfixture]
        rfl
      · simp only [Fixture.run, hshutdown, hfixture]
        exact hcount
      · simp only [Fixture.run, hshutdown, hfixture]
        exact ⟨rfl, rfl⟩
    | browse act =>
      obtain ⟨hopen, hmode, hworld⟩ := h.browse c act
      have hrest := ih hopen (f.browse c act).2
      rw [hworld] at hrest
      refine ⟨?_, fun now => ?_, fun now => ?_, fun hany => ?_⟩
      · rw [Fixture.run, hworld, List.countP_cons_of_neg (by simp [Call.asksForEnd])]
        exact hrest.replies
      · rw [Fixture.run, hworld, hrest.event now, hmode]
        rfl
      · rw [Fixture.run, hworld]
        exact hrest.shutdowns now
      · rw [Fixture.run, hworld]
        exact hrest.closed hany
    | meanwhile act =>
      have hrest := ih h { c with world := act c.world }
      refine ⟨?_, hrest.event, hrest.shutdowns, hrest.closed⟩
      rw [Fixture.run, List.countP_cons_of_neg (by simp [Call.asksForEnd])]
      exact hrest.replies

/-! ### Starting -/

/-- What comes of starting a fixture on what its builder has built. -/
structure Starts (kind : Standalone σ) (env : Option String)
    (built : Except TestServerError (TestServer (Counted σ)) × Counted σ)
    (started : Except FixtureError (Fixture (Counted σ)) × Counted σ) : Prop where
  refused : ∀ e, built.1 = .error e → started = (.error (.server e), built.2)
  /-- Without a browser the server is shut down once. -/
  browserless : ∀ s e, built.1 = .ok s → Browser.create (J := CookieJar) defaultTimeout env = .error e →
    started.1 = .error (.browser e) ∧ started.2.shutdowns = built.2.shutdowns + 1
  opened : ∀ s browser, built.1 = .ok s → Browser.create defaultTimeout env = .ok browser →
    ∃ f, started = (.ok f, built.2) ∧ f.Open kind browser ∧ f.mode = kind.mode built.2.world

theorem starts {b : TestServerBuilder (Counted σ)} {default : Standalone (Counted σ)} {network : Network}
    {c : Counted σ} (hfresh : ∀ s, (b.build default network c).1 = .ok s → s.Fresh kind)
    (env : Option String) :
    Starts kind env (b.build default network c) (start b default network env c) := by
  obtain ⟨built, c', hbuild⟩ : ∃ built c', b.build default network c = (built, c') := ⟨_, _, rfl⟩
  rw [hbuild] at hfresh ⊢
  rw [start, hbuild]
  cases built with
  | error e =>
    refine ⟨fun cause hcause => ?_, fun s e hs => (nomatch hs), fun s browser hs => (nomatch hs)⟩
    cases hcause
    rfl
  | ok s =>
    have hs : s.Fresh kind := hfresh s rfl
    dsimp only
    cases hbrowser : Browser.create (J := CookieJar) defaultTimeout env with
    | error e =>
      refine ⟨fun cause hcause => (nomatch hcause), fun other cause _ hcause => ?_,
        fun other browser _ hok => (nomatch hbrowser.symm.trans hok)⟩
      cases hbrowser.symm.trans hcause
      exact ⟨rfl, hs.shutdowns_drop c'⟩
    | ok browser =>
      refine ⟨fun cause hcause => (nomatch hcause),
        fun other cause _ hcause => (nomatch hbrowser.symm.trans hcause), fun other browser' hother hok => ?_⟩
      cases hother
      cases hbrowser.symm.trans hok
      refine ⟨_, rfl, ⟨⟨s, rfl, hs⟩, rfl⟩, ?_⟩
      rw [TestServer.mode, hs.standalone]
      rfl

end Fixture

/-! ### From the making of a server to its end -/

section

variable {kind : Standalone σ} {b : TestServerBuilder (Counted σ)} {default : Standalone (Counted σ)}

/-- Nothing is made, and so nothing is to be shut down, as long as no port is chosen. -/
theorem TestServerBuilder.build_unported {network : Network} {e : TestServerError}
    (hport : b.choosePort network = .error e) (c : Counted σ) : b.build default network c = (.error e, c) := by
  rw [build, hport]

theorem TestServerBuilder.build_fresh (hkind : b.standalone.getD default = kind.counted) {network : Network}
    {c : Counted σ} {s : TestServer (Counted σ)} (hs : (b.build default network c).1 = .ok s) :
    s.Fresh kind ∧ (b.build default network c).2.shutdowns = c.shutdowns := by
  cases hport : b.choosePort network with
  | error e =>
    rw [build_unported hport] at hs
    exact nomatch hs
  | ok port =>
    obtain ⟨hfresh, hafter⟩ := (builds hkind hport c).fresh s hs
    exact ⟨hfresh, by rw [hafter]⟩

/-- A server of any kind is shut down once from its making to its end, and what fails is told once: by the
builder when the server is of no use, by the test server to the first who asks for the end, and by the fixture
to the first who asks for the end or, if nobody did, by an event. -/
theorem shut_down_once (hkind : b.standalone.getD default = kind.counted) (network : Network)
    (env : Option String) (c : Counted σ) :
    let built := b.build default network c
    let started := Fixture.start b default network env c
    (∀ e, b.choosePort network = .error e → built = (.error e, c)) ∧
    (∀ port, b.choosePort network = .ok port → TestServerBuilder.Builds kind (b.config port) c built) ∧
    (∀ s, built.1 = .ok s → ∀ calls,
      let (replies, after) := s.run built.2 calls
      replies = dueReplies ((TestServer.outcome kind built.2.world calls).mapError .shutdown)
          (calls.countP TestServer.Call.asksForEnd) ∧
        (after.1.drop after.2).shutdowns = c.shutdowns + 1) ∧
    Fixture.Starts kind env built started ∧
    (∀ f, started.1 = .ok f → started.2.shutdowns = c.shutdowns ∧
      ∃ browser, Browser.create defaultTimeout env = .ok browser ∧
        ∀ calls, f.EndsOnce kind browser started.2 calls) := by
  intro built started
  have hstarts : Fixture.Starts kind env built started :=
    Fixture.starts (fun s hs => (TestServerBuilder.build_fresh hkind hs).1) env
  refine ⟨fun e he => TestServerBuilder.build_unported he c,
    fun port hport => TestServerBuilder.builds hkind hport c, fun s hs calls => ?_, hstarts, fun f hf => ?_⟩
  · obtain ⟨hfresh, hcount⟩ := TestServerBuilder.build_fresh hkind hs
    have hrun := hfresh.run built.2 calls
    rw [hcount] at hrun
    exact hrun
  · cases hbuilt : built.1 with
    | error e =>
      rw [hstarts.refused e hbuilt] at hf
      exact nomatch hf
    | ok s =>
      cases hbrowser : Browser.create (J := CookieJar) defaultTimeout env with
      | error e =>
        rw [(hstarts.browserless s e hbuilt hbrowser).1] at hf
        exact nomatch hf
      | ok browser =>
        obtain ⟨opened, hopened, hisOpen, -⟩ := hstarts.opened s browser hbuilt hbrowser
        rw [hopened] at hf ⊢
        cases hf
        exact ⟨(TestServerBuilder.build_fresh hkind hbuilt).2, browser, rfl, hisOpen.run built.2⟩

end

def Standalone.stuck : Standalone Unit where
  create _ _ := ()
  start _ := (.ok (), ())
  shutdown _ := (.error (.serve "stuck"), ())
  drop _ := ()
  injector _ := some {}
  serverUrls _ := ["http://127.0.0.1:80"]
  baseUrls _ := ["http://127.0.0.1:80"]
  port _ := some 80
  mode _ := .test

/-- A fixture of a stuck server says so to the first who asks for its end. -/
theorem shut_down_once_stuck :
    let b : TestServerBuilder (Counted Unit) :=
      { application := ⟨fun _ => .ok [], fun _ => .ok []⟩, port := some 80,
        standalone := some Standalone.stuck.counted }
    b.standalone.getD Standalone.stuck.counted = Standalone.stuck.counted ∧
      ∃ f, (Fixture.start b Standalone.stuck.counted { nextFree := 81 } none ⟨(), 0⟩).1 = .ok f ∧
        (f.run ⟨(), 0⟩ [.meanwhile id, .shutdown, .shutdown]).1 =
          [.error (Fixture.teardownError (.serve "stuck")), .ok ()] := by
  intro b
  obtain ⟨-, -, -, -, hfixture⟩ :=
    @shut_down_once Unit Standalone.stuck b Standalone.stuck.counted rfl { nextFree := 81 } none ⟨(), 0⟩
  obtain ⟨f, hf⟩ : ∃ f, (Fixture.start b Standalone.stuck.counted { nextFree := 81 } none ⟨(), 0⟩).1 = .ok f := ⟨_, rfl⟩
  obtain ⟨browser, -, hends⟩ := (hfixture f hf).2
  exact ⟨rfl, f, hf, (hends [.meanwhile id, .shutdown, .shutdown]).replies⟩

end AppServer.Harness
