import AppServer.Proofs.Except
import AppServer.Proofs.Harness.Browsing

/-!
# A browser shares its jar with its client

As it is laid out, a browser does not hold its cookies itself: they are in a jar that stands
in some place, and the connection that it sends messages through is bound to a place of its
own. The two places are one, and the connection waits as long as the browser is to, from the
making of the browser on: to forget the cookies, place and connection are replaced together.
So what a browser answers is what it would answer if it had the one jar to itself.
-/

namespace AppServer.Harness.Browser

open Http

variable {J σ : Type} [Jar J]

/-! ### Layouts -/

/-- What a client is set up with: the place of a jar, and how long to wait. -/
structure Connection where
  place : Nat
  timeout : Duration

/-- The jars that were made for a browser, of which it knows the place of one; without a connection it is closed. -/
structure Layout (J : Type) where
  jars : List J
  place : Nat
  connection? : Option Connection
  timeout : Duration

namespace Layout

def jarAt (l : Layout J) (place : Nat) : J := l.jars.getD place Jar.empty

def withNewJar (l : Layout J) : Layout J :=
  { l with
    jars := l.jars ++ [Jar.empty]
    place := l.jars.length
    connection? := some ⟨l.jars.length, l.timeout⟩ }

def create (requested : Duration) (env : Option String) : Except BrowserError (Layout J) :=
  match resolveTimeout requested env with
  | .ok timeout => .ok (withNewJar ⟨[], 0, none, timeout⟩)
  | .error e => .error (.timeout e)

/-- Sends a message through the connection; all that it sees is the jar in its place. -/
def send (l : Layout J) (url : String) (message : Option Message) (client : Client J σ) (world : σ) :
    Except BrowserError BrowserResponse × Layout J × σ :=
  match l.connection? with
  | none => (.error .closed, l, world)
  | some connection =>
    let seen : Browser J := { jar := l.jarAt connection.place, timeout := connection.timeout }
    let (result, after, world) := seen.send url message client world
    (result, { l with jars := l.jars.set connection.place after.jar }, world)

/-- The cookies are told from the browser's own place. -/
def cookies (l : Layout J) (url : String) (now : Nat) : Except BrowserError (Std.TreeMap String String) :=
  Browser.cookies { jar := l.jarAt l.place, timeout := l.timeout } url now

def cookie? (l : Layout J) (url name : String) (now : Nat) : Except BrowserError (Option String) := do
  let cookies ← l.cookies url now
  .ok cookies[name]?

def clearCookies (l : Layout J) : Except BrowserError Unit × Layout J :=
  match l.connection? with
  | none => (.error .closed, l)
  | some _ => (.ok (), l.withNewJar)

def shutdown (l : Layout J) : Except BrowserError Unit × Layout J := (.ok (), { l with connection? := none })

def run (l : Layout J) (client : Client J σ) (o : Occasion σ) : Except BrowserError Reply × Layout J × σ :=
  match o.call.question?, o.call with
  | some q, _ =>
    let (result, l, world) := l.send q.url q.message client o.world
    (result.bind q.read, l, world)
  | none, .cookies url => ((l.cookies url o.now).map .cookies, l, o.world)
  | none, .cookie url name => ((l.cookie? url name o.now).map .cookie, l, o.world)
  | none, .clearCookies => (l.clearCookies.1.map fun _ => .done, l.clearCookies.2, o.world)
  | none, _ => (l.shutdown.1.map fun _ => .done, l.shutdown.2, o.world)

def runCalls (l : Layout J) (client : Client J σ) :
    List (Occasion σ) → List (Except BrowserError Reply × σ) × Layout J
  | [] => ([], l)
  | o :: rest =>
    let (answer, l, left) := l.run client o
    let (answers, l) := runCalls l client rest
    ((answer, left) :: answers, l)

/-- The layout is that of a browser: the jar in its place is the browser's, and an open browser has a connection that
is bound to this place and waits as long as the browser. -/
structure LaysOut (l : Layout J) (b : Browser J) : Prop where
  jar : l.jars[l.place]? = some b.jar
  timeout : l.timeout = b.timeout
  connection : l.connection? = if b.isClosed then none else some ⟨l.place, l.timeout⟩

variable {l : Layout J} {b : Browser J}

/-! ### A browser that is made -/

theorem laysOut_withNewJar (l : Layout J) : l.withNewJar.LaysOut { jar := Jar.empty, timeout := l.timeout } where
  jar := List.getElem?_concat_length
  timeout := rfl
  connection := rfl

theorem alike_create (requested : Duration) (env : Option String) :
    Alike LaysOut (create requested env : Except BrowserError (Layout J)) (Browser.create requested env) := by
  rw [create, Browser.create]
  cases resolveTimeout requested env with
  | error e => exact .error _
  | ok timeout => exact .ok (laysOut_withNewJar _)

/-! ### Its calls -/

theorem LaysOut.jarAt (h : l.LaysOut b) : l.jarAt l.place = b.jar := by
  rw [Layout.jarAt, List.getD_eq_getElem?_getD, h.jar, Option.getD_some]

omit [Jar J] in
theorem LaysOut.connection_of_closed (h : l.LaysOut b) (hclosed : b.isClosed = true) : l.connection? = none := by
  rw [h.connection, if_pos hclosed]

omit [Jar J] in
theorem LaysOut.connection_of_open (h : l.LaysOut b) (hopen : b.isClosed = false) :
    l.connection? = some ⟨l.place, l.timeout⟩ := by
  rw [h.connection, if_neg (Bool.eq_false_iff.mp hopen)]

theorem LaysOut.seen (h : l.LaysOut b) (hopen : b.isClosed = false) :
    ({ jar := l.jarAt l.place, timeout := l.timeout } : Browser J) = b := by
  rw [h.jarAt, h.timeout]
  obtain ⟨closed, jar, timeout⟩ := b
  cases hopen
  rfl

theorem LaysOut.send (h : l.LaysOut b) (url : String) (message : Option Message) (client : Client J σ) (world : σ) :
    ∃ l', l'.LaysOut (b.send url message client world).2.1 ∧ l.send url message client world =
      ((b.send url message client world).1, l', (b.send url message client world).2.2) := by
  cases hclosed : b.isClosed with
  | true =>
    simp only [Browser.send, if_pos hclosed, Layout.send, h.connection_of_closed hclosed]
    exact ⟨l, h, rfl⟩
  | false =>
    obtain ⟨result, sent, after, left, hsends, hplain, -⟩ := sends client world b url message
    obtain ⟨hstays, htimeout, -⟩ := hsends.keeps
    have hplace : l.place < l.jars.length := (List.getElem?_eq_some_iff.mp h.jar).1
    rw [Layout.send, h.connection_of_open hclosed]
    dsimp only
    rw [h.seen hclosed, hplain]
    refine ⟨_, ⟨?_, ?_, ?_⟩, rfl⟩
    · exact List.getElem?_set_self hplace
    · exact h.timeout.trans htimeout.symm
    · rw [hstays, hclosed]
      rfl

theorem LaysOut.cookies (h : l.LaysOut b) (url : String) (now : Nat) : l.cookies url now = b.cookies url now := by
  refine cookies_congr (fun u => ?_) url
  dsimp only
  rw [h.jarAt]

theorem LaysOut.cookie? (h : l.LaysOut b) (url name : String) (now : Nat) :
    l.cookie? url name now = b.cookie? url name now := by
  rw [Layout.cookie?, Browser.cookie?, h.cookies]

/-- The new jar and the new connection are in one place, so that a browser that is cleared is laid out again. -/
theorem LaysOut.clearCookies (h : l.LaysOut b) :
    l.clearCookies.1 = b.clearCookies.1 ∧ l.clearCookies.2.LaysOut b.clearCookies.2 := by
  cases hclosed : b.isClosed with
  | true =>
    rw [Layout.clearCookies, Browser.clearCookies, h.connection_of_closed hclosed, if_pos hclosed]
    exact ⟨rfl, h⟩
  | false =>
    rw [Layout.clearCookies, Browser.clearCookies, h.connection_of_open hclosed, hclosed, ← h.timeout]
    exact ⟨rfl, laysOut_withNewJar l⟩

omit [Jar J] in
theorem LaysOut.shutdown (h : l.LaysOut b) : l.shutdown.2.LaysOut b.shutdown.2 where
  jar := h.jar
  timeout := h.timeout
  connection := rfl

/-- A call has the same answer and the same effect on the world, and leaves the browser laid out. -/
theorem LaysOut.run (h : l.LaysOut b) (client : Client J σ) (o : Occasion σ) :
    ∃ l', l'.LaysOut (o.call.run b client o.now o.world).2.1 ∧ l.run client o =
      ((o.call.run b client o.now o.world).1, l', (o.call.run b client o.now o.world).2.2) := by
  obtain ⟨now, world, call⟩ := o
  cases hquestion : call.question? with
  | some q =>
    obtain ⟨l', hl', hsend⟩ := h.send q.url q.message client world
    rw [run_of_question hquestion, ask]
    refine ⟨l', hl', ?_⟩
    simp only [Layout.run, hquestion, hsend]
  | none =>
    cases call with
    | cookies url =>
      refine ⟨l, h, ?_⟩
      rw [Call.run, ← h.cookies]
      rfl
    | cookie url name =>
      refine ⟨l, h, ?_⟩
      rw [Call.run, ← h.cookie?]
      rfl
    | clearCookies =>
      obtain ⟨hanswer, hcleared⟩ := h.clearCookies
      refine ⟨l.clearCookies.2, hcleared, ?_⟩
      rw [Call.run, ← hanswer]
      rfl
    | shutdown => exact ⟨l.shutdown.2, h.shutdown, rfl⟩
    | get | getText | getTextWithHeaders | getJson | postForm | postJson => cases hquestion

theorem LaysOut.runCalls (h : l.LaysOut b) (client : Client J σ) (occasions : List (Occasion σ)) :
    ∃ l', l'.LaysOut (b.runCalls client occasions).2 ∧
      l.runCalls client occasions = ((b.runCalls client occasions).1, l') := by
  induction occasions generalizing l b with
  | nil => exact ⟨l, h, rfl⟩
  | cons o rest ih =>
    obtain ⟨after, hafter, hrun⟩ := h.run client o
    obtain ⟨last, hlast, hrest⟩ := ih hafter
    refine ⟨last, hlast, ?_⟩
    rw [Layout.runCalls, hrun]
    dsimp only
    rw [hrest]
    rfl

end Layout

end AppServer.Harness.Browser
