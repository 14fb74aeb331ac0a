import AppServer.Proofs.Harness.DatedJar
import AppServer.Proofs.Harness.Layout

/-!
# Closed for good

Once a browser has been closed it stays closed: whatever is asked of it, nothing is sent and
nothing changes, and of its cookies it tells what its jar says, as it was when the browser was
closed. Left alone, a jar may still forget a cookie that has run out. Until the browser is
closed a call with a malformed URL ends before anything is sent, and to forget the cookies
leaves an empty jar. So a jar holds what has arrived since it was last cleared, and nothing
else is ever put into it.
-/

namespace AppServer.Harness.Browser

open Http

variable {J σ : Type} [Jar J]

/-! ### One call -/

namespace Performed

def Clears (p : Performed J σ) : Prop := p.call = .clearCookies ∧ p.answer = .ok .done

def arrivals (p : Performed J σ) : List Arrival := p.sent.flatMap Talk.arrivals

end Performed

variable {client : Client J σ} {b : Browser J} {p : Performed J σ} {call : Call} {q : Question}

theorem Call.isRequest_of_question (h : call.question? = some q) : call.IsRequest := by
  cases call with
  | get | getText | getTextWithHeaders | getJson | postForm | postJson => trivial
  | cookies | cookie | clearCookies | shutdown => cases h

theorem Call.ne_of_question (h : call.question? = some q) : call ≠ .clearCookies ∧ call ≠ .shutdown := by
  constructor
  · rintro rfl
    cases h
  · rintro rfl
    cases h

theorem Happens.before (h : Happens client b p) : p.before = b := by
  cases h <;> rfl

theorem Happens.timeout (h : Happens client b p) : p.after.timeout = b.timeout := by
  cases h with
  | asked _ hsends => exact hsends.keeps.2.1
  | cookies | cookie | uncleared | cleared | shut => rfl

theorem Happens.isClosed_iff (h : Happens client b p) :
    p.after.isClosed = true ↔ b.isClosed = true ∨ p.call = .shutdown := by
  cases h with
  | asked hcall hsends =>
    rw [hsends.keeps.1]
    exact (or_iff_left (Call.ne_of_question hcall).2).symm
  | cookies | cookie | uncleared => exact (or_iff_left nofun).symm
  | cleared _ _ hopen =>
    rw [hopen]
    exact iff_of_false nofun (not_or.mpr ⟨nofun, nofun⟩)
  | shut => exact iff_of_true rfl (.inr rfl)

/-- What has arrived is put into the jar, unless the cookies are forgotten. -/
theorem Happens.jar (h : Happens client b p) :
    (p.Clears → p.arrivals = [] ∧ p.after.jar = Jar.empty) ∧
      (¬p.Clears → p.after.jar = p.arrivals.foldl Jar.take b.jar) := by
  cases h with
  | asked hcall hsends =>
    exact ⟨fun hclears => absurd hclears.1 (Call.ne_of_question hcall).1, fun _ => hsends.keeps.2.2⟩
  | cookies | cookie | shut =>
    refine ⟨?_, fun _ => rfl⟩
    rintro ⟨⟨⟩, -⟩
  | uncleared =>
    refine ⟨?_, fun _ => rfl⟩
    rintro ⟨-, ⟨⟩⟩
  | cleared => exact ⟨fun _ => ⟨rfl, rfl⟩, fun hkeeps => absurd ⟨rfl, rfl⟩ hkeeps⟩

theorem Happens.sent_of_isRequest (h : Happens client b p) (hrequest : ¬p.call.IsRequest) : p.sent = [] := by
  cases h with
  | asked hcall => exact absurd (Call.isRequest_of_question hcall) hrequest
  | cookies | cookie | uncleared | cleared | shut => rfl

/-! ### Closed and open browsers -/

/-- What a closed browser answers: to close it again is well, its cookies are what its jar says at the time, and all
else is refused. -/
def closedAnswer (last : Browser J) (now : Nat) : Call → Except BrowserError Reply
  | .shutdown => .ok .done
  | .cookies url => (last.cookies url now).map .cookies
  | .cookie url name => (last.cookie? url name now).map .cookie
  | .get _ | .getText _ | .getTextWithHeaders _ _ | .getJson _ | .postForm _ _ | .postJson _ _ => .error .closed
  | .clearCookies => .error .closed

/-- A call to a closed browser, which was another when it was closed. Its answer is that of any other moment at which
the jar would say the same. -/
structure OnClosed (last : Browser J) (p : Performed J σ) : Prop where
  isClosed : p.before.isClosed = true ∧ p.after.isClosed = true
  answer : p.answer = closedAnswer last p.now p.call
  lasting : ∀ moment, (∀ u, Jar.header? last.jar u p.now = Jar.header? last.jar u moment) →
    p.answer = closedAnswer last moment p.call
  unsent : p.sent = [] ∧ p.left = p.world
  jar : p.before.jar = last.jar ∧ p.after.jar = last.jar

/-- A call to an open browser: with a malformed URL it ends before anything is sent, and else a request has the client
send its message and takes in what comes back; to forget the cookies leaves none, and to close the browser leaves
them. -/
structure OnOpen (client : Client J σ) (p : Performed J σ) : Prop where
  isOpen : p.before.isClosed = false
  malformed : ∀ url e, p.call.url? = some url → Url.parse url = .error e →
    p.answer = .error (.invalidUrl url e.message) ∧ p.sent = [] ∧ p.after = p.before ∧ p.left = p.world
  sends : ∀ q u m, p.call.question? = some q → Url.parse q.url = .ok u → q.message = some m →
    let talk := client p.before.jar p.before.timeout u m p.world
    p.answer = (talk.result.mapError (.request q.url)).bind q.read ∧ p.sent = [⟨u, m, talk.arrivals⟩] ∧
      p.after = p.before.takeIn talk.arrivals ∧ p.left = talk.world
  cleared : p.call = .clearCookies → p.answer = .ok .done ∧ p.after = { p.before with jar := Jar.empty } ∧
    ∀ url u now, Url.parse url = .ok u →
      p.after.cookies url now = .ok {} ∧ ∀ name, p.after.cookie? url name now = .ok none
  shutdown : p.call = .shutdown → p.answer = .ok .done ∧ p.after = { p.before with isClosed := true }

theorem closedAnswer_congr {last other : Browser J} {now moment : Nat}
    (h : ∀ u, Jar.header? last.jar u now = Jar.header? other.jar u moment) (call : Call) :
    closedAnswer last now call = closedAnswer other moment call := by
  cases call with
  | cookies url => rw [closedAnswer, closedAnswer, cookies_congr h]
  | cookie url name => rw [closedAnswer, closedAnswer, cookie?_congr h]
  | get | getText | getTextWithHeaders | getJson | postForm | postJson | clearCookies | shutdown => rfl

theorem closedAnswer_of_question {last : Browser J} {now : Nat} (h : call.question? = some q) :
    closedAnswer last now call = .error .closed := by
  cases call with
  | get | getText | getTextWithHeaders | getJson | postForm | postJson => rfl
  | cookies | cookie | clearCookies | shutdown => cases h

theorem OnClosed.of_answer {last : Browser J} (hclosed : b.isClosed = true) (hjar : b.jar = last.jar)
    (hbefore : p.before = b) (hanswer : p.answer = closedAnswer b p.now p.call) (hsent : p.sent = [])
    (hafter : p.after = { b with isClosed := true }) (hleft : p.left = p.world) : OnClosed last p where
  isClosed := by
    rw [hbefore, hafter]
    exact ⟨hclosed, rfl⟩
  answer := hanswer.trans (closedAnswer_congr (fun _ => by rw [hjar]) _)
  lasting moment hsame := hanswer.trans (closedAnswer_congr (fun u => by rw [hjar, hsame]) _)
  unsent := ⟨hsent, hleft⟩
  jar := by
    rw [hbefore, hafter]
    exact ⟨hjar, hjar⟩

theorem Happens.onClosed {last : Browser J} (h : Happens client b p) (hclosed : b.isClosed = true)
    (hjar : b.jar = last.jar) : OnClosed last p := by
  have hsame : b = { b with isClosed := true } := by
    obtain ⟨closed, jar, timeout⟩ := b
    cases hclosed
    rfl
  cases h with
  | asked hcall hsends =>
    cases hsends with
    | refused => exact .of_answer hclosed hjar rfl (closedAnswer_of_question hcall).symm rfl hsame rfl
    | malformed hopen | unbuilt hopen | talked hopen => cases hclosed.symm.trans hopen
  | cookies | cookie | uncleared => exact .of_answer hclosed hjar rfl rfl rfl hsame rfl
  | cleared _ _ hopen => cases hclosed.symm.trans hopen
  | shut => exact .of_answer hclosed hjar rfl rfl rfl rfl rfl

theorem url?_of_question (h : call.question? = some q) : call.url? = some q.url := by
  cases call <;> cases h <;> rfl

/-- Kinds of jars of which an empty one has nothing to send. -/
def StartsEmpty (J : Type) [Jar J] : Prop := ∀ u now, Jar.header? (Jar.empty : J) u now = none

section

variable {world left : σ} {url : String} {message : Option Message} {result : Except BrowserError BrowserResponse}
  {sent : List Talk} {after : Browser J} {u : Url}

theorem Sends.of_sendable (h : Sends client world b url message result sent after left) (hopen : b.isClosed = false)
    (hurl : Url.parse url = .ok u) {m : Message} (hmessage : message = some m) :
    let talk := client b.jar b.timeout u m world
    result = talk.result.mapError (.request url) ∧ sent = [⟨u, m, talk.arrivals⟩] ∧
      after = b.takeIn talk.arrivals ∧ left = talk.world := by
  cases h with
  | refused hclosed => cases hclosed.symm.trans hopen
  | malformed _ herror => cases herror.symm.trans hurl
  | unbuilt _ _ hnone => cases hnone.symm.trans hmessage
  | talked _ hurl' hmessage' htalk =>
    cases hurl'.symm.trans hurl
    cases hmessage'.symm.trans hmessage
    cases htalk
    exact ⟨rfl, rfl, rfl, rfl⟩

theorem Sends.of_malformed (h : Sends client world b url message result sent after left) (hopen : b.isClosed = false)
    {e : Url.UrlError} (hurl : Url.parse url = .error e) :
    result = .error (.invalidUrl url e.message) ∧ sent = [] ∧ after = b ∧ left = world := by
  cases h with
  | refused hclosed => cases hclosed.symm.trans hopen
  | malformed _ hurl' =>
    cases hurl'.symm.trans hurl
    exact ⟨rfl, rfl, rfl, rfl⟩
  | unbuilt _ hok | talked _ hok => cases hok.symm.trans hurl

end

/-- For a call that asks nothing there is no message to account for. -/
theorem onOpen_of_unasked (hempty : StartsEmpty J) (hopen : p.before.isClosed = false)
    (hunasked : p.call.question? = none)
    (hmalformed : ∀ url e, p.call.url? = some url → Url.parse url = .error e →
      p.answer = .error (.invalidUrl url e.message) ∧ p.sent = [] ∧ p.after = p.before ∧ p.left = p.world)
    (hcleared : p.call = .clearCookies → p.answer = .ok .done ∧ p.after = { p.before with jar := Jar.empty })
    (hshutdown : p.call = .shutdown → p.answer = .ok .done ∧ p.after = { p.before with isClosed := true }) :
    OnOpen client p where
  isOpen := hopen
  malformed := hmalformed
  sends _ _ _ hq := absurd (hunasked.symm.trans hq) (Option.some_ne_none _).symm
  cleared hclear := by
    obtain ⟨hanswer, hafter⟩ := hcleared hclear
    have hnone (u : Url) (now : Nat) : Jar.header? p.after.jar u now = none := by
      rw [hafter]
      exact hempty u now
    exact ⟨hanswer, hafter, fun url u now hparse => ⟨cookies_of_headerless (urlOf_of_ok hparse) (hnone u now),
      cookie?_of_headerless (urlOf_of_ok hparse) (hnone u now)⟩⟩
  shutdown := hshutdown

theorem Happens.onOpen (hempty : StartsEmpty J) (h : Happens client b p) (hopen : b.isClosed = false) :
    OnOpen client p := by
  cases h with
  | asked hcall hsends =>
    obtain ⟨hclear, hshutdown⟩ := Call.ne_of_question hcall
    refine ⟨hopen, fun url e hurl hparse => ?_, fun q u m hq hparse hmessage => ?_, fun h => absurd h hclear,
      fun h => absurd h hshutdown⟩
    · cases (url?_of_question hcall).symm.trans hurl
      obtain ⟨rfl, hsent, hafter, hleft⟩ := hsends.of_malformed hopen hparse
      exact ⟨rfl, hsent, hafter, hleft⟩
    · cases hcall.symm.trans hq
      obtain ⟨rfl, hsent, hafter, hleft⟩ := hsends.of_sendable hopen hparse hmessage
      exact ⟨rfl, hsent, hafter, hleft⟩
  | cookies now world url =>
    refine onOpen_of_unasked hempty hopen rfl ?_ (by rintro ⟨⟩) (by rintro ⟨⟩)
    rintro _ e ⟨⟩ hparse
    refine ⟨?_, rfl, rfl, rfl⟩
    rw [Browser.cookies, urlOf_of_error hparse]
    rfl
  | cookie now world url name =>
    refine onOpen_of_unasked hempty hopen rfl ?_ (by rintro ⟨⟩) (by rintro ⟨⟩)
    rintro _ e ⟨⟩ hparse
    refine ⟨?_, rfl, rfl, rfl⟩
    rw [Browser.cookie?, Browser.cookies, urlOf_of_error hparse]
    rfl
  | uncleared _ _ hclosed => cases hclosed.symm.trans hopen
  | cleared => exact onOpen_of_unasked hempty hopen rfl (by rintro _ _ ⟨⟩) (fun _ => ⟨rfl, rfl⟩) (by rintro ⟨⟩)
  | shut => exact onOpen_of_unasked hempty hopen rfl (by rintro _ _ ⟨⟩) (by rintro ⟨⟩) fun _ => ⟨rfl, rfl⟩

/-! ### Calls in turn -/

/-- The calls of a run, each with the browsers before and after it, its answer and what it has sent. -/
def performed (b : Browser J) (client : Client J σ) : List (Occasion σ) → List (Performed J σ)
  | [] => []
  | o :: rest => b.perform client o :: performed (b.perform client o).after client rest

theorem map_toOccasion_performed (b : Browser J) (client : Client J σ) (occasions : List (Occasion σ)) :
    (performed b client occasions).map Performed.toOccasion = occasions := by
  induction occasions generalizing b with
  | nil => rfl
  | cons o rest ih =>
    rw [performed, List.map_cons, ih]
    rfl

theorem runCalls_eq (b : Browser J) (client : Client J σ) (occasions : List (Occasion σ)) :
    runCalls b client occasions = ((performed b client occasions).map fun p => (p.answer, p.left),
      ((performed b client occasions).getLast?.map Performed.after).getD b) := by
  induction occasions generalizing b with
  | nil => rfl
  | cons o rest ih =>
    rw [runCalls, (happens_perform b client o).2]
    dsimp only
    rw [ih, performed, List.map_cons, List.getLast?_cons, Option.map_some, Option.getD_some]
    cases hlast : (performed (b.perform client o).after client rest).getLast? <;> rfl

/-! ### What a jar holds -/

/-- A jar holds what has arrived in a history since it was last cleared, in turn. -/
structure Gathered (first : J) (history : List (Performed J σ)) (jar : J) : Prop where
  cleared : ∀ before q since, history = before ++ q :: since → q.Clears → (∀ r ∈ since, ¬r.Clears) →
    jar = (since.flatMap Performed.arrivals).foldl Jar.take Jar.empty
  uncleared : (∀ q ∈ history, ¬q.Clears) → jar = (history.flatMap Performed.arrivals).foldl Jar.take first

theorem gathered_nil (first : J) : Gathered first ([] : List (Performed J σ)) first where
  cleared _ _ _ hsplit := absurd hsplit.symm (List.append_ne_nil_of_right_ne_nil _ (List.cons_ne_nil _ _))
  uncleared _ := rfl

theorem Gathered.after {first : J} {history : List (Performed J σ)} (h : Gathered first history b.jar)
    (hp : Happens client b p) : Gathered first (history ++ [p]) p.after.jar where
  cleared before q since hsplit hclears hnone := by
    obtain ⟨hempties, htakes⟩ := hp.jar
    rcases List.eq_nil_or_concat since with rfl | ⟨middle, last, rfl⟩
    · obtain ⟨-, hlast⟩ := List.append_inj' hsplit rfl
      cases hlast
      exact (hempties hclears).2
    · rw [List.concat_eq_append, ← List.cons_append, ← List.append_assoc] at hsplit
      obtain ⟨hhistory, hlast⟩ := List.append_inj' hsplit rfl
      cases hlast
      rw [List.concat_eq_append, List.forall_mem_append, List.forall_mem_singleton] at hnone
      rw [htakes hnone.2, h.cleared before q middle hhistory hclears hnone.1, List.concat_eq_append,
        List.flatMap_append, List.flatMap_singleton, List.foldl_append]
  uncleared hnone := by
    rw [List.forall_mem_append, List.forall_mem_singleton] at hnone
    rw [hp.jar.2 hnone.2, h.uncleared hnone.1, List.flatMap_append, List.flatMap_singleton, List.foldl_append]

structure Reached (first : Browser J) (history : List (Performed J σ)) (b : Browser J) : Prop where
  isClosed : b.isClosed = true ↔ first.isClosed = true ∨ ∃ q ∈ history, q.call = .shutdown
  timeout : b.timeout = first.timeout
  shut : ∀ q ∈ history, q.call = .shutdown → b.jar = q.before.jar
  kept : first.isClosed = true → b.jar = first.jar
  gathered : Gathered first.jar history b.jar

theorem reached_first (b : Browser J) : Reached b ([] : List (Performed J σ)) b where
  isClosed := (or_iff_left fun ⟨_, hq, _⟩ => List.not_mem_nil hq).symm
  timeout := rfl
  shut _ hq := absurd hq List.not_mem_nil
  kept _ := rfl
  gathered := gathered_nil b.jar

variable {first : Browser J} {history : List (Performed J σ)}

theorem Reached.after (h : Reached first history b) (hp : Happens client b p) :
    Reached first (history ++ [p]) p.after where
  isClosed := by
    rw [hp.isClosed_iff, h.isClosed, or_assoc]
    simp only [List.mem_append, List.mem_singleton, or_and_right, exists_or, exists_eq_left]
  timeout := hp.timeout.trans h.timeout
  shut := by
    rw [List.forall_mem_append, List.forall_mem_singleton]
    constructor
    · intro q hq hshutdown
      have hclosed : b.isClosed = true := h.isClosed.mpr (.inr ⟨q, hq, hshutdown⟩)
      exact (hp.onClosed hclosed (h.shut q hq hshutdown)).jar.2
    · intro hshutdown
      have hunclear : ¬p.Clears := by
        rw [Performed.Clears, hshutdown]
        exact fun hclears => nomatch hclears.1
      have hunsent : p.sent = [] := hp.sent_of_isRequest (by rw [hshutdown]; exact id)
      rw [hp.jar.2 hunclear, hp.before, Performed.arrivals, hunsent]
      rfl
  kept hclosed := (hp.onClosed (h.isClosed.mpr (.inl hclosed)) (h.kept hclosed)).jar.2
  gathered := h.gathered.after hp

/-- Each call of a run happens to the browser that the calls before it have made. -/
theorem exists_reached {occasions : List (Occasion σ)} {earlier later : List (Performed J σ)}
    (h : Reached first history b) (hsplit : performed b client occasions = earlier ++ p :: later) :
    ∃ c, Reached first (history ++ earlier) c ∧ Happens client c p := by
  induction occasions generalizing b history earlier with
  | nil => exact absurd hsplit.symm (List.append_ne_nil_of_right_ne_nil _ (List.cons_ne_nil _ _))
  | cons o rest ih =>
    have hhappens := (happens_perform b client o).1
    rw [performed] at hsplit
    cases earlier with
    | nil =>
      cases hsplit
      rw [List.append_nil]
      exact ⟨b, h, hhappens⟩
    | cons q earlier =>
      rw [List.cons_append, List.cons.injEq] at hsplit
      obtain ⟨rfl, hrest⟩ := hsplit
      rw [← List.singleton_append, ← List.append_assoc]
      exact ih (h.after hhappens) hrest

/-! ### The life of a browser -/

/-- What every call leaves as it is: the timeout, and the jar unless a request is sent or the cookies are forgotten.
The jar afterwards holds what has arrived since they were last forgotten. -/
structure Keeps (first : Browser J) (earlier : List (Performed J σ)) (p : Performed J σ) : Prop where
  timeout : p.before.timeout = first.timeout ∧ p.after.timeout = first.timeout
  jar : p.after.jar ≠ p.before.jar → p.call = .clearCookies ∨ p.call.IsRequest ∧ p.sent ≠ []
  gathered : Gathered first.jar (earlier ++ [p]) p.after.jar

theorem Reached.keeps (h : Reached first history b) (hp : Happens client b p) : Keeps first history p where
  timeout := ⟨hp.before ▸ h.timeout, (h.after hp).timeout⟩
  jar hchanged := by
    by_contra hnot
    obtain ⟨hclear, hrequest⟩ := not_or.mp hnot
    have hunsent : p.sent = [] := by
      by_cases hasks : p.call.IsRequest
      · exact of_not_not fun hsent => hrequest ⟨hasks, hsent⟩
      · exact hp.sent_of_isRequest hasks
    rw [hp.before, hp.jar.2 (fun hclears => hclear hclears.1), Performed.arrivals, hunsent] at hchanged
    exact hchanged rfl
  gathered := (h.after hp).gathered

/-- In every run of a browser's calls, closing is for good: each call after it is one to a closed browser, with the jar
of the moment when it was closed. Each call before it is one to an open browser, and every call keeps what only sent
requests and forgotten cookies change. However the browser is laid out, the run is the same. So it is with jars and
clients of every kind, if an empty jar has nothing to send. -/
theorem closed_for_good (hempty : StartsEmpty J) (b : Browser J) (client : Client J σ)
    (occasions : List (Occasion σ)) :
    let history := performed b client occasions
    let answers := history.map fun p => (p.answer, p.left)
    let last := (history.getLast?.map Performed.after).getD b
    history.map Performed.toOccasion = occasions ∧ runCalls b client occasions = (answers, last) ∧
    (∀ requested env,
      Alike Layout.LaysOut (Layout.create requested env : Except BrowserError (Layout J)) (create requested env)) ∧
    (∀ l : Layout J, l.LaysOut b → ∃ l', l'.LaysOut last ∧ l.runCalls client occasions = (answers, l')) ∧
    ∀ earlier p later, history = earlier ++ p :: later →
      Keeps b earlier p ∧
      (b.isClosed = true → OnClosed b p) ∧
      (∀ q ∈ earlier, q.call = .shutdown → OnClosed q.before p) ∧
      (b.isClosed = false → (∀ q ∈ earlier, q.call ≠ .shutdown) → OnOpen client p) := by
  intro history answers last
  have hrun : runCalls b client occasions = (answers, last) := runCalls_eq b client occasions
  refine ⟨map_toOccasion_performed b client occasions, hrun, Layout.alike_create, fun l hl => ?_, ?_⟩
  · obtain ⟨l', hlast, hsame⟩ := hl.runCalls client occasions
    rw [hrun] at hlast hsame
    exact ⟨l', hlast, hsame⟩
  · intro earlier p later hsplit
    obtain ⟨c, hreached, hhappens⟩ := exists_reached (reached_first b) hsplit
    rw [List.nil_append] at hreached
    refine ⟨hreached.keeps hhappens, fun hclosed => ?_, fun q hq hshutdown => ?_, fun hopen hnone => ?_⟩
    · exact hhappens.onClosed (hreached.isClosed.mpr (.inl hclosed)) (hreached.kept hclosed)
    · exact hhappens.onClosed (hreached.isClosed.mpr (.inr ⟨q, hq, hshutdown⟩)) (hreached.shut q hq hshutdown)
    · refine hhappens.onOpen hempty (Bool.eq_false_iff.mpr fun hclosed => ?_)
      rcases hreached.isClosed.mp hclosed with hfirst | ⟨q, hq, hshutdown⟩
      · cases hfirst.symm.trans hopen
      · exact hnone q hq hshutdown

/-! ### A cookie that runs out -/

theorem startsEmpty_datedJar : StartsEmpty DatedJar := fun _ _ => rfl

/-- What a site sets that its cookie may soon be forgotten. -/
def passingCookie : Headers := [("set-cookie", Bytes.ofText "a=1; Max-Age=1")]

/-- The client of such a site; its world counts the messages. -/
def passing : Client DatedJar Nat := fun _ _ u _ asked =>
  ⟨[⟨u, passingCookie, 0⟩], .ok ⟨200, passingCookie, "welcome"⟩, asked + 1⟩

def newcomer : Browser DatedJar where
  jar := Jar.empty
  timeout := defaultTimeout

/-- A browser is closed after a visit, and its cookie is looked at twice. -/
def visit : List (Occasion Nat) :=
  [⟨0, 0, .get "http://[::1]/"⟩, ⟨0, 1, .shutdown⟩, ⟨0, 1, .cookie "http://[::1]/" "a"⟩,
    ⟨2, 1, .cookie "http://[::1]/" "a"⟩]

theorem header?_passing : ∃ u, urlOf "http://[::1]/" = .ok u ∧
    Jar.header? (newcomer.takeIn [⟨u, passingCookie, 0⟩]).jar u 0 = some (Bytes.ofText "a=1") ∧
    Jar.header? (newcomer.takeIn [⟨u, passingCookie, 0⟩]).jar u 2 = none := by
  have hread : (urlOf "http://[::1]/").toOption.map (fun u => (cookieHost u, u.path)) = some ("[::1]", "/") := by
    decide +kernel
  obtain ⟨u, hu, hplace⟩ := Option.map_eq_some_iff.mp hread
  obtain ⟨hhost, hpath⟩ := Prod.mk.inj hplace
  have hjar : (newcomer.takeIn [⟨u, passingCookie, 0⟩]).jar =
      DatedJar.take ⟨[]⟩ "[::1]" 0 ((passingCookie.all "set-cookie").filterMap readable?) :=
    DatedJar.foldl_take_singleton hhost
  refine ⟨u, ok_of_toOption hu, ?_, ?_⟩
  · rw [hjar, DatedJar.header?_eq hhost hpath]
    decide +kernel
  · rw [hjar, DatedJar.header?_eq hhost hpath]
    decide +kernel

theorem runCalls_visit : ∃ response last, runCalls newcomer passing visit =
    ([(.ok (.response response), 1), (.ok .done, 1), (.ok (.cookie (some "1")), 1), (.ok (.cookie none), 1)],
      last) := by
  obtain ⟨u, hurl, hearly, hlate⟩ := header?_passing
  let b : Browser DatedJar := newcomer.takeIn [⟨u, passingCookie, 0⟩]
  let closed : Browser DatedJar := { b with isClosed := true }
  have hget : Call.run newcomer passing 0 0 (.get "http://[::1]/") =
      (.ok (.response ⟨200, passingCookie, "welcome"⟩), b, 1) := by
    simp only [Call.run, get, send, hurl]
    rfl
  have hshut : Call.run b passing 0 1 .shutdown = (.ok .done, closed, 1) := rfl
  have hone : (cookiesOfHeader (Bytes.ofText "a=1"))["a"]? = some "1" := by decide +kernel
  have htold : Call.run closed passing 0 1 (.cookie "http://[::1]/" "a") = (.ok (.cookie (some "1")), closed, 1) := by
    rw [Call.run, cookie?_of_header (b := closed) hurl hearly, hone]
    rfl
  have hgone : Call.run closed passing 2 1 (.cookie "http://[::1]/" "a") = (.ok (.cookie none), closed, 1) := by
    rw [Call.run, cookie?_of_headerless (b := closed) hurl hlate]
    rfl
  refine ⟨⟨200, passingCookie, "welcome"⟩, closed, ?_⟩
  simp only [visit, runCalls, hget, hshut, htold, hgone]

/-- In the visit the browser is open when it asks for the page, and closed when its cookie is looked at. -/
theorem closed_for_good_visit : StartsEmpty DatedJar ∧
    ∃ asked shut early late, performed newcomer passing visit = [asked, shut, early, late] ∧
      OnOpen passing asked ∧ OnClosed shut.before early ∧ OnClosed shut.before late ∧
      early.answer = .ok (.cookie (some "1")) ∧ late.answer = .ok (.cookie none) := by
  obtain ⟨-, hrun, -, -, hcalls⟩ := closed_for_good startsEmpty_datedJar newcomer passing visit
  obtain ⟨response, last, hvisit⟩ := runCalls_visit
  obtain ⟨asked, shut, early, late, hperformed, hshut⟩ : ∃ asked shut early late,
      performed newcomer passing visit = [asked, shut, early, late] ∧ shut.call = .shutdown := ⟨_, _, _, _, rfl, rfl⟩
  rw [hperformed] at hrun hcalls
  obtain ⟨hanswers, -⟩ := Prod.mk.inj (hvisit.symm.trans hrun)
  simp only [List.map_cons, List.cons.injEq, Prod.mk.injEq] at hanswers
  obtain ⟨-, -, ⟨hearly, -⟩, ⟨hlate, -⟩, -⟩ := hanswers
  refine ⟨startsEmpty_datedJar, asked, shut, early, late, hperformed, ?_, ?_, ?_, hearly.symm, hlate.symm⟩
  · exact (hcalls [] asked [shut, early, late] rfl).2.2.2 rfl fun _ hq => absurd hq List.not_mem_nil
  · exact (hcalls [asked, shut] early [late] rfl).2.2.1 shut (by simp) hshut
  · exact (hcalls [asked, shut, early] late [] rfl).2.2.1 shut (by simp) hshut

/-- A closed browser may answer otherwise as time goes by, and one whose cookies have been forgotten still has an error
for a malformed URL. -/
theorem closed_browser_forgets :
    (∃ response last, runCalls newcomer passing visit =
      ([(.ok (.response response), 1), (.ok .done, 1), (.ok (.cookie (some "1")), 1), (.ok (.cookie none), 1)],
        last)) ∧
    ∃ last, runCalls newcomer passing [⟨0, 0, .clearCookies⟩, ⟨0, 0, .cookies "no url"⟩] =
      ([(.ok .done, 0), (.error (.invalidUrl "no url" "relative URL without a base"), 0)], last) := by
  have hurl : Url.parse "no url" = .error .noScheme := by decide +kernel
  have hclear : Call.run newcomer passing 0 0 .clearCookies = (.ok .done, newcomer, 0) := run_of_open_clear rfl 0
  have hcookies : Call.run newcomer passing 0 0 (.cookies "no url") =
      (.error (.invalidUrl "no url" "relative URL without a base"), newcomer, 0) := by
    rw [Call.run, cookies, urlOf_of_error hurl]
    rfl
  refine ⟨runCalls_visit, newcomer, ?_⟩
  simp only [runCalls, hclear, hcookies]

end AppServer.Harness.Browser
