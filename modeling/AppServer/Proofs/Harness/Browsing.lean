import AppServer.Harness.Browser
import AppServer.Proofs.Row

/-!
# What a browser does, call by call

A browser is asked for pages, for its cookies, to forget them, or to close. The requests are
one thing with different messages and different ways to read the response: a closed browser
refuses them, a malformed URL ends them before anything is sent, and else the client is asked
once. So there are few things that may come of a call, and whoever notes what the client is
asked sees no others. Each call finds the world as it is by then, and the time.
-/

namespace AppServer.Harness

open Http

variable {J σ : Type} [Jar J]

/-! ### What is sent -/

/-- What a client was asked to send, and what has arrived since. -/
structure Talk where
  url : Url
  message : Browser.Message
  arrivals : List Arrival

def Client.noting (client : Client J σ) : Client J (List Talk × σ) := fun jar timeout u message noted =>
  let talk := client jar timeout u message noted.2
  ⟨talk.arrivals, talk.result, noted.1 ++ [⟨u, message, talk.arrivals⟩], talk.world⟩

namespace Browser

/-- What comes of sending a message: the answer, what is sent, the browser and the world afterwards. -/
inductive Sends (client : Client J σ) (world : σ) (b : Browser J) (url : String) (message : Option Message) :
    Except BrowserError BrowserResponse → List Talk → Browser J → σ → Prop
  | refused (hclosed : b.isClosed = true) : Sends client world b url message (.error .closed) [] b world
  | malformed {e : Url.UrlError} (hopen : b.isClosed = false) (hurl : Url.parse url = .error e) :
      Sends client world b url message (.error (.invalidUrl url e.message)) [] b world
  | unbuilt {u : Url} (hopen : b.isClosed = false) (hurl : Url.parse url = .ok u) (hmessage : message = none) :
      Sends client world b url message (.error (.request url "builder error")) [] b world
  | talked {u : Url} {m : Message} {talk : Conversation σ} (hopen : b.isClosed = false) (hurl : Url.parse url = .ok u)
      (hmessage : message = some m) (htalk : client b.jar b.timeout u m world = talk) :
      Sends client world b url message (talk.result.mapError (.request url)) [⟨u, m, talk.arrivals⟩]
        (b.takeIn talk.arrivals) talk.world

variable {client : Client J σ} {world left : σ} {b after : Browser J} {url : String} {message : Option Message}
  {result : Except BrowserError BrowserResponse} {sent : List Talk}

/-- To note what is sent changes nothing else. -/
theorem sends (client : Client J σ) (world : σ) (b : Browser J) (url : String) (message : Option Message) :
    ∃ result sent after left, Sends client world b url message result sent after left ∧
      b.send url message client world = (result, after, left) ∧
      b.send url message client.noting ([], world) = (result, after, sent, left) := by
  cases hclosed : b.isClosed with
  | true =>
    simp only [send, if_pos hclosed]
    exact ⟨_, _, _, _, .refused hclosed, rfl, rfl⟩
  | false =>
    simp only [send, if_neg (Bool.eq_false_iff.mp hclosed)]
    cases hurl : Url.parse url with
    | error e =>
      rw [urlOf_of_error hurl]
      exact ⟨_, _, _, _, .malformed hclosed hurl, rfl, rfl⟩
    | ok u =>
      rw [urlOf_of_ok hurl]
      cases message with
      | none => exact ⟨_, _, _, _, .unbuilt hclosed hurl rfl, rfl, rfl⟩
      | some m => exact ⟨_, _, _, _, .talked hclosed hurl rfl rfl, rfl, rfl⟩

theorem Sends.keeps (h : Sends client world b url message result sent after left) :
    after.isClosed = b.isClosed ∧ after.timeout = b.timeout ∧
      after.jar = (sent.flatMap Talk.arrivals).foldl Jar.take b.jar := by
  cases h with
  | talked => exact ⟨rfl, rfl, by rw [List.flatMap_singleton]; rfl⟩
  | refused | malformed | unbuilt => exact ⟨rfl, rfl, rfl⟩

/-! ### Calls -/

inductive Call where
  | get (url : String)
  | getText (url : String)
  | getTextWithHeaders (url : String) (headers : List (String × String))
  | getJson (url : String)
  | postForm (url : String) (fields : List (String × String))
  | postJson (url : String) (value : Json)
  | cookies (url : String)
  | cookie (url name : String)
  | clearCookies
  | shutdown

inductive Reply where
  | response (response : BrowserResponse)
  | text (text : String)
  | json (value : Json)
  | cookies (held : Std.TreeMap String String)
  | cookie (value : Option String)
  | done

namespace Call

def url? : Call → Option String
  | get url | getText url | getTextWithHeaders url _ | getJson url | postForm url _ | postJson url _ => some url
  | cookies url | cookie url _ => some url
  | clearCookies | shutdown => none

def IsRequest : Call → Prop
  | cookies _ | cookie _ _ | clearCookies | shutdown => False
  | _ => True

def run (b : Browser J) (client : Client J σ) (now : Nat) (world : σ) :
    Call → Except BrowserError Reply × Browser J × σ
  | get url => (b.get url client world).map (·.map .response) id
  | getText url => (b.getText url client world).map (·.map .text) id
  | getTextWithHeaders url headers => (b.getTextWithHeaders url headers client world).map (·.map .text) id
  | getJson url => (b.getJson url client world).map (·.map .json) id
  | postForm url fields => (b.postForm url fields client world).map (·.map .response) id
  | postJson url value => (b.postJson url value client world).map (·.map .response) id
  | cookies url => ((b.cookies url now).map .cookies, b, world)
  | cookie url name => ((b.cookie? url name now).map .cookie, b, world)
  | clearCookies => (b.clearCookies.1.map fun _ => .done, b.clearCookies.2, world)
  | shutdown => (b.shutdown.1.map fun _ => .done, b.shutdown.2, world)

end Call

/-- A message for a URL, and how the answer is read off a response. -/
structure Question where
  url : String
  message : Option Message
  read : BrowserResponse → Except BrowserError Reply

def Call.question? : Call → Option Question
  | .get url => some ⟨url, getMessage? [], fun response => .ok (.response response)⟩
  | .getText url => some ⟨url, getMessage? [], fun response => .ok (.text response.body)⟩
  | .getTextWithHeaders url headers => some ⟨url, getMessage? headers, fun response => .ok (.text response.body)⟩
  | .getJson url => some ⟨url, getMessage? [], fun response => (decode url response).map .json⟩
  | .postForm url fields => some ⟨url, some (formMessage fields), fun response => .ok (.response response)⟩
  | .postJson url value => some ⟨url, some (jsonMessage value), fun response => .ok (.response response)⟩
  | .cookies _ | .cookie _ _ | .clearCookies | .shutdown => none

theorem map_send (f : BrowserResponse → Reply) : (b.send url message client world).map (·.map f) id =
    b.ask url message (fun response => .ok (f response)) client world := by
  simp only [ask, Prod.map, id]
  cases (b.send url message client world).1 <;> rfl

theorem map_ask {α : Type} (read : BrowserResponse → Except BrowserError α) (f : α → Reply) :
    (b.ask url message read client world).map (·.map f) id =
      b.ask url message (fun response => (read response).map f) client world := by
  simp only [ask, Prod.map, id]
  cases (b.send url message client world).1 <;> rfl

/-- A request is performed by sending its message and reading the response. -/
theorem run_of_question {call : Call} {q : Question} (h : call.question? = some q) (b : Browser J)
    (client : Client J σ) (now : Nat) (world : σ) :
    call.run b client now world = b.ask q.url q.message q.read client world := by
  cases call with
  | get =>
    cases h
    exact map_send _
  | getText =>
    cases h
    exact map_ask _ _
  | getTextWithHeaders =>
    cases h
    exact map_ask _ _
  | getJson =>
    cases h
    exact map_ask _ _
  | postForm =>
    cases h
    exact map_send _
  | postJson =>
    cases h
    exact map_send _
  | cookies | cookie | clearCookies | shutdown => cases h

theorem run_of_closed_clear (h : b.isClosed = true) (now : Nat) :
    Call.run b client now world .clearCookies = (.error .closed, b, world) := by
  rw [Call.run, clearCookies, if_pos h]
  rfl

theorem run_of_open_clear (h : b.isClosed = false) (now : Nat) :
    Call.run b client now world .clearCookies = (.ok .done, { b with jar := Jar.empty }, world) := by
  rw [Call.run, clearCookies, if_neg (Bool.eq_false_iff.mp h)]
  rfl

theorem cookies_congr {other : Browser J} {now moment : Nat}
    (h : ∀ u, Jar.header? b.jar u now = Jar.header? other.jar u moment) (url : String) :
    b.cookies url now = other.cookies url moment := by
  rw [Browser.cookies, Browser.cookies]
  simp only [h]

theorem cookie?_congr {other : Browser J} {now moment : Nat}
    (h : ∀ u, Jar.header? b.jar u now = Jar.header? other.jar u moment) (url name : String) :
    b.cookie? url name now = other.cookie? url name moment := by
  rw [cookie?, cookie?, cookies_congr h]

theorem cookies_of_headerless {now : Nat} {u : Url} (hurl : urlOf url = .ok u)
    (hnone : Jar.header? b.jar u now = none) :
    b.cookies url now = .ok {} := by
  rw [cookies, hurl]
  simp only [bind, Except.bind, hnone]

theorem cookie?_of_headerless {now : Nat} {u : Url} (hurl : urlOf url = .ok u)
    (hnone : Jar.header? b.jar u now = none) (name : String) : b.cookie? url name now = .ok none := by
  rw [cookie?, cookies_of_headerless hurl hnone]
  exact congrArg Except.ok Std.TreeMap.getElem?_emptyc

theorem cookie?_of_header {now : Nat} {u : Url} {value : Bytes} (hurl : urlOf url = .ok u)
    (hjar : Jar.header? b.jar u now = some value) (name : String) :
    b.cookie? url name now = .ok (cookiesOfHeader value)[name]? := by
  rw [cookie?, cookies, hurl]
  simp only [bind, Except.bind, hjar]

/-! ### Calls on occasion -/

/-- A call, with the time and the world that it finds. -/
structure Occasion (σ : Type) where
  now : Nat
  world : σ
  call : Call

/-- A call that has been performed, with what it has sent and the world that it has left. -/
structure Performed (J σ : Type) extends Occasion σ where
  before : Browser J
  answer : Except BrowserError Reply
  sent : List Talk
  after : Browser J
  left : σ

/-- What may come of a call. -/
inductive Happens (client : Client J σ) (b : Browser J) : Performed J σ → Prop
  | asked {o : Occasion σ} {q : Question} {result : Except BrowserError BrowserResponse} {sent : List Talk}
      {after : Browser J} {left : σ} (hcall : o.call.question? = some q)
      (hsends : Sends client o.world b q.url q.message result sent after left) :
      Happens client b ⟨o, b, result.bind q.read, sent, after, left⟩
  | cookies (now : Nat) (world : σ) (url : String) :
      Happens client b ⟨⟨now, world, .cookies url⟩, b, (b.cookies url now).map .cookies, [], b, world⟩
  | cookie (now : Nat) (world : σ) (url name : String) :
      Happens client b ⟨⟨now, world, .cookie url name⟩, b, (b.cookie? url name now).map .cookie, [], b, world⟩
  | uncleared (now : Nat) (world : σ) (hclosed : b.isClosed = true) :
      Happens client b ⟨⟨now, world, .clearCookies⟩, b, .error .closed, [], b, world⟩
  | cleared (now : Nat) (world : σ) (hopen : b.isClosed = false) :
      Happens client b ⟨⟨now, world, .clearCookies⟩, b, .ok .done, [], { b with jar := Jar.empty }, world⟩
  | shut (now : Nat) (world : σ) :
      Happens client b ⟨⟨now, world, .shutdown⟩, b, .ok .done, [], { b with isClosed := true }, world⟩

def perform (b : Browser J) (client : Client J σ) (o : Occasion σ) : Performed J σ :=
  let (answer, after, sent, left) := o.call.run b client.noting o.now ([], o.world)
  ⟨o, b, answer, sent, after, left⟩

/-- A call that is performed does what may come of it, and what it would do if nothing were noted. -/
theorem happens_perform (b : Browser J) (client : Client J σ) (o : Occasion σ) :
    Happens client b (b.perform client o) ∧ o.call.run b client o.now o.world =
      ((b.perform client o).answer, (b.perform client o).after, (b.perform client o).left) := by
  obtain ⟨now, world, call⟩ := o
  cases hquestion : call.question? with
  | some q =>
    obtain ⟨result, sent, after, left, hsends, hplain, hnoted⟩ := sends client world b q.url q.message
    have hperform : b.perform client ⟨now, world, call⟩ =
        ⟨⟨now, world, call⟩, b, result.bind q.read, sent, after, left⟩ := by
      rw [perform, run_of_question hquestion, ask, hnoted]
    rw [hperform, run_of_question hquestion, ask, hplain]
    exact ⟨.asked hquestion hsends, rfl⟩
  | none =>
    cases call with
    | cookies url => exact ⟨.cookies now world url, rfl⟩
    | cookie url name => exact ⟨.cookie now world url name, rfl⟩
    | clearCookies =>
      cases hclosed : b.isClosed with
      | true =>
        simp only [perform, run_of_closed_clear hclosed]
        exact ⟨.uncleared now world hclosed, trivial⟩
      | false =>
        simp only [perform, run_of_open_clear hclosed]
        exact ⟨.cleared now world hclosed, trivial⟩
    | shutdown => exact ⟨.shut now world, rfl⟩
    | get | getText | getTextWithHeaders | getJson | postForm | postJson => cases hquestion

/-- Performs calls as they come: their answers with the worlds that they leave, and the browser afterwards. -/
def runCalls (b : Browser J) (client : Client J σ) :
    List (Occasion σ) → List (Except BrowserError Reply × σ) × Browser J
  | [] => ([], b)
  | o :: rest =>
    let (answer, b, left) := o.call.run b client o.now o.world
    let (answers, b) := runCalls b client rest
    ((answer, left) :: answers, b)

end Browser

end AppServer.Harness
