import AppServer.Template.Render

/-!
# The law of journals

In the journal of a rendering a call of an authenticity helper is followed by one
reading of the token and by the text made of it, or it ends the journal because the
helper was called with something. No token is read elsewhere. The marks in the
journal of a rendering that succeeds go in pairs.
-/

namespace AppServer.Template

variable {σ : Type} {readToken : σ → String × σ}

/-! ### Calls -/

namespace Invocation

def asks (call : Invocation) : Bool :=
  call.name = authenticityFormName || call.name = authenticityTokenName

/-- Whether a helper is called with nothing: no positional argument, no named one, no loop variable. -/
def isBare (call : Invocation) : Bool := call.params.isEmpty && call.hash.isEmpty && call.blockParams.isEmpty

/-- What an authenticity helper writes: the token, inside of the hidden field for the helper of that. -/
def markup (call : Invocation) (token : String) : String :=
  if call.name = authenticityFormName then hiddenField token else token

def refusal (call : Invocation) : RenderError :=
  if call.params.isEmpty && call.hash.isEmpty then .rejectsLoopVariables call.name else .rejectsParameters call.name

theorem requireBare_eq (call : Invocation) :
    call.requireBare = if call.isBare then .ok () else .error call.refusal := by
  rw [requireBare, isBare, refusal]
  cases call.params.isEmpty <;> cases call.hash.isEmpty <;> cases call.blockParams.isEmpty <;> rfl

end Invocation

/-! ### Journals -/

/-- Whether a call of an authenticity helper is told that the helper accepts. -/
def Entry.isAsked : Entry → Bool
  | .called _ call => call.asks && call.isBare
  | _ => false

def Entry.token? : Entry → Option String
  | .read token => some token
  | _ => none

def Entry.IsQuiet : Entry → Prop
  | .called _ call => call.asks = false
  | .read _ => False
  | _ => True

/-- A journal from one session to another, which ends with a fault if there is one: each accepted call of an
authenticity helper reads the token and writes what it makes of it, and a refused call is the last thing done. -/
inductive Lawful (readToken : σ → String × σ) : σ → List Entry → Option RenderError → σ → Prop where
  | done (s : σ) (fault : Option RenderError) : Lawful readToken s [] fault s
  | quiet {s t : σ} {entry : Entry} {rest : List Entry} {fault : Option RenderError} (isQuiet : entry.IsQuiet)
      (later : Lawful readToken s rest fault t) : Lawful readToken s (entry :: rest) fault t
  | asked {s t : σ} {place : Place} {call : Invocation} {rest : List Entry} {fault : Option RenderError}
      (asks : call.asks = true) (bare : call.isBare = true) (later : Lawful readToken (readToken s).2 rest fault t) :
      Lawful readToken s
        (.called place call :: .read (readToken s).1 :: .wrote (call.markup (readToken s).1) :: rest) fault t
  | refused {s : σ} {place : Place} {call : Invocation} (asks : call.asks = true) (bare : call.isBare = false) :
      Lawful readToken s [.called place call] (some call.refusal) s

theorem Lawful.append {s t u : σ} {first second : List Entry} {fault : Option RenderError}
    (hfirst : Lawful readToken s first none t) (hsecond : Lawful readToken t second fault u) :
    Lawful readToken s (first ++ second) fault u := by
  generalize hfault : (none : Option RenderError) = healthy at hfirst
  induction hfirst with
  | done s fault => exact hsecond
  | quiet isQuiet _ ih => exact .quiet isQuiet (ih hsecond hfault)
  | asked asks bare _ ih => exact .asked asks bare (ih hsecond hfault)
  | refused => cases hfault

def readings (readToken : σ → String × σ) : Nat → σ → List String × σ
  | 0, s => ([], s)
  | n + 1, s => ((readToken s).1 :: (readings readToken n (readToken s).2).1, (readings readToken n (readToken s).2).2)

/-- The token is read as often as an authenticity helper accepts a call. -/
theorem Lawful.readings_eq {s t : σ} {log : List Entry} {fault : Option RenderError}
    (h : Lawful readToken s log fault t) :
    readings readToken (log.countP Entry.isAsked) s = (log.filterMap Entry.token?, t) := by
  induction h with
  | done s fault => rfl
  | @quiet s t entry rest fault isQuiet _ ih =>
    have hasked : entry.isAsked = false := by
      cases entry with
      | called place call => rw [Entry.isAsked, show call.asks = false from isQuiet, Bool.false_and]
      | _ => rfl
    have htoken : entry.token? = none := by
      cases entry with
      | read token => exact isQuiet.elim
      | _ => rfl
    rw [List.countP_cons_of_neg (by simp [hasked]), List.filterMap_cons_none htoken, ih]
  | @asked s t place call rest fault asks bare _ ih =>
    have hasked : (Entry.called place call).isAsked = true := by rw [Entry.isAsked, asks, bare, Bool.and_true]
    rw [List.countP_cons_of_pos hasked, List.countP_cons_of_neg Bool.false_ne_true,
      List.countP_cons_of_neg Bool.false_ne_true, readings, ih]
    rfl
  | @refused s place call asks bare =>
    have hasked : (Entry.called place call).isAsked = false := by rw [Entry.isAsked, bare, Bool.and_false]
    rw [List.countP_cons_of_neg (by simp [hasked])]
    rfl

/-- An accepted call is followed by the reading of the token and by the text made of it; a refused one is the last
entry, and the fault is the refusal. -/
theorem Lawful.after_call {s t : σ} {log : List Entry} {fault : Option RenderError}
    (h : Lawful readToken s log fault t) {before after : List Entry} {place : Place} {call : Invocation}
    (hlog : log = before ++ .called place call :: after) (hasks : call.asks = true) :
    (call.isBare = true → ∃ token rest, after = .read token :: .wrote (call.markup token) :: rest) ∧
      (call.isBare = false → after = [] ∧ fault = some call.refusal) := by
  induction h generalizing before with
  | done s fault => exact absurd hlog.symm (List.append_ne_nil_of_right_ne_nil _ (List.cons_ne_nil _ _))
  | quiet isQuiet _ ih =>
    rcases List.cons_eq_append_iff.mp hlog with ⟨-, heq⟩ | ⟨rest, -, hrest⟩
    · cases heq
      exact absurd hasks (Bool.eq_false_iff.mp isQuiet)
    · exact ih hrest
  | asked asks bare _ ih =>
    rcases List.cons_eq_append_iff.mp hlog with ⟨-, heq⟩ | ⟨first, -, hfirst⟩
    · cases heq
      exact ⟨fun _ => ⟨_, _, rfl⟩, fun hnot => absurd bare (Bool.eq_false_iff.mp hnot)⟩
    · rcases List.cons_eq_append_iff.mp hfirst with ⟨-, heq⟩ | ⟨second, -, hsecond⟩
      · cases heq
      · rcases List.cons_eq_append_iff.mp hsecond with ⟨-, heq⟩ | ⟨third, -, hthird⟩
        · cases heq
        · exact ih hthird
  | refused asks bare =>
    rcases List.cons_eq_append_iff.mp hlog with ⟨-, heq⟩ | ⟨rest, -, hrest⟩
    · cases heq
      exact ⟨fun hbare => absurd hbare (Bool.eq_false_iff.mp bare), fun _ => ⟨rfl, rfl⟩⟩
    · exact absurd hrest.symm (List.append_ne_nil_of_right_ne_nil _ (List.cons_ne_nil _ _))

/-- Each reading of the token follows an accepted call. -/
theorem Lawful.before_read {s t : σ} {log : List Entry} {fault : Option RenderError}
    (h : Lawful readToken s log fault t) {before after : List Entry} {token : String}
    (hlog : log = before ++ .read token :: after) :
    ∃ earlier place call rest, before = earlier ++ [.called place call] ∧ call.asks = true ∧ call.isBare = true ∧
      after = .wrote (call.markup token) :: rest := by
  induction h generalizing before with
  | done s fault => exact absurd hlog.symm (List.append_ne_nil_of_right_ne_nil _ (List.cons_ne_nil _ _))
  | @quiet s t entry _ _ isQuiet _ ih =>
    rcases List.cons_eq_append_iff.mp hlog with ⟨-, heq⟩ | ⟨rest, rfl, hrest⟩
    · cases heq
      exact isQuiet.elim
    · obtain ⟨earlier, place, call, more, rfl, hcall⟩ := ih hrest
      exact ⟨entry :: earlier, place, call, more, rfl, hcall⟩
  | @asked s t place call _ _ asks bare _ ih =>
    rcases List.cons_eq_append_iff.mp hlog with ⟨-, heq⟩ | ⟨first, rfl, hfirst⟩
    · cases heq
    · rcases List.cons_eq_append_iff.mp hfirst with ⟨rfl, heq⟩ | ⟨second, rfl, hsecond⟩
      · cases heq
        exact ⟨[], place, call, _, rfl, asks, bare, rfl⟩
      · rcases List.cons_eq_append_iff.mp hsecond with ⟨-, heq⟩ | ⟨third, rfl, hthird⟩
        · cases heq
        · obtain ⟨earlier, place, call, more, rfl, hcall⟩ := ih hthird
          exact ⟨_ :: _ :: _ :: earlier, place, call, more, rfl, hcall⟩
  | refused =>
    rcases List.cons_eq_append_iff.mp hlog with ⟨-, heq⟩ | ⟨rest, -, hrest⟩
    · cases heq
    · exact absurd hrest.symm (List.append_ne_nil_of_right_ne_nil _ (List.cons_ne_nil _ _))

/-! ### Texts -/

/-- A journal whose marks go in pairs, with the texts that are written outside of them. A pair of marks holds the text
that is written between them. -/
inductive Nested : List Entry → List String → Prop where
  | nil : Nested [] []
  | wrote {text : String} {rest : List Entry} {texts : List String} (later : Nested rest texts) :
      Nested (.wrote text :: rest) (text :: texts)
  | called {place : Place} {call : Invocation} {rest : List Entry} {texts : List String} (later : Nested rest texts) :
      Nested (.called place call :: rest) texts
  | read {token : String} {rest : List Entry} {texts : List String} (later : Nested rest texts) :
      Nested (.read token :: rest) texts
  | apart {inner rest : List Entry} {own texts : List String} (inside : Nested inner own) (later : Nested rest texts) :
      Nested (.opened :: (inner ++ .closed (String.join own) :: rest)) texts

theorem Nested.append {first second : List Entry} {texts more : List String} (hfirst : Nested first texts)
    (hsecond : Nested second more) : Nested (first ++ second) (texts ++ more) := by
  induction hfirst with
  | nil => exact hsecond
  | wrote _ ih => exact .wrote ih
  | called _ ih => exact .called ih
  | read _ ih => exact .read ih
  | @apart inner rest own texts inside _ _ ih =>
    rw [List.cons_append, List.append_assoc, List.cons_append]
    exact .apart inside ih

def Entry.depth : Entry → Int
  | .called _ _ => 0
  | .read _ => 0
  | .wrote _ => 0
  | .opened => 1
  | .closed _ => -1

def openTexts : List Entry → Int
  | [] => 0
  | entry :: rest => entry.depth + openTexts rest

theorem openTexts_append (first second : List Entry) :
    openTexts (first ++ second) = openTexts first + openTexts second := by
  induction first with
  | nil => rw [List.nil_append, openTexts, Int.zero_add]
  | cons entry rest ih => rw [List.cons_append, openTexts, openTexts, ih, Int.add_assoc]

theorem Nested.openTexts_eq {log : List Entry} {texts : List String} (h : Nested log texts) : openTexts log = 0 := by
  induction h with
  | nil => rfl
  | wrote _ ih => rw [openTexts, ih]; rfl
  | called _ ih => rw [openTexts, ih]; rfl
  | read _ ih => rw [openTexts, ih]; rfl
  | apart _ _ ihinside ih =>
    rw [openTexts, openTexts_append, openTexts, ihinside, ih]
    rfl

theorem Nested.openTexts_nonneg {log : List Entry} {texts : List String} (h : Nested log texts)
    {before after : List Entry} (hlog : log = before ++ after) : 0 ≤ openTexts before := by
  induction h generalizing before after with
  | nil =>
    rw [(List.append_eq_nil_iff.mp hlog.symm).1]
    exact Int.le_refl 0
  | wrote _ ih | called _ ih | read _ ih =>
    rcases List.cons_eq_append_iff.mp hlog with ⟨rfl, -⟩ | ⟨rest, rfl, hrest⟩
    · exact Int.le_refl 0
    · rw [openTexts, Entry.depth, Int.zero_add]
      exact ih hrest
  | @apart inner _ own _ inside _ ihinside ih =>
    rcases List.cons_eq_append_iff.mp hlog with ⟨rfl, -⟩ | ⟨rest, rfl, hrest⟩
    · exact Int.le_refl 0
    rw [openTexts, Entry.depth]
    rcases List.append_eq_append_iff.mp hrest with ⟨more, rfl, hmore⟩ | ⟨more, hinner, -⟩
    · rw [openTexts_append, inside.openTexts_eq]
      rcases List.cons_eq_append_iff.mp hmore with ⟨rfl, -⟩ | ⟨behind, rfl, hbehind⟩
      · decide
      · have hnonneg := ih hbehind
        rw [openTexts, Entry.depth]
        omega
    · have hnonneg := ihinside hinner
      omega

/-- What is written shows where it is written: in the text of the whole journal, if no other text is begun there, or
else in that text or in one that is finished later. -/
theorem Nested.shows {log : List Entry} {texts : List String} (h : Nested log texts) {before after : List Entry}
    {text : String} (hlog : log = before ++ .wrote text :: after) :
    (∃ front rest, String.join texts = front ++ text ++ rest) ∨
      openTexts before ≠ 0 ∧ ∃ front rest, .closed (front ++ text ++ rest) ∈ after := by
  induction h generalizing before after with
  | nil => exact absurd hlog.symm (List.append_ne_nil_of_right_ne_nil _ (List.cons_ne_nil _ _))
  | @wrote own _ texts _ ih =>
    rcases List.cons_eq_append_iff.mp hlog with ⟨rfl, heq⟩ | ⟨rest, rfl, hrest⟩
    · cases heq
      exact .inl ⟨"", String.join texts, by rw [String.join_cons, String.empty_append]⟩
    · rw [openTexts, Entry.depth, Int.zero_add]
      refine (ih hrest).imp_left fun ⟨front, behind, htexts⟩ => ⟨own ++ front, behind, ?_⟩
      rw [String.join_cons, htexts, String.append_assoc, String.append_assoc, String.append_assoc]
  | called _ ih | read _ ih =>
    rcases List.cons_eq_append_iff.mp hlog with ⟨rfl, heq⟩ | ⟨rest, rfl, hrest⟩
    · cases heq
    · rw [openTexts, Entry.depth, Int.zero_add]
      exact ih hrest
  | @apart inner _ own _ inside _ ihinside ih =>
    rcases List.cons_eq_append_iff.mp hlog with ⟨rfl, heq⟩ | ⟨rest, rfl, hrest⟩
    · cases heq
    rw [openTexts, Entry.depth]
    rcases List.append_eq_append_iff.mp hrest with ⟨more, rfl, hmore⟩ | ⟨more, hinner, hmore⟩
    · -- the text is written behind the pair of marks
      rw [openTexts_append, inside.openTexts_eq]
      rcases List.cons_eq_append_iff.mp hmore with ⟨rfl, heq⟩ | ⟨behind, rfl, hbehind⟩
      · cases heq
      · refine (ih hbehind).imp_right fun ⟨hopen, hclosed⟩ => ⟨?_, hclosed⟩
        rw [openTexts, Entry.depth]
        omega
    · -- the text is written between the marks
      have hnonneg := inside.openTexts_nonneg hinner
      rcases List.cons_eq_append_iff.mp hmore with ⟨rfl, heq⟩ | ⟨behind, rfl, hbehind⟩
      · cases heq
      · refine .inr ⟨by omega, ?_⟩
        rw [hbehind]
        rcases ihinside hinner with ⟨front, rest, hown⟩ | ⟨-, front, rest, hclosed⟩
        · rw [hown]
          exact ⟨front, rest, List.mem_append_right _ List.mem_cons_self⟩
        · exact ⟨front, rest, List.mem_append_left _ hclosed⟩

end AppServer.Template
