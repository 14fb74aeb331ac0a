import AppServer.Proofs.Files
import AppServer.Proofs.Json.Reading

/-!
# The event log

A log of events is a file of lines, one for each event, that is only ever
appended to. Each line is read back as its event, whatever texts the event
holds, so the log can be taken apart again into the events recorded in it.
-/

namespace AppServer

/-! ### Lines -/

namespace Bytes

/-- The lines of a file, each ended by a line break but maybe for the last. -/
def lines : Bytes → List Bytes
  | [] => []
  | b :: rest =>
    if b = 10 then [] :: lines rest
    else match lines rest with
      | [] => [[b]]
      | line :: later => (b :: line) :: later

theorem lines_line {line : Bytes} (h : 10 ∉ line) (rest : Bytes) : lines (line ++ 10 :: rest) = line :: lines rest := by
  induction line with
  | nil => rfl
  | cons b line ih =>
    rw [List.mem_cons, not_or] at h
    obtain ⟨hb, hline⟩ := h
    rw [List.cons_append, lines, if_neg (Ne.symm hb), ih hline]

theorem lines_ne_nil {content : Bytes} (h : content ≠ []) : lines content ≠ [] := by
  cases content with
  | nil => exact absurd rfl h
  | cons b rest =>
    rw [lines]
    split
    · exact List.cons_ne_nil _ _
    · split
      · exact List.cons_ne_nil _ _
      · exact List.cons_ne_nil _ _

/-- Whole lines: nothing, or a text that a line break ends. -/
def Whole (content : Bytes) : Prop := content = [] ∨ content.getLast? = some 10

theorem lines_append {content : Bytes} (h : Whole content) (rest : Bytes) :
    lines (content ++ rest) = lines content ++ lines rest := by
  induction content with
  | nil => rfl
  | cons b content ih =>
    rw [List.cons_append, lines, lines]
    by_cases hend : content = []
    · subst hend
      obtain hnil | hlast := h
      · cases hnil
      · cases hlast
        rfl
    · have hwhole : Whole content := by
        obtain hnil | hlast := h
        · cases hnil
        · exact .inr (by rwa [List.getLast?_cons_of_ne_nil hend] at hlast)
      rw [ih hwhole]
      split
      · rfl
      · cases hlines : lines content with
        | nil => exact absurd hlines (lines_ne_nil hend)
        | cons line later => rfl

theorem newline_of_mem_utf8EncodeChar {c : Char} (h : (10 : UInt8) ∈ String.utf8EncodeChar c) : c = '\n' := by
  have hnot (m : Nat) (hlow : 128 ≤ m) (hhigh : m < 256) : (10 : UInt8) ≠ UInt8.ofNat m := by
    intro heq
    have hcode := congrArg UInt8.toNat heq
    rw [UInt8.toNat_ofNat', show (10 : UInt8).toNat = 10 from rfl] at hcode
    omega
  simp only [String.utf8EncodeChar] at h
  -- only a character of one byte has a byte below 128
  split at h
  · next hone =>
    have hcode := congrArg UInt8.toNat (List.mem_singleton.mp h)
    rw [UInt8.toNat_ofNat', show (10 : UInt8).toNat = 10 from rfl] at hcode
    have hten : c.toNat = 10 := by
      show c.val.toNat = 10
      omega
    rw [← Char.ofNat_toNat c, hten]
  · exfalso
    split at h
    · simp only [List.mem_cons, List.not_mem_nil, or_false] at h
      obtain h | h := h
      all_goals exact hnot _ (by omega) (by omega) h
    · split at h
      · simp only [List.mem_cons, List.not_mem_nil, or_false] at h
        obtain h | h | h := h
        all_goals exact hnot _ (by omega) (by omega) h
      · simp only [List.mem_cons, List.not_mem_nil, or_false] at h
        obtain h | h | h | h := h
        all_goals exact hnot _ (by omega) (by omega) h

theorem newline_not_mem_ofText {s : String} (h : '\n' ∉ s.toList) : (10 : UInt8) ∉ ofText s := by
  intro hmem
  rw [ofText_eq_flatMap, List.mem_flatMap] at hmem
  obtain ⟨c, hc, hbyte⟩ := hmem
  rw [newline_of_mem_utf8EncodeChar hbyte] at hc
  exact h hc

end Bytes

/-! ### Lines of events -/

namespace LifecycleEvent

def fields (e : LifecycleEvent) : List (String × Json) :=
  ("event", .string e.name) :: ("timestamp_ms", Json.nat e.timestamp) :: ("mode", .string e.mode.token) ::
    e.optionalFields.map fun field => (field.1, .string field.2)

theorem readBack_fields (e : LifecycleEvent) : ∀ field ∈ e.fields, Json.ReadBack field.2 := by
  intro field hfield
  simp only [fields, List.mem_cons, List.mem_map] at hfield
  obtain rfl | rfl | rfl | ⟨written, -, rfl⟩ := hfield
  · exact Json.readBack_string e.name
  · exact Json.readBack_nat e.timestamp
  · exact Json.readBack_string e.mode.token
  · exact Json.readBack_string written.2

theorem text_eq (e : LifecycleEvent) : e.text = Json.write (.object e.fields) := by
  have hname : (Json.quote "event").toList = "\"event\"".toList := by decide
  have htime : (Json.quote "timestamp_ms").toList = "\"timestamp_ms\"".toList := by decide
  have hmode : (Json.quote "mode").toList = "\"mode\"".toList := by decide
  have hoptional (written : List (String × String)) :
      Json.laterText (written.map fun field => (field.1, .string field.2)) =
        (String.join (written.map fun field => "," ++ Json.quote field.1 ++ ":" ++ Json.quote field.2)).toList := by
    have hone (field : String × String) : ',' :: Json.fieldText (field.1, .string field.2) =
        ("," ++ Json.quote field.1 ++ ":" ++ Json.quote field.2).toList := by
      simp [Json.fieldText, Json.write_string]
    simp only [Json.laterText, String.toList_join, List.flatMap_map, hone]
  rw [← String.toList_inj, fields, Json.toList_write_object, Json.laterText, List.flatMap_cons, List.flatMap_cons,
    ← Json.laterText, hoptional, text]
  simp [Json.fieldText, Json.write_string, Json.write_nat, hname, htime, hmode]

theorem newline_not_mem_quote (s : String) : '\n' ∉ (Json.quote s).toList := by
  intro hmem
  rw [Json.toList_quote, List.mem_cons, List.mem_append, List.mem_flatMap, List.mem_singleton] at hmem
  obtain hquote | ⟨c, -, hc⟩ | hquote := hmem
  · exact absurd hquote (by decide)
  · exact Json.newline_not_mem_escapeChar c hc
  · exact absurd hquote (by decide)

theorem newline_not_mem_decimal (n : Nat) : '\n' ∉ (Text.decimal n).toList := by
  intro hmem
  exact absurd (Text.isDigit_decimal n _ hmem) (by decide)

theorem newline_not_mem_text (e : LifecycleEvent) : '\n' ∉ e.text.toList := by
  simp [text, newline_not_mem_quote, newline_not_mem_decimal]

/-! ### Reading an event back -/

theorem readExact?_text (e : LifecycleEvent) : Json.readExact? e.text = some (Json.ofFields e.fields) := by
  rw [text_eq, fields, Json.readExact?_object e.readBack_fields]

/-- The value of an event has the fields that are always there, and of the others those that are set. -/
structure Shows (value : Json) (e : LifecycleEvent) : Prop where
  name : value.field? "event" = some (.string e.name)
  timestamp : value.field? "timestamp_ms" = some (.number (.integer e.timestamp))
  mode : value.field? "mode" = some (.string e.mode.token)
  serverUrl : value.field? "server_url" = e.serverUrl.map Json.string
  detail : value.field? "detail" = e.detail.map Json.string

theorem shows_fields (e : LifecycleEvent) : Shows (Json.ofFields e.fields) e := by
  obtain ⟨name, timestamp, mode, serverUrl, detail⟩ := e
  constructor
  all_goals
    rw [Json.field?_ofFields]
    cases serverUrl <;> cases detail <;> rfl

theorem Shows.ofText? {text : String} {value : Json} {e : LifecycleEvent} (hread : Json.readExact? text = some value)
    (h : Shows value e) : LifecycleEvent.ofText? text = some e := by
  have hserverUrl : textField? value "server_url" = some e.serverUrl := by
    rw [textField?, h.serverUrl]
    cases e.serverUrl <;> rfl
  have hdetail : textField? value "detail" = some e.detail := by
    rw [textField?, h.detail]
    cases e.detail <;> rfl
  rw [LifecycleEvent.ofText?, hread]
  simp only [bind, Option.bind, h.name, h.timestamp, h.mode, Mode.ofToken?_token, hserverUrl, hdetail,
    Int.natCast_nonneg, if_true, Int.toNat_natCast]

/-- A line tells an event: no line break is in it, it is JSON text of nothing but the event's fields, and read as an
event it is this one. -/
structure Tells (line : Bytes) (e : LifecycleEvent) : Prop where
  oneLine : (10 : UInt8) ∉ line
  read : ∃ text, Bytes.toText? line = some text ∧ Json.readExact? text = some (Json.ofFields e.fields) ∧
    LifecycleEvent.ofText? text = some e
  shows : Shows (Json.ofFields e.fields) e

theorem tells_text (e : LifecycleEvent) : Tells (Bytes.ofText e.text) e where
  oneLine := Bytes.newline_not_mem_ofText e.newline_not_mem_text
  read := ⟨e.text, Bytes.toText?_ofText e.text, e.readExact?_text, e.shows_fields.ofText? e.readExact?_text⟩
  shows := e.shows_fields

theorem ofText_line (e : LifecycleEvent) : Bytes.ofText e.line = Bytes.ofText e.text ++ [10] := by
  have hbreak : Bytes.ofText "\n" = [10] := by decide
  rw [line, ← hbreak]
  simp [Bytes.ofText]

end LifecycleEvent

/-! ### Sinks -/

namespace EventSink

variable {files : Files} {place : Place}

theorem at?_record {content : Bytes} (hfile : files.at? place = some (.file content)) (e : LifecycleEvent)
    (other : Place) : ((EventSink.file place).record files e).at? other =
      if other = place then some (.file (content ++ Bytes.ofText e.line)) else files.at? other := by
  have hdirectory : files.at? place ≠ some .directory := by
    rw [hfile]
    exact nofun
  rw [record, Files.append_file hfile, Files.at?_put files (Files.not_above_home_of_ne hdirectory)]

theorem home_record (sink : EventSink) (files : Files) (e : LifecycleEvent) :
    (sink.record files e).home = files.home := by
  cases sink with
  | errorStream => rfl
  | discard => rfl
  | file place =>
    rw [record, Files.append]
    split <;> rfl

theorem home_foldl_record (sink : EventSink) (events : List LifecycleEvent) (files : Files) :
    (events.foldl sink.record files).home = files.home := by
  induction events generalizing files with
  | nil => rfl
  | cons e later ih => rw [List.foldl_cons, ih, home_record]

theorem at?_foldl_record (events : List LifecycleEvent) {content : Bytes}
    (hfile : files.at? place = some (.file content)) (other : Place) :
    (events.foldl (EventSink.file place).record files).at? other =
      if other = place then some (.file (content ++ events.flatMap fun e => Bytes.ofText e.line))
      else files.at? other := by
  induction events generalizing files content with
  | nil =>
    rw [List.foldl_nil, List.flatMap_nil, List.append_nil]
    by_cases hsame : other = place
    · rw [hsame, if_pos rfl, hfile]
    · rw [if_neg hsame]
  | cons e later ih =>
    have hnext := at?_record hfile e
    have hplace := hnext place
    rw [if_pos rfl] at hplace
    rw [List.foldl_cons, ih hplace, List.flatMap_cons, List.append_assoc]
    by_cases hsame : other = place
    · rw [if_pos hsame, if_pos hsame]
    · rw [if_neg hsame, if_neg hsame, hnext, if_neg hsame]

end EventSink

/-! ### Rounds -/

/-- A sink is made of some properties, and events are recorded through it. -/
structure LogRound where
  properties : Properties
  events : List LifecycleEvent

namespace LogRound

/-- The sink that is made, if one can be made. -/
def sink? (round : LogRound) (files : Files) : Option EventSink :=
  (EventSink.ofProperties files round.properties).toOption.map Prod.fst

def run (files : Files) (round : LogRound) : Files :=
  match EventSink.ofProperties files round.properties with
  | .error _ => files
  | .ok (sink, opened) => round.events.foldl sink.record opened

def runAll (files : Files) (rounds : List LogRound) : Files := rounds.foldl run files

def logged (round : LogRound) (files : Files) : List LifecycleEvent :=
  match round.sink? files with
  | some (.file _) => round.events
  | _ => []

def allLogged : Files → List LogRound → List LifecycleEvent
  | _, [] => []
  | files, round :: later => round.logged files ++ allLogged (run files round) later

variable {files now : Files} {place : Place} {round : LogRound}

theorem runAll_nil (files : Files) : runAll files [] = files := List.foldl_nil

theorem runAll_cons (files : Files) (round : LogRound) (later : List LogRound) :
    runAll files (round :: later) = runAll (run files round) later := List.foldl_cons ..

theorem runAll_append (files : Files) (before later : List LogRound) :
    runAll files (before ++ later) = runAll (runAll files before) later := List.foldl_append

theorem sink?_same (h : files.OpensAlike now) (round : LogRound) : round.sink? now = round.sink? files :=
  EventSink.toOption_ofProperties h round.properties

/-- A round without a file sink, be it that no sink can be made, leaves all files as they are. -/
theorem run_of_no_file (h : ∀ place, round.sink? files ≠ some (.file place)) : run files round = files := by
  rw [run]
  rw [sink?] at h
  split
  · rfl
  · next sink opened hmade =>
    rw [hmade] at h
    have hsink : ∀ place, sink ≠ .file place := fun place heq => h place (by rw [heq]; rfl)
    rw [EventSink.files_of_ofProperties hmade hsink]
    have hnothing (held : Files) (e : LifecycleEvent) : sink.record held e = held := by
      cases sink with
      | errorStream => rfl
      | file place => exact absurd rfl (hsink place)
      | discard => rfl
    induction round.events with
    | nil => rfl
    | cons e later ih => rw [List.foldl_cons, hnothing, ih]

theorem at?_run (h : round.sink? files = some (.file place)) (other : Place) :
    (run files round).at? other =
      if other = place then
        some (.file (files.contentAt place ++ round.events.flatMap fun e => Bytes.ofText e.line))
      else files.at? other := by
  obtain ⟨⟨_, opened⟩, hmade, rfl⟩ := Option.map_eq_some_iff.mp h
  have hsink := ok_of_toOption hmade
  obtain ⟨path, hopen⟩ := EventSink.openToAppend_of_ofProperties hsink
  have hopened := Files.at?_opened hopen
  have hfile := hopened place
  rw [if_pos rfl] at hfile
  rw [run, hsink]
  dsimp only
  rw [EventSink.at?_foldl_record round.events hfile, hopened]
  by_cases hsame : other = place
  · rw [if_pos hsame, if_pos hsame]
  · rw [if_neg hsame, if_neg hsame, if_neg hsame]

theorem home_run (files : Files) (round : LogRound) : (run files round).home = files.home := by
  rw [run]
  split
  · rfl
  · next sink opened hmade =>
    rw [EventSink.home_foldl_record]
    obtain ⟨_, _, -, hopened⟩ | ⟨-, rfl⟩ := EventSink.ofProperties_cases hmade
    · exact Files.home_opened hopened
    · rfl

theorem appendable_of_sink? (h : round.sink? files = some (.file place)) : Files.Appendable (files.at? place) := by
  obtain ⟨⟨_, opened⟩, hmade, rfl⟩ := Option.map_eq_some_iff.mp h
  obtain ⟨path, hopen⟩ := EventSink.openToAppend_of_ofProperties (ok_of_toOption hmade)
  exact (Files.openToAppend_eq_ok hopen).1

theorem opensAlike_run (h : files.OpensAlike now) (round : LogRound) : files.OpensAlike (run now round) := by
  by_cases hfile : ∃ place, round.sink? now = some (.file place)
  · obtain ⟨place, hfile⟩ := hfile
    exact h.changed (home_run now round) (appendable_of_sink? hfile) (at?_run hfile)
  · rw [run_of_no_file fun place hplace => hfile ⟨place, hplace⟩]
    exact h

/-- One round adds the lines of the events that it logs to the one file there is for them. -/
theorem contentAt_run (hplace : ∀ other, round.sink? files = some (.file other) → other = place) :
    (run files round).contentAt place =
        files.contentAt place ++ (round.logged files).flatMap (fun e => Bytes.ofText e.line) ∧
      ∀ other, other ≠ place → (run files round).at? other = files.at? other := by
  rw [logged]
  split
  · next found hfound =>
    cases hplace found hfound
    have hat := at?_run hfound
    refine ⟨?_, fun other hother => by rw [hat, if_neg hother]⟩
    rw [Files.contentAt, hat, if_pos rfl]
  · next hnone =>
    rw [run_of_no_file hnone]
    exact ⟨(List.append_nil _).symm, fun other hother => rfl⟩

theorem runAll_spec (h : files.OpensAlike now) {rounds : List LogRound}
    (hplace : ∀ round ∈ rounds, ∀ other, round.sink? files = some (.file other) → other = place) :
    (runAll now rounds).contentAt place =
        now.contentAt place ++ (allLogged now rounds).flatMap (fun e => Bytes.ofText e.line) ∧
      (∀ other, other ≠ place → (runAll now rounds).at? other = now.at? other) ∧
      files.OpensAlike (runAll now rounds) := by
  -- on the rounds; a later round makes the sink that it would have made at first
  induction rounds generalizing now with
  | nil =>
    rw [runAll_nil]
    exact ⟨(List.append_nil _).symm, fun other hother => rfl, h⟩
  | cons round later ih =>
    have hhere : ∀ other, round.sink? now = some (.file other) → other = place := by
      rw [sink?_same h]
      exact hplace round List.mem_cons_self
    obtain ⟨hcontent, hothers⟩ := contentAt_run hhere
    obtain ⟨hlater, hrest, halike⟩ := ih (opensAlike_run h round)
      fun next hnext => hplace next (List.mem_cons_of_mem _ hnext)
    rw [runAll_cons]
    refine ⟨?_, fun other hother => (hrest other hother).trans (hothers other hother), halike⟩
    rw [hlater, hcontent, allLogged, List.flatMap_append, List.append_assoc]

theorem lines_flatMap_line (events : List LifecycleEvent) :
    Bytes.lines (events.flatMap fun e => Bytes.ofText e.line) = events.map fun e => Bytes.ofText e.text := by
  induction events with
  | nil => rfl
  | cons e later ih =>
    rw [List.flatMap_cons, LifecycleEvent.ofText_line, List.append_assoc, List.singleton_append,
      Bytes.lines_line e.tells_text.oneLine, ih, List.map_cons]

/-- Whatever rounds there are, as long as all file sinks lead to one place with whole lines, that file grows by one
line for each event logged, in order, and each of these lines tells its event. Nothing else changes, and a round
without a file sink changes nothing at all. -/
theorem event_log_faithful {files : Files} {place : Place} {rounds : List LogRound}
    (hplace : ∀ round ∈ rounds, ∀ other, round.sink? files = some (.file other) → other = place)
    (hwhole : Bytes.Whole (files.contentAt place)) :
    let events := allLogged files rounds
    let log := (runAll files rounds).contentAt place
    log = files.contentAt place ++ events.flatMap (fun e => Bytes.ofText e.line) ∧
      log.lines = (files.contentAt place).lines ++ events.map (fun e => Bytes.ofText e.text) ∧
      (∀ e ∈ events, e.Tells (Bytes.ofText e.text)) ∧
      (∀ other, other ≠ place → (runAll files rounds).at? other = files.at? other) ∧
      ∀ before round later, rounds = before ++ round :: later →
        round.sink? (runAll files before) = round.sink? files ∧
          ((∀ other, round.sink? files ≠ some (.file other)) →
            runAll files (before ++ [round]) = runAll files before) := by
  intro events log
  have hsame := Files.OpensAlike.refl files
  obtain ⟨hcontent, hothers, -⟩ := runAll_spec hsame hplace
  refine ⟨hcontent, ?_, fun e _ => e.tells_text, hothers, ?_⟩
  · show Bytes.lines ((runAll files rounds).contentAt place) = _
    rw [hcontent, Bytes.lines_append hwhole, lines_flatMap_line]
  · intro before round later hrounds
    have hbefore : ∀ round ∈ before, ∀ other, round.sink? files = some (.file other) → other = place :=
      fun earlier hearlier => hplace earlier (by rw [hrounds]; exact List.mem_append_left _ hearlier)
    have hsink := sink?_same (runAll_spec hsame hbefore).2.2 round
    refine ⟨hsink, fun hnone => ?_⟩
    rw [← hsink] at hnone
    rw [runAll_append, runAll_cons, run_of_no_file hnone, runAll_nil]

def logProperties (sink path : String) : Properties :=
  (Properties.empty.insert EventSink.sinkKey sink).insert EventSink.pathKey path

def hardEvent : LifecycleEvent where
  name := "say \"no\"\n\\ \x01\t\r é 𝄞"
  timestamp := 340282366920938463463374607431768211455
  mode := .test
  serverUrl := some "\n"

def plainEvent : LifecycleEvent where
  name := "stopped"
  timestamp := 0
  mode := .prod
  detail := some ""

/-- Two rounds log to one file; between them one fails, one discards, and one has no place to log to. -/
def hardRounds : List LogRound :=
  [⟨logProperties " file " "log", [hardEvent, plainEvent]⟩, ⟨logProperties "syslog" "log", [plainEvent]⟩,
    ⟨logProperties "none" "log", [plainEvent]⟩, ⟨logProperties "file" "log/x", [plainEvent]⟩,
    ⟨logProperties "file" "./log", [hardEvent]⟩]

theorem event_log_faithful_hardRounds :
    let place : Place := [Bytes.ofText "log"]
    (∀ round ∈ hardRounds, ∀ other, round.sink? {} = some (.file other) → other = place) ∧
      Bytes.Whole (Files.contentAt {} place) ∧
      ((runAll {} hardRounds).contentAt place).lines =
        [hardEvent, plainEvent, hardEvent].map (fun e => Bytes.ofText e.text) := by
  intro place
  have hsinks : hardRounds.map (·.sink? {}) =
      [some (.file place), none, some .discard, none, some (.file place)] := by decide +kernel
  have hplace : ∀ round ∈ hardRounds, ∀ other, round.sink? {} = some (.file other) → other = place := by
    intro round hround other hfile
    have hmem : round.sink? {} ∈ hardRounds.map (·.sink? {}) := List.mem_map_of_mem hround
    rw [hsinks, hfile] at hmem
    simpa using hmem
  have hwhole : Bytes.Whole (Files.contentAt {} place) := .inl rfl
  have hlogged : allLogged {} hardRounds = [hardEvent, plainEvent, hardEvent] := by decide +kernel
  have hnothing : Bytes.lines (Files.contentAt {} place) = [] := rfl
  obtain ⟨-, hlines, -⟩ := event_log_faithful hplace hwhole
  rw [hlogged, hnothing, List.nil_append] at hlines
  exact ⟨hplace, hwhole, hlines⟩

end LogRound

end AppServer
