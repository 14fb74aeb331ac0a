import AppServer.Json.Reader
import AppServer.Json.Writer
import AppServer.Mode

/-!
# Lifecycle events

What happens to a server is recorded as events, each written as one line of
JSON. A field that an event does not have is left out.
-/

namespace AppServer

structure LifecycleEvent where
  name : String
  /-- When, in milliseconds since 1970. -/
  timestamp : Nat
  mode : Mode
  serverUrl : Option String := none
  detail : Option String := none
deriving DecidableEq, Repr

namespace LifecycleEvent

def optionalFields (e : LifecycleEvent) : List (String × String) :=
  (e.serverUrl.map fun url => ("server_url", url)).toList ++
    (e.detail.map fun detail => ("detail", detail)).toList

def text (e : LifecycleEvent) : String :=
  "\x7b\"event\":" ++ Json.quote e.name ++ ",\"timestamp_ms\":" ++ Text.decimal e.timestamp ++
    ",\"mode\":" ++ Json.quote e.mode.token ++
    String.join (e.optionalFields.map fun field => "," ++ Json.quote field.1 ++ ":" ++
      Json.quote field.2) ++ "\x7d"

def line (e : LifecycleEvent) : String := e.text ++ "\n"

/-- The lines of a log; the one that is empty behind the last line break is none. -/
def logLines (content : String) : List String :=
  let lines := (Text.cutAll '\n' content.toList).map String.ofList
  if lines.getLast? = some "" then lines.dropLast else lines

def textField? (value : Json) (name : String) : Option (Option String) :=
  match value.field? name with
  | none => some none
  | some (.string s) => some (some s)
  | some _ => none

def ofText? (s : String) : Option LifecycleEvent := do
  let value ← Json.readExact? s
  match value.field? "event", value.field? "timestamp_ms", value.field? "mode" with
  | some (.string name), some (.number (.integer time)), some (.string mode) =>
    if 0 ≤ time then
      some ⟨name, time.toNat, ← Mode.ofToken? mode, ← textField? value "server_url",
        ← textField? value "detail"⟩
    else none
  | _, _, _ => none

end LifecycleEvent

end AppServer
