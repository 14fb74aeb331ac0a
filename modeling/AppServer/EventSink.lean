import AppServer.Config.Properties
import AppServer.Event

/-!
# Sinks of events

Where events are recorded: on the error stream, in a file that grows line by
line, or nowhere. The properties of an application choose the sink.
-/

namespace AppServer

inductive EventSink where
  | errorStream
  | file (place : Place)
  | discard
deriving DecidableEq

namespace EventSink

def sinkKey : String := "application.events.sink"

def pathKey : String := "application.events.path"

/-- The sink that properties choose; a file is made if it is missing. -/
def ofProperties (files : Files) (p : Properties) : Except ConfigError (EventSink × Files) :=
  let choice := Text.trim (p.getD sinkKey "stderr")
  if choice = "stderr" then .ok (.errorStream, files)
  else if choice = "none" then .ok (.discard, files)
  else if choice = "file" then do
    let path ← p.require pathKey
    match files.openToAppend path with
    | .ok (place, files) => .ok (.file place, files)
    | .error cause => .error (.unreadable path cause)
  else .error (.unknownSink sinkKey choice)

def record (sink : EventSink) (files : Files) (e : LifecycleEvent) : Files :=
  match sink with
  | .file place => files.append place (Bytes.ofText e.line)
  | _ => files

end EventSink

end AppServer
