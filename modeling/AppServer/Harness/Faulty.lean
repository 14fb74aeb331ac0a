import AppServer.Harness.Browser
import AppServer.Harness.Server

/-!
# Faulty servers

Kinds of servers that count how often they are shut down, and that can be made
to fail in the places where a test harness has to cope: at the start, when
asked for their addresses, and at the shutdown. A fault changes what is
reported and nothing that the server does, except that a refused start does not
take place.
-/

namespace AppServer.Harness

structure Counted (σ : Type) where
  world : σ
  shutdowns : Nat := 0

namespace Counted

variable {σ : Type}

def run (step : σ → α × σ) (c : Counted σ) : α × Counted σ :=
  let (outcome, world) := step c.world
  (outcome, { c with world := world })

def transport (inner : Transport σ) : Transport (Counted σ) := fun u request => run (inner u request)

end Counted

structure Faults where
  refusesStart : Bool := false
  hidesAddresses : Bool := false
  failsShutdown : Bool := false
deriving DecidableEq, Repr

def Faults.ofName? : String → Option Faults
  | "counting" => some {}
  | "refusing" => some { refusesStart := true }
  | "silent" => some { hidesAddresses := true }
  | "noisy" => some { failsShutdown := true }
  | "silent_noisy" => some { hidesAddresses := true, failsShutdown := true }
  | _ => none

namespace Standalone

variable {σ : Type}

/-- A kind of servers in a world that counts, not counted itself. -/
def uncounted (inner : Standalone σ) : Standalone (Counted σ) where
  create config c := { c with world := inner.create config c.world }
  start := Counted.run inner.start
  shutdown := Counted.run inner.shutdown
  drop c := { c with world := inner.drop c.world }
  injector c := inner.injector c.world
  serverUrls c := inner.serverUrls c.world
  baseUrls c := inner.baseUrls c.world
  port c := inner.port c.world
  mode c := inner.mode c.world

/-- A kind of servers with faults; each call of `shutdown` is counted, a `drop` is not. -/
def faulty (faults : Faults) (inner : Standalone σ) : Standalone (Counted σ) :=
  { uncounted inner with
    start := fun c =>
      if faults.refusesStart then (.error (.runtime "refused"), c) else Counted.run inner.start c
    shutdown := fun c =>
      let (outcome, c) := Counted.run inner.shutdown c
      (if faults.failsShutdown then .error (.serve "noisy shutdown") else outcome,
        { c with shutdowns := c.shutdowns + 1 })
    serverUrls := fun c => if faults.hidesAddresses then [] else inner.serverUrls c.world }

end Standalone

end AppServer.Harness
