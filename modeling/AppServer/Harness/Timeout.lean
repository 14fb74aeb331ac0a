import AppServer.Text.Blank
import AppServer.Text.Number

/-!
# Timeouts

The timeout of a client. The environment can raise it, never lower it: the
variable holds a positive whole number of seconds, and the longer of the two
counts.
-/

namespace AppServer.Harness

def nanosPerSecond : Nat := 1000000000

structure Duration where
  seconds : Nat
  nanos : Nat
deriving DecidableEq, Repr

def Duration.ofParts (seconds nanos : Nat) : Duration :=
  ⟨seconds + nanos / nanosPerSecond, nanos % nanosPerSecond⟩

def Duration.total (d : Duration) : Nat := d.seconds * nanosPerSecond + d.nanos

def Duration.longer (a b : Duration) : Duration := if a.total ≤ b.total then b else a

inductive TimeoutError where
  | notANumber
  | zero
deriving DecidableEq, Repr

def timeoutEnvVar : String := "TRELLIS_TEST_TIMEOUT_SEC"

def TimeoutError.message : TimeoutError → String
  | .notANumber => timeoutEnvVar ++ " must be a positive integer number of seconds"
  | .zero => timeoutEnvVar ++ " must be greater than zero"

def defaultTimeout : Duration := ⟨30, 0⟩

def maxSeconds : Nat := Nat.pow 2 64 - 1

def readSeconds (raw : String) : Except TimeoutError Nat :=
  match Text.readUnsigned maxSeconds (Text.trim raw) with
  | none => .error .notANumber
  | some 0 => .error .zero
  | some seconds => .ok seconds

/-- The timeout that counts for a requested one; `env` is the text of the variable. -/
def resolveTimeout (requested : Duration) (env : Option String) : Except TimeoutError Duration :=
  match env with
  | none => .ok requested
  | some raw => (readSeconds raw).map fun seconds => requested.longer ⟨seconds, 0⟩

end AppServer.Harness
