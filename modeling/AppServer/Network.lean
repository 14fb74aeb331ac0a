import AppServer.Url.Host

/-!
# The network of a machine

What a server needs to know of the machine's network: which addresses can be
listened on, which ports are taken, and which port is given when any will do.
-/

namespace AppServer

structure Network where
  /-- The ports that are taken on the loopback address. -/
  taken : List Nat := []
  /-- The next port that is given when any port will do. -/
  nextFree : Nat
  connects : Bool := true
deriving DecidableEq, Repr

inductive BindError where
  | addressInUse
  | notAvailable
  | unknownHost
deriving DecidableEq, Repr

def BindError.message : BindError → String
  | .addressInUse => "Address already in use (os error 98)"
  | .notAvailable => "Cannot assign requested address (os error 99)"
  | .unknownHost => "failed to lookup address information: Temporary failure in name resolution"

namespace Network

def loopback : String := "127.0.0.1"

def isFree (n : Network) (port : Nat) : Bool := port = 0 || !n.taken.contains port

/-- The smallest port with `low ≤ port < high` that is free. -/
def firstFree? (n : Network) (low high : Nat) : Option Nat :=
  (List.range' low (high - low)).find? n.isFree

def knowsHost (host : String) : Bool :=
  let cs := host.toList.map Char.toLower
  cs = "localhost".toList || (cs.getLast? ≠ some '.' && (Url.readAddress? cs).isSome) ||
    Ipv6.isLiteral host

def hasHost (host : String) : Bool :=
  match Ipv6.parse? host with
  | some groups => groups = List.replicate 8 0 || groups = List.replicate 7 0 ++ [1]
  | none => true

/-- Takes a port of a host: the port, any free one for zero, and the network afterwards. -/
def bind (n : Network) (host : String) (port : Nat) : Except BindError (Nat × Network) :=
  if !knowsHost host then .error .unknownHost
  else if !hasHost host then .error .notAvailable
  else if port = 0 then
    .ok (n.nextFree, { n with taken := n.nextFree :: n.taken, nextFree := n.nextFree + 1 })
  else if n.isFree port then .ok (port, { n with taken := port :: n.taken })
  else .error .addressInUse

def release (n : Network) (port : Nat) : Network := { n with taken := n.taken.erase port }

end Network

end AppServer
