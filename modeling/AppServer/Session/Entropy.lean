import AppServer.Text.Base64

/-!
# Random texts

A source of random bytes is a sequence of blocks of any length, drawn one after
the other. Tokens and session ids are blocks in URL-safe Base64.
-/

namespace AppServer

structure Entropy where
  /-- The bytes of each draw, given its number and its length. -/
  block : Nat → Nat → Bytes
  drawn : Nat := 0

namespace Entropy

def textAt (e : Entropy) (draw size : Nat) : String :=
  String.ofList (Text.Base64.encode (e.block draw size))

def draw (e : Entropy) (size : Nat) : String × Entropy :=
  (e.textAt e.drawn size, { e with drawn := e.drawn + 1 })

def tokenBytes : Nat := 16

def sessionIdBytes : Nat := 24

def token (e : Entropy) : String × Entropy := e.draw tokenBytes

def sessionId (e : Entropy) : String × Entropy := e.draw sessionIdBytes

end Entropy

end AppServer
