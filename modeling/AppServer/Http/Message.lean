import AppServer.Text.Bytes

/-!
# Requests and responses

The parts of an HTTP exchange that a server looks at. Header names are compared
without regard to case; a header value is readable when all its bytes are
visible ASCII, a space or a tab.
-/

namespace AppServer.Http

/-! ### Headers -/

abbrev Header := String × Bytes

abbrev Headers := List Header

def lowerName (name : String) : String := String.ofList (name.toList.map Char.toLower)

def Headers.all (headers : Headers) (name : String) : List Bytes :=
  (headers.filter fun header => lowerName header.1 = lowerName name).map (·.2)

def Headers.first? (headers : Headers) (name : String) : Option Bytes := (headers.all name).head?

def isReadableByte (b : UInt8) : Bool := (32 ≤ b && b < 127) || b = 9

def readable? (value : Bytes) : Option String :=
  if value.all isReadableByte then some (String.ofList (value.map fun b => Char.ofNat b.toNat))
  else none

/-- The text of the first header of a name, if there is one and it is readable. -/
def Headers.text? (headers : Headers) (name : String) : Option String :=
  (headers.first? name).bind readable?

def isValueByte (b : UInt8) : Bool := (32 ≤ b && b ≠ 127) || b = 9

def headerValue? (text : String) : Option Bytes :=
  let bytes := Bytes.ofText text
  if bytes.all isValueByte then some bytes else none

/-! ### Messages -/

/-- What stands in front of the path of a target that names a place. -/
structure Origin where
  scheme : Option String
  authority : String
deriving DecidableEq, Repr

structure Target where
  /-- Scheme and authority, if the target names them. -/
  origin : Option Origin := none
  path : String
  query : Option String := none
deriving DecidableEq, Repr

def Target.ofText (text : String) : Target :=
  let path := text.toList.takeWhile (· ≠ '?')
  match text.toList.drop path.length with
  | [] => ⟨none, text, none⟩
  | _ :: query => ⟨none, String.ofList path, some (String.ofList query)⟩

structure Request where
  method : String
  target : Target := ⟨none, "/", none⟩
  headers : Headers := []
  body : Bytes := []
deriving DecidableEq, Repr

structure Response where
  status : Nat
  headers : Headers := []
  body : Bytes := []
deriving DecidableEq, Repr

def Response.ofText (status : Nat) (text : String) : Response :=
  ⟨status, [("content-type", Bytes.ofText "text/plain; charset=utf-8")], Bytes.ofText text⟩

def Response.addHeader (r : Response) (name : String) (value : Bytes) : Response :=
  { r with headers := r.headers ++ [(name, value)] }

/-- The response as it is sent: to a `HEAD` request without its body. -/
def Response.sentTo (r : Response) (method : String) : Response :=
  if method = "HEAD" then { r with body := [] } else r

end AppServer.Http
