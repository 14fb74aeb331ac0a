import Std.Data.TreeMap
import AppServer.Config.Error
import AppServer.Config.Flatten
import AppServer.Mode
import AppServer.Text.Number
import AppServer.Toml.Document

/-!
# Properties

The configuration of an application: texts under dot-separated keys. Documents,
single settings and overrides are written over what is there. A write that
fails has changed nothing before its first fault: a document that does not
parse changes nothing, one with a list keeps the leaves before the list, and
overrides keep the pairs before the first malformed key.
-/

namespace AppServer

/-- Texts under dot-separated keys, in the order of the keys. -/
structure Properties where
  values : Std.TreeMap String String

namespace Properties

def empty : Properties := ⟨{}⟩

instance : Inhabited Properties := ⟨empty⟩

def toList (p : Properties) : List (String × String) := p.values.toList

def get? (p : Properties) (key : String) : Option String := p.values[key]?

theorem get?_empty (key : String) : empty.get? key = none := Std.TreeMap.getElem?_emptyc

def insert (p : Properties) (key value : String) : Properties := ⟨p.values.insert key value⟩

theorem get?_insert (p : Properties) (key value other : String) :
    (p.insert key value).get? other = if key = other then some value else p.get? other := by
  simp [get?, insert, Std.TreeMap.getElem?_insert, Std.LawfulEqCmp.compare_eq_iff_eq]

theorem get?_insert_self (p : Properties) (key value : String) : (p.insert key value).get? key = some value := by
  rw [get?_insert, if_pos rfl]

theorem get?_insert_of_ne (p : Properties) {key other : String} (h : key ≠ other) (value : String) :
    (p.insert key value).get? other = p.get? other := by
  rw [get?_insert, if_neg h]

def overlay (p : Properties) (pairs : List (String × String)) : Properties :=
  pairs.foldl (fun held pair => held.insert pair.1 pair.2) p

theorem overlay_cons (p : Properties) (pair : String × String) (rest : List (String × String)) :
    p.overlay (pair :: rest) = (p.insert pair.1 pair.2).overlay rest := rfl

theorem overlay_append (p : Properties) (a b : List (String × String)) :
    p.overlay (a ++ b) = (p.overlay a).overlay b := by
  simp [overlay]

def size (p : Properties) : Nat := p.values.size

def same (p q : Properties) : Bool := p.toList = q.toList

/-! ### Keys -/

def maxKeyBytes : Nat := 256

/-- A segment of a key is acceptable: it is not empty and has no blank. -/
def isSegment (segment : List Char) : Bool := segment ≠ [] && segment.all fun c => !Text.isBlank c

def checkKey (key : String) : Except ConfigError Unit :=
  if key = "" ∨ maxKeyBytes < key.utf8ByteSize then .error .keyLength
  else if (Text.cutAll '.' key.toList).all isSegment then .ok ()
  else .error (.malformedKey key)

/-! ### Writing -/

def set (p : Properties) (key value : String) : Except ConfigError Properties := do
  checkKey key
  .ok (p.insert key value)

/-- Applies pairs in turn, up to the first malformed key: the properties after that, and the fault. -/
def applyOverrides (p : Properties) : List (String × String) → Properties × Except ConfigError Unit
  | [] => (p, .ok ())
  | (key, value) :: rest =>
    match checkKey key with
    | .error e => (p, .error e)
    | .ok () => (p.insert key value).applyOverrides rest

/-- Merges a document: the properties after that, and the fault if there is one. -/
def mergeToml (p : Properties) (document : String) : Properties × Except ConfigError Unit :=
  match Toml.Table.parse? document with
  | none => (p, .error .unparsable)
  | some table =>
    let flat := table.flatten
    (p.overlay flat.leaves,
      match flat.arrayAt with
      | none => .ok ()
      | some path => .error (.arrayAt path))

/-! ### Reading -/

def getD (p : Properties) (key default : String) : String := (p.get? key).getD default

def require (p : Properties) (key : String) : Except ConfigError String :=
  match p.get? key with
  | some value => .ok value
  | none => .error (.required key)

def readBool? (s : String) : Option Bool :=
  let token := Text.trim s
  if token = "true" then some true else if token = "false" then some false else none

def getBool (p : Properties) (key : String) : Except ConfigError (Option Bool) :=
  match p.get? key with
  | none => .ok none
  | some raw => match readBool? raw with
    | some b => .ok (some b)
    | none => .error (.notBoolean key)

def maxPort : Nat := 65535

def getPort (p : Properties) (key : String) : Except ConfigError (Option Nat) :=
  match p.get? key with
  | none => .ok none
  | some raw => match Text.readUnsigned maxPort (Text.trim raw) with
    | some n => .ok (some n)
    | none => .error (.notPort key)

end Properties

end AppServer
