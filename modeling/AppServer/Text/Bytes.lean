/-!
# Bytes and text

Byte strings and their reading as UTF-8 text. The strict reading refuses any
malformed sequence; the lenient one puts U+FFFD for each maximal malformed run.
-/

namespace AppServer

abbrev Bytes := List UInt8

namespace Bytes

def ofText (s : String) : Bytes := s.toUTF8.data.toList

def toText? (bytes : Bytes) : Option String := String.fromUTF8? ⟨bytes.toArray⟩

theorem toText?_ofText (s : String) : toText? (ofText s) = some s := by
  have h : (⟨(ofText s).toArray⟩ : ByteArray) = s.toByteArray := by simp [ofText]
  rw [toText?, h, String.fromUTF8?, dif_pos s.isValidUTF8]
  rfl

/-! ### Lenient reading -/

/-- A character whose later bytes are awaited. -/
structure Partial where
  value : Nat
  due : Nat
  /-- The least admissible next byte. -/
  low : UInt8
  /-- The greatest admissible next byte. -/
  high : UInt8

def replacement : Char := '\uFFFD'

/-- What a byte at the start of a character yields at once, and what it leaves open. -/
def begin (b : UInt8) : List Char × Option Partial :=
  if b < 0x80 then ([Char.ofNat b.toNat], none)
  else if b < 0xC2 then ([replacement], none)
  else if b < 0xE0 then ([], some ⟨b.toNat - 0xC0, 1, 0x80, 0xBF⟩)
  else if b < 0xF0 then
    ([], some ⟨b.toNat - 0xE0, 2, if b = 0xE0 then 0xA0 else 0x80, if b = 0xED then 0x9F else 0xBF⟩)
  else if b < 0xF5 then
    ([], some ⟨b.toNat - 0xF0, 3, if b = 0xF0 then 0x90 else 0x80, if b = 0xF4 then 0x8F else 0xBF⟩)
  else ([replacement], none)

/-- The characters of the bytes that follow an unfinished character, or a finished one. -/
def lenient : Option Partial → Bytes → List Char
  | none, [] => []
  | some _, [] => [replacement]
  | none, b :: rest => (begin b).1 ++ lenient (begin b).2 rest
  | some p, b :: rest =>
    if p.low ≤ b ∧ b ≤ p.high then
      let value := 64 * p.value + (b.toNat - 0x80)
      if p.due = 1 then Char.ofNat value :: lenient none rest
      else lenient (some ⟨value, p.due - 1, 0x80, 0xBF⟩) rest
    else replacement :: (begin b).1 ++ lenient (begin b).2 rest

def toTextLenient (bytes : Bytes) : String := String.ofList (lenient none bytes)

end Bytes

end AppServer
