import AppServer.Json.Reader
import AppServer.Text.Cut

/-!
# Ranges of code points

The characters with a property, as the ranges of their code points. Tables hold
them as lines of text: the ends of each range in hexadecimal digits, or a code
point that stands alone, with blanks in between.
-/

namespace AppServer.Url.Domain

def readHex (cs : List Char) : Nat := cs.foldl (fun n c => 16 * n + (Json.hexValue c).getD 0) 0

def readRange (cs : List Char) : Nat × Nat :=
  match Text.cutFirst '-' cs with
  | some (first, last) => (readHex first, readHex last)
  | none => (readHex cs, readHex cs)

def words (line : String) : List (List Char) := Text.cutAll ' ' line.toList

/-- Ranges of code points, both ends included. -/
structure Ranges where
  ends : List (Nat × Nat)

namespace Ranges

def ofLines (lines : List String) : Ranges := ⟨(lines.flatMap words).map readRange⟩

def has (ranges : Ranges) (c : Char) : Bool :=
  ranges.ends.any fun range => range.1 ≤ c.toNat && c.toNat ≤ range.2

end Ranges

end AppServer.Url.Domain
