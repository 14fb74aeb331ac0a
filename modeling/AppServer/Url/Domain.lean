import AppServer.Url.Domain.Joining
import AppServer.Url.Domain.Mapping
import AppServer.Url.Punycode

/-!
# Domain names

A domain name may hold characters beyond ASCII. Its characters are mapped, the
text is composed, and every label is checked; a label that is not plain is then
written in Punycode behind a mark. A label that has that mark already must be
what writing its text would use.
-/

namespace AppServer.Url.Domain

def isForbidden (c : Char) : Bool :=
  c.toNat ≤ 0x20 || (0x7F ≤ c.toNat && c.toNat < 0xA0) || c = '\uFFFD' ||
    c ∈ ['%', '#', '/', ':', '<', '>', '?', '@', '[', '\\', ']', '^', '|']

def isPlain (cs : List Char) : Bool := cs.all fun c => c.toNat < 0x80

/-! ### Labels -/

def mark : List Char := ['x', 'n', '-', '-']

structure Label where
  text : List Char
  written : List Char

/-- Whether mapping and composing leave a text as it is. -/
def isSettled (cs : List Char) : Bool :=
  cs.all (fun c => Mapping.ofChar c = .kept) && composed cs = cs

def longestText : Nat := 1000

/-- The greatest length of what stands behind a mark. -/
def longestCode : Nat := 2000

def Label.ofText? (cs : List Char) : Option Label :=
  if isPlain cs then some ⟨cs, cs⟩
  else if longestText < cs.length then none
  else some ⟨cs, mark ++ Punycode.encode cs⟩

/-- The label that mapped and composed text writes. Behind a mark a text stands that needs it. -/
def Label.read? (cs : List Char) : Option Label :=
  match Text.dropStart? mark cs with
  | none => Label.ofText? cs
  | some code => do
    let text ← if code.getLast? = some '-' ∨ longestCode < code.length then none else Punycode.decode? code
    if isPlain text ∨ !isSettled text then none else some ⟨text, cs⟩

/-- Whether a label may stand in a name: it holds no forbidden character, it does not start with a mark of
the character in front of it, and its joiners mean something. -/
def Label.isSound (label : Label) : Bool :=
  !label.text.any isForbidden && !label.text.head?.any isMark && joinersAllowed [] label.text

/-! ### Names -/

def labels? (cs : List Char) : Option (List Label) := do
  let text ← mapText? cs
  let labels ← (Text.cutAll '.' (composed text)).mapM Label.read?
  if labels.all Label.isSound && labelsMayMix (labels.map Label.text) then some labels else none

def ascii? (cs : List Char) : Option (List Char) :=
  (labels? cs).map fun labels => ['.'].intercalate (labels.map Label.written)

end AppServer.Url.Domain
