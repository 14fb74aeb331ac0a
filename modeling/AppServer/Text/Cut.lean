/-!
# Cutting texts

Splitting at a separator, at its first occurrence or at every one, and the
removal of a fixed start or end.
-/

namespace AppServer.Text

def cutFirst (sep : Char) : List Char → Option (List Char × List Char)
  | [] => none
  | c :: rest =>
    if c = sep then some ([], rest)
    else (cutFirst sep rest).map fun parts => (c :: parts.1, parts.2)

theorem cutFirst_append {sep : Char} {before : List Char} (h : sep ∉ before) (after : List Char) :
    cutFirst sep (before ++ sep :: after) = some (before, after) := by
  induction before with
  | nil => simp [cutFirst]
  | cons c rest ih =>
    simp only [List.mem_cons, not_or] at h
    simp [cutFirst, ih h.2, Ne.symm h.1]

/-- The parts between separators; there is always at least one. -/
def cutAll (sep : Char) : List Char → List (List Char)
  | [] => [[]]
  | c :: rest =>
    if c = sep then [] :: cutAll sep rest
    else match cutAll sep rest with
      | [] => [[c]]
      | part :: parts => (c :: part) :: parts

theorem cutAll_ne_nil (sep : Char) (cs : List Char) : cutAll sep cs ≠ [] := by
  cases cs with
  | nil => simp [cutAll]
  | cons c rest =>
    simp only [cutAll]
    split
    · simp
    · split <;> simp

def dropStart? [BEq α] : List α → List α → Option (List α)
  | [], cs => some cs
  | _ :: _, [] => none
  | p :: ps, c :: cs => if p == c then dropStart? ps cs else none

def dropEnd? [BEq α] (tail cs : List α) : Option (List α) :=
  (dropStart? tail.reverse cs.reverse).map List.reverse

def join (sep : String) (parts : List String) : String := String.intercalate sep parts

end AppServer.Text
