import Mathlib.Data.List.Basic
import Mathlib.Data.List.Induction

/-!
# What stands at the end of a row

In a row of acts, what one of them has done stands as long as none behind it
undoes it. At the end of a row this is for the last act to say, or else for the
acts before it.
-/

namespace AppServer

/-- Some member of a row does one thing, and none behind it does the other. -/
def Stands (does undoes : α → Prop) (row : List α) : Prop :=
  ∃ before x after, row = before ++ x :: after ∧ does x ∧ ∀ y ∈ after, ¬undoes y

variable {does undoes : α → Prop} {row : List α} {x : α}

theorem not_stands_nil : ¬Stands does undoes [] := by
  rintro ⟨before, x, after, hrow, -⟩
  exact absurd hrow.symm (List.append_ne_nil_of_right_ne_nil before (List.cons_ne_nil x after))

theorem stands_append_singleton_iff :
    Stands does undoes (row ++ [x]) ↔ does x ∨ ¬undoes x ∧ Stands does undoes row := by
  constructor
  · rintro ⟨before, y, after, hrow, hy, hafter⟩
    -- what has been done is done by the last member, or stands before it
    rcases List.eq_nil_or_concat' after with rfl | ⟨rest, z, rfl⟩
    · obtain ⟨-, heq⟩ := List.append_inj' hrow rfl
      cases heq
      exact .inl hy
    · rw [← List.cons_append, ← List.append_assoc] at hrow
      obtain ⟨hfront, heq⟩ := List.append_inj' hrow rfl
      cases heq
      rw [List.forall_mem_append, List.forall_mem_singleton] at hafter
      exact .inr ⟨hafter.2, before, y, rest, hfront, hy, hafter.1⟩
  · rintro (hx | ⟨hx, before, y, after, rfl, hy, hafter⟩)
    · exact ⟨row, x, [], rfl, hx, fun _ hmem => absurd hmem List.not_mem_nil⟩
    · refine ⟨before, y, after ++ [x], by rw [List.append_assoc, List.cons_append], hy, ?_⟩
      rw [List.forall_mem_append, List.forall_mem_singleton]
      exact ⟨hafter, hx⟩

/-- What a run from nothing holds is what stands at the end of its row. -/
theorem foldl_eq_some_iff_stands {β δ : Type} {act : β → α → β} (held : β → Option δ) {gives : δ → α → Prop}
    {settles : α → Prop} (hact : ∀ b x v, held (act b x) = some v ↔ gives v x ∨ ¬settles x ∧ held b = some v)
    {b : β} (hb : held b = none) (row : List α) (v : δ) :
    held (row.foldl act b) = some v ↔ Stands (gives v) settles row := by
  induction row using List.reverseRecOn with
  | nil =>
    rw [List.foldl_nil, hb]
    exact iff_of_false nofun not_stands_nil
  | append_singleton row x ih =>
    rw [List.foldl_append, List.foldl_cons, List.foldl_nil, hact, ih, stands_append_singleton_iff]

end AppServer
