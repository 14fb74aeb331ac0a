/-!
# Computations that may fail, one after another

A sequence succeeds when both of its parts do, and fails as the first part that
fails.
-/

namespace AppServer

variable {ε δ α β : Type}

theorem bind_eq_ok_iff {x : Except ε α} {f : α → Except ε β} {b : β} :
    (x >>= f) = .ok b ↔ ∃ a, x = .ok a ∧ f a = .ok b := by
  cases x with
  | error e =>
    constructor
    · exact fun h => nomatch h
    · rintro ⟨_, h, -⟩
      cases h
  | ok a =>
    constructor
    · exact fun h => ⟨a, rfl, h⟩
    · rintro ⟨_, ⟨⟩, h⟩
      exact h

theorem bind_eq_error_iff {x : Except ε α} {f : α → Except ε β} {e : ε} :
    (x >>= f) = .error e ↔ x = .error e ∨ ∃ a, x = .ok a ∧ f a = .error e := by
  cases x with
  | error d =>
    constructor
    · exact fun h => .inl (by cases h; rfl)
    · rintro (⟨⟨⟩⟩ | ⟨_, h, -⟩)
      · rfl
      · cases h
  | ok a =>
    constructor
    · exact fun h => .inr ⟨a, rfl, h⟩
    · rintro (⟨⟨⟩⟩ | ⟨_, ⟨⟩, h⟩)
      exact h

theorem bind_mapError_congr {g : ε → δ} {x y : Except ε α} {f h : α → Except ε β}
    (hxy : x.mapError g = y.mapError g) (hfh : ∀ a, (f a).mapError g = (h a).mapError g) :
    (x >>= f).mapError g = (y >>= h).mapError g := by
  cases x with
  | error d =>
    cases y with
    | error e => exact congrArg Except.error (Except.error.inj hxy)
    | ok b => cases hxy
  | ok a =>
    cases y with
    | error e => cases hxy
    | ok b =>
      cases hxy
      exact hfh a

theorem mem_of_mapM {f : α → Option β} {xs : List α} {ys : List β} (h : xs.mapM f = some ys) :
    (∀ x ∈ xs, ∃ y ∈ ys, f x = some y) ∧ ∀ y ∈ ys, ∃ x ∈ xs, f x = some y := by
  induction xs generalizing ys with
  | nil =>
    cases h
    exact ⟨fun x hx => absurd hx List.not_mem_nil, fun y hy => absurd hy List.not_mem_nil⟩
  | cons x rest ih =>
    rw [List.mapM_cons, Option.bind_eq_bind, Option.bind_eq_some_iff] at h
    obtain ⟨y, hy, h⟩ := h
    obtain ⟨others, hothers, h⟩ := Option.bind_eq_some_iff.mp h
    cases h
    obtain ⟨hmade, hmakes⟩ := ih hothers
    constructor
    · rintro a (_ | ⟨_, ha⟩)
      · exact ⟨y, List.mem_cons_self, hy⟩
      · obtain ⟨b, hb, hab⟩ := hmade a ha
        exact ⟨b, List.mem_cons_of_mem _ hb, hab⟩
    · rintro b (_ | ⟨_, hb⟩)
      · exact ⟨x, List.mem_cons_self, hy⟩
      · obtain ⟨a, ha, hab⟩ := hmakes b hb
        exact ⟨a, List.mem_cons_of_mem _ ha, hab⟩

theorem mapM_eq_some_map {f : α → Option β} {g : α → β} {xs : List α} (h : ∀ x ∈ xs, f x = some (g x)) :
    xs.mapM f = some (xs.map g) := by
  induction xs with
  | nil => rfl
  | cons x rest ih =>
    have hrest : rest.mapM f = some (rest.map g) := ih fun y hy => h y (List.mem_cons_of_mem _ hy)
    rw [List.mapM_cons, h x List.mem_cons_self, hrest]
    rfl

theorem map_mapM {γ : Type} (f : α → Option β) (g : β → γ) (xs : List α) :
    (xs.mapM f).map (List.map g) = xs.mapM fun x => (f x).map g := by
  induction xs with
  | nil => rfl
  | cons x rest ih =>
    rw [List.mapM_cons, List.mapM_cons, ← ih]
    cases f x with
    | none => rfl
    | some y =>
      cases rest.mapM f with
      | none => rfl
      | some ys => rfl

theorem mapM_map {γ : Type} (g : α → β) (f : β → Option γ) (xs : List α) :
    (xs.map g).mapM f = xs.mapM (f ∘ g) := by
  induction xs with
  | nil => rfl
  | cons x rest ih =>
    rw [List.map_cons, List.mapM_cons, List.mapM_cons, ih]
    rfl

theorem ok_of_toOption {result : Except ε α} {a : α} (h : result.toOption = some a) : result = .ok a := by
  cases result with
  | error e => cases h
  | ok b => exact congrArg Except.ok (Option.some.inj h)

/-! ### Two computations -/

theorem rel_of_map_eq {f : α → β} {x y : Option α} (h : x.map f = y.map f) :
    Option.Rel (fun a b => f a = f b) x y := by
  cases x with
  | none =>
    cases y with
    | none => exact .none
    | some b => cases h
  | some a =>
    cases y with
    | none => cases h
    | some b => exact .some (Option.some.inj h)

/-- Two computations succeed with results that are related, or fail with the same error. -/
inductive Alike (related : α → β → Prop) : Except ε α → Except ε β → Prop
  | ok {a : α} {b : β} (h : related a b) : Alike related (.ok a) (.ok b)
  | error (e : ε) : Alike related (.error e) (.error e)

theorem rel_mono {related other : α → β → Prop} (h : ∀ a b, related a b → other a b) {x : Option α} {y : Option β}
    (hrel : Option.Rel related x y) : Option.Rel other x y := by
  cases hrel with
  | none => exact .none
  | some hab => exact .some (h _ _ hab)

theorem alike_refl (x : Except ε α) : Alike (· = ·) x x := by
  cases x with
  | error e => exact .error e
  | ok a => exact .ok rfl

/-- What is related are the results of these very computations. -/
theorem Alike.attach {related : α → β → Prop} {x : Except ε α} {y : Except ε β} (h : Alike related x y) :
    Alike (fun a b => x = .ok a ∧ y = .ok b ∧ related a b) x y := by
  cases h with
  | ok hab => exact .ok ⟨rfl, rfl, hab⟩
  | error e => exact .error e

theorem Alike.mapError {related : α → β → Prop} {x : Except ε α} {y : Except ε β} {g : ε → δ}
    (h : Alike related x y) : Alike related (x.mapError g) (y.mapError g) := by
  cases h with
  | ok hab => exact .ok hab
  | error e => exact .error (g e)

theorem Alike.bind {α' β' : Type} {related : α → β → Prop} {related' : α' → β' → Prop} {x : Except ε α}
    {y : Except ε β} {f : α → Except ε α'} {g : β → Except ε β'} (h : Alike related x y)
    (hnext : ∀ a b, related a b → Alike related' (f a) (g b)) : Alike related' (x >>= f) (y >>= g) := by
  cases h with
  | ok hab => exact hnext _ _ hab
  | error e => exact .error e

end AppServer
