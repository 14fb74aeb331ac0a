import AppServer.Injector
import Mathlib.Data.Finset.Card

/-!
# What steps bind

Steps bind what they would if the modules among them were written out in place,
one binding after the other. A type that none of them binds is left alone. What
is held under a type is always of it, so an injector resolves a type to the last
instance that a step has bound to it, and to nothing only when no step has.
-/

namespace AppServer

namespace Bindings

theorem get?_bind_of_ne (b : Bindings α) {type other : TypeName} (h : type ≠ other) (service : Instance α) :
    (b.bind type service).get? other = b.get? other := by
  have hfilter (entries : List (TypeName × Binding α)) :
      (entries.filter fun entry => entry.1 ≠ type).lookup other = entries.lookup other := by
    induction entries with
    | nil => rfl
    | cons entry rest ih =>
      by_cases heq : entry.1 = type
      · have hne : (other == entry.1) = false := by
          rw [beq_eq_false_iff_ne, heq]
          exact Ne.symm h
        rw [List.filter_cons_of_neg (by simp [heq]), ih, List.lookup_cons, hne]
      · rw [List.filter_cons_of_pos (by simp [heq]), List.lookup_cons, List.lookup_cons, ih]
  have hne : (other == type) = false := by
    rw [beq_eq_false_iff_ne]
    exact Ne.symm h
  rw [get?, bind, List.lookup_cons, hne, hfilter, get?]

def bindAll (b : Bindings α) (entries : List (TypeName × Instance α)) : Bindings α :=
  entries.foldl (fun b entry => b.bind entry.1 entry.2) b

theorem bindAll_append (b : Bindings α) (first second : List (TypeName × Instance α)) :
    b.bindAll (first ++ second) = (b.bindAll first).bindAll second := List.foldl_append

theorem get?_bindAll_of_unbound {entries : List (TypeName × Instance α)} {type : TypeName}
    (h : ∀ entry ∈ entries, entry.1 ≠ type) (b : Bindings α) : (b.bindAll entries).get? type = b.get? type := by
  induction entries generalizing b with
  | nil => rfl
  | cons entry rest ih =>
    rw [List.forall_mem_cons] at h
    have hrest : b.bindAll (entry :: rest) = (b.bind entry.1 entry.2).bindAll rest := rfl
    rw [hrest, ih h.2, get?_bind_of_ne b h.1]

end Bindings

mutual

theorem BindingStep.run_eq (step : BindingStep α) (b : Bindings α) : (step.run b).1 = b.bindAll step.bindings := by
  cases step with
  | bind type service =>
    rw [BindingStep.run, BindingStep.bindings]
    rfl
  | contains type =>
    rw [BindingStep.run, BindingStep.bindings]
    rfl
  | install steps =>
    rw [BindingStep.run, BindingStep.bindings]
    exact runSteps_eq steps b

theorem runSteps_eq (steps : List (BindingStep α)) (b : Bindings α) :
    (runSteps steps b).1 = b.bindAll (stepBindings steps) := by
  cases steps with
  | nil =>
    rw [runSteps, stepBindings]
    rfl
  | cons step rest =>
    rw [runSteps, stepBindings, Bindings.bindAll_append, ← step.run_eq b]
    exact runSteps_eq rest _

end

theorem stepBindings_append (first second : List (BindingStep α)) :
    stepBindings (first ++ second) = stepBindings first ++ stepBindings second := by
  induction first with
  | nil => rfl
  | cons step rest ih => rw [List.cons_append, stepBindings, stepBindings, ih, List.append_assoc]

/-! ### What is held under a type -/

/-- Each type is bound once, and what is held under it was bound as it. -/
structure Bindings.WellFormed (b : Bindings α) : Prop where
  once : (b.entries.map (·.1)).Nodup
  typed : ∀ entry ∈ b.entries, entry.2.held.type = entry.1

namespace Bindings

theorem wellFormed_empty : ({} : Bindings α).WellFormed :=
  ⟨List.nodup_nil, fun _ hentry => absurd hentry List.not_mem_nil⟩

theorem WellFormed.bind {b : Bindings α} (h : b.WellFormed) (type : TypeName) (service : Instance α) :
    (b.bind type service).WellFormed := by
  have hkept : ∀ entry ∈ b.entries.filter fun entry => entry.1 ≠ type, entry ∈ b.entries ∧ entry.1 ≠ type := by
    intro entry hentry
    rw [List.mem_filter, decide_eq_true_eq] at hentry
    exact hentry
  constructor
  · rw [Bindings.bind, List.map_cons, List.nodup_cons]
    constructor
    · intro hmem
      obtain ⟨entry, hentry, heq⟩ := List.mem_map.mp hmem
      exact (hkept entry hentry).2 heq
    · exact h.once.sublist (List.filter_sublist.map _)
  · rw [Bindings.bind, List.forall_mem_cons]
    exact ⟨rfl, fun entry hentry => h.typed entry (hkept entry hentry).1⟩

theorem WellFormed.bindAll {b : Bindings α} (h : b.WellFormed) (entries : List (TypeName × Instance α)) :
    (b.bindAll entries).WellFormed := by
  induction entries generalizing b with
  | nil => exact h
  | cons entry rest ih => exact ih (h.bind entry.1 entry.2)

theorem WellFormed.contains_eq {b : Bindings α} (h : b.WellFormed) (type : TypeName) :
    b.contains type = (b.get? type).isSome := by
  rw [contains, get?]
  cases hlookup : b.entries.lookup type with
  | none => rfl
  | some binding =>
    obtain ⟨before, after, hentries, -⟩ := List.lookup_eq_some_iff.mp hlookup
    have htype : binding.held.type = type := by
      refine h.typed (type, binding) ?_
      rw [hentries]
      exact List.mem_append_right _ List.mem_cons_self
    rw [Option.bind_some, Erased.downcast?, if_pos htype]
    rfl

theorem mem_types_bind (b : Bindings α) (type other : TypeName) (service : Instance α) :
    other ∈ (b.bind type service).entries.map (·.1) ↔ other = type ∨ other ∈ b.entries.map (·.1) := by
  simp only [bind, List.map_cons, List.mem_cons, List.mem_map, List.mem_filter, decide_eq_true_eq]
  constructor
  · rintro (rfl | ⟨entry, ⟨hentry, -⟩, rfl⟩)
    · exact .inl rfl
    · exact .inr ⟨entry, hentry, rfl⟩
  · rintro (rfl | ⟨entry, hentry, rfl⟩)
    · exact .inl rfl
    · by_cases heq : entry.1 = type
      · exact .inl heq
      · exact .inr ⟨entry, ⟨hentry, heq⟩, rfl⟩

theorem mem_types_bindAll (b : Bindings α) (entries : List (TypeName × Instance α)) (type : TypeName) :
    type ∈ (b.bindAll entries).entries.map (·.1) ↔ type ∈ entries.map (·.1) ∨ type ∈ b.entries.map (·.1) := by
  induction entries generalizing b with
  | nil => simp [bindAll]
  | cons entry rest ih =>
    have hrest : b.bindAll (entry :: rest) = (b.bind entry.1 entry.2).bindAll rest := rfl
    rw [hrest, ih, mem_types_bind, List.map_cons, List.mem_cons, or_left_comm, or_assoc]

end Bindings

/-! ### Last bindings -/

/-- Among bindings in a row, the last one of a type is that of a service. -/
def LastBound (entries : List (TypeName × Instance α)) (type : TypeName) (service : Instance α) : Prop :=
  ∃ before after, entries = before ++ (type, service) :: after ∧ ∀ entry ∈ after, entry.1 ≠ type

/-- No binding in a row is of a type. -/
def Unbound (entries : List (TypeName × Instance α)) (type : TypeName) : Prop := ∀ entry ∈ entries, entry.1 ≠ type

instance (entries : List (TypeName × Instance α)) (type : TypeName) : Decidable (Unbound entries type) :=
  inferInstanceAs (Decidable (∀ entry ∈ entries, entry.1 ≠ type))

theorem lastBound_append_iff {first second : List (TypeName × Instance α)} {type : TypeName} {service : Instance α} :
    LastBound (first ++ second) type service ↔
      LastBound second type service ∨ Unbound second type ∧ LastBound first type service := by
  constructor
  · rintro ⟨before, after, hentries, hafter⟩
    obtain ⟨rest, hfirst, hrest⟩ | ⟨rest, hbefore, hsecond⟩ := List.append_eq_append_iff.mp hentries
    · exact .inl ⟨rest, after, hrest, hafter⟩
    · cases rest with
      | nil => exact .inl ⟨[], after, hsecond.symm, hafter⟩
      | cons entry rest =>
        obtain ⟨rfl, rfl⟩ := List.cons.inj hsecond
        obtain ⟨hrest, hunbound⟩ := List.forall_mem_append.mp hafter
        exact .inr ⟨hunbound, before, rest, hbefore, hrest⟩
  · rintro (⟨before, after, rfl, hafter⟩ | ⟨hsecond, before, after, rfl, hafter⟩)
    · exact ⟨first ++ before, after, (List.append_assoc _ _ _).symm, hafter⟩
    · refine ⟨before, after ++ second, by rw [List.append_assoc, List.cons_append], ?_⟩
      exact List.forall_mem_append.mpr ⟨hafter, hsecond⟩

theorem lastBound_singleton_iff {entry : TypeName × Instance α} {type : TypeName} {service : Instance α} :
    LastBound [entry] type service ↔ entry = (type, service) := by
  constructor
  · rintro ⟨before, after, hentries, -⟩
    cases before with
    | nil => exact (List.cons.inj hentries).1
    | cons first before =>
      have hrest := (List.cons.inj hentries).2
      exact absurd hrest.symm (List.append_ne_nil_of_right_ne_nil _ (List.cons_ne_nil _ _))
  · rintro rfl
    exact ⟨[], [], rfl, fun _ hentry => absurd hentry List.not_mem_nil⟩

theorem lastBound_iff_mem {entries : List (TypeName × Instance α)} (h : (entries.map (·.1)).Nodup) {type : TypeName}
    {service : Instance α} : LastBound entries type service ↔ (type, service) ∈ entries := by
  constructor
  · rintro ⟨before, after, rfl, -⟩
    exact List.mem_append_right _ List.mem_cons_self
  · intro hmem
    obtain ⟨before, after, rfl⟩ := List.append_of_mem hmem
    refine ⟨before, after, rfl, fun entry hentry heq => ?_⟩
    rw [List.map_append, List.map_cons] at h
    exact (List.nodup_cons.mp h.of_append_right).1 (List.mem_map.mpr ⟨entry, hentry, heq⟩)

theorem unbound_or_lastBound (entries : List (TypeName × Instance α)) (type : TypeName) :
    Unbound entries type ∨ ∃ service, LastBound entries type service := by
  induction entries using List.reverseRecOn with
  | nil => exact .inl fun _ hentry => absurd hentry List.not_mem_nil
  | append_singleton entries entry ih =>
    by_cases htype : entry.1 = type
    · exact .inr ⟨entry.2, lastBound_append_iff.mpr (.inl (lastBound_singleton_iff.mpr (Prod.ext htype rfl)))⟩
    · have hunbound : Unbound [entry] type := List.forall_mem_singleton.mpr htype
      rcases ih with hnone | ⟨service, hlast⟩
      · exact .inl (List.forall_mem_append.mpr ⟨hnone, hunbound⟩)
      · exact .inr ⟨service, lastBound_append_iff.mpr (.inr ⟨hunbound, hlast⟩)⟩

theorem Bindings.get?_bindAll_eq_some_iff {entries : List (TypeName × Instance α)} {type : TypeName}
    {service : Instance α} :
    (({} : Bindings α).bindAll entries).get? type = some service ↔ LastBound entries type service := by
  -- from the end, since the last binding of a type is the one that counts
  induction entries using List.reverseRecOn with
  | nil =>
    constructor
    · exact fun h => nomatch h
    · rintro ⟨before, after, hentries, -⟩
      exact absurd hentries.symm (List.append_ne_nil_of_right_ne_nil _ (List.cons_ne_nil _ _))
  | append_singleton entries entry ih =>
    have hlast : ({} : Bindings α).bindAll (entries ++ [entry]) =
        (({} : Bindings α).bindAll entries).bind entry.1 entry.2 := bindAll_append _ _ _
    rw [hlast, lastBound_append_iff, lastBound_singleton_iff, ← ih]
    by_cases htype : entry.1 = type
    · have hbound : ¬Unbound [entry] type := fun h => h entry (List.mem_singleton_self entry) htype
      rw [← htype, get?_bind_self, Option.some.injEq, htype, or_iff_left (fun h => hbound h.1), Prod.ext_iff]
      exact ⟨fun h => ⟨htype, h⟩, And.right⟩
    · have hunbound : Unbound [entry] type := List.forall_mem_singleton.mpr htype
      rw [get?_bind_of_ne _ htype, or_iff_right (fun h => htype (congrArg Prod.fst h))]
      exact (and_iff_right hunbound).symm

/-! ### Injectors -/

namespace Injector

/-- The handles to the services of an injector: itself, and clones of such handles. -/
inductive IsHandle (i : Injector α) : Injector α → Prop where
  | self : IsHandle i i
  | clone {j : Injector α} (h : IsHandle i j) : IsHandle i j.clone

theorem IsHandle.eq {i j : Injector α} (h : i.IsHandle j) : j = i := by
  induction h with
  | self => rfl
  | clone _ ih => exact ih

/-- An injector resolves each type to the last instance bound to it in a row of bindings, and all that it tells
agrees with that. -/
structure Resolves (i : Injector α) (entries : List (TypeName × Instance α)) : Prop where
  last : ∀ type service, i.get? type = some service ↔ LastBound entries type service
  bound : ∀ type, (i.get? type).isSome ↔ ∃ entry ∈ entries, entry.1 = type
  contains : ∀ type, i.bindings.contains type = (i.get? type).isSome
  require : ∀ type, i.require type = (i.get? type).elim (.error ⟨type⟩) .ok
  size : i.size = (entries.map (·.1)).toFinset.card
  handles : ∀ j, i.IsHandle j → ∀ type, j.get? type = i.get? type ∧
    i.shares? j type = (i.get? type).map fun _ => true

end Injector

theorem resolves_build (steps : List (BindingStep α)) :
    (runSteps steps {}).1.build.Resolves (stepBindings steps) := by
  have hbindings : (runSteps steps ({} : Bindings α)).1 = ({} : Bindings α).bindAll (stepBindings steps) :=
    runSteps_eq steps {}
  have hformed : (runSteps steps ({} : Bindings α)).1.WellFormed := by
    rw [hbindings]
    exact Bindings.wellFormed_empty.bindAll _
  have hlast (type : TypeName) (service : Instance α) :
      (runSteps steps {}).1.build.get? type = some service ↔ LastBound (stepBindings steps) type service := by
    rw [Injector.get?, Bindings.build, hbindings]
    exact Bindings.get?_bindAll_eq_some_iff
  refine ⟨hlast, fun type => ?_, hformed.contains_eq, fun type => ?_, ?_, fun j hj type => ?_⟩
  · rw [Option.isSome_iff_exists]
    constructor
    · rintro ⟨service, hservice⟩
      obtain ⟨before, after, hentries, -⟩ := (hlast type service).mp hservice
      rw [hentries]
      exact ⟨(type, service), List.mem_append_right _ List.mem_cons_self, rfl⟩
    · rintro ⟨entry, hentry, htype⟩
      obtain hunbound | ⟨service, hservice⟩ := unbound_or_lastBound (stepBindings steps) type
      · exact absurd htype (hunbound entry hentry)
      · exact ⟨service, (hlast type service).mpr hservice⟩
  · rw [Injector.require]
    split
    · next service hservice =>
      rw [hservice]
      rfl
    · next hnone =>
      rw [hnone]
      rfl
  · have htypes : ((stepBindings steps).map (·.1)).toFinset =
        ((runSteps steps ({} : Bindings α)).1.entries.map (·.1)).toFinset := by
      ext type
      rw [List.mem_toFinset, List.mem_toFinset, hbindings, Bindings.mem_types_bindAll]
      exact (or_iff_left List.not_mem_nil).symm
    rw [htypes, List.toFinset_card_of_nodup hformed.once, List.length_map]
    rfl
  · rw [hj.eq, Injector.shares?]
    refine ⟨rfl, ?_⟩
    cases (runSteps steps {}).1.build.get? type with
    | none => rfl
    | some service => simp

end AppServer
