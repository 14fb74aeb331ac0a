import AppServer.EventSink
import AppServer.Proofs.Except

/-!
# What stands at a place

Putting an entry at a place changes nothing elsewhere. As long as no directory and
no locked file comes or goes, paths lead to the same places, the same of them can be
opened for appending, and properties choose the same sinks.
-/

namespace AppServer

namespace Files

variable {files now : Files} {place : Place}

/-! ### Entries -/

theorem lookup_replace (entries : List (Place × FileEntry)) (place : Place) (entry : FileEntry) (other : Place) :
    (entries.map fun held => if held.1 = place then (place, entry) else held).lookup other =
      if other = place then (entries.lookup place).map fun _ => entry else entries.lookup other := by
  induction entries with
  | nil =>
    split
    · rfl
    · rfl
  | cons held rest ih =>
    obtain ⟨spot, kept⟩ := held
    rw [List.map_cons]
    by_cases hheld : spot = place
    · subst hheld
      rw [if_pos rfl]
      by_cases hother : other = spot
      · subst hother
        simp
      · have hne : (other == spot) = false := beq_eq_false_iff_ne.mpr hother
        rw [if_neg hother] at ih ⊢
        simp only [List.lookup_cons, hne, ih]
    · rw [if_neg hheld]
      by_cases hother : other = place
      · subst hother
        have hne : (other == spot) = false := beq_eq_false_iff_ne.mpr (Ne.symm hheld)
        rw [if_pos rfl] at ih
        simp only [List.lookup_cons, hne, ih, if_true]
      · rw [if_neg hother] at ih ⊢
        simp only [List.lookup_cons, ih]

theorem lookup_put (files : Files) (place : Place) (entry : FileEntry) (other : Place) :
    (files.put place entry).entries.lookup other =
      if other = place then some entry else files.entries.lookup other := by
  rw [put]
  split
  · next hheld =>
    obtain ⟨kept, hkept⟩ := Option.isSome_iff_exists.mp hheld
    rw [lookup_replace, hkept, Option.map_some]
  · next hfresh =>
    rw [Bool.not_eq_true, Option.isSome_eq_false_iff, Option.isNone_iff_eq_none] at hfresh
    by_cases hother : other = place
    · subst hother
      simp [List.lookup_append, hfresh]
    · have hne : (other == place) = false := beq_eq_false_iff_ne.mpr hother
      rw [if_neg hother, List.lookup_append, List.lookup_cons, hne, List.lookup_nil, Option.or_none]

theorem not_above_home_of_ne (h : files.at? place ≠ some .directory) : ¬place.isPrefixOf files.home := by
  rw [at?] at h
  split at h
  · exact absurd rfl h
  · assumption

theorem at?_put (files : Files) (hplace : ¬place.isPrefixOf files.home) (entry : FileEntry) (other : Place) :
    (files.put place entry).at? other = if other = place then some entry else files.at? other := by
  have hhome : (files.put place entry).home = files.home := rfl
  rw [at?, at?, lookup_put, hhome]
  by_cases hsame : other = place
  · subst hsame
    rw [if_neg hplace, if_pos rfl, if_pos rfl]
  · rw [if_neg hsame, if_neg hsame]

/-- The bytes of the file at a place; none when there is no file. -/
def contentAt (files : Files) (place : Place) : Bytes :=
  match files.at? place with
  | some (.file content) => content
  | _ => []

theorem append_file {content : Bytes} (h : files.at? place = some (.file content)) (bytes : Bytes) :
    files.append place bytes = files.put place (.file (content ++ bytes)) := by
  rw [append, h]

/-! ### Paths -/

/-- Nothing or a file: what may stand where a file is opened for appending. -/
inductive Appendable : Option FileEntry → Prop
  | none : Appendable none
  | file (content : Bytes) : Appendable (some (.file content))

theorem Appendable.ne_directory {stands : Option FileEntry} (h : Appendable stands) : stands ≠ some .directory := by
  cases h <;> exact nofun

/-- The two trees have the same places, but for files that can be opened. -/
structure OpensAlike (files now : Files) : Prop where
  home : now.home = files.home
  stands (place : Place) :
    now.at? place = files.at? place ∨ Appendable (now.at? place) ∧ Appendable (files.at? place)

theorem OpensAlike.refl (files : Files) : files.OpensAlike files := ⟨rfl, fun _ => .inl rfl⟩

/-- A file's content may change, and a file may come where nothing is. -/
theorem OpensAlike.changed {after : Files} {content : Bytes} (h : files.OpensAlike now) (hhome : after.home = now.home)
    (hplace : Appendable (now.at? place))
    (hat : ∀ other, after.at? other = if other = place then some (.file content) else now.at? other) :
    files.OpensAlike after where
  home := hhome.trans h.home
  stands other := by
    rw [hat]
    by_cases hsame : other = place
    · subst hsame
      rw [if_pos rfl]
      have hbefore : Appendable (files.at? other) := by
        obtain hequal | ⟨-, hbefore⟩ := h.stands other
        · rw [← hequal]
          exact hplace
        · exact hbefore
      exact .inr ⟨.file content, hbefore⟩
    · rw [if_neg hsame]
      exact h.stands other

/-- What leads nowhere through the one tree leads nowhere through the other, though maybe for another cause. -/
theorem OpensAlike.follow (h : files.OpensAlike now) (here : Place) (names : List Bytes) :
    (now.follow here names).toOption = (files.follow here names).toOption := by
  induction names generalizing here with
  | nil => rfl
  | cons name rest ih =>
    simp only [Files.follow]
    split
    · exact ih here
    split
    · exact ih here.dropLast
    split
    · rfl
    split
    · rfl
    obtain hequal | ⟨hnow, hbefore⟩ := h.stands (here ++ [name])
    · rw [hequal]
      split
      · rfl
      · exact ih (here ++ [name])
      · rfl
    · generalize now.at? (here ++ [name]) = stands at hnow ⊢
      generalize files.at? (here ++ [name]) = stood at hbefore ⊢
      cases hnow <;> cases hbefore <;> rfl

theorem OpensAlike.resolve (h : files.OpensAlike now) (path : String) :
    (now.resolve path).toOption = (files.resolve path).toOption := by
  simp only [Files.resolve]
  split
  · rfl
  split
  · rfl
  split
  · rfl
  · rw [start, start, h.home]
    exact h.follow _ _

/-! ### Opening -/

theorem openToAppend_eq_ok {opened : Files} {path : String} (h : files.openToAppend path = .ok (place, opened)) :
    Appendable (files.at? place) ∧
      opened = if files.at? place = none then files.put place (.file []) else files := by
  simp only [openToAppend] at h
  split at h
  · cases h
  obtain ⟨_, -, h⟩ := bind_eq_ok_iff.mp h
  split at h
  · cases h
  split at h
  · cases h
  · cases h
  · next hfile =>
    cases h
    rw [hfile]
    exact ⟨.file _, rfl⟩
  · next hnone =>
    cases h
    rw [hnone]
    exact ⟨.none, rfl⟩

/-- A file that is opened holds what it held, nothing if it was not there, and the rest is as it was. -/
theorem at?_opened {opened : Files} {path : String} (h : files.openToAppend path = .ok (place, opened))
    (other : Place) :
    opened.at? other = if other = place then some (.file (files.contentAt place)) else files.at? other := by
  obtain ⟨happendable, rfl⟩ := openToAppend_eq_ok h
  have hhome := not_above_home_of_ne happendable.ne_directory
  rw [contentAt]
  generalize hstands : files.at? place = stands at happendable ⊢
  cases happendable with
  | none => rw [if_pos rfl, at?_put files hhome]
  | file content =>
    rw [if_neg nofun]
    by_cases hsame : other = place
    · rw [hsame, if_pos rfl, hstands]
    · rw [if_neg hsame]

theorem home_opened {opened : Files} {path : String} (h : files.openToAppend path = .ok (place, opened)) :
    opened.home = files.home := by
  obtain ⟨-, rfl⟩ := openToAppend_eq_ok h
  split
  · rfl
  · rfl

/-- Which file a path opens does not depend on the files there are. -/
theorem OpensAlike.openToAppend (h : files.OpensAlike now) (path : String) :
    (now.openToAppend path).toOption.map Prod.fst = (files.openToAppend path).toOption.map Prod.fst := by
  have hresolve := h.resolve (withoutSlashes path)
  simp only [Files.openToAppend]
  split
  · rfl
  generalize now.resolve (withoutSlashes path) = found at hresolve ⊢
  generalize files.resolve (withoutSlashes path) = before at hresolve ⊢
  match found, before with
  | .error _, .error _ => rfl
  | .error _, .ok _ => cases hresolve
  | .ok _, .error _ => cases hresolve
  | .ok place, .ok other =>
    cases hresolve
    dsimp only [bind, Except.bind]
    split
    · rfl
    obtain hequal | ⟨hnow, hbefore⟩ := h.stands place
    · rw [hequal]
      split <;> rfl
    · generalize now.at? place = stands at hnow ⊢
      generalize files.at? place = stood at hbefore ⊢
      cases hnow <;> cases hbefore <;> rfl

end Files

/-! ### Sinks -/

namespace EventSink

variable {files now opened : Files} {p : Properties} {sink : EventSink}

theorem ofProperties_cases (h : EventSink.ofProperties files p = .ok (sink, opened)) :
    (∃ place path, sink = .file place ∧ files.openToAppend path = .ok (place, opened)) ∨
      (∀ place, sink ≠ .file place) ∧ opened = files := by
  simp only [EventSink.ofProperties] at h
  split at h
  · cases h
    exact .inr ⟨nofun, rfl⟩
  split at h
  · cases h
    exact .inr ⟨nofun, rfl⟩
  split at h
  · obtain ⟨path, -, h⟩ := bind_eq_ok_iff.mp h
    split at h
    · next place opened hopened =>
      cases h
      exact .inl ⟨place, path, rfl, hopened⟩
    · cases h
  · cases h

theorem openToAppend_of_ofProperties {place : Place} (h : EventSink.ofProperties files p = .ok (.file place, opened)) :
    ∃ path, files.openToAppend path = .ok (place, opened) := by
  obtain ⟨_, path, hsink, hopened⟩ | ⟨hsink, -⟩ := ofProperties_cases h
  · cases hsink
    exact ⟨path, hopened⟩
  · exact absurd rfl (hsink place)

theorem files_of_ofProperties (h : EventSink.ofProperties files p = .ok (sink, opened))
    (hsink : ∀ place, sink ≠ .file place) : opened = files := by
  obtain ⟨place, _, hfile, -⟩ | ⟨-, hsame⟩ := ofProperties_cases h
  · exact absurd hfile (hsink place)
  · exact hsame

/-- The sink that properties choose does not depend on the files there are. -/
theorem toOption_ofProperties (h : files.OpensAlike now) (p : Properties) :
    (EventSink.ofProperties now p).toOption.map Prod.fst = (EventSink.ofProperties files p).toOption.map Prod.fst := by
  simp only [EventSink.ofProperties]
  split
  · rfl
  split
  · rfl
  split
  · dsimp only [bind, Except.bind]
    cases p.require pathKey with
    | error e => rfl
    | ok path =>
      have hopen := h.openToAppend path
      dsimp only
      generalize now.openToAppend path = first at hopen ⊢
      generalize files.openToAppend path = second at hopen ⊢
      match first, second with
      | .error _, .error _ => rfl
      | .error _, .ok _ => cases hopen
      | .ok _, .error _ => cases hopen
      | .ok (place, _), .ok (other, _) =>
        cases hopen
        rfl
  · rfl

end EventSink

end AppServer
