/-
Esp32Mod/HandleLife.lean

Handles that are kept in a table.  A handle is created into a place that is empty; later it is
deleted, by the function that belongs to it, and forgotten, and the place is empty again.  A log
says what has happened to every handle.

`Accounted` ties the log to the table: a handle in the table has been created and nothing else,
any other one has never been seen or has come to its end.  It is kept by `Accounted.create` and
`Accounted.release`.
-/
import Mathlib.Logic.Function.Basic

namespace HandleLife

variable {κ η δ : Type*}

/-- What happens to a handle; `how` is the function that deletes it. -/
inductive Event (η δ : Type*)
  | created (handle : η)
  | deleted (handle : η) (how : δ)
  | forgotten (handle : η)
  deriving DecidableEq

/-- The handle that the event is about. -/
def Event.handle : Event η δ → η
  | .created handle | .deleted handle _ | .forgotten handle => handle

variable [DecidableEq η]

/-- What has happened to one handle. -/
def life (handle : η) (log : List (Event η δ)) : List (Event η δ) :=
  log.filter fun event => event.handle = handle

theorem life_append (handle : η) (log log' : List (Event η δ)) :
    life handle (log ++ log') = life handle log ++ life handle log' :=
  List.filter_append _ _

/-- Nothing happens to a handle that a log does not name. -/
theorem life_eq_nil {handle : η} {log : List (Event η δ)}
    (h : ∀ event ∈ log, event.handle ≠ handle) : life handle log = [] := by
  rw [life, List.filter_eq_nil_iff]
  intro event hmem
  rw [decide_eq_true_eq]
  exact h event hmem

theorem life_append_of_ne {handle : η} {log log' : List (Event η δ)}
    (h : ∀ event ∈ log', event.handle ≠ handle) :
    life handle (log ++ log') = life handle log := by
  rw [life_append, life_eq_nil h, List.append_nil]

theorem life_eq_self {handle : η} {log : List (Event η δ)}
    (h : ∀ event ∈ log, event.handle = handle) : life handle log = log := by
  rw [life, List.filter_eq_self]
  intro event hmem
  rw [decide_eq_true_eq]
  exact h event hmem

/-- The log of the handles in a table; `proper` is the function that belongs to each. -/
structure Accounted (proper : η → δ) (table : κ → Option η) (log : List (Event η δ)) : Prop where
  held : ∀ place handle, table place = some handle → life handle log = [.created handle]
  once : ∀ place place' handle, table place = some handle → table place' = some handle →
    place = place'
  gone : ∀ handle, (∀ place, table place ≠ some handle) → life handle log = [] ∨
    life handle log = [.created handle, .deleted handle (proper handle), .forgotten handle]

variable {proper : η → δ} {table : κ → Option η} {log : List (Event η δ)}

theorem accounted_empty : Accounted (κ := κ) proper (fun _ => none) [] :=
  ⟨nofun, nofun, fun _ _ => .inl rfl⟩

variable [DecidableEq κ] {place : κ} {handle : η}

/-- **A new handle is put into an empty place.** -/
theorem Accounted.create (h : Accounted proper table log) (hempty : table place = none)
    (hnew : life handle log = []) :
    Accounted proper (Function.update table place (some handle)) (log ++ [.created handle]) := by
  have helsewhere : ∀ {other}, other ≠ handle →
      life other (log ++ [.created handle]) = life other log := by
    intro other hne
    refine life_append_of_ne ?_
    intro event hmem
    rw [List.mem_singleton.mp hmem]
    exact hne.symm
  -- the new handle is in no other place
  have hold : ∀ {p other}, table p = some other → other ≠ handle := by
    rintro p other hp rfl
    rw [h.held p _ hp] at hnew
    cases hnew
  refine ⟨?_, ?_, ?_⟩
  · intro p other hp
    by_cases hplace : p = place
    · rw [hplace, Function.update_self] at hp
      obtain rfl := Option.some.inj hp
      rw [life_append, hnew, List.nil_append]
      exact life_eq_self fun event hmem => by rw [List.mem_singleton.mp hmem]; rfl
    · rw [Function.update_of_ne hplace] at hp
      rw [helsewhere (hold hp), h.held p other hp]
  · intro p p' other hp hp'
    by_cases hplace : p = place <;> by_cases hplace' : p' = place
    · rw [hplace, hplace']
    · rw [hplace, Function.update_self] at hp
      rw [Function.update_of_ne hplace'] at hp'
      exact absurd (Option.some.inj hp).symm (hold hp')
    · rw [hplace', Function.update_self] at hp'
      rw [Function.update_of_ne hplace] at hp
      exact absurd (Option.some.inj hp').symm (hold hp)
    · rw [Function.update_of_ne hplace] at hp
      rw [Function.update_of_ne hplace'] at hp'
      exact h.once p p' other hp hp'
  · intro other hother
    have hne : other ≠ handle := by
      rintro rfl
      exact hother place (Function.update_self ..)
    rw [helsewhere hne]
    apply h.gone
    intro p hp
    have hplace : p ≠ place := by
      rintro rfl
      cases hempty.symm.trans hp
    exact hother p ((Function.update_of_ne hplace ..).trans hp)

/-- **A handle is deleted, by its own function, and forgotten.** -/
theorem Accounted.release (h : Accounted proper table log) (hheld : table place = some handle) :
    Accounted proper (Function.update table place none)
      (log ++ [.deleted handle (proper handle), .forgotten handle]) := by
  have hnames : ∀ event ∈ [Event.deleted handle (proper handle), .forgotten handle],
      event.handle = handle := by
    intro event hmem
    rcases List.mem_cons.mp hmem with rfl | hmem
    · rfl
    · rw [List.mem_singleton.mp hmem]
      rfl
  have helsewhere : ∀ {other}, other ≠ handle →
      life other (log ++ [.deleted handle (proper handle), .forgotten handle]) =
        life other log := by
    intro other hne
    refine life_append_of_ne ?_
    intro event hmem
    rw [hnames event hmem]
    exact hne.symm
  -- what is left in the table was there before, in another place
  have hold : ∀ {p other}, Function.update table place none p = some other →
      table p = some other ∧ other ≠ handle := by
    intro p other hp
    have hplace : p ≠ place := by
      rintro rfl
      rw [Function.update_self] at hp
      cases hp
    rw [Function.update_of_ne hplace] at hp
    refine ⟨hp, ?_⟩
    rintro rfl
    exact hplace (h.once p place _ hp hheld)
  refine ⟨?_, ?_, ?_⟩
  · intro p other hp
    obtain ⟨hp, hne⟩ := hold hp
    rw [helsewhere hne, h.held p other hp]
  · intro p p' other hp hp'
    exact h.once p p' other (hold hp).1 (hold hp').1
  · intro other hother
    by_cases hne : other = handle
    · right
      rw [hne, life_append, h.held place handle hheld, life_eq_self hnames]
      rfl
    · rw [helsewhere hne]
      apply h.gone
      intro p hp
      have hplace : p ≠ place := by
        rintro rfl
        exact hne (Option.some.inj (hp.symm.trans hheld))
      exact hother p ((Function.update_of_ne hplace ..).trans hp)

end HandleLife
