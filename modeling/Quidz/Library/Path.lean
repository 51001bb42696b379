import Mathlib.Data.List.Induction

/-! Rows of labelled steps, and what is still possible after them. -/

namespace Quidz.Library

universe u v

/-- The steps of the row lead from the first state to the last. -/
inductive Path {σ : Type u} {α : Type v} (step : σ → α → σ → Prop) : σ → List α → σ → Prop where
  | nil {state} : Path step state [] state
  | cons {state action middle rest after} (first : step state action middle) (further : Path step middle rest after) :
      Path step state (action :: rest) after

/-- The action may still be taken, now or after some row of other steps. -/
def Possible {σ : Type u} {α : Type v} (step : σ → α → σ → Prop) (state : σ) (action : α) : Prop :=
  ∃ row middle after, Path step state row middle ∧ step middle action after

variable {σ : Type u} {α : Type v} {step : σ → α → σ → Prop} {state middle after : σ} {action : α}

namespace Path

theorem trans {first second : List α} (before : Path step state first middle) (further : Path step middle second after) :
    Path step state (first ++ second) after := by
  induction before with
  | nil => exact further
  | cons taken _ ih => exact .cons taken (ih further)

theorem of_append {first second : List α} (path : Path step state (first ++ second) after) :
    ∃ middle, Path step state first middle ∧ Path step middle second after := by
  induction first generalizing state with
  | nil => exact ⟨state, .nil, path⟩
  | cons action first ih =>
    cases path with
    | cons taken further =>
      obtain ⟨middle, before, rest⟩ := ih further
      exact ⟨middle, .cons taken before, rest⟩

/-- The state in front of one of the steps, and the one behind it. -/
theorem around {first second : List α} (path : Path step state (first ++ action :: second) after) :
    ∃ before behind, Path step state first before ∧ step before action behind ∧ Path step behind second after := by
  obtain ⟨before, earlier, rest⟩ := path.of_append
  cases rest with
  | cons taken later => exact ⟨before, _, earlier, taken, later⟩

/-- What every step keeps is kept along the row. -/
theorem keeps {row : List α} {kept : σ → Prop} (path : Path step state row after) (initial : kept state)
    (steps : ∀ {state action after}, kept state → step state action after → kept after) : kept after := by
  induction path with
  | nil => exact initial
  | cons taken _ ih => exact ih (steps initial taken)

/-- A relation that each step is in, between valid states, is that of the whole row. -/
theorem relates {row : List α} {kept : σ → Prop} {relation : σ → σ → Prop} (path : Path step state row after)
    (initial : kept state) (refl : ∀ state, relation state state)
    (trans : ∀ {first second third}, relation first second → relation second third → relation first third)
    (steps : ∀ {state action after}, kept state → step state action after → kept after ∧ relation state after) :
    kept after ∧ relation state after := by
  induction path with
  | nil => exact ⟨initial, refl _⟩
  | cons taken _ ih =>
    obtain ⟨kept, related⟩ := steps initial taken
    obtain ⟨valid, further⟩ := ih kept
    exact ⟨valid, trans related further⟩

end Path

namespace Possible

theorem now (taken : step state action after) : Possible step state action := ⟨[], state, after, .nil, taken⟩

theorem after_step {other : α} (taken : step state other middle) (possible : Possible step middle action) :
    Possible step state action := by
  obtain ⟨row, last, final, path, final_⟩ := possible
  exact ⟨other :: row, last, final, .cons taken path, final_⟩

end Possible
end Quidz.Library
