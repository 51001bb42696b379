import Mathlib.Data.List.Induction

/-! Runs of a step function, and what is to be asked of each step for a property to
hold all along. -/

namespace Quidz.Library.Run

variable {σ α : Type} {step : σ → α → σ}

/-- What every step keeps holds of every state of a run. -/
theorem sound {good : σ → Prop} {start : σ} (initial : good start) (keeps : ∀ state action, good state → good (step state action))
    (actions : List α) : good (actions.foldl step start) :=
  List.foldlRecOn actions step initial fun state good action _ => keeps state action good

/-- A property that a step keeps exactly where it is fine holds all along a run
exactly where every step of the run is. -/
theorem kept_iff {good kept : σ → Prop} {fine : σ → α → Prop} {start : σ} (initial : good start) (here : kept start)
    (keeps : ∀ state action, good state → good (step state action))
    (exact : ∀ state action, good state → kept state → (kept (step state action) ↔ fine state action)) (actions : List α) :
    (∀ earlier, earlier <+: actions → kept (earlier.foldl step start)) ↔
      ∀ earlier action, earlier ++ [action] <+: actions → fine (earlier.foldl step start) action := by
  have one (earlier : List α) (action : α) : (earlier ++ [action]).foldl step start = step (earlier.foldl step start) action := by
    rw [List.foldl_append, List.foldl_cons, List.foldl_nil]
  constructor
  · intro all earlier action within
    have before := all earlier ((List.prefix_append earlier [action]).trans within)
    have after := all _ within
    rw [one] at after
    exact (exact _ _ (sound initial keeps earlier) before).mp after
  · intro all earlier
    induction earlier using List.reverseRecOn with
    | nil => exact fun _ => here
    | append_singleton earlier action ih =>
      intro within
      have before := ih ((List.prefix_append earlier [action]).trans within)
      rw [one]
      exact (exact _ _ (sound initial keeps earlier) before).mpr (all earlier action within)

/-- Two systems whose steps may fail. Where every step of the one that succeeds has one of
the other's that keeps them together, so has every run. -/
theorem follows {τ ε : Type} {step : σ → α → Except ε σ} {other : τ → α → Except ε τ} {together : List α → σ → τ → Prop}
    {actions : List α} (keeps : ∀ seen action state next twin, action ∈ actions → together seen state twin →
      step state action = .ok next → ∃ after, other twin action = .ok after ∧ together (seen ++ [action]) next after)
    {seen : List α} {state final : σ} {twin : τ} (begun : together seen state twin) (ran : actions.foldlM step state = .ok final) :
    ∃ after, actions.foldlM other twin = .ok after ∧ together (seen ++ actions) final after := by
  induction actions generalizing seen state twin with
  | nil =>
    cases ran
    refine ⟨twin, rfl, ?_⟩
    rw [List.append_nil]
    exact begun
  | cons action rest ih =>
    rw [List.foldlM_cons] at ran
    cases stepped : step state action with
    | error raised =>
      rw [stepped] at ran
      cases ran
    | ok next =>
      rw [stepped] at ran
      obtain ⟨after, followed, still⟩ := keeps seen action state next twin List.mem_cons_self begun stepped
      obtain ⟨last, further, ended⟩ := ih (fun seen action state next twin listed =>
        keeps seen action state next twin (List.mem_cons_of_mem _ listed)) still ran
      refine ⟨last, ?_, ?_⟩
      · rw [List.foldlM_cons, followed]
        exact further
      · rwa [List.append_assoc] at ended

end Quidz.Library.Run
