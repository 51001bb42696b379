import Quidz.Library.Retry

/-! The same queue, taken one item at a time. A worker that gives up can stop anywhere in
a round, and two of them at different places; where neither leaves anything that would
apply, they leave the same state. -/

namespace Quidz.Library

universe u v

/-- A round under way: what is still to be tried in it, and what was put off to the
next. -/
structure Round (σ : Type u) (α : Type v) where
  state : σ
  todo : List α
  later : List α := []

namespace Round
variable {σ : Type u} {α : Type v} (step : σ → α → Verdict σ)

def next (round : Round σ α) : Round σ α :=
  match round.todo with
  | [] => { round with todo := round.later, later := [] }
  | item :: rest =>
    match step round.state item with
    | .applied after => { round with state := after, todo := rest }
    | .parked => { round with todo := rest, later := round.later ++ [item] }
    | .refused => { round with todo := rest }

/-- Nothing that is left would be applied. -/
def Settled (round : Round σ α) : Prop := ∀ item ∈ round.todo ++ round.later, ∀ after, step round.state item ≠ .applied after

/-- One round of those that start from another. -/
def Follows (start round : Round σ α) : Prop := ∃ turns, (next step)^[turns] start = round

variable {step} {start round other : Round σ α}

theorem Follows.refl (start : Round σ α) : Follows step start start := ⟨0, rfl⟩

theorem Follows.next (follows : Follows step start round) : Follows step start (round.next step) := by
  obtain ⟨turns, rfl⟩ := follows
  exact ⟨turns + 1, Function.iterate_succ_apply' _ _ _⟩

theorem Follows.trans {last : Round σ α} (first : Follows step start round) (further : Follows step round last) :
    Follows step start last := by
  obtain ⟨turns, rfl⟩ := first
  obtain ⟨more, rfl⟩ := further
  exact ⟨more + turns, Function.iterate_add_apply _ _ _ _⟩

/-- What every step keeps is kept along the rounds. -/
theorem Follows.keeps (follows : Follows step start round) (kept : σ → Prop) (initial : kept start.state)
    (steps : ∀ {state item after}, kept state → step state item = .applied after → kept after) : kept round.state := by
  obtain ⟨turns, rfl⟩ := follows
  induction turns with
  | zero => exact initial
  | succ turns ih =>
    rw [Function.iterate_succ_apply']
    generalize (Round.next step)^[turns] start = current at ih ⊢
    unfold Round.next
    split
    next => exact ih
    next item rest todo =>
      split
      next after applies => exact steps ih applies
      next => exact ih
      next => exact ih

theorem next_todo {item : α} {rest : List α} (todo : round.todo = item :: rest) : (round.next step).todo = rest := by
  simp only [Round.next, todo]
  split <;> rfl

theorem Settled.next (settled : Settled step round) :
    (round.next step).state = round.state ∧ Settled step (round.next step) := by
  obtain ⟨state, todo, later⟩ := round
  cases todo with
  | nil =>
    refine ⟨rfl, fun item member => settled item ?_⟩
    simpa [Round.next] using member
  | cons item rest =>
    have here := settled item List.mem_cons_self
    have fewer : ∀ other ∈ rest ++ later, ∀ after, step state other ≠ .applied after :=
      fun other member => settled other (List.mem_cons_of_mem _ member)
    unfold Round.next
    cases answer : step state item with
    | applied after => exact absurd answer (here after)
    | refused =>
      simp only [answer, true_and]
      exact fewer
    | parked =>
      simp only [answer, true_and]
      intro other member
      apply settled other
      simp only [List.mem_append, List.mem_cons, List.not_mem_nil, or_false] at member ⊢
      tauto

/-- From then on the state stays what it is. -/
theorem Settled.stays (settled : Settled step round) (turns : Nat) : ((Round.next step)^[turns] round).state = round.state := by
  have kept : ((Round.next step)^[turns] round).state = round.state ∧ Settled step ((Round.next step)^[turns] round) := by
    induction turns with
    | zero => exact ⟨rfl, settled⟩
    | succ turns ih =>
      rw [Function.iterate_succ_apply']
      exact ⟨ih.2.next.1.trans ih.1, ih.2.next.2⟩
  exact kept.1

theorem settled_unique (first : Follows step start round) (second : Follows step start other) (settled : Settled step round)
    (settled' : Settled step other) : round.state = other.state := by
  obtain ⟨turns, rfl⟩ := first
  obtain ⟨turns', rfl⟩ := second
  rcases Nat.le_total turns turns' with early | late
  · obtain ⟨more, rfl⟩ := Nat.exists_eq_add_of_le' early
    rw [Function.iterate_add_apply]
    exact (settled.stays more).symm
  · obtain ⟨more, rfl⟩ := Nat.exists_eq_add_of_le' late
    rw [Function.iterate_add_apply]
    exact settled'.stays more

end Round
end Quidz.Library
