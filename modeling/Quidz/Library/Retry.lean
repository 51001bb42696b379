import Mathlib.Data.List.Perm.Subperm
import Mathlib.Logic.Function.Iterate

/-! A queue of steps, each of which applies, has to wait, or is refused for good.
What waits is tried again after the others. Everything is applied in any order of the
queue where no step is ever refused and the waiting never come to a standstill, which
may be shown of an abstract step that the steps refine. -/

namespace Quidz.Library

universe u v

inductive Verdict (σ : Type u) where
  | applied (after : σ)
  | parked
  | refused

namespace Retry
variable {σ : Type u} {α : Type v} (step : σ → α → Verdict σ)

/-- One turn of the queue: the state after it, and what still waits. -/
def sweep (state : σ) : List α → σ × List α
  | [] => (state, [])
  | item :: rest =>
    match step state item with
    | .applied after => sweep after rest
    | .parked => ((sweep state rest).1, item :: (sweep state rest).2)
    | .refused => sweep state rest

/-- A turn for each item of the queue, which is more than any of them needs. -/
def settle (state : σ) (queue : List α) : σ × List α :=
  (fun current => sweep step current.1 current.2)^[queue.length] (state, queue)

/-- The state after the items were applied in a row, the first of the list last. -/
inductive Applied (start : σ) : List α → σ → Prop where
  | nil : Applied start [] start
  | cons {done state item after} (before : Applied start done state) (applies : step state item = .applied after) :
      Applied start (item :: done) after

variable {step}

theorem Applied.trans {start middle after : σ} {done more : List α} (before : Applied step start done middle)
    (further : Applied step middle more after) : Applied step start (more ++ done) after := by
  induction further with
  | nil => exact before
  | cons _ applies ih => exact ih.cons applies

theorem Applied.unique {start one other : σ} {done : List α} (first : Applied step start done one)
    (second : Applied step start done other) : one = other := by
  induction first generalizing other with
  | nil =>
    cases second
    rfl
  | cons before applies ih =>
    cases second with
    | cons before' applies' =>
      rw [ih before', applies'] at applies
      cases applies
      rfl

theorem Applied.of_append {start after : σ} {more done : List α} (applied : Applied step start (more ++ done) after) :
    ∃ state, Applied step start done state ∧ Applied step state more after := by
  induction more generalizing after with
  | nil => exact ⟨after, applied, .nil⟩
  | cons item more ih =>
    cases applied with
    | cons before applies =>
      obtain ⟨state, first, further⟩ := ih before
      exact ⟨state, first, further.cons applies⟩

/-- What every step keeps is kept along a row of them. -/
theorem Applied.keeps {start after : σ} {done : List α} (kept : σ → Prop) (applied : Applied step start done after)
    (initial : kept start) (steps : ∀ {state item after}, kept state → step state item = .applied after → kept after) :
    kept after := by
  induction applied with
  | nil => exact initial
  | cons _ applies ih => exact steps ih applies

theorem moved_behind (more done waiting : List α) : (more ++ done ++ waiting).Perm (done ++ (more ++ waiting)) := by
  rw [← List.append_assoc]
  exact List.perm_append_comm.append_right waiting

variable (step) in
/-- What a turn applied, beside what still waits, was in the queue. -/
theorem sweep_applied (state : σ) (queue : List α) : ∃ more, Applied step state more (sweep step state queue).1 ∧
    (more ++ (sweep step state queue).2).Subperm queue := by
  induction queue generalizing state with
  | nil => exact ⟨[], .nil, List.Subperm.refl _⟩
  | cons item rest ih =>
    unfold sweep
    split
    next after applies =>
      obtain ⟨more, reached, within⟩ := ih after
      refine ⟨more ++ [item], (Applied.nil.cons applies).trans reached, ?_⟩
      have moved : (more ++ [item] ++ (sweep step after rest).2).Perm (item :: (more ++ (sweep step after rest).2)) := by
        rw [List.append_assoc]
        exact List.perm_middle
      exact moved.subperm.trans ((List.subperm_cons item).mpr within)
    next =>
      obtain ⟨more, reached, within⟩ := ih state
      exact ⟨more, reached, List.perm_middle.subperm.trans ((List.subperm_cons item).mpr within)⟩
    next =>
      obtain ⟨more, reached, within⟩ := ih state
      exact ⟨more, reached, within.trans (List.sublist_cons_self item rest).subperm⟩

variable (step) in
theorem sweep_length (state : σ) (queue : List α) : (sweep step state queue).2.length ≤ queue.length := by
  obtain ⟨more, _, within⟩ := sweep_applied step state queue
  have shorter := within.length_le
  rw [List.length_append] at shorter
  omega

/-- A turn that leaves the queue as long as it was found every item waiting. -/
theorem sweep_stuck {state : σ} {queue : List α} (stuck : (sweep step state queue).2.length = queue.length) :
    sweep step state queue = (state, queue) ∧ ∀ item ∈ queue, step state item = .parked := by
  induction queue with
  | nil => exact ⟨rfl, nofun⟩
  | cons item rest ih =>
    have shorter (state : σ) := sweep_length step state rest
    unfold sweep at stuck ⊢
    split at stuck
    next after applies =>
      have := shorter after
      rw [List.length_cons] at stuck
      omega
    next waits =>
      obtain ⟨same, all⟩ := ih (by simpa using stuck)
      rw [same]
      exact ⟨rfl, List.forall_mem_cons.mpr ⟨waits, all⟩⟩
    next =>
      have := shorter state
      rw [List.length_cons] at stuck
      omega

theorem settle_waits (state : σ) (queue : List α) :
    ∀ item ∈ (settle step state queue).2, step (settle step state queue).1 item = .parked := by
  -- A turn that is not the last yet shortens the queue.
  have turns (n : Nat) : let current := (fun current : σ × List α => sweep step current.1 current.2)^[n] (state, queue)
      current.2.length + n ≤ queue.length ∨ (sweep step current.1 current.2).2.length = current.2.length := by
    induction n with
    | zero => exact .inl (Nat.le_refl _)
    | succ n ih =>
      simp only [Function.iterate_succ_apply'] at ih ⊢
      generalize (fun current : σ × List α => sweep step current.1 current.2)^[n] (state, queue) = current at ih ⊢
      by_cases stuck : (sweep step current.1 current.2).2.length = current.2.length
      · rw [(sweep_stuck stuck).1]
        exact .inr stuck
      · have shorter := sweep_length step current.1 current.2
        have within := ih.resolve_right stuck
        exact .inl (by omega)
  have stuck : (sweep step (settle step state queue).1 (settle step state queue).2).2.length =
      (settle step state queue).2.length := by
    rcases turns queue.length with within | stuck
    · have empty : (settle step state queue).2 = [] := List.length_eq_zero_iff.mp (by unfold settle; omega)
      rw [empty]
      rfl
    · exact stuck
  exact (sweep_stuck stuck).2

variable (step) in
theorem turns_applied (state : σ) (queue : List α) (n : Nat) :
    let current := (fun current : σ × List α => sweep step current.1 current.2)^[n] (state, queue)
    ∃ more, Applied step state more current.1 ∧ (more ++ current.2).Subperm queue := by
  induction n with
  | zero => exact ⟨[], .nil, List.Subperm.refl _⟩
  | succ n ih =>
    obtain ⟨more, reached, within⟩ := ih
    simp only [Function.iterate_succ_apply']
    generalize (fun current : σ × List α => sweep step current.1 current.2)^[n] (state, queue) = current at reached within ⊢
    obtain ⟨further, after, inside⟩ := sweep_applied step current.1 current.2
    refine ⟨further ++ more, reached.trans after, ?_⟩
    exact (moved_behind further more _).subperm.trans (((List.subperm_append_left more).mpr inside).trans within)

theorem sweep_append {start state : σ} {done : List α} (before : Applied step start done state) (queue : List α) :
    sweep step start (done.reverse ++ queue) = sweep step state queue := by
  induction before generalizing queue with
  | nil => rfl
  | cons before applies ih =>
    rw [List.reverse_cons, List.append_assoc, ih]
    simp only [List.cons_append, List.nil_append, sweep, applies]

theorem settle_behind {start state : σ} {rest queue : List α} (first : sweep step start queue = sweep step state rest) :
    ∃ more, Applied step state more (settle step start queue).1 ∧ more.Subperm rest := by
  obtain ⟨more, reached, within⟩ := sweep_applied step state rest
  have least : more.Subperm rest := (List.sublist_append_left _ _).subperm.trans within
  cases queue with
  | nil =>
    have same : start = (sweep step state rest).1 := congrArg Prod.fst first
    refine ⟨more, ?_, least⟩
    rw [← same] at reached
    exact reached
  | cons item queue =>
    unfold settle
    rw [List.length_cons, Function.iterate_succ_apply]
    simp only [first]
    obtain ⟨further, after, inside⟩ := turns_applied step (sweep step state rest).1 (sweep step state rest).2 queue.length
    refine ⟨further ++ more, reached.trans after, ?_⟩
    have left : further.Subperm (sweep step state rest).2 := (List.sublist_append_left _ _).subperm.trans inside
    exact (List.perm_append_comm.subperm.trans ((List.subperm_append_left more).mpr left)).trans within

/-- What was applied in a row at the front of the queue stays applied. -/
theorem settle_continues {start state : σ} {done : List α} (before : Applied step start done state) (rest : List α) :
    ∃ more, Applied step state more (settle step start (done.reverse ++ rest)).1 ∧ more.Subperm rest :=
  settle_behind (sweep_append before rest)

/-- A step that is refused right after the first ones were applied is lost for good. -/
theorem settle_refused {start state : σ} {done : List α} {item : α} (before : Applied step start done state)
    (refuses : step state item = .refused) (rest : List α) :
    ∃ more, Applied step state more (settle step start (done.reverse ++ item :: rest)).1 ∧ more.Subperm rest := by
  apply settle_behind
  rw [sweep_append before]
  simp only [sweep, refuses]

/-- No step is refused on the way to `all`, and the waiting never come to a
standstill. -/
structure Tolerant (step : σ → α → Verdict σ) (start : σ) (all : List α) : Prop where
  unrefused {state done item} : Applied step start done state → (item :: done).Subperm all → step state item ≠ .refused
  progress {state done waiting} : Applied step start done state → (done ++ waiting).Perm all → waiting ≠ [] →
    ∃ item ∈ waiting, step state item ≠ .parked

section Tolerance
variable {start : σ} {all : List α}

theorem Tolerant.sweep (tolerant : Tolerant step start all) {state : σ} {done queue : List α}
    (before : Applied step start done state) (within : (done ++ queue).Subperm all) :
    ∃ more, Applied step start (more ++ done) (Retry.sweep step state queue).1 ∧
      (more ++ (Retry.sweep step state queue).2).Perm queue := by
  induction queue generalizing state done with
  | nil => exact ⟨[], before, List.Perm.refl _⟩
  | cons item rest ih =>
    have moved : (done ++ item :: rest).Perm (item :: done ++ rest) := List.perm_middle
    have first : (item :: done).Subperm all :=
      (List.sublist_append_left (item :: done) rest).subperm.trans (moved.symm.subperm.trans within)
    have later : (done ++ rest).Subperm all :=
      ((List.sublist_cons_self item rest).append_left done).subperm.trans within
    have unrefused := tolerant.unrefused before first
    unfold Retry.sweep
    split
    next after applies =>
      obtain ⟨more, reached, same⟩ := ih (before.cons applies) (moved.symm.subperm.trans within)
      refine ⟨more ++ [item], by simp [reached], ?_⟩
      have front : (more ++ [item] ++ (Retry.sweep step after rest).2).Perm
          (item :: (more ++ (Retry.sweep step after rest).2)) := by
        rw [List.append_assoc]
        exact List.perm_middle
      exact front.trans (same.cons item)
    next =>
      obtain ⟨more, reached, same⟩ := ih before later
      exact ⟨more, reached, List.perm_middle.trans (same.cons item)⟩
    next refuses => exact absurd refuses unrefused

/-- Whatever the order of the queue, everything is applied. -/
theorem Tolerant.settle (tolerant : Tolerant step start all) {queue : List α} (order : queue.Perm all) :
    ∃ done, done.Perm all ∧ Applied step start done (Retry.settle step start queue).1 := by
  obtain ⟨done, reached, same⟩ : ∃ done, Applied step start done (Retry.settle step start queue).1 ∧
      (done ++ (Retry.settle step start queue).2).Perm all := by
    unfold Retry.settle
    generalize queue.length = n
    induction n with
    | zero => exact ⟨[], .nil, order⟩
    | succ n ih =>
      obtain ⟨done, reached, same⟩ := ih
      rw [Function.iterate_succ_apply']
      obtain ⟨more, further, inside⟩ := tolerant.sweep reached same.subperm
      exact ⟨more ++ done, further, (moved_behind more done _).trans ((inside.append_left done).trans same)⟩
  have finished : (Retry.settle step start queue).2 = [] := by
    by_contra unfinished
    obtain ⟨item, member, moves⟩ := tolerant.progress reached same unfinished
    exact moves (settle_waits start queue item member)
  rw [finished, List.append_nil] at same
  exact ⟨done, same, reached⟩

end Tolerance

section Refinement
universe w
variable {τ : Type w} {step' : τ → α → Verdict τ} {start : σ} {start' : τ} {related : σ → τ → List α → Prop} {all : List α}

/-- Two verdicts of one kind, on related states where they applied. -/
inductive Matches (related : σ → τ → Prop) : Verdict σ → Verdict τ → Prop where
  | applied {after after'} (both : related after after') : Matches related (.applied after) (.applied after')
  | parked : Matches related .parked .parked
  | refused : Matches related .refused .refused

/-- On the way to `all` a step does what the abstract one does. -/
structure Refines (step : σ → α → Verdict σ) (step' : τ → α → Verdict τ) (start : σ) (start' : τ)
    (related : σ → τ → List α → Prop) (all : List α) : Prop where
  starts : related start start' []
  steps {state state' done item} : related state state' done → Applied step' start' done state' →
    (item :: done).Subperm all →
    Matches (fun after after' => related after after' (item :: done)) (step state item) (step' state' item)

variable (refines : Refines step step' start start' related all)
include refines

theorem Refines.lift {done : List α} {state' : τ} (applied : Applied step' start' done state') (within : done.Subperm all) :
    ∃ state, Applied step start done state ∧ related state state' done := by
  induction applied with
  | nil => exact ⟨start, .nil, refines.starts⟩
  | @cons done state' item after' before applies ih =>
    obtain ⟨state, reached, both⟩ := ih ((List.sublist_cons_self item done).subperm.trans within)
    have matched := refines.steps both before within
    rw [applies] at matched
    generalize answer : step state item = verdict at matched
    cases matched with
    | applied both => exact ⟨_, reached.cons answer, both⟩

theorem Refines.lower {done : List α} {state : σ} (applied : Applied step start done state) (within : done.Subperm all) :
    ∃ state', Applied step' start' done state' ∧ related state state' done := by
  induction applied with
  | nil => exact ⟨start', .nil, refines.starts⟩
  | @cons done state item after before applies ih =>
    obtain ⟨state', reached, both⟩ := ih ((List.sublist_cons_self item done).subperm.trans within)
    have matched := refines.steps both reached within
    rw [applies] at matched
    generalize answer : step' state' item = verdict at matched
    cases matched with
    | applied both => exact ⟨_, reached.cons answer, both⟩

theorem Refines.tolerant (tolerant : Tolerant step' start' all) : Tolerant step start all where
  unrefused before within refuses := by
    obtain ⟨state', reached, both⟩ := refines.lower before ((List.sublist_cons_self _ _).subperm.trans within)
    have matched := refines.steps both reached within
    have unrefused := tolerant.unrefused reached within
    rw [refuses] at matched
    generalize step' state' _ = verdict at matched unrefused
    cases matched with
    | refused => exact unrefused rfl
  progress {_ done waiting} before same unfinished := by
    obtain ⟨state', reached, both⟩ := refines.lower before ((List.sublist_append_left done waiting).subperm.trans same.subperm)
    obtain ⟨item, member, moves⟩ := tolerant.progress reached same unfinished
    refine ⟨item, member, fun waits => moves ?_⟩
    have front : (item :: done).Subperm all := by
      obtain ⟨front, behind, rfl⟩ := List.append_of_mem member
      have moved : (done ++ (front ++ item :: behind)).Perm (item :: done ++ (front ++ behind)) := by
        rw [← List.append_assoc, List.cons_append, ← List.append_assoc]
        exact List.perm_middle
      exact (List.sublist_append_left (item :: done) _).subperm.trans (moved.symm.trans same).subperm
    have matched := refines.steps both reached front
    rw [waits] at matched
    generalize step' state' item = verdict at matched
    cases matched with
    | parked => rfl

end Refinement
end Retry
end Quidz.Library
