import Mathlib.Data.List.Induction
import Mathlib.Order.MinMax
import Quidz.Proofs.Passes

/-! Two inboxes the worker cannot tell apart. They differ only in leases, headers and
the times of deliveries that are due already, and every pass and every loop of passes
does the same to both. -/

namespace Quidz.Proofs

open Library (Table)

variable {T R C : Type} [Seconds T] (rt : Runtime T R)

section Horizon

variable {seen now : T}

omit [Seconds T] in
theorem max_max_of_le [LinearOrder T] {seen now : T} (later : seen ≤ now) (t : T) : max now (max seen t) = max now t := by
  rw [← max_assoc, max_eq_left later]

omit [Seconds T] in
theorem min?_map [LinearOrder T] (seen : T) (times : List T) : (times.map (max seen)).min? = times.min?.map (max seen) := by
  induction times with
  | nil => rfl
  | cons t times ih =>
    rw [List.map_cons, List.min?_cons, List.min?_cons, ih]
    cases times.min? with
    | none => rfl
    | some least => exact congrArg some (max_min_distrib_left seen t least).symm

end Horizon

/-- What the worker can tell of a delivery from the reading `seen` on. -/
def shown (seen : T) (row : Delivery T) : Delivery T :=
  { row with headers := [], leaseExpiresAt := none, nextAttemptAt := row.nextAttemptAt.map (max seen) }

/-- A delivery that was never tried is due. -/
def Ready (seen : T) (row : Delivery T) : Prop :=
  row.state = .claimed → row.attempts = 0 → row.nextAttemptAt.map (max seen) = some seen

/-- The worker cannot tell the two stores apart. -/
structure Twins (seen : T) (first second : Db T) : Prop where
  deliveries : second.deliveries.rows.map (shown seen) = first.deliveries.rows.map (shown seen)
  effects : second.effects = first.effects
  payments : second.payments = first.payments
  counters : second.counters = first.counters
  ready : ∀ row ∈ first.deliveries.rows, Ready seen row

section Shown

variable {seen now : T} (later : seen ≤ now) (row : Delivery T)
include later

theorem shown_shown : shown now (shown seen row) = shown now row := by
  simp only [shown, Option.map_map, Delivery.mk.injEq, true_and, and_true]
  congr 1
  funext t
  exact max_max_of_le later t

theorem due_shown : due now (shown seen row) = due now row := by
  unfold due shown
  congr 2
  cases row.nextAttemptAt with
  | none => rfl
  | some t => simp [later]

theorem Ready.mono {row : Delivery T} (ready : Ready seen row) : Ready now row := by
  intro claimed fresh
  have here := ready claimed fresh
  cases next : row.nextAttemptAt with
  | none => simp [next] at here
  | some t =>
    simp only [next, Option.map_some, Option.some.injEq, sup_eq_left] at here ⊢
    exact here.trans later

theorem Twins.mono {first second : Db T} (twins : Twins seen first second) : Twins now first second := by
  refine ⟨?_, twins.effects, twins.payments, twins.counters, fun row member => (twins.ready row member).mono later⟩
  have same := congrArg (List.map (shown now)) twins.deliveries
  simpa only [List.map_map, Function.comp_def, shown_shown later] using same

end Shown

section Selection

theorem limited_map {α β : Type} (limit : Int) (f : α → β) (rows : List α) :
    (limited limit rows).map f = limited limit (rows.map f) := by
  unfold limited
  split
  · rfl
  · exact List.map_take

variable {seen now : T} {first second : Db T}

/-- The selection reads only what is shown. -/
theorem dueRows_shown (later : seen ≤ now) (db : Db T) : (dueRows db now).map (shown seen) =
    ((db.deliveries.rows.map (shown seen)).filter (due now)).insertionSort receivedBefore := by
  rw [List.filter_map, dueRows,
    List.map_insertionSort (r := receivedBefore) (s := receivedBefore) (shown seen) _ fun _ _ _ _ => Iff.rfl]
  congr 2
  exact List.filter_congr fun row _ => (due_shown later row).symm

theorem Twins.selectDue (twins : Twins seen first second) (later : seen ≤ now) (limit : Int) :
    Quidz.selectDue second now limit = Quidz.selectDue first now limit := by
  have same : (dueRows second now).map (shown seen) = (dueRows first now).map (shown seen) := by
    rw [dueRows_shown later, dueRows_shown later, twins.deliveries]
  have selected (rows : List (Delivery T)) : rows.map Delivery.selected = (rows.map (shown seen)).map Delivery.selected := by
    rw [List.map_map]
    rfl
  rw [selectDue_eq, selectDue_eq, limited_map, limited_map, selected (dueRows second now),
    selected (dueRows first now), same]

/-- Two times that differ have both passed. -/
theorem Twins.pendingTimes (twins : Twins seen first second) :
    (Quidz.pendingTimes second).min?.map (max seen) = (Quidz.pendingTimes first).min?.map (max seen) := by
  have blurred (db : Db T) : (Quidz.pendingTimes db).map (max seen) =
      ((db.deliveries.rows.map (shown seen)).filter fun row => row.state.pending).map fun row =>
        max seen (max (row.nextAttemptAt.getD 0) (row.parkedUntil.getD 0)) := by
    rw [List.filter_map, Quidz.pendingTimes, List.map_map, List.map_map]
    refine List.map_congr_left fun row _ => ?_
    simp only [Function.comp, shown]
    cases row.nextAttemptAt with
    | none => rfl
    | some t => simp [max_assoc]
  rw [← min?_map, ← min?_map, blurred, blurred, twins.deliveries]

end Selection

section Transactions

variable {rt} {seen now : T} {policy : RetryPolicy T} {first second : Db T}

/-- Application reads the ledger, and of the inbox only whether the delivery is stored. -/
theorem ledger_congruent (id : Str) (event : CanonicalEvent T) : Congruent (fun db rest : Db T =>
    rest.effects = db.effects ∧ rest.payments = db.payments ∧
      (rest.deliveries.find? id).isNone = (db.deliveries.find? id).isNone) id event := by
  refine ⟨?_, ?_, ?_⟩
  · intro db rest ⟨_, payments, _⟩
    simp only [openPayment, loadPayment, payments]
  · intro db rest ⟨effects, payments, known⟩
    have owner : (effectRow id event).deliveryId = id := rfl
    unfold insertEffect
    simp only [effects, owner, known]
    cases bindEffect (effectRow id event) with
    | error exc => exact .error exc
    | ok done =>
      cases db.effects.insert? (effectRow id event) with
      | none => exact .error _
      | some inserted =>
        by_cases absent : (db.deliveries.find? id).isNone
        · simp only [raiseIf, absent]
          exact .error _
        · simp only [raiseIf, absent]
          exact .ok ⟨rfl, payments, known⟩
  · intro db rest updated ⟨effects, payments, known⟩ _
    unfold upsertPayment
    cases bindPayment updated with
    | error exc => exact .error exc
    | ok done => exact .ok ⟨effects, by simp only [payments], known⟩

theorem Twins.find? (twins : Twins seen first second) (id : Str) :
    (second.deliveries.find? id).map (shown seen) = (first.deliveries.find? id).map (shown seen) := by
  have blurred (db : Db T) : (db.deliveries.find? id).map (shown seen) =
      (db.deliveries.rows.map (shown seen)).find? fun row => row.deliveryId = id := by
    rw [List.find?_map]
    rfl
  rw [blurred, blurred, twins.deliveries]

/-- An update that reads only what is shown keeps the stores alike. -/
theorem Twins.modify (twins : Twins seen first second) {after after' : Db T} {id : Str}
    {change : Delivery T → Delivery T} {keeps}
    (deliveries : after.deliveries = first.deliveries.modify id change keeps)
    (deliveries' : after'.deliveries = second.deliveries.modify id change keeps)
    (effects : after'.effects = after.effects) (payments : after'.payments = after.payments)
    (counters : after'.counters = after.counters)
    (shows : ∀ row, shown seen (change row) = shown seen (change (shown seen row)))
    (ready : ∀ row, Ready seen row → Ready seen (change row)) : Twins seen after after' := by
  have blurred (db : Db T) : (db.deliveries.modify id change keeps).rows.map (shown seen) =
      (db.deliveries.rows.map (shown seen)).map fun row => shown seen (if row.deliveryId = id then change row else row) := by
    rw [Table.rows_modify, List.map_map, List.map_map]
    refine List.map_congr_left fun row _ => ?_
    have same : (shown seen row).deliveryId = row.deliveryId := rfl
    simp only [Function.comp, same]
    split
    · exact shows row
    · exact (shown_shown le_rfl row).symm
  refine ⟨?_, effects, payments, counters, ?_⟩
  · rw [deliveries, deliveries', blurred, blurred, twins.deliveries]
  · intro row member
    rw [deliveries] at member
    rcases Table.mem_modify.mp member with ⟨old, inside, _, rfl⟩ | ⟨inside, _⟩
    · exact ready old (twins.ready old inside)
    · exact twins.ready row inside

theorem shown_settledRow (outcome : ApplyOutcome) (row : Delivery T) :
    shown seen (settledRow policy now outcome row) = shown seen (settledRow policy now outcome (shown seen row)) := by
  cases outcome with
  | parked => exact (shown_shown le_rfl (settledRow policy now .parked row)).symm
  | _ => rfl

theorem settledRow_ready (outcome : ApplyOutcome) (row : Delivery T) : Ready seen (settledRow policy now outcome row) := by
  intro claimed
  cases outcome
  all_goals cases claimed

theorem handledRow_ready (attempts : Nat) (reason : ReasonCode) (delay : Option T) (row : Delivery T) :
    Ready seen (handledRow now (attempts + 1) reason delay row) := by
  intro claimed fresh
  cases delay with
  | none => cases claimed
  | some delay => cases fresh

theorem Twins.settle (twins : Twins seen first second) (id : Str) (was : DeliveryState) (outcome : ApplyOutcome) :
    Twins seen (settle policy id was outcome now first).2 (settle policy id was outcome now second).2 := by
  apply twins.modify (settle_deliveries policy now id was outcome first) (settle_deliveries policy now id was outcome second)
  · simp only [settle_effects, twins.effects]
  · simp only [settle_payments, twins.payments]
  · exact settle_counters policy now id was outcome first twins.counters
  · exact shown_settledRow outcome
  · exact fun row _ => settledRow_ready outcome row

theorem Twins.attempt (twins : Twins seen first second) (fault : Option Exc) (row : Selected) :
    (attempt rt policy now fault row second).1 = (attempt rt policy now fault row first).1 ∧
      Twins seen (attempt rt policy now fault row first).2 (attempt rt policy now fault row second).2 := by
  unfold Quidz.attempt writeTx
  cases fault with
  | some exc => exact ⟨rfl, twins⟩
  | none =>
    cases decode rt row.provider row.raw with
    | error exc => exact ⟨rfl, twins⟩
    | ok event =>
      have known := congrArg Option.isNone (twins.find? row.deliveryId)
      rw [Option.isNone_map, Option.isNone_map] at known
      obtain ⟨same, kept⟩ := (ledger_congruent row.deliveryId event).applyDelivery ⟨twins.effects, twins.payments, known⟩
      rcases here : applyDelivery row.deliveryId event first with ⟨exc | outcome, after⟩
      all_goals rcases there : applyDelivery row.deliveryId event second with ⟨result, after'⟩
      all_goals
        rw [here, there] at same
        cases same
      · simp only [here, there]
        exact ⟨trivial, twins⟩
      · obtain ⟨effects, payments, _⟩ := kept outcome after here
        rw [there] at effects payments
        have delivered := applyDelivery_ok.mp here
        have delivered' := applyDelivery_ok.mp there
        have reached : Twins seen after after' := by
          refine ⟨?_, effects, payments, ?_, ?_⟩
          · rw [delivered.deliveries, delivered'.deliveries, twins.deliveries]
          · rw [delivered.counters, delivered'.counters, twins.counters]
          · rw [delivered.deliveries]
            exact twins.ready
        simp only [here, there]
        exact ⟨congrArg Except.ok (settle_report policy now _ _ _ _ _), reached.settle _ _ _⟩

end Transactions

section Passes

variable {rt} {seen now : T} {policy : RetryPolicy T}

/-- Two passes that have come equally far. -/
structure Abreast (seen : T) (first second : Pass T R) : Prop where
  db : Twins seen first.db second.db
  budgetUsed : second.budgetUsed = first.budgetUsed
  rng : second.rng = first.rng
  report : second.report = first.report

theorem Abreast.handle {first second : Pass T R} (abreast : Abreast seen first second) (row : Selected) (exc : Exc) :
    Abreast seen (handle rt policy now row exc first) (handle rt policy now row exc second) := by
  have deliveries := handle_deliveries rt policy now row exc second
  rw [abreast.budgetUsed, abreast.rng] at deliveries
  constructor
  · apply abreast.db.modify (handle_deliveries rt policy now row exc first) deliveries
    · simp only [handle_effects, abreast.db.effects]
    · simp only [handle_payments, abreast.db.payments]
    · unfold Quidz.handle
      simp only [abreast.budgetUsed]
      split <;> simp only [recordBudget, Db.setCounter, Db.bump, Db.updateDelivery_counters, abreast.db.counters]
    · intro stored
      cases retryDelay rt policy row exc first.budgetUsed first.rng <;> rfl
    · exact fun stored _ => handledRow_ready _ _ _ stored
  all_goals
    unfold Quidz.handle
    simp only [abreast.budgetUsed, abreast.rng, abreast.report]
    split <;> rfl

theorem Abreast.drainRow {first second : Pass T R} (abreast : Abreast seen first second) (faults : Str → Option Exc)
    (row : Selected) :
    Abreast seen (drainRow rt policy now faults first row) (drainRow rt policy now faults second row) := by
  obtain ⟨same, reached⟩ := abreast.db.attempt (faults row.deliveryId) row
  unfold Quidz.drainRow
  generalize attempt rt policy now (faults row.deliveryId) row first.db = answer at same reached ⊢
  generalize attempt rt policy now (faults row.deliveryId) row second.db = answer' at same reached ⊢
  obtain ⟨exc | report, after⟩ := answer
  all_goals
    obtain ⟨result, after'⟩ := answer'
    cases same
  · have failed : Abreast seen { first with db := after } { second with db := after' } :=
      ⟨reached, abreast.budgetUsed, abreast.rng, abreast.report⟩
    exact failed.handle row exc
  · exact ⟨reached, abreast.budgetUsed, abreast.rng, congrArg (DrainReport.merge · report) abreast.report⟩

variable (rt policy) in
theorem Twins.drain {first second : Db T} (twins : Twins seen first second) (later : seen ≤ now) (limit : Int)
    (rng : Option R) (faults : Str → Option Exc) :
    Abreast now (drain rt policy now limit rng faults first) (drain rt policy now limit rng faults second) := by
  have started : Abreast (T := T) (R := R) now
      { db := first, budgetUsed := budgetUsed first now, rng := rng.getD (jitterSource rt policy) }
      { db := second, budgetUsed := budgetUsed second now, rng := rng.getD (jitterSource rt policy) } :=
    ⟨twins.mono later, by simp only [budgetUsed, Db.counter, twins.counters], rfl, rfl⟩
  unfold Quidz.drain
  rw [twins.selectDue later]
  generalize Quidz.selectDue first now limit = rows
  induction rows using List.reverseRecOn with
  | nil => exact started
  | append_singleton rows row ih =>
    rw [List.foldl_append, List.foldl_append]
    exact ih.drainRow faults row

end Passes

section Loop

variable {clock : Clock T C} {reached : C → T}

/-- A clock that does not run backwards, with a time each of its states has
reached. -/
structure Steady (clock : Clock T C) (reached : C → T) : Prop where
  now : ∀ c, reached c ≤ (clock.now c).1 ∧ (clock.now c).1 ≤ reached (clock.now c).2
  sleep : ∀ c wait, 0 < wait → reached c ≤ reached (clock.sleep c wait)

/-- Two loops that have come equally far. -/
structure Paced (reached : C → T) (first second : Idling T R C) : Prop where
  db : Twins (reached first.clock) first.db second.db
  clock : second.clock = first.clock
  rng : second.rng = first.rng
  total : second.total = first.total
  running : second.running = first.running

/-- The loop waits alike for two times that are not told apart. -/
theorem wait_alike {seen reading due due' : T} (later : seen ≤ reading) (same : max seen due' = max seen due) :
    (0 < due' - reading ↔ 0 < due - reading) ∧ (0 < due - reading → due' = due) := by
  rw [Seconds.sub_pos, Seconds.sub_pos]
  have ahead {t : T} : reading < t ↔ reading < max seen t := by simp [later]
  constructor
  · rw [ahead, same, ← ahead]
  · intro waits
    have waits' : reading < due' := by rwa [ahead, same, ← ahead]
    rwa [max_eq_right (later.trans waits'.le), max_eq_right (later.trans waits.le)] at same

variable {rt} (steady : Steady clock reached) (policy : RetryPolicy T) (faults : Str → Option Exc)
include steady

theorem Paced.idlePass {first second : Idling T R C} (paced : Paced reached first second) :
    Paced reached (idlePass rt clock policy faults first) (idlePass rt clock policy faults second) := by
  obtain ⟨db, ticking, rng, total, running⟩ := paced
  unfold Quidz.idlePass
  rw [running, ticking, rng, total]
  cases first.running with
  | false => exact ⟨db, ticking, rng, total, running⟩
  | true =>
    obtain ⟨earlier, passed⟩ := steady.now first.clock
    have abreast := db.drain rt policy earlier defaultLimit (some first.rng) faults
    have times := abreast.db.pendingTimes
    simp only [↓reduceIte]
    generalize drain rt policy (clock.now first.clock).1 defaultLimit (some first.rng) faults first.db = pass at abreast times ⊢
    generalize drain rt policy (clock.now first.clock).1 defaultLimit (some first.rng) faults second.db = pass' at abreast times ⊢
    obtain ⟨drained, _, rng', report⟩ := abreast
    rw [rng', report]
    have advanced := drained.mono passed
    cases due : (pendingTimes pass.db).min? with
    | none =>
      rw [due, Option.map_none, Option.map_eq_none_iff] at times
      rw [times]
      exact ⟨advanced, rfl, rfl, rfl, rfl⟩
    | some t =>
      rw [due] at times
      obtain ⟨t', due', same⟩ := Option.map_eq_some_iff.mp times
      rw [due']
      obtain ⟨later, passed'⟩ := steady.now (clock.now first.clock).2
      obtain ⟨waits, equal⟩ := wait_alike (passed.trans later) same
      have reading := advanced.mono (later.trans passed')
      by_cases waiting : 0 < t - (clock.now (clock.now first.clock).2).1
      · simp only [waiting, ↓reduceIte, equal waiting]
        exact ⟨reading.mono (steady.sleep _ _ waiting), rfl, rfl, rfl, rfl⟩
      · simp only [mt waits.mp waiting, waiting, ↓reduceIte]
        exact ⟨reading, rfl, rfl, rfl, rfl⟩

variable (rt) in
theorem Twins.drainUntilIdle {seen : T} {first second : Db T} (twins : Twins seen first second) {start : C}
    (later : seen ≤ reached start) (maxPasses : Nat) :
    Paced reached (drainUntilIdle rt clock policy faults maxPasses start first)
      (drainUntilIdle rt clock policy faults maxPasses start second) := by
  unfold Quidz.drainUntilIdle
  induction maxPasses with
  | zero => exact ⟨twins.mono later, rfl, rfl, rfl, rfl⟩
  | succ maxPasses ih =>
    rw [Function.iterate_succ_apply', Function.iterate_succ_apply']
    exact ih.idlePass steady policy faults

end Loop
end Quidz.Proofs
