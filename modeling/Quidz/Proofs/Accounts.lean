import Quidz.Proofs.Lifecycle

/-! The report of a pass against the store it leaves. What is reported is what the counters
moved by, how many deliveries were settled in each way, how many effects were recorded and
how many attempts were spent, over any number of passes. -/

namespace Quidz.Proofs

open Library (Table)

variable {T R C : Type} [Seconds T] (rt : Runtime T R)

/-- What a report says a counter has moved by. -/
def counted (report : DrainReport) : Metric → Nat
  | .applied => report.applied
  | .deduped => report.noopDuplicate
  | .parked => report.parked
  | .deadLettered => report.deadLettered
  | _ => 0

/-- What a report says has been settled in a state. -/
def settledIn (report : DrainReport) : DeliveryState → Nat
  | .applied => report.applied
  | .duplicate => report.noopDuplicate
  | .deadLettered => report.deadLettered
  | _ => 0

/-- The attempts that have failed, of all deliveries together. -/
def attemptsOf (db : Db T) : Nat := (db.deliveries.rows.map Delivery.attempts).sum

structure Accounts (before after : Db T) (report : DrainReport) : Prop where
  counters : ∀ name, after.counter (.metric name) = before.counter (.metric name) + counted report name
  settled : ∀ state, state.pending = false → (idsIn state after).length = (idsIn state before).length + settledIn report state
  effects : after.effects.rows.length = before.effects.rows.length + report.applied
  attempts : attemptsOf after = attemptsOf before + (report.retried + report.deadLettered)
  deliveries : after.deliveries.rows.length = before.deliveries.rows.length

namespace Accounts

omit [Seconds T] in
theorem refl (db : Db T) : Accounts db db {} := by
  constructor
  · intro name
    cases name <;> simp [counted]
  · intro state _
    cases state <;> simp [settledIn]
  all_goals rfl

omit [Seconds T] in
theorem trans {first second third : Db T} {report other : DrainReport} (here : Accounts first second report)
    (further : Accounts second third other) : Accounts first third (report.merge other) := by
  constructor
  · intro name
    rw [further.counters, here.counters]
    cases name <;> simp [counted, DrainReport.merge, Int.add_assoc]
  · intro state final
    rw [further.settled state final, here.settled state final]
    cases state <;> simp [settledIn, DrainReport.merge, Nat.add_assoc]
  · rw [further.effects, here.effects, Nat.add_assoc]
    rfl
  · rw [further.attempts, here.attempts]
    simp only [DrainReport.merge]
    omega
  · rw [further.deliveries, here.deliveries]

section Change
omit [Seconds T]
variable {db after : Db T} {id : Str} {row : Delivery T} {change : Delivery T → Delivery T} {keeps} {report : DrainReport}

/-- A pending delivery is written to: it is settled in one of the states, or left pending. -/
theorem changed (found : db.deliveries.find? id = some row) (pending : row.state.pending = true)
    (deliveries : after.deliveries = db.deliveries.modify id change keeps)
    (counters : ∀ name, after.counter (.metric name) = db.counter (.metric name) + counted report name)
    (settles : ∀ state, state.pending = false → settledIn report state = if (change row).state = state then 1 else 0)
    (effects : after.effects.rows.length = db.effects.rows.length + report.applied)
    (attempts : (change row).attempts = row.attempts + (report.retried + report.deadLettered)) : Accounts db after report := by
  obtain ⟨earlier, later, before, rows⟩ := Table.modify_split found change keeps
  refine ⟨counters, fun state final => ?_, effects, ?_, by rw [deliveries, before, rows]; simp⟩
  · have unsettled := unsettled_of_pending pending final
    rw [settles state final]
    split
    next becomes => rw [(idsIn_enter found deliveries unsettled becomes).length_eq]; rfl
    next other => rw [idsIn_keep found deliveries unsettled other]; rfl
  · rw [attemptsOf, attemptsOf, deliveries, before, rows]
    simp only [List.map_append, List.map_cons, List.sum_append, List.sum_cons, attempts]
    omega

end Change

variable {rt} {policy : RetryPolicy T} {now : T} {row : Selected}

variable (policy now) in
theorem settle_counted (id : Str) (was : DeliveryState) (outcome : ApplyOutcome) (db : Db T) (name : Metric) :
    (settle policy id was outcome now db).2.counter (.metric name) =
      db.counter (.metric name) + counted (settle policy id was outcome now db).1 name := by
  cases outcome with
  | parked =>
    simp only [settle]
    split
    next => cases name <;> simp [counted]
    next => cases name <;> simp [counted]
  | _ => cases name <;> simp [settle, counted]

theorem attempted {db after : Db T} {fault : Option Exc} {report : DrainReport} (stored : Stored Held db row)
    (answered : Attempted rt policy now fault row db (.ok report) after) : Accounts db after report := by
  obtain ⟨held, found, _, _, _, pending⟩ := stored
  generalize result : (Except.ok report : Except Exc DrainReport) = answer at answered
  cases answered with
  | @delivered event outcome reached sound decoded delivered =>
    obtain rfl := Except.ok.inj result
    have deliveries := settle_deliveries policy now row.deliveryId row.state outcome reached
    have effects := settle_effects policy now row.deliveryId row.state outcome reached
    have counter := settle_counted policy now row.deliveryId row.state outcome reached
    rw [delivered.deliveries] at deliveries
    simp only [delivered.counter] at counter
    refine changed found pending deliveries counter (fun state final => ?_) ?_ ?_
    · cases outcome with
      | rejected => cases delivered
      | parked => simp only [settle]; split <;> cases state <;> first | rfl | cases final
      | _ => cases state <;> rfl
    · rw [effects]
      cases outcome with
      | rejected => cases delivered
      | applied => rw [(Table.insert?_eq_some.mp delivered.extended.inserted).2]; simp [settle]
      | parked =>
        rw [delivered.unapplied (by decide)]
        simp only [settle]
        split <;> rfl
      | noopDuplicate => rw [delivered.unapplied (by decide)]; rfl
    · cases outcome with
      | parked => simp only [settle]; split <;> rfl
      | _ => rfl
  | _ => cases result

theorem handled {pass : Pass T R} (stored : Stored Held pass.db row) (exc : Exc) : ∃ report,
    (handle rt policy now row exc pass).report = pass.report.merge report ∧
      Accounts pass.db (handle rt policy now row exc pass).db report := by
  obtain ⟨held, found, _, attempts, _, pending⟩ := stored
  have deliveries := handle_deliveries rt policy now row exc pass
  have effects := handle_effects rt policy now row exc pass
  have counter := handle_counter rt policy now row exc pass
  cases delay : retryDelay rt policy row exc pass.budgetUsed pass.rng with
  | some delay' =>
    rw [delay] at deliveries
    refine ⟨{ retried := 1 }, ?_, changed found pending deliveries (fun name => ?_) (fun state final => ?_) ?_ ?_⟩
    · unfold retryDelay at delay
      unfold handle
      split at delay
      next retries => simp [retries]
      next => cases delay
    · rw [counter, delay]
      cases name <;> simp [counted]
    · cases state <;> first | rfl | cases final
    · rw [effects]
      rfl
    · simp [handledRow, attempts]
  | none =>
    rw [delay] at deliveries
    refine ⟨{ deadLettered := 1 }, ?_, changed found pending deliveries (fun name => ?_) (fun state final => ?_) ?_ ?_⟩
    · unfold retryDelay at delay
      unfold handle
      split at delay
      next => cases delay
      next gives_up => simp [gives_up]
    · rw [counter, delay]
      cases name <;> simp [counted]
    · cases state <;> rfl
    · rw [effects]
      rfl
    · simp [handledRow, attempts]

variable (rt policy now) in
theorem drainRow (faults : Str → Option Exc) {pass : Pass T R} (stored : Stored Held pass.db row) : ∃ report,
    (Quidz.drainRow rt policy now faults pass row).report = pass.report.merge report ∧
      Accounts pass.db (Quidz.drainRow rt policy now faults pass row).db report := by
  unfold Quidz.drainRow
  rcases answered : attempt rt policy now (faults row.deliveryId) row pass.db with ⟨exc | report, after⟩
  · dsimp only
    rw [attempt_error rt policy now answered]
    exact handled stored exc
  · exact ⟨report, rfl, attempted stored (attempt_attempted rt policy now answered)⟩

omit [Seconds T] in
theorem merge_assoc (first second third : DrainReport) : (first.merge second).merge third = first.merge (second.merge third) := by
  simp only [DrainReport.merge, Nat.add_assoc]

omit [Seconds T] in
theorem merge_empty (report : DrainReport) : report.merge {} = report ∧ DrainReport.merge {} report = report := by
  simp [DrainReport.merge]

variable (rt policy now) in
/-- No row of a pass is in the way of another. -/
theorem rows (faults : Str → Option Exc) {rows : List Selected} {pass : Pass T R}
    (distinct : (rows.map Selected.deliveryId).Nodup) (stored : ∀ row ∈ rows, Stored Held pass.db row) : ∃ report,
      (rows.foldl (Quidz.drainRow rt policy now faults) pass).report = pass.report.merge report ∧
        Accounts pass.db (rows.foldl (Quidz.drainRow rt policy now faults) pass).db report := by
  induction rows generalizing pass with
  | nil => exact ⟨{}, (merge_empty _).1.symm, .refl _⟩
  | cons row rest ih =>
    rw [List.map_cons, List.nodup_cons] at distinct
    obtain ⟨here, later⟩ := List.forall_mem_cons.mp stored
    obtain ⟨report, merged, accounts⟩ := drainRow rt policy now faults here
    have frame := drainRow_frame rt policy now faults row pass
    have still : ∀ other ∈ rest, Stored Held (Quidz.drainRow rt policy now faults pass row).db other := fun other member =>
      frame.stored (fun same => distinct.1 (same ▸ List.mem_map_of_mem member)) (later other member)
    obtain ⟨report', merged', accounts'⟩ := ih distinct.2 still
    refine ⟨report.merge report', ?_, accounts.trans accounts'⟩
    rw [List.foldl_cons, merged', merged, merge_assoc]

end Accounts

/-- The report of a pass accounts for all it did. -/
theorem drain_accounts (policy : RetryPolicy T) (now : T) (limit : Int) (rng : Option R) (faults : Str → Option Exc) (db : Db T) :
    Accounts db (drain rt policy now limit rng faults db).db (drain rt policy now limit rng faults db).report := by
  have stored : ∀ row ∈ selectDue db now limit, Stored Held db row := fun row member =>
    ((select_synced rt policy now limit rng faults db).stored row member).held
  obtain ⟨report, merged, accounts⟩ := Accounts.rows rt policy now faults (selectDue_nodup db now limit)
    (show ∀ row ∈ _, Stored Held (Pass.mk db (budgetUsed db now) (rng.getD (jitterSource rt policy)) {}).db row from stored)
  rw [(Accounts.merge_empty report).2] at merged
  change (drain rt policy now limit rng faults db).report = report at merged
  rw [merged]
  exact accounts

theorem idlePass_accounts (clock : Clock T C) (policy : RetryPolicy T) (faults : Str → Option Exc) {db : Db T}
    {idling : Idling T R C} (accounts : Accounts db idling.db idling.total) :
    Accounts db (idlePass rt clock policy faults idling).db (idlePass rt clock policy faults idling).total := by
  have passed := accounts.trans
    (drain_accounts rt policy (clock.now idling.clock).1 defaultLimit (some idling.rng) faults idling.db)
  unfold idlePass
  split
  next =>
    dsimp only
    split
    next => exact passed
    next => split <;> exact passed
  next => exact accounts

/-- What `drain_until_idle` reports is what the counters moved by and what was settled, over
all of its passes. -/
theorem idle_accounts (clock : Clock T C) (policy : RetryPolicy T) (faults : Str → Option Exc) (maxPasses : Nat) (start : C)
    (db : Db T) : Accounts db (drainUntilIdle rt clock policy faults maxPasses start db).db
      (drainUntilIdle rt clock policy faults maxPasses start db).total := by
  unfold drainUntilIdle
  induction maxPasses with
  | zero => exact .refl db
  | succ passes ih =>
    rw [Function.iterate_succ_apply']
    exact idlePass_accounts rt clock policy faults ih

end Quidz.Proofs
