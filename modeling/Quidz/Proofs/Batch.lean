import Quidz.Connection
import Quidz.Proofs.Retries

/-! A pass whose statements can fail, from row to row. A row is absorbed when its
failure does not reach the rows behind it, and the pass comes to its end exactly if it
absorbs every row. -/

namespace Quidz.Proofs

variable {T R α : Type}

section Transactions
variable (faults : TxFaults) (statements : Statements T α)

/-- What `write_tx` does on a connection with no transaction open. -/
inductive Transacted (faults : TxFaults) (statements : Statements T α) (db : Db T) :
    Except Exc α → Connection T → Prop
  | unopened {message} (opening : faults.opening = some message) :
      Transacted faults statements db (raise .operationalError message) { db }
  | rolledBack {exc after} (opening : faults.opening = none) (raised : statements db = (.error exc, after)) :
      Transacted faults statements db (.error exc) { db }
  | committed {answer after} (opening : faults.opening = none) (answered : statements db = (.ok answer, after))
      (commit : faults.commit = none) : Transacted faults statements db (.ok answer) { db := after }
  | undone {answer after message} (opening : faults.opening = none) (answered : statements db = (.ok answer, after))
      (commit : faults.commit = some (message, false)) :
      Transacted faults statements db (raise .operationalError message) { db }
  | leftOpen {answer after message} (opening : faults.opening = none) (answered : statements db = (.ok answer, after))
      (commit : faults.commit = some (message, true)) :
      Transacted faults statements db (raise .operationalError message) { db := after, inTransaction := true }

theorem writeTx_transacted (db : Db T) : Transacted faults statements db
    (Connection.writeTx faults statements { db }).1 (Connection.writeTx faults statements { db }).2 := by
  unfold Connection.writeTx
  rw [if_neg Bool.false_ne_true]
  rcases opening : faults.opening with _ | message
  · rcases answered : statements db with ⟨exc | answer, after⟩
    · exact .rolledBack opening answered
    · rcases commit : faults.commit with _ | ⟨message, _ | _⟩
      · exact .committed opening answered commit
      · exact .undone opening answered commit
      · exact .leftOpen opening answered commit
  · exact .unopened opening

/-- A transaction that meets no fault answers as its body does. -/
theorem writeTx_quiet (db : Db T) :
    Connection.writeTx {} statements { db } = ((writeTx statements db).1, { db := (writeTx statements db).2 }) := by
  unfold Connection.writeTx Quidz.writeTx
  rcases statements db with ⟨_ | _, _⟩ <;> rfl

end Transactions

section Rows
variable [Seconds T] (rt : Runtime T R) (policy : RetryPolicy T) (now : T)

/-- A row whose first transaction answers so does not end the pass. -/
structure Absorbed (faults : RowFaults) (answer : Except Exc DrainReport) : Prop where
  /-- The `COMMIT`, where it is reached, does not leave its transaction open. -/
  closed : faults.attempt.opening = none → answer.isOk = true → ∀ message, faults.attempt.commit ≠ some (message, true)
  /-- No statement of the handler fails where there is a failure to handle. -/
  handled : faults.attempt.opening ≠ none ∨ answer.isOk = false ∨ faults.attempt.commit ≠ none → faults.handler = {}

/-- Every row is absorbed, each from the store that the rows before it leave. -/
def Spared (faults : Str → RowFaults) : List Selected → Batch T R → Prop
  | [], _ => True
  | row :: rest, batch =>
    Absorbed (faults row.deliveryId)
      (Connection.attempt rt policy now (faults row.deliveryId).attempt.body row batch.conn.db).1 ∧
    Spared faults rest (Connection.drainRow rt policy now (faults row.deliveryId) row batch).2

variable {rt policy now}

/-- The handler's own statements raise nothing, so its transaction goes through exactly
if none of them is hit. -/
theorem handler_transacted {faults : TxFaults} {row : Selected} {exc : Exc} {batch : Batch T R} {db : Db T}
    {answer : Except Exc (Pass T R)} {after : Connection T}
    (transacted : Transacted faults (Connection.handle rt policy now faults.body row exc batch) db answer after) :
    answer.isOk = true ∧ faults = {} ∧ after.inTransaction = false ∨ answer.isOk = false ∧ faults ≠ {} := by
  obtain ⟨opening', body, commit'⟩ := faults
  cases transacted with
  | unopened opening => exact .inr ⟨rfl, fun quiet => by rw [quiet] at opening; cases opening⟩
  | rolledBack opening raised =>
    refine .inr ⟨rfl, fun quiet => ?_⟩
    cases quiet
    cases raised
  | committed opening answered commit =>
    cases body with
    | some message => cases answered
    | none => exact .inl ⟨rfl, by rw [TxFaults.mk.injEq]; exact ⟨opening, rfl, commit⟩, rfl⟩
  | undone opening answered commit => exact .inr ⟨rfl, fun quiet => by rw [quiet] at commit; cases commit⟩
  | leftOpen opening answered commit => exact .inr ⟨rfl, fun quiet => by rw [quiet] at commit; cases commit⟩

variable (rt policy now)

/-- How a turn of the loop ends. -/
inductive Turned (faults : RowFaults) (row : Selected) (batch : Batch T R) (absorbed : Prop) :
    Except Exc Unit × Batch T R → Prop
  | onward {after : Batch T R} (holds : absorbed) (closed : after.conn.inTransaction = false)
      (attempted : after.attempted = row.deliveryId :: batch.attempted) : Turned faults row batch absorbed (.ok (), after)
  | ended {exc : Exc} {after : Batch T R} (fails : ¬absorbed) : Turned faults row batch absorbed (.error exc, after)

/-- A failure that closed its transaction is absorbed as its handler's is. -/
theorem handler_turned (faults : RowFaults) (row : Selected) (exc : Exc) (db : Db T) (used : Int) (rng : R)
    (report reported : DrainReport) (attempted : List Str) {absorbed : Prop} (needed : absorbed ↔ faults.handler = {}) :
    Turned faults row ⟨⟨db, false⟩, used, rng, report, attempted⟩ absorbed
      (match Connection.writeTx faults.handler (Connection.handle rt policy now faults.handler.body row exc
          ⟨⟨db, false⟩, used, rng, reported, row.deliveryId :: attempted⟩) ⟨db, false⟩ with
        | (.ok after, conn) =>
          (.ok (), ⟨conn, after.budgetUsed, after.rng, after.report, row.deliveryId :: attempted⟩)
        | (.error exc, conn) => (.error exc, ⟨conn, used, rng, reported, row.deliveryId :: attempted⟩)) := by
  have settled := handler_transacted (writeTx_transacted faults.handler
    (Connection.handle rt policy now faults.handler.body row exc
      ⟨⟨db, false⟩, used, rng, reported, row.deliveryId :: attempted⟩) db)
  generalize Connection.writeTx faults.handler _ _ = result at settled ⊢
  obtain ⟨exc | after, conn⟩ := result
  · rcases settled with ⟨ok, _⟩ | ⟨_, hit⟩
    · cases ok
    · exact .ended fun holds => hit (needed.mp holds)
  · rcases settled with ⟨_, quiet, still⟩ | ⟨error, _⟩
    · exact .onward (needed.mpr quiet) still rfl
    · cases error

theorem drainRow_turned (faults : RowFaults) (row : Selected) {batch : Batch T R} (closed : batch.conn.inTransaction = false) :
    Turned faults row batch (Absorbed faults (Connection.attempt rt policy now faults.attempt.body row batch.conn.db).1)
      (Connection.drainRow rt policy now faults row batch) := by
  obtain ⟨⟨db, _⟩, used, rng, report, attempted⟩ := batch
  obtain rfl := closed
  unfold Connection.drainRow
  dsimp only
  generalize report.merge _ = reported
  have transacted := writeTx_transacted faults.attempt (Connection.attempt rt policy now faults.attempt.body row) db
  have handled {exc : Exc} {absorbed : Prop} (needed : absorbed ↔ faults.handler = {}) :=
    handler_turned rt policy now faults row exc db used rng report reported attempted needed
  generalize Connection.writeTx faults.attempt _ _ = result at transacted ⊢
  obtain ⟨answer, conn⟩ := result
  dsimp only at transacted
  cases transacted with
  | committed opening answered commit =>
    rw [answered]
    refine .onward ⟨fun _ _ message left => ?_, fun failed => ?_⟩ rfl rfl
    · rw [commit] at left
      cases left
    · rcases failed with unopened | rolledBack | uncommitted
      · exact absurd opening unopened
      · cases rolledBack
      · exact absurd commit uncommitted
  | leftOpen opening answered commit =>
    rw [answered]
    exact .ended fun absorbed => absorbed.closed opening rfl _ commit
  | unopened opening =>
    refine handled ⟨fun absorbed => absorbed.handled (.inl ?_), fun quiet => ⟨fun unopened => ?_, fun _ => quiet⟩⟩
    · rw [opening]
      exact Option.some_ne_none _
    · rw [opening] at unopened
      cases unopened
  | rolledBack opening raised =>
    rw [raised]
    refine handled ⟨fun absorbed => absorbed.handled (.inr (.inl rfl)), fun quiet => ⟨fun _ ok => ?_, fun _ => quiet⟩⟩
    cases ok
  | undone opening answered commit =>
    refine handled ⟨fun absorbed => absorbed.handled (.inr (.inr ?_)), fun quiet => ⟨fun _ _ message left => ?_, fun _ => quiet⟩⟩
    · rw [commit]
      exact Option.some_ne_none _
    · rw [commit] at left
      cases left

theorem drainRows_spared (faults : Str → RowFaults) (rows : List Selected) (batch : Batch T R)
    (closed : batch.conn.inTransaction = false) :
    let run := Connection.drainRows rt policy now faults rows batch
    (run.1 = .ok () ↔ Spared rt policy now faults rows batch) ∧
    (run.1 = .ok () → run.2.conn.inTransaction = false ∧
      run.2.attempted = (rows.map Selected.deliveryId).reverse ++ batch.attempted) := by
  induction rows generalizing batch with
  | nil => exact ⟨iff_of_true rfl trivial, fun _ => ⟨closed, rfl⟩⟩
  | cons row rest ih =>
    have turned := drainRow_turned rt policy now (faults row.deliveryId) row closed
    rw [Spared, Connection.drainRows]
    generalize Connection.drainRow rt policy now (faults row.deliveryId) row batch = turn at turned ⊢
    cases turned with
    | @onward after holds still attempted =>
      obtain ⟨ends, reaches⟩ := ih after still
      refine ⟨ends.trans (and_iff_right holds).symm, fun ok => ?_⟩
      obtain ⟨closed, tried⟩ := reaches ok
      refine ⟨closed, tried.trans ?_⟩
      rw [attempted, List.map_cons, List.reverse_cons, List.append_assoc, List.singleton_append]
    | ended fails =>
      refine ⟨iff_of_false (fun ok => ?_) fun spared => fails spared.1, fun ok => ?_⟩
      · cases ok
      · cases ok

end Rows

/-- A pass over a store, under any faults: it attempts every delivery it selected,
raises nothing and leaves no transaction open, exactly if it absorbs every row. -/
theorem batch_completed_iff [Seconds T] (rt : Runtime T R) (policy : RetryPolicy T) (now : T) (limit : Int) (rng : Option R)
    (faults : Str → RowFaults) (db : Db T) :
    let run := Connection.drain rt policy now limit rng faults db
    (run.1 = .ok () ∧ run.2.conn.inTransaction = false ∧
      ∀ row ∈ selectDue db now limit, row.deliveryId ∈ run.2.attempted) ↔
    Spared rt policy now faults (selectDue db now limit)
      { conn := { db }, budgetUsed := budgetUsed db now, rng := rng.getD (jitterSource rt policy) } := by
  obtain ⟨ends, reaches⟩ := drainRows_spared rt policy now faults (selectDue db now limit)
    { conn := { db }, budgetUsed := budgetUsed db now, rng := rng.getD (jitterSource rt policy) } rfl
  refine ⟨fun completed => ends.mp completed.1, fun spared => ?_⟩
  obtain ⟨closed, attempted⟩ := reaches (ends.mpr spared)
  refine ⟨ends.mpr spared, closed, fun row member => ?_⟩
  rw [Connection.drain, attempted, List.append_nil, List.mem_reverse]
  exact List.mem_map_of_mem member

section Refinement
variable [Seconds T] (rt : Runtime T R) (policy : RetryPolicy T) (now : T)

/-- Whatever fails in the first transactions of a batch, it stops nothing, as long as
each is closed and no handler's fails. -/
theorem batch_completed (limit : Int) (rng : Option R) (faults : Str → RowFaults) (db : Db T)
    (closed : ∀ id message, (faults id).attempt.commit ≠ some (message, true)) (handled : ∀ id, (faults id).handler = {}) :
    let run := Connection.drain rt policy now limit rng faults db
    run.1 = .ok () ∧ run.2.conn.inTransaction = false ∧
      ∀ row ∈ selectDue db now limit, row.deliveryId ∈ run.2.attempted := by
  have spared (rows : List Selected) (batch : Batch T R) : Spared rt policy now faults rows batch := by
    induction rows generalizing batch with
    | nil => trivial
    | cons row rest ih => exact ⟨⟨fun _ _ => closed row.deliveryId, fun _ => handled row.deliveryId⟩, ih _⟩
  exact (batch_completed_iff rt policy now limit rng faults db).mpr (spared _ _)

/-- The batch a pass is, on a connection that has no transaction open. -/
def Batch.of (pass : Pass T R) (attempted : List Str) : Batch T R :=
  { conn := { db := pass.db }, budgetUsed := pass.budgetUsed, rng := pass.rng, report := pass.report, attempted }

theorem drainRow_pass (openings : Str → Option Str) (row : Selected) (pass : Pass T R) (attempted : List Str) :
    Connection.drainRow rt policy now { attempt := { opening := openings row.deliveryId } } row (Batch.of pass attempted) =
      (.ok (), Batch.of
        (drainRow rt policy now (fun id => (openings id).map (Exc.mk .operationalError)) pass row)
        (row.deliveryId :: attempted)) := by
  unfold Connection.drainRow Connection.counted drainRow Batch.of
  cases opened : openings row.deliveryId with
  | some message =>
    simp only [opened, Option.map_some]
    rfl
  | none =>
    have first : Connection.writeTx {} (Connection.attempt rt policy now none row) { db := pass.db } =
        ((attempt rt policy now none row pass.db).1, { db := (attempt rt policy now none row pass.db).2 }) := writeTx_quiet _ _
    have body : attempt rt policy now none row pass.db = writeTx (Connection.attempt rt policy now none row) pass.db := rfl
    simp only [opened, Option.map_none, first, body, writeTx, Bool.false_eq_true, ne_eq, not_true_eq_false, or_self, if_false]
    rcases Connection.attempt rt policy now none row pass.db with ⟨exc | report, after⟩ <;> rfl

/-- Where nothing but a `BEGIN IMMEDIATE` fails, this is the pass of the other modules. -/
theorem drain_pass (limit : Int) (rng : Option R) (openings : Str → Option Str) (db : Db T) :
    Connection.drain rt policy now limit rng (fun id => { attempt := { opening := openings id } }) db =
      (.ok (), Batch.of (drain rt policy now limit rng (fun id => (openings id).map (Exc.mk .operationalError)) db)
        ((selectDue db now limit).map Selected.deliveryId).reverse) := by
  have rows (rows : List Selected) (pass : Pass T R) (attempted : List Str) :
      Connection.drainRows rt policy now (fun id => { attempt := { opening := openings id } }) rows
          (Batch.of pass attempted) =
        (.ok (), Batch.of
          (rows.foldl (drainRow rt policy now fun id => (openings id).map (Exc.mk .operationalError)) pass)
          ((rows.map Selected.deliveryId).reverse ++ attempted)) := by
    induction rows generalizing pass attempted with
    | nil => rfl
    | cons row rest ih =>
      rw [Connection.drainRows, drainRow_pass]
      refine (ih _ _).trans ?_
      rw [List.foldl_cons, List.map_cons, List.reverse_cons, List.append_assoc, List.singleton_append]
  unfold Connection.drain drain
  exact (rows _ { db, budgetUsed := budgetUsed db now, rng := rng.getD (jitterSource rt policy) } []).trans
    (by rw [List.append_nil])

end Refinement

/-- Two deliveries that are due at once. -/
def pair : Db Int :=
  (Shared.run authorizations { db := .empty }
    [.claim .stripe (str "evt_1") (Json.body (authorization 1000)) [] 0 30,
      .claim .stripe (str "evt_2") (Json.body (authorization 1000)) [] 1 30]).db

/-- A pass over both, of which the first meets these faults. -/
def meeting (faults : RowFaults) : Except Exc Unit × Batch Int Unit :=
  Connection.drain authorizations .standard 1 100 none (fun id => if id = str "stripe:evt_1" then faults else {}) pair

def locked : TxFaults := { opening := some (str "database is locked") }

def lockedRun : Except Exc Unit × Batch Int Unit := meeting { attempt := locked, handler := locked }

def openRun : Except Exc Unit × Batch Int Unit := meeting { attempt := { commit := some (str "disk I/O error", true) } }

/-- The pass ends before the second delivery, with what the handler raises when it finds
the database locked, or the transaction of the delivery still open. -/
theorem handler_stalls :
    (selectDue pair 1 100).map Selected.deliveryId = [str "stripe:evt_1", str "stripe:evt_2"] ∧
    lockedRun.1 = raise .operationalError (str "database is locked") ∧
    lockedRun.2.attempted = [str "stripe:evt_1"] ∧
    openRun.1 = raise .runtimeError (str "write_tx is already open on this connection; do not nest it") ∧
    openRun.2.attempted = [str "stripe:evt_1"] ∧ openRun.2.conn.inTransaction = true := by
  decide +kernel

end Quidz.Proofs
