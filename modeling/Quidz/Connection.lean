import Quidz.Inbox

/-! The worker's connection, whose statements can fail. A `BEGIN IMMEDIATE` that fails
opens no transaction, and a `COMMIT` that fails may leave one open. -/

namespace Quidz

variable {T R α : Type}

/-- The tables as the connection reads them. -/
structure Connection (T : Type) where
  db : Db T
  inTransaction : Bool := false

/-- The statements of a transaction that raise `OperationalError`, with its message. For
the `COMMIT`, whether the transaction is still open after it. -/
structure TxFaults where
  opening : Option Str := none
  body : Option Str := none
  commit : Option (Str × Bool) := none
  deriving DecidableEq

/-- The faults of the two transactions a delivery can cost. -/
structure RowFaults where
  attempt : TxFaults := {}
  handler : TxFaults := {}

/-- `write_tx`, statement by statement. -/
def Connection.writeTx (faults : TxFaults) (statements : Statements T α) (conn : Connection T) :
    Except Exc α × Connection T :=
  if conn.inTransaction then
    (raise .runtimeError (str "write_tx is already open on this connection; do not nest it"), conn)
  else
    match faults.opening with
    | some message => (raise .operationalError message, conn)
    | none =>
      match statements conn.db with
      | (.error exc, _) => (.error exc, conn)
      | (.ok answer, after) =>
        match faults.commit with
        | none => (.ok answer, { conn with db := after })
        | some (message, true) => (raise .operationalError message, { db := after, inTransaction := true })
        | some (message, false) => (raise .operationalError message, conn)

/-- What a pass carries from row to row, and the deliveries it has tried. -/
structure Batch (T R : Type) where
  conn : Connection T
  budgetUsed : Int
  rng : R
  report : DrainReport := {}
  attempted : List Str := []

namespace Connection
variable [Seconds T] (rt : Runtime T R) (policy : RetryPolicy T) (now : T)

/-- The body of the first transaction. Decoding executes no statement. -/
def attempt (fault : Option Str) (row : Selected) : Statements T DrainReport := fun db =>
  match decode rt row.provider row.raw with
  | .error exc => (.error exc, db)
  | .ok event =>
    match fault with
    | some message => (raise .operationalError message, db)
    | none =>
      match applyDelivery row.deliveryId event db with
      | (.error exc, after) => (.error exc, after)
      | (.ok outcome, after) =>
        let (report, settled) := settle policy row.deliveryId row.state outcome now after
        (.ok report, settled)

/-- The body of the failure handler's transaction. -/
def handle (fault : Option Str) (row : Selected) (exc : Exc) (batch : Batch T R) : Statements T (Pass T R) := fun db =>
  match fault with
  | some message => (raise .operationalError message, db)
  | none =>
    let after := Quidz.handle rt policy now row exc
      { db, budgetUsed := batch.budgetUsed, rng := batch.rng, report := batch.report }
    (.ok after, after.db)

/-- What the body adds to the report when it runs to its end. The report is merged before
the `COMMIT`, and keeps what a `COMMIT` that fails undoes. -/
def counted (faults : TxFaults) (row : Selected) (conn : Connection T) : DrainReport :=
  if conn.inTransaction = true ∨ faults.opening ≠ none then {}
  else
    match (attempt rt policy now faults.body row conn.db).1 with
    | .ok report => report
    | .error _ => {}

/-- One turn of the loop. What is raised by the handler leaves `drain`. -/
def drainRow (faults : RowFaults) (row : Selected) (batch : Batch T R) : Except Exc Unit × Batch T R :=
  let batch := { batch with
    report := batch.report.merge (counted rt policy now faults.attempt row batch.conn)
    attempted := row.deliveryId :: batch.attempted }
  match batch.conn.writeTx faults.attempt (attempt rt policy now faults.attempt.body row) with
  | (.ok _, conn) => (.ok (), { batch with conn })
  | (.error exc, conn) =>
    match conn.writeTx faults.handler (handle rt policy now faults.handler.body row exc batch) with
    | (.ok after, conn) =>
      (.ok (), { batch with conn, budgetUsed := after.budgetUsed, rng := after.rng, report := after.report })
    | (.error exc, conn) => (.error exc, { batch with conn })

def drainRows (faults : Str → RowFaults) : List Selected → Batch T R → Except Exc Unit × Batch T R
  | [], batch => (.ok (), batch)
  | row :: rest, batch =>
    match drainRow rt policy now (faults row.deliveryId) row batch with
    | (.ok (), batch) => drainRows faults rest batch
    | (.error exc, batch) => (.error exc, batch)

/-- `drain` over a connection with no transaction open. -/
def drain (limit : Int) (rng : Option R) (faults : Str → RowFaults) (db : Db T) : Except Exc Unit × Batch T R :=
  drainRows rt policy now faults (selectDue db now limit)
    { conn := { db }, budgetUsed := budgetUsed db now, rng := rng.getD (jitterSource rt policy) }

end Connection
end Quidz
