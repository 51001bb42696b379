import Quidz.Inbox

/-! One pass of `drain` taken apart into its transactions, so that a claim of the
request thread or the end of the process can come between any two of them. -/

namespace Quidz

variable {T R : Type} [Seconds T] (rt : Runtime T R)

/-- A pass after its selection. A row whose transaction was rolled back waits in
`failed` for the failure handler's. -/
structure Worker (T R : Type) where
  policy : RetryPolicy T
  now : T
  faults : Str → Option Exc
  rows : List Selected
  failed : Option (Selected × Exc) := none
  budgetUsed : Int
  rng : R
  report : DrainReport := {}

def select (policy : RetryPolicy T) (now : T) (limit : Int) (rng : Option R) (faults : Str → Option Exc) (db : Db T) :
    Worker T R where
  policy := policy
  now := now
  faults := faults
  rows := selectDue db now limit
  budgetUsed := budgetUsed db now
  rng := rng.getD (jitterSource rt policy)

namespace Worker

def pass (worker : Worker T R) (db : Db T) : Pass T R :=
  { db, budgetUsed := worker.budgetUsed, rng := worker.rng, report := worker.report }

/-- The next transaction of the pass, if there is one left. -/
def transact (worker : Worker T R) (db : Db T) : Worker T R × Db T :=
  match worker.failed, worker.rows with
  | some (row, exc), _ =>
    let after := handle rt worker.policy worker.now row exc (worker.pass db)
    ({ worker with failed := none, budgetUsed := after.budgetUsed, rng := after.rng, report := after.report }, after.db)
  | none, row :: rest =>
    match attempt rt worker.policy worker.now (worker.faults row.deliveryId) row db with
    | (.ok report, after) => ({ worker with rows := rest, report := worker.report.merge report }, after)
    | (.error exc, after) => ({ worker with rows := rest, failed := some (row, exc) }, after)
  | none, [] => (worker, db)

/-- The store after the pass was cut short by the end of the process, so many
transactions in. -/
def cut (worker : Worker T R) : Nat → Db T → Worker T R × Db T
  | 0, db => (worker, db)
  | transactions + 1, db =>
    let (next, after) := worker.transact rt db
    next.cut transactions after

end Worker

/-- The store, the pass that is under way, and the payloads that were accepted, the
latest first. -/
structure Shared (T R : Type) where
  db : Db T
  worker : Option (Worker T R) := none
  accepted : List (Str × Bytes) := []

/-- A step of one of the two parties. The request thread claims; the worker selects,
runs a transaction or dies. -/
inductive SharedOp (T R : Type) where
  | claim (provider : Provider) (identity : Str) (raw : Bytes) (headers : List (Str × Str)) (now leaseSeconds : T)
  | select (policy : RetryPolicy T) (now : T) (limit : Int) (rng : Option R) (faults : Str → Option Exc)
  | transact
  | crash

namespace Shared

def step (shared : Shared T R) : SharedOp T R → Shared T R
  | .claim provider identity raw headers now leaseSeconds =>
    match claim rt provider identity raw headers now leaseSeconds shared.db with
    | (.ok result, db) =>
      { shared with
        db, accepted := if result.accepted then (result.deliveryId, raw) :: shared.accepted else shared.accepted }
    | (.error _, db) => { shared with db }
  | .select policy now limit rng faults =>
    { shared with worker := some (Quidz.select rt policy now limit rng faults shared.db) }
  | .transact =>
    match shared.worker with
    | none => shared
    | some worker =>
      let (next, db) := worker.transact rt shared.db
      { shared with worker := some next, db }
  | .crash => { shared with worker := none }

def run (shared : Shared T R) (ops : List (SharedOp T R)) : Shared T R := ops.foldl (step rt) shared

end Shared
end Quidz
