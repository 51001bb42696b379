import Quidz.Dlq
import Quidz.Events
import Quidz.Ledger
import Mathlib.Data.List.Lex
import Mathlib.Data.List.Sort
import Mathlib.Logic.Function.Iterate

/-! The front door and the queue behind it: claim, lease, park and drain. -/

namespace Quidz

variable {T R : Type} [Seconds T] (rt : Runtime T R)

inductive ClaimReason where
  | new | duplicate | inProgress | leaseReclaimed
  deriving DecidableEq, Repr

structure ClaimResult where
  deliveryId : Str
  accepted : Bool
  reason : ClaimReason
  deriving DecidableEq

@[ext] structure DrainReport where
  applied : Nat := 0
  noopDuplicate : Nat := 0
  parked : Nat := 0
  deadLettered : Nat := 0
  retried : Nat := 0
  deriving DecidableEq, Repr

namespace DrainReport

def total (report : DrainReport) : Nat :=
  report.applied + report.noopDuplicate + report.parked + report.deadLettered + report.retried

def merge (report other : DrainReport) : DrainReport where
  applied := report.applied + other.applied
  noopDuplicate := report.noopDuplicate + other.noopDuplicate
  parked := report.parked + other.parked
  deadLettered := report.deadLettered + other.deadLettered
  retried := report.retried + other.retried

end DrainReport

def payload (raw : Bytes) : Except Exc Mapping := do
  match ← rt.loads raw with
  | .dict entries => return entries
  | _ => raise .malformedEvent (str "a webhook body must be a JSON object")

def decode (provider : Provider) (raw : Bytes) : Except Exc (CanonicalEvent T) := do
  let body ← payload rt raw
  match provider with
  | .stripe => fromStripe rt body
  | .adyen => fromAdyen rt body

def deliveryId (provider : Provider) (identity : Str) : Str := provider.value ++ str ":" ++ identity

/-- `INSERT INTO deliveries`. -/
def insertDelivery (db : Db T) (row : Delivery T) : Except Exc (Db T) := do
  bindStr row.deliveryId
  match db.deliveries.insert? row with
  | none => raise .integrityError (str "UNIQUE constraint failed: deliveries.delivery_id")
  | some deliveries => return { db with deliveries }

/-- What `claim` answers when the delivery is already stored. -/
def reclaim (id : Str) (raw : Bytes) (headers : Str) (now leaseSeconds : T) : Statements T ClaimResult := fun db =>
  match db.deliveries.find? id with
  | none => (raise .typeError (str "'NoneType' object is not subscriptable"), db)
  | some row =>
    if row.state ≠ .claimed then (.ok ⟨id, false, .duplicate⟩, db)
    else if ∃ lease ∈ row.leaseExpiresAt, now < lease then (.ok ⟨id, false, .inProgress⟩, db)
    else
      -- A row that was drained before keeps the wait that `drain` scheduled.
      let nextAttemptAt := if row.attempts = 0 then some now else row.nextAttemptAt
      (.ok ⟨id, true, .leaseReclaimed⟩, db.updateDelivery id fun stored =>
        { stored with raw, headers, leaseExpiresAt := some (now + leaseSeconds), nextAttemptAt })

def claim (provider : Provider) (identity : Str) (raw : Bytes) (headers : List (Str × Str)) (now leaseSeconds : T) :
    Statements T ClaimResult :=
  let id := deliveryId provider identity
  let encoded := rt.dumps (.dict (headers.map fun header => (header.1, .str header.2)))
  writeTx fun db =>
    let row := {
      deliveryId := id, provider, raw, headers := encoded, receivedAt := now, state := .claimed,
      nextAttemptAt := some now, leaseExpiresAt := some (now + leaseSeconds) }
    match insertDelivery db row with
    | .ok after => (.ok ⟨id, true, .new⟩, after)
    | .error exc =>
      if exc.isinstance .integrityError then reclaim id raw encoded now leaseSeconds db else (.error exc, db)

def budgetUsed (db : Db T) (now : T) : Int :=
  if (db.counters.find? .budgetMinute).map Counter.value = some (Seconds.minute now) then db.counter .budgetUsed else 0

def recordBudget (db : Db T) (now : T) (used : Int) : Db T :=
  (db.setCounter .budgetMinute (Seconds.minute now)).setCounter .budgetUsed used

/-- The columns `drain` selects. -/
structure Selected where
  deliveryId : Str
  provider : Provider
  raw : Bytes
  attempts : Nat
  state : DeliveryState
  deriving DecidableEq

def Delivery.selected (row : Delivery T) : Selected :=
  { deliveryId := row.deliveryId, provider := row.provider, raw := row.raw, attempts := row.attempts, state := row.state }

/-- The `WHERE` clause of the selection. -/
def due (now : T) (row : Delivery T) : Bool :=
  row.state.pending && row.nextAttemptAt.all (fun t => t ≤ now) && row.parkedUntil.all (fun t => t ≤ now)

/-- `ORDER BY received_at, delivery_id`. -/
def receivedBefore (first second : Delivery T) : Prop :=
  first.receivedAt < second.receivedAt ∨ first.receivedAt = second.receivedAt ∧ first.deliveryId ≤ second.deliveryId

instance : DecidableRel (receivedBefore (T := T)) := fun _ _ => inferInstanceAs (Decidable (_ ∨ _))

/-- `LIMIT`, which a negative number lifts. -/
def limited {α : Type} (limit : Int) (rows : List α) : List α :=
  if limit < 0 then rows else rows.take limit.toNat

def selectDue (db : Db T) (now : T) (limit : Int) : List Selected :=
  (limited limit ((db.deliveries.rows.filter (due now)).insertionSort receivedBefore)).map Delivery.selected

/-- What a transaction did with the delivery it was given, in the row's own columns
and in the counters. -/
def settle (policy : RetryPolicy T) (id : Str) (was : DeliveryState) (outcome : ApplyOutcome) (now : T) (db : Db T) :
    DrainReport × Db T :=
  match outcome with
  | .parked =>
    let parked := db.updateDelivery id fun row =>
      { row with state := .parked, parkedUntil := some (now + policy.baseSeconds), leaseExpiresAt := none }
    -- Counted on the transition into the park, not on each one after it.
    if was = .parked then ({}, parked) else ({ parked := 1 }, parked.bump .parked)
  | .noopDuplicate =>
    let settled := db.updateDelivery id fun row =>
      { row with state := .duplicate, leaseExpiresAt := none, nextAttemptAt := none }
    ({ noopDuplicate := 1 }, settled.bump .deduped)
  | .applied | .rejected =>
    let settled := db.updateDelivery id fun row =>
      { row with state := .applied, parkedUntil := none, leaseExpiresAt := none, nextAttemptAt := none }
    ({ applied := 1 }, settled.bump .applied)

/-- The transaction of one selected row. `fault` is what the store raises in it, if
anything. -/
def attempt (policy : RetryPolicy T) (now : T) (fault : Option Exc) (row : Selected) : Statements T DrainReport :=
  writeTx fun db =>
    match fault with
    | some exc => (.error exc, db)
    | none =>
      match decode rt row.provider row.raw with
      | .error exc => (.error exc, db)
      | .ok event =>
        match applyDelivery row.deliveryId event db with
        | (.error exc, after) => (.error exc, after)
        | (.ok outcome, after) =>
          let (report, settled) := settle policy row.deliveryId row.state outcome now after
          (.ok report, settled)

/-- What a pass carries from row to row. -/
structure Pass (T R : Type) where
  db : Db T
  budgetUsed : Int
  rng : R
  report : DrainReport := {}

/-- The failure handler, in a second transaction. -/
def handle (policy : RetryPolicy T) (now : T) (row : Selected) (exc : Exc) (pass : Pass T R) : Pass T R :=
  let reason := classify exc
  let attempts := row.attempts + 1
  if shouldRetry policy reason attempts pass.budgetUsed then
    let (delay, rng) := nextDelay rt policy attempts pass.rng
    let scheduled := pass.db.updateDelivery row.deliveryId fun stored =>
      { stored with
        state := .claimed, attempts, nextAttemptAt := some (now + delay), reasonCode := some reason.code
        leaseExpiresAt := none }
    let used := pass.budgetUsed + 1
    { db := recordBudget scheduled now used, budgetUsed := used, rng, report := pass.report.merge { retried := 1 } }
  else
    let buried := pass.db.updateDelivery row.deliveryId fun stored =>
      { stored with
        state := .deadLettered, attempts, reasonCode := some reason.code, nextAttemptAt := none
        leaseExpiresAt := none }
    { pass with db := buried.bump .deadLettered, report := pass.report.merge { deadLettered := 1 } }

def drainRow (policy : RetryPolicy T) (now : T) (faults : Str → Option Exc) (pass : Pass T R) (row : Selected) :
    Pass T R :=
  match attempt rt policy now (faults row.deliveryId) row pass.db with
  | (.ok report, db) => { pass with db, report := pass.report.merge report }
  | (.error exc, db) => handle rt policy now row exc { pass with db }

/-- One pass at the clock reading `now`: the selection, then a transaction a row. -/
def drain (policy : RetryPolicy T) (now : T) (limit : Int) (rng : Option R) (faults : Str → Option Exc) (db : Db T) :
    Pass T R :=
  (selectDue db now limit).foldl (drainRow rt policy now faults)
    { db, budgetUsed := budgetUsed db now, rng := rng.getD (jitterSource rt policy) }

/-- The batch limit `drain` has when it is given none. -/
def defaultLimit : Int := 100

/-- The passes `drain_until_idle` makes when it is given no number of them. -/
def defaultPasses : Nat := 8

section Idle
variable {C : Type} (clock : Clock T C) (policy : RetryPolicy T) (faults : Str → Option Exc)

/-- When each pending delivery is due, an absent column counting as zero. -/
def pendingTimes (db : Db T) : List T :=
  (db.deliveries.rows.filter fun row => row.state.pending).map fun row =>
    max (row.nextAttemptAt.getD 0) (row.parkedUntil.getD 0)

/-- What `drain_until_idle` carries from pass to pass, until it breaks out of its
loop. -/
structure Idling (T R C : Type) where
  db : Db T
  clock : C
  rng : R
  total : DrainReport := {}
  running : Bool := true

/-- One turn of the loop. -/
def idlePass (idling : Idling T R C) : Idling T R C :=
  if idling.running then
    let (now, ticked) := clock.now idling.clock
    let pass := drain rt policy now defaultLimit (some idling.rng) faults idling.db
    let drained : Idling T R C :=
      { db := pass.db, clock := ticked, rng := pass.rng, total := idling.total.merge pass.report }
    match (pendingTimes pass.db).min? with
    | none => { drained with running := false }
    | some due =>
      let (reading, ticked) := clock.now ticked
      let wait := due - reading
      if 0 < wait then { drained with clock := clock.sleep ticked wait }
      -- Work is due and the pass did nothing.
      else { drained with clock := ticked, running := pass.report.total ≠ 0 }
  else idling

def drainUntilIdle (maxPasses : Nat) (start : C) (db : Db T) : Idling T R C :=
  (idlePass rt clock policy faults)^[maxPasses] { db, clock := start, rng := jitterSource rt policy }

end Idle
end Quidz
