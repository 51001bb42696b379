import Quidz.Library.Table
import Quidz.Event

/-! The tables and the one write transaction. A row is inserted or updated only
after its parameters were bound, and binding refuses what SQLite has no value
for: an integer outside 64 bits and a string without a UTF-8 encoding. -/

namespace Quidz

open Library (Table)

inductive DeliveryState where
  | claimed | applied | duplicate | parked | deadLettered
  deriving DecidableEq, Repr

/-- The states `drain` selects from. -/
@[simp] def DeliveryState.pending : DeliveryState → Bool
  | .claimed | .parked => true
  | _ => false

structure Delivery (T : Type) where
  deliveryId : Str
  provider : Provider
  raw : Bytes
  headers : Str
  receivedAt : T
  state : DeliveryState
  attempts : Nat := 0
  nextAttemptAt : Option T := none
  leaseExpiresAt : Option T := none
  parkedUntil : Option T := none
  reasonCode : Option Str := none
  deriving DecidableEq

/-- A row of `effects` without its `id`, which is its place in the table. -/
structure EffectRow (T : Type) where
  paymentId : Str
  kind : EffectKind
  providerRef : Str
  amountMinor : Option Int
  currency : Option Str
  occurredAt : T
  sequence : Int
  deliveryId : Str
  rawAmountValue : Option Str
  rawCurrency : Option Str
  deriving DecidableEq

/-- `UNIQUE(payment_id, kind, provider_ref)`. -/
abbrev BusinessKey := Str × EffectKind × Str

def EffectRow.key {T : Type} (row : EffectRow T) : BusinessKey := (row.paymentId, row.kind, row.providerRef)

structure PaymentRow (T : Type) where
  paymentId : Str
  currency : Str
  authorizedMinor : Int := 0
  capturedMinor : Int := 0
  captureFailedMinor : Int := 0
  refundedMinor : Int := 0
  refundFailedMinor : Int := 0
  voided : Int := 0
  expired : Int := 0
  rank : Int := 0
  lastSequence : Int := -1
  updatedAt : T
  deriving DecidableEq

/-- The counters the package may bump, each under its own name. -/
inductive Metric where
  | eventsReceived | signatureRejected | replayRejected | deduped | applied | parked | deadLettered
  | driftInfo | driftWarn | driftBreak | driftCritical | oldestUnresolvedDriftSeconds
  deriving DecidableEq, Repr

/-- The names in the counters table: the allowlist and the retry budget's own
two. -/
inductive CounterName where
  | metric (name : Metric)
  | budgetMinute | budgetUsed
  deriving DecidableEq, Repr

structure Counter where
  name : CounterName
  value : Int
  deriving DecidableEq

@[ext] structure Db (T : Type) where
  deliveries : Table (Delivery T) Delivery.deliveryId
  effects : Table (EffectRow T) EffectRow.key
  payments : Table (PaymentRow T) PaymentRow.paymentId
  counters : Table Counter Counter.name

/-- The store `init_schema` leaves. -/
def Db.empty {T : Type} : Db T := ⟨.empty, .empty, .empty, .empty⟩

section Bind

def bindStr (value : Str) : Except Exc Unit :=
  raiseIf (value.encodable = false) .unicodeEncodeError (str "surrogates not allowed")

def bindInt (value : Int) : Except Exc Unit :=
  raiseIf (value < -(2 ^ 63) ∨ 2 ^ 63 ≤ value) .overflowError
    (str "Python int too large to convert to SQLite INTEGER")

/-- `NULL`, or a value to bind. -/
def bindOption {α : Type} (bind : α → Except Exc Unit) : Option α → Except Exc Unit
  | none => .ok ()
  | some value => bind value

end Bind

variable {T α : Type}

/-- The statements of a transaction: an answer or what was raised, and the
tables as the statements so far left them. -/
abbrev Statements (T α : Type) := Db T → Except Exc α × Db T

/-- `BEGIN IMMEDIATE`, then commit or roll back. -/
def writeTx (statements : Statements T α) : Statements T α := fun db =>
  match statements db with
  | (.ok answer, after) => (.ok answer, after)
  | (.error exc, _) => (.error exc, db)

theorem writeTx_ok {statements : Statements T α} {db after : Db T} {answer : α} :
    writeTx statements db = (.ok answer, after) ↔ statements db = (.ok answer, after) := by
  unfold writeTx
  rcases statements db with ⟨_ | _, _⟩ <;> simp

theorem writeTx_error {statements : Statements T α} {db after : Db T} {exc : Exc} :
    writeTx statements db = (.error exc, after) ↔ (statements db).1 = .error exc ∧ after = db := by
  unfold writeTx
  rcases statements db with ⟨_ | _, _⟩ <;> simp [eq_comm]

/-- `INSERT … ON CONFLICT(name) DO UPDATE SET value = value + excluded.value`. -/
def Db.bump (db : Db T) (name : Metric) : Db T :=
  { db with counters := db.counters.upsert ⟨.metric name, 1⟩ fun row => { row with value := row.value + 1 } }

/-- `INSERT … ON CONFLICT(name) DO UPDATE SET value = excluded.value`. -/
def Db.setCounter (db : Db T) (name : CounterName) (value : Int) : Db T :=
  { db with counters := db.counters.upsert ⟨name, value⟩ fun row => { row with value } }

/-- What a counter reads, zero where it was never written. -/
def Db.counter (db : Db T) (name : CounterName) : Int := ((db.counters.find? name).map Counter.value).getD 0

/-- `UPDATE deliveries SET … WHERE delivery_id = ?`. -/
def Db.updateDelivery (db : Db T) (deliveryId : Str) (change : Delivery T → Delivery T)
    (keeps : ∀ row, (change row).deliveryId = row.deliveryId := by intro _; rfl) : Db T :=
  { db with deliveries := db.deliveries.modify deliveryId change keeps }

section Fields
variable (db : Db T) (name : Metric) (counter : CounterName) (value : Int) (deliveryId : Str)
  (change : Delivery T → Delivery T) (keeps : ∀ row, (change row).deliveryId = row.deliveryId)

@[simp] theorem Db.bump_deliveries : (db.bump name).deliveries = db.deliveries := rfl
@[simp] theorem Db.bump_effects : (db.bump name).effects = db.effects := rfl
@[simp] theorem Db.bump_payments : (db.bump name).payments = db.payments := rfl
@[simp] theorem Db.setCounter_deliveries : (db.setCounter counter value).deliveries = db.deliveries := rfl
@[simp] theorem Db.setCounter_effects : (db.setCounter counter value).effects = db.effects := rfl
@[simp] theorem Db.setCounter_payments : (db.setCounter counter value).payments = db.payments := rfl
@[simp] theorem Db.updateDelivery_deliveries :
    (db.updateDelivery deliveryId change keeps).deliveries = db.deliveries.modify deliveryId change keeps := rfl
@[simp] theorem Db.updateDelivery_effects : (db.updateDelivery deliveryId change keeps).effects = db.effects := rfl
@[simp] theorem Db.updateDelivery_payments : (db.updateDelivery deliveryId change keeps).payments = db.payments := rfl
@[simp] theorem Db.updateDelivery_counters : (db.updateDelivery deliveryId change keeps).counters = db.counters := rfl
@[simp] theorem Db.updateDelivery_counter :
    (db.updateDelivery deliveryId change keeps).counter counter = db.counter counter := rfl

@[simp] theorem Db.counter_bump : (db.bump name).counter counter =
    db.counter counter + if counter = .metric name then 1 else 0 := by
  simp only [Db.counter, Db.bump, Table.upsert_find?]
  by_cases same : CounterName.metric name = counter
  · subst same
    cases db.counters.find? (.metric name) <;> simp
  · simp [same, Ne.symm same]

@[simp] theorem Db.counter_setCounter (other : CounterName) : (db.setCounter other value).counter counter =
    if counter = other then value else db.counter counter := by
  simp only [Db.counter, Db.setCounter, Table.upsert_find?]
  by_cases same : other = counter
  · subst same
    cases db.counters.find? other <;> simp
  · simp [same, Ne.symm same]

end Fields
end Quidz
