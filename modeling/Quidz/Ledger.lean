import Quidz.Model
import Quidz.Store

/-! Application of one canonical event to the ledger, inside the caller's
transaction. -/

namespace Quidz

variable {T : Type} [Seconds T]

inductive ApplyOutcome where
  | applied | noopDuplicate | parked | rejected
  deriving DecidableEq, Repr

def rowToState (row : PaymentRow T) : PaymentState where
  paymentId := row.paymentId
  currency := row.currency
  authorizedMinor := row.authorizedMinor
  capturedMinor := row.capturedMinor
  captureFailedMinor := row.captureFailedMinor
  refundedMinor := row.refundedMinor
  refundFailedMinor := row.refundFailedMinor
  voided := row.voided != 0
  expired := row.expired != 0
  rank := row.rank
  lastSequence := row.lastSequence

def loadPayment (db : Db T) (paymentId : Str) : Except Exc (Option PaymentState) := do
  bindStr paymentId
  return (db.payments.find? paymentId).map rowToState

/-- The aggregate the event applies to. An effect without an amount carries no
currency, so it cannot open one. -/
def openPayment (db : Db T) (event : CanonicalEvent T) : Except Exc (Option PaymentState) := do
  let state ← loadPayment db event.paymentId
  return state.orElse fun _ => event.amount.map fun amount =>
    { paymentId := event.paymentId, currency := amount.currency }

def effectRow (deliveryId : Str) (event : CanonicalEvent T) : EffectRow T where
  paymentId := event.paymentId
  kind := event.kind
  providerRef := event.providerRef
  amountMinor := event.amount.map Money.minor
  currency := event.amount.map Money.currency
  occurredAt := event.occurredAt
  sequence := event.sequence
  deliveryId := deliveryId
  rawAmountValue := event.rawAmountValue
  rawCurrency := event.rawCurrency

def bindEffect (row : EffectRow T) : Except Exc Unit := do
  bindStr row.paymentId
  bindStr row.providerRef
  bindOption bindInt row.amountMinor
  bindOption bindStr row.currency
  bindInt row.sequence
  bindStr row.deliveryId
  bindOption bindStr row.rawAmountValue
  bindOption bindStr row.rawCurrency

/-- `INSERT INTO effects`, under the unique business key and the foreign key. -/
def insertEffect (db : Db T) (row : EffectRow T) : Except Exc (Db T) := do
  bindEffect row
  match db.effects.insert? row with
  | none =>
    raise .integrityError (str "UNIQUE constraint failed: effects.payment_id, effects.kind, effects.provider_ref")
  | some effects =>
    raiseIf (db.deliveries.find? row.deliveryId).isNone .integrityError (str "FOREIGN KEY constraint failed")
    return { db with effects }

/-- The row `updated` is written as. -/
def paymentRow (updated : PaymentState) (updatedAt : T) : PaymentRow T where
  paymentId := updated.paymentId
  currency := updated.currency
  authorizedMinor := updated.authorizedMinor
  capturedMinor := updated.capturedMinor
  captureFailedMinor := updated.captureFailedMinor
  refundedMinor := updated.refundedMinor
  refundFailedMinor := updated.refundFailedMinor
  voided := if updated.voided then 1 else 0
  expired := if updated.expired then 1 else 0
  rank := updated.rank
  lastSequence := updated.lastSequence
  updatedAt := updatedAt

def bindPayment (updated : PaymentState) : Except Exc Unit := do
  bindStr updated.paymentId
  bindStr updated.currency
  bindInt updated.authorizedMinor
  bindInt updated.capturedMinor
  bindInt updated.captureFailedMinor
  bindInt updated.refundedMinor
  bindInt updated.refundFailedMinor
  bindInt updated.rank
  bindInt updated.lastSequence

/-- `INSERT INTO payments … ON CONFLICT(payment_id) DO UPDATE`, which keeps the
currency the row was opened in and the newest provider time. -/
def upsertPayment (db : Db T) (updated : PaymentState) (occurredAt : T) : Except Exc (Db T) := do
  bindPayment updated
  let excluded := paymentRow updated occurredAt
  return { db with payments := db.payments.upsert excluded fun row =>
    { row with
      authorizedMinor := excluded.authorizedMinor
      capturedMinor := excluded.capturedMinor
      captureFailedMinor := excluded.captureFailedMinor
      refundedMinor := excluded.refundedMinor
      refundFailedMinor := excluded.refundFailedMinor
      voided := excluded.voided
      expired := excluded.expired
      rank := excluded.rank
      lastSequence := excluded.lastSequence
      updatedAt := max row.updatedAt excluded.updatedAt } }

/-- The body of the savepoint: the effect row first, so that a repeated effect is
decided by the unique key rather than by the state machine. -/
def recordEffect (db : Db T) (deliveryId : Str) (state : PaymentState) (event : CanonicalEvent T) :
    Except Exc (Db T × PaymentState) := do
  let inserted ← insertEffect db (effectRow deliveryId event)
  let updated ← applyEffect state event
  return (inserted, updated)

def applyDelivery (deliveryId : Str) (event : CanonicalEvent T) : Statements T ApplyOutcome := fun db =>
  match openPayment db event with
  | .error exc => (.error exc, db)
  | .ok none => (.ok .parked, db)
  | .ok (some state) =>
    match recordEffect db deliveryId state event with
    | .error exc =>
      -- The savepoint is unwound, whatever was raised inside it.
      if exc.isinstance .prematureEvent then (.ok .parked, db)
      else if exc.isinstance .integrityError then (.ok .noopDuplicate, db)
      else (.error exc, db)
    | .ok (inserted, updated) =>
      match upsertPayment inserted updated event.occurredAt with
      | .error exc => (.error exc, inserted)
      | .ok after => (.ok .applied, after)

end Quidz
