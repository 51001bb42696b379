import Quidz.Inbox
import Quidz.Proofs.Application

/-! What each transaction of the inbox can do: the claim of a delivery, the attempt
at a selected row, and the handling of a failed attempt. -/

namespace Quidz.Proofs

open Library (Table)

variable {T R : Type} [Seconds T] (rt : Runtime T R)

section Claims

/-- The row a claim inserts. -/
def claimedRow (provider : Provider) (identity : Str) (raw : Bytes) (headers : List (Str × Str))
    (now leaseSeconds : T) : Delivery T where
  deliveryId := deliveryId provider identity
  provider := provider
  raw := raw
  headers := rt.dumps (.dict (headers.map fun header => (header.1, .str header.2)))
  receivedAt := now
  state := .claimed
  nextAttemptAt := some now
  leaseExpiresAt := some (now + leaseSeconds)

/-- What a claim writes over a stored row it reclaims. -/
def refreshed (fresh row : Delivery T) : Delivery T :=
  { row with
    raw := fresh.raw, headers := fresh.headers, leaseExpiresAt := fresh.leaseExpiresAt
    nextAttemptAt := if row.attempts = 0 then fresh.nextAttemptAt else row.nextAttemptAt }

omit [Seconds T] in
theorem refreshed_deliveryId (fresh row : Delivery T) : (refreshed fresh row).deliveryId = row.deliveryId := rfl

/-- The lease of the row is still running. -/
def Leased (row : Delivery T) (now : T) : Prop := ∃ lease ∈ row.leaseExpiresAt, now < lease

/-- One constructor for each answer of a claim whose row would be `fresh`. -/
inductive Claimed (db : Db T) (fresh : Delivery T) (now : T) : Except Exc ClaimResult → Db T → Prop where
  | unbound (unbound : fresh.deliveryId.encodable = false) (exc : Exc) : Claimed db fresh now (.error exc) db
  | new {deliveries} (bound : fresh.deliveryId.encodable = true) (inserted : db.deliveries.insert? fresh = some deliveries) :
      Claimed db fresh now (.ok ⟨fresh.deliveryId, true, .new⟩) { db with deliveries }
  | duplicate {row} (found : db.deliveries.find? fresh.deliveryId = some row) (settled : row.state ≠ .claimed) :
      Claimed db fresh now (.ok ⟨fresh.deliveryId, false, .duplicate⟩) db
  | inProgress {row} (found : db.deliveries.find? fresh.deliveryId = some row) (held : row.state = .claimed)
      (leased : Leased row now) : Claimed db fresh now (.ok ⟨fresh.deliveryId, false, .inProgress⟩) db
  | reclaimed {row} (found : db.deliveries.find? fresh.deliveryId = some row) (held : row.state = .claimed)
      (expired : ¬Leased row now) :
      Claimed db fresh now (.ok ⟨fresh.deliveryId, true, .leaseReclaimed⟩)
        (db.updateDelivery fresh.deliveryId (refreshed fresh) (refreshed_deliveryId fresh))

theorem claim_eq (provider : Provider) (identity : Str) (raw : Bytes) (headers : List (Str × Str)) (now leaseSeconds : T)
    {fresh : Delivery T} (named : fresh = claimedRow rt provider identity raw headers now leaseSeconds) :
    claim rt provider identity raw headers now leaseSeconds = writeTx fun db => match insertDelivery db fresh with
      | .ok after => (.ok ⟨fresh.deliveryId, true, .new⟩, after)
      | .error exc => if exc.isinstance .integrityError then
          reclaim fresh.deliveryId raw fresh.headers now leaseSeconds db else (.error exc, db) := by
  subst named
  rfl

theorem claim_claimed {db after : Db T} {provider : Provider} {identity : Str} {raw : Bytes}
    {headers : List (Str × Str)} {now leaseSeconds : T} {result : Except Exc ClaimResult}
    (answered : claim rt provider identity raw headers now leaseSeconds db = (result, after)) :
    Claimed db (claimedRow rt provider identity raw headers now leaseSeconds) now result after := by
  let fresh := claimedRow rt provider identity raw headers now leaseSeconds
  have reclaims {stored : Delivery T} (found : db.deliveries.find? fresh.deliveryId = some stored) :
      Claimed db fresh now (reclaim fresh.deliveryId raw fresh.headers now leaseSeconds db).1
        (reclaim fresh.deliveryId raw fresh.headers now leaseSeconds db).2 := by
    unfold reclaim
    simp only [found]
    split
    next settled => exact .duplicate found settled
    next held =>
      rw [ne_eq, not_not] at held
      split
      next leased => exact .inProgress found held leased
      next expired =>
        have same : db.deliveries.modify fresh.deliveryId (refreshed fresh) =
            db.deliveries.modify fresh.deliveryId fun row =>
              { row with
                raw, headers := fresh.headers, leaseExpiresAt := some (now + leaseSeconds)
                nextAttemptAt := if stored.attempts = 0 then some now else stored.nextAttemptAt } := by
          apply Table.modify_congr found
          rfl
        have claimed := Claimed.reclaimed found held expired
        simp only [Db.updateDelivery, same] at claimed
        exact claimed
  have named : fresh = claimedRow rt provider identity raw headers now leaseSeconds := rfl
  have unfolded := answered
  rw [claim_eq rt provider identity raw headers now leaseSeconds named] at unfolded
  cases bound : fresh.deliveryId.encodable with
  | false =>
    have failed : insertDelivery db fresh = .error ⟨.unicodeEncodeError, str "surrogates not allowed"⟩ := by
      simp only [insertDelivery, bindStr, raiseIf, bound, ↓reduceIte]
      rfl
    simp only [writeTx, failed, Exc.isinstance] at unfolded
    cases unfolded
    exact .unbound bound _
  | true =>
    have binds : bindStr fresh.deliveryId = .ok () := bindStr_ok.mpr bound
    cases inserted : db.deliveries.insert? fresh with
    | some deliveries =>
      have done : insertDelivery db fresh = .ok { db with deliveries } := by
        simp only [insertDelivery, binds, inserted]
        rfl
      simp only [writeTx, done] at unfolded
      cases unfolded
      exact .new bound inserted
    | none =>
      have failed : insertDelivery db fresh =
          .error ⟨.integrityError, str "UNIQUE constraint failed: deliveries.delivery_id"⟩ := by
        simp only [insertDelivery, binds, inserted]
        rfl
      obtain ⟨stored, member, same⟩ := Table.insert?_eq_none.mp inserted
      have claimed := reclaims (Table.find?_eq_some.mpr ⟨member, same⟩)
      have integrity : (⟨.integrityError, str "UNIQUE constraint failed: deliveries.delivery_id"⟩ : Exc).isinstance
          .integrityError = true := rfl
      simp only [writeTx, failed, integrity, ↓reduceIte] at unfolded
      cases answer : reclaim fresh.deliveryId raw fresh.headers now leaseSeconds db with
      | mk outcome reached =>
        rw [answer] at claimed unfolded
        cases outcome with
        | ok _ => cases unfolded; exact claimed
        | error exc => cases claimed; cases unfolded; exact .unbound ‹_› exc

theorem claimed_self (provider : Provider) (identity : Str) (raw : Bytes) (headers : List (Str × Str))
    (now leaseSeconds : T) (db : Db T) :
    Claimed db (claimedRow rt provider identity raw headers now leaseSeconds) now
      (claim rt provider identity raw headers now leaseSeconds db).1
      (claim rt provider identity raw headers now leaseSeconds db).2 :=
  claim_claimed rt rfl

end Claims

section Attempts

variable (policy : RetryPolicy T) (now : T)

/-- One constructor for each way the transaction of a selected row ends. -/
inductive Attempted (fault : Option Exc) (row : Selected) (db : Db T) : Except Exc DrainReport → Db T → Prop where
  | faulted {exc} (raised : fault = some exc) : Attempted fault row db (.error exc) db
  | undecodable {exc} (sound : fault = none) (undecodable : decode rt row.provider row.raw = .error exc) :
      Attempted fault row db (.error exc) db
  | refused {event exc after} (sound : fault = none) (decoded : decode rt row.provider row.raw = .ok event)
      (refused : applyDelivery row.deliveryId event db = (.error exc, after)) : Attempted fault row db (.error exc) db
  | delivered {event outcome after} (sound : fault = none) (decoded : decode rt row.provider row.raw = .ok event)
      (delivered : Delivered db row.deliveryId event outcome after) :
      Attempted fault row db (.ok (settle policy row.deliveryId row.state outcome now after).1)
        (settle policy row.deliveryId row.state outcome now after).2

theorem attempt_attempted {fault : Option Exc} {row : Selected} {db after : Db T} {result : Except Exc DrainReport}
    (answered : attempt rt policy now fault row db = (result, after)) :
    Attempted rt policy now fault row db result after := by
  unfold attempt writeTx at answered
  cases fault with
  | some exc => cases answered; exact .faulted rfl
  | none =>
    cases decoded : decode rt row.provider row.raw with
    | error exc =>
      simp only [decoded] at answered
      cases answered
      exact .undecodable rfl decoded
    | ok event =>
      rcases delivered : applyDelivery row.deliveryId event db with ⟨exc | outcome, reached⟩
      · simp only [decoded, delivered] at answered
        cases answered
        exact .refused rfl decoded delivered
      · simp only [decoded, delivered] at answered
        cases answered
        exact .delivered rfl decoded (applyDelivery_ok.mp delivered)

theorem attempted_self (fault : Option Exc) (row : Selected) (db : Db T) :
    Attempted rt policy now fault row db (attempt rt policy now fault row db).1 (attempt rt policy now fault row db).2 :=
  attempt_attempted rt policy now rfl

theorem attempt_error {fault : Option Exc} {row : Selected} {db after : Db T} {exc : Exc}
    (failed : attempt rt policy now fault row db = (.error exc, after)) : after = db :=
  (writeTx_error.mp failed).2

theorem Delivered.deliveries {db after : Db T} {id : Str} {event : CanonicalEvent T} {outcome : ApplyOutcome}
    (delivered : Delivered db id event outcome after) : after.deliveries = db.deliveries := by
  cases outcome with
  | applied => exact delivered.extended.deliveries
  | _ => cases delivered; all_goals rfl

theorem Delivered.counters {db after : Db T} {id : Str} {event : CanonicalEvent T} {outcome : ApplyOutcome}
    (delivered : Delivered db id event outcome after) : after.counters = db.counters := by
  cases outcome with
  | applied => exact delivered.extended.counters
  | _ => cases delivered; all_goals rfl

theorem Delivered.counter {db after : Db T} {id : Str} {event : CanonicalEvent T} {outcome : ApplyOutcome}
    (delivered : Delivered db id event outcome after) (name : CounterName) : after.counter name = db.counter name := by
  simp only [Db.counter, delivered.counters]

/-- Only an applied delivery changes the ledger. -/
theorem Delivered.unapplied {db after : Db T} {id : Str} {event : CanonicalEvent T} {outcome : ApplyOutcome}
    (delivered : Delivered db id event outcome after) (other : outcome ≠ .applied) : after = db := by
  cases delivered with
  | applied => exact absurd rfl other
  | _ => rfl

/-- The row of a delivery after it was settled. -/
def settledRow (outcome : ApplyOutcome) (row : Delivery T) : Delivery T :=
  match outcome with
  | .parked => { row with state := .parked, parkedUntil := some (now + policy.baseSeconds), leaseExpiresAt := none }
  | .noopDuplicate => { row with state := .duplicate, leaseExpiresAt := none, nextAttemptAt := none }
  | .applied | .rejected =>
    { row with state := .applied, parkedUntil := none, leaseExpiresAt := none, nextAttemptAt := none }

theorem settledRow_deliveryId (outcome : ApplyOutcome) (row : Delivery T) :
    (settledRow policy now outcome row).deliveryId = row.deliveryId := by
  cases outcome <;> rfl

section Settle
variable (id : Str) (was : DeliveryState) (outcome : ApplyOutcome) (db : Db T)

@[simp] theorem settle_deliveries : (settle policy id was outcome now db).2.deliveries =
    db.deliveries.modify id (settledRow policy now outcome) (settledRow_deliveryId policy now outcome) := by
  cases outcome with
  | parked => simp only [settle]; split <;> rfl
  | _ => rfl

@[simp] theorem settle_effects : (settle policy id was outcome now db).2.effects = db.effects := by
  cases outcome with
  | parked => simp only [settle]; split <;> rfl
  | _ => rfl

@[simp] theorem settle_payments : (settle policy id was outcome now db).2.payments = db.payments := by
  cases outcome with
  | parked => simp only [settle]; split <;> rfl
  | _ => rfl

theorem settle_report (rest : Db T) : (settle policy id was outcome now rest).1 = (settle policy id was outcome now db).1 := by
  cases outcome with
  | parked => simp only [settle]; split <;> rfl
  | _ => rfl

theorem settle_counters {rest : Db T} (same : rest.counters = db.counters) :
    (settle policy id was outcome now rest).2.counters = (settle policy id was outcome now db).2.counters := by
  cases outcome with
  | parked => simp only [settle]; split <;> simp only [Db.bump, Db.updateDelivery_counters, same]
  | _ => simp only [settle, Db.bump, Db.updateDelivery_counters, same]

/-- The counter each outcome moves. -/
theorem settle_counter (name : Metric) (other : name ≠ .parked ∧ name ≠ .deduped) :
    (settle policy id was outcome now db).2.counter (.metric name) = db.counter (.metric name) +
      if name = .applied ∧ (outcome = .applied ∨ outcome = .rejected) then 1 else 0 := by
  obtain ⟨notParked, notDeduped⟩ := other
  cases outcome with
  | parked =>
    simp only [settle]
    split <;> simp [notParked]
  | noopDuplicate => simp [settle, notDeduped]
  | applied | rejected => simp [settle]

end Settle

/-- The row of a delivery after its failure was handled: scheduled again after a
delay, or buried. -/
def handledRow (attempts : Nat) (reason : ReasonCode) (delay : Option T) (row : Delivery T) : Delivery T :=
  match delay with
  | some delay =>
    { row with
      state := .claimed, attempts, nextAttemptAt := some (now + delay), reasonCode := some reason.code
      leaseExpiresAt := none }
  | none =>
    { row with
      state := .deadLettered, attempts, reasonCode := some reason.code, nextAttemptAt := none, leaseExpiresAt := none }

theorem handledRow_deliveryId (attempts : Nat) (reason : ReasonCode) (delay : Option T) (row : Delivery T) :
    (handledRow now attempts reason delay row).deliveryId = row.deliveryId := by
  cases delay <;> rfl

/-- The delay a failed row is given, if it is to be tried again. -/
def retryDelay (row : Selected) (exc : Exc) (used : Int) (rng : R) : Option T :=
  if shouldRetry policy (classify exc) (row.attempts + 1) used then some (nextDelay rt policy (row.attempts + 1) rng).1
  else none

section Handle
variable (row : Selected) (exc : Exc) (pass : Pass T R)

@[simp] theorem handle_deliveries : (handle rt policy now row exc pass).db.deliveries =
    pass.db.deliveries.modify row.deliveryId
      (handledRow now (row.attempts + 1) (classify exc) (retryDelay rt policy row exc pass.budgetUsed pass.rng))
      (handledRow_deliveryId now _ _ _) := by
  unfold handle retryDelay
  simp only
  split <;> rfl

@[simp] theorem handle_effects : (handle rt policy now row exc pass).db.effects = pass.db.effects := by
  unfold handle
  simp only
  split <;> rfl

@[simp] theorem handle_payments : (handle rt policy now row exc pass).db.payments = pass.db.payments := by
  unfold handle
  simp only
  split <;> rfl

theorem handle_counter (name : Metric) : (handle rt policy now row exc pass).db.counter (.metric name) =
    pass.db.counter (.metric name) +
      if name = .deadLettered ∧ retryDelay rt policy row exc pass.budgetUsed pass.rng = none then 1 else 0 := by
  unfold handle retryDelay
  simp only
  split
  · simp [recordBudget]
  · simp

end Handle

end Attempts
end Quidz.Proofs
