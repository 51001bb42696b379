import Mathlib.Algebra.BigOperators.Group.List.Basic
import Quidz.Proofs.Application

/-! The aggregate is the fold of its own effect rows. A run may contain any calls
of `applyDelivery`, each in its own transaction, with anything happening to the
inbox in between. -/

namespace Quidz.Proofs

open Library (Table)

variable {T : Type}

/-- The event a row was inserted from, as far as `applyEffect` reads it. -/
def EffectRow.event (row : EffectRow T) : CanonicalEvent T where
  provider := .stripe
  identity := []
  paymentId := row.paymentId
  kind := row.kind
  providerRef := row.providerRef
  amount := match row.amountMinor, row.currency with
    | some minor, some currency => (Money.new (fun _ => true) minor currency).toOption
    | _, _ => none
  occurredAt := row.occurredAt
  sequence := row.sequence
  rawAmountValue := row.rawAmountValue
  rawCurrency := row.rawCurrency

def effectsOf (db : Db T) (paymentId : Str) : List (EffectRow T) :=
  db.effects.rows.filter fun row => row.paymentId = paymentId

/-- What the rows of one kind add up to. -/
def total (rows : List (EffectRow T)) (kind : EffectKind) : Int :=
  ((rows.filter fun row => row.kind = kind).map fun row => row.amountMinor.getD 0).sum

def applyRows (state : PaymentState) (rows : List (EffectRow T)) : Except Exc PaymentState :=
  rows.foldlM (fun state row => applyEffect state (EffectRow.event row)) state

/-- `aggregate` over the rows is a fold from a fresh payment in the first one's
currency, which is there to be read. -/
inductive Aggregates (paymentId : Str) : List (EffectRow T) → Option PaymentState → Prop where
  | absent : Aggregates paymentId [] none
  | folded {first rest currency state} (opened : first.currency = some currency)
      (applied : applyRows { paymentId, currency } (first :: rest) = .ok state) :
      Aggregates paymentId (first :: rest) (some state)

/-- `applyEffect` reads the kind, the amount and the sequence of an event only. -/
theorem applyEffect_congr {state : PaymentState} {first second : CanonicalEvent T} (kind : first.kind = second.kind)
    (amount : first.amount = second.amount) (sequence : first.sequence = second.sequence) :
    applyEffect state first = applyEffect state second := by
  unfold applyEffect effectMinor amountMinor
  rw [kind, amount, sequence]

theorem effectRow_event_amount (deliveryId : Str) (event : CanonicalEvent T) :
    (EffectRow.event (effectRow deliveryId event)).amount = event.amount := by
  cases seen : event.amount with
  | none => simp [EffectRow.event, effectRow, seen]
  | some amount => simp [EffectRow.event, effectRow, seen, Money.new, amount.valid, Except.toOption]

theorem applyEffect_effectRow (state : PaymentState) (deliveryId : Str) (event : CanonicalEvent T) :
    applyEffect state (EffectRow.event (effectRow deliveryId event)) = applyEffect state event :=
  applyEffect_congr rfl (effectRow_event_amount deliveryId event) rfl

/-- Every payment is the fold of its rows, and its id was bound to each. -/
structure Folded (db : Db T) : Prop where
  aggregates : ∀ paymentId, Aggregates paymentId (effectsOf db paymentId) ((db.payments.find? paymentId).map rowToState)
  bound : ∀ row ∈ db.effects.rows, row.paymentId.encodable = true

section Rows

theorem applyRows_append {state after : PaymentState} {rows : List (EffectRow T)} {row : EffectRow T} :
    applyRows state (rows ++ [row]) = .ok after ↔
      ∃ middle, applyRows state rows = .ok middle ∧ applyEffect middle (EffectRow.event row) = .ok after := by
  simp [applyRows, List.foldlM_append]

/-- A row more folds one event more into what was there. -/
theorem Aggregates.append {paymentId : Str} {rows : List (EffectRow T)} {row : EffectRow T} {state after : PaymentState}
    (before : Aggregates paymentId rows (some state))
    (accepted : applyEffect state (EffectRow.event row) = .ok after) :
    Aggregates paymentId (rows ++ [row]) (some after) := by
  cases before with
  | folded opened applied => exact .folded opened (applyRows_append.mpr ⟨state, applied, accepted⟩)

end Rows

theorem effectsOf_extended {db after : Db T} {deliveryId : Str} {event : CanonicalEvent T}
    (extended : Extended db deliveryId event after) (paymentId : Str) : effectsOf after paymentId =
      effectsOf db paymentId ++ if event.paymentId = paymentId then [effectRow deliveryId event] else [] := by
  obtain ⟨_, rows⟩ := Table.insert?_eq_some.mp extended.inserted
  unfold effectsOf
  rw [rows, List.filter_append]
  congr 1
  by_cases same : event.paymentId = paymentId <;> simp [effectRow, same]

theorem Folded.extended {db after : Db T} {deliveryId : Str} {event : CanonicalEvent T} (folded : Folded db)
    (extended : Extended db deliveryId event after) : Folded after := by
  obtain ⟨state, updated, opened, accepted, payments⟩ := extended.folded
  obtain ⟨encodable, held⟩ := openPayment_some.mp opened
  rw [← applyEffect_effectRow state deliveryId event] at accepted
  constructor
  · intro paymentId
    have before := folded.aggregates paymentId
    rw [effectsOf_extended extended, payments paymentId]
    split
    next same =>
      subst same
      rcases held with loaded | ⟨absent, amount, found, rfl⟩
      · rw [loaded] at before
        exact before.append accepted
      · rw [absent] at before
        generalize effectsOf db event.paymentId = rows at before ⊢
        cases before
        have currency : (effectRow deliveryId event).currency = some amount.currency := by simp [effectRow, found]
        exact .folded currency (by simpa [applyRows] using accepted)
    next => rw [List.append_nil]; exact before
  · intro row member
    rw [(Table.insert?_eq_some.mp extended.inserted).2] at member
    rcases List.mem_append.mp member with old | new
    · exact folded.bound row old
    · rw [List.mem_singleton.mp new]
      exact encodable

section Totals

theorem Carries.amountMinor {state : PaymentState} {row : EffectRow T} {minor : Int}
    (carries : Carries state (EffectRow.event row) minor) : row.amountMinor.getD 0 = minor := by
  obtain ⟨amount, found, _, _, rfl⟩ := carries
  simp only [EffectRow.event] at found
  split at found
  next value currency held _ =>
    obtain ⟨valid, made⟩ : ∃ valid, amount = ⟨value, currency, valid⟩ := by
      unfold Money.new at found
      split at found
      next valid => exact ⟨valid, by simpa [Except.toOption, eq_comm] using found⟩
      next => cases found
    simp [held, made]
  next => cases found

/-- What one accepted row adds to the money fields. -/
theorem applyEffect_adds {before after : PaymentState} {row : EffectRow T}
    (accepted : applyEffect before (EffectRow.event row) = .ok after) :
    after.capturedMinor = before.capturedMinor + total [row] .capture ∧
    after.refundedMinor =
      before.refundedMinor + total [row] .refund - total [row] .refundFail - total [row] .refundReverse ∧
    after.captureFailedMinor = before.captureFailedMinor + total [row] .captureFail ∧
    after.refundFailedMinor = before.refundFailedMinor + total [row] .refundFail + total [row] .refundReverse := by
  have kinds : (EffectRow.event row).kind = row.kind := rfl
  cases applyEffect_ok.mp accepted with
  | correction regressive carries =>
    rw [kinds] at regressive ⊢
    cases kind : row.kind <;> simp [kind] at regressive
    all_goals simp [fold, total, kind, carries.amountMinor]
  | authorizeFail kind | void kind | expire kind => simp [fold, total, kinds ▸ kind]
  | authorize kind carries | stale kind carries | adjustAuth kind carries | capture kind carries
  | captureFail kind carries | refund kind carries =>
    simp [fold, total, kinds ▸ kind, carries.amountMinor]

theorem total_cons (row : EffectRow T) (rest : List (EffectRow T)) (kind : EffectKind) :
    total (row :: rest) kind = total [row] kind + total rest kind := by
  by_cases same : row.kind = kind <;> simp [total, same]

theorem applyRows_adds {before after : PaymentState} {rows : List (EffectRow T)}
    (accepted : applyRows before rows = .ok after) :
    after.capturedMinor = before.capturedMinor + total rows .capture ∧
    after.refundedMinor = before.refundedMinor + total rows .refund - total rows .refundFail - total rows .refundReverse ∧
    after.captureFailedMinor = before.captureFailedMinor + total rows .captureFail ∧
    after.refundFailedMinor = before.refundFailedMinor + total rows .refundFail + total rows .refundReverse := by
  induction rows generalizing before with
  | nil => cases accepted; simp [total]
  | cons row rest ih =>
    obtain ⟨middle, first, later⟩ := bind_ok.mp accepted
    obtain ⟨captured, refunded, captureFailed, refundFailed⟩ := applyEffect_adds first
    obtain ⟨captured', refunded', captureFailed', refundFailed'⟩ := ih later
    simp only [total_cons row rest]
    omega

end Totals

/-- What may happen between two looks at the ledger: the inbox changes in any way,
or a delivery is applied in a transaction of its own. -/
inductive LedgerStep (T : Type) where
  | received (deliveries : Table (Delivery T) Delivery.deliveryId) (counters : Table Counter Counter.name)
  | delivered (deliveryId : Str) (event : CanonicalEvent T)

variable [Seconds T]

def ledgerStep (db : Db T) : LedgerStep T → Db T
  | .received deliveries counters => { db with deliveries, counters }
  | .delivered deliveryId event => (writeTx (applyDelivery deliveryId event) db).2

def ledgerRun (steps : List (LedgerStep T)) : Db T := steps.foldl ledgerStep .empty

theorem Folded.step {db : Db T} (folded : Folded db) (step : LedgerStep T) : Folded (ledgerStep db step) := by
  cases step with
  | received deliveries counters => exact ⟨folded.aggregates, folded.bound⟩
  | delivered deliveryId event =>
    rcases writeTx_delivered db deliveryId event with ⟨after, delivered, same⟩ | ⟨_, same⟩
    all_goals rw [ledgerStep, same]
    · exact folded.extended delivered.extended
    · exact folded

theorem ledgerRun_folded (steps : List (LedgerStep T)) : Folded (ledgerRun steps) :=
  List.foldlRecOn steps ledgerStep ⟨fun _ => .absent, nofun⟩ fun _ folded step _ => folded.step step

/-- In every store a run of deliveries can reach, a payment exists iff it has an
effect row, is the fold of its rows in the order they were inserted, and carries
the sums of their amounts. -/
theorem payment_is_fold (steps : List (LedgerStep T)) (paymentId : Str) :
    let db := ledgerRun steps
    let rows := effectsOf db paymentId
    (db.effects.rows.map EffectRow.key).Nodup ∧
    ((∃ row ∈ db.payments.rows, row.paymentId = paymentId) ↔ ∃ row ∈ db.effects.rows, row.paymentId = paymentId) ∧
    (rows ≠ [] → ∃ currency state, rows.head?.bind EffectRow.currency = some currency ∧
      applyRows { paymentId, currency } rows = .ok state ∧
      loadPayment db paymentId = .ok (some state) ∧
      state.capturedMinor = total rows .capture ∧
      state.refundedMinor = total rows .refund - total rows .refundFail - total rows .refundReverse ∧
      state.captureFailedMinor = total rows .captureFail ∧
      state.refundFailedMinor = total rows .refundFail + total rows .refundReverse) := by
  intro db rows
  obtain ⟨aggregates, bound⟩ : Folded db := ledgerRun_folded steps
  have held : Aggregates paymentId rows ((db.payments.find? paymentId).map rowToState) := aggregates paymentId
  have some_iff : (∃ row ∈ db.payments.rows, row.paymentId = paymentId) ↔ rows ≠ [] := by
    rw [← Table.find?_isSome]
    generalize rows = listed at held
    cases seen : db.payments.find? paymentId <;> rw [seen] at held <;> cases held <;> simp
  have rows_iff : (∃ row ∈ db.effects.rows, row.paymentId = paymentId) ↔ rows ≠ [] := by
    simp [rows, effectsOf, List.filter_eq_nil_iff]
  refine ⟨db.effects.unique, some_iff.trans rows_iff.symm, fun nonempty => ?_⟩
  obtain ⟨row, member, same⟩ := rows_iff.mpr nonempty
  have encodable : paymentId.encodable = true := same ▸ bound row member
  generalize listed : rows = all at held nonempty
  generalize stored : (db.payments.find? paymentId).map rowToState = found at held
  cases held with
  | absent => exact absurd rfl nonempty
  | @folded first rest currency state opened applied =>
    have sums := applyRows_adds applied
    simp only [zero_add] at sums
    refine ⟨currency, state, by simp [opened], applied, ?_, sums⟩
    simp [loadPayment, stored, bindStr_ok, encodable]

end Quidz.Proofs
