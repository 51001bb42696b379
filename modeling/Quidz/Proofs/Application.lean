import Quidz.Ledger
import Quidz.Proofs.Transitions

/-! What one delivery can do to the ledger. Either the tables stay as they were,
or one effect row is added and the payment it belongs to is folded forward. -/

namespace Quidz.Proofs

open Library (Table)

variable {T : Type}

theorem bindStr_ok {value : Str} {done : Unit} : bindStr value = .ok done ↔ value.encodable = true := by
  simp [bindStr]

theorem bindInt_ok {value : Int} {done : Unit} : bindInt value = .ok done ↔ -(2 ^ 63) ≤ value ∧ value < 2 ^ 63 := by
  rw [bindInt, raiseIf_ok, not_or, Int.not_lt, Int.not_le]

theorem bindEffect_ok {row : EffectRow T} (bound : bindEffect row = .ok ()) :
    (∀ minor ∈ row.amountMinor, -(2 ^ 63) ≤ minor ∧ minor < 2 ^ 63) ∧
    (∀ currency ∈ row.currency, currency.encodable = true) ∧ -(2 ^ 63) ≤ row.sequence ∧ row.sequence < 2 ^ 63 := by
  simp only [bindEffect, bind_ok] at bound
  obtain ⟨_, _, _, _, _, minor, _, currency, _, sequence, _⟩ := bound
  refine ⟨fun value found => ?_, fun value found => ?_, bindInt_ok.mp sequence⟩
  · rw [Option.mem_def.mp found] at minor
    exact bindInt_ok.mp minor
  · rw [Option.mem_def.mp found] at currency
    exact bindStr_ok.mp currency

theorem bindEffect_paymentId {deliveryId : Str} {event : CanonicalEvent T}
    (bound : bindEffect (effectRow deliveryId event) = .ok ()) : event.paymentId.encodable = true := by
  obtain ⟨_, paymentId, _⟩ := bind_ok.mp bound
  exact bindStr_ok.mp paymentId

theorem bindPayment_ok {updated : PaymentState} : bindPayment updated = .ok () ↔
    updated.paymentId.encodable = true ∧ updated.currency.encodable = true ∧
    ∀ value ∈ [updated.authorizedMinor, updated.capturedMinor, updated.captureFailedMinor, updated.refundedMinor,
      updated.refundFailedMinor, updated.rank, updated.lastSequence], -(2 ^ 63) ≤ value ∧ value < 2 ^ 63 := by
  simp only [bindPayment, bind_ok, exists_const, bindStr_ok, bindInt_ok, List.forall_mem_cons, List.not_mem_nil, false_implies,
    implies_true, and_true]

theorem insertEffect_ok {db inserted : Db T} {row : EffectRow T} :
    insertEffect db row = .ok inserted ↔ bindEffect row = .ok () ∧ (db.deliveries.find? row.deliveryId).isSome ∧
      ∃ effects, db.effects.insert? row = some effects ∧ inserted = { db with effects } := by
  unfold insertEffect
  cases db.effects.insert? row with
  | none => simp only [bind_ok, raise_ne_ok, and_false, exists_false, reduceCtorEq, false_and]
  | some effects =>
    simp only [bind_ok, raiseIf_ok, pure_eq_ok, Except.ok.injEq, Option.some.injEq, exists_eq_left',
      Bool.not_eq_true, Option.isNone_eq_false_iff, Unique.exists_iff, PUnit.default_eq_unit, @eq_comm _ inserted]

theorem recordEffect_ok {db inserted : Db T} {deliveryId : Str} {state updated : PaymentState}
    {event : CanonicalEvent T} :
    recordEffect db deliveryId state event = .ok (inserted, updated) ↔
      insertEffect db (effectRow deliveryId event) = .ok inserted ∧ applyEffect state event = .ok updated := by
  simp [recordEffect]

theorem Accepts.kept {before after : PaymentState} {event : CanonicalEvent T} (accepted : Accepts before event after) :
    after.paymentId = before.paymentId ∧ after.currency = before.currency := by
  cases accepted <;> simp

theorem openPayment_some {db : Db T} {event : CanonicalEvent T} {state : PaymentState} :
    openPayment db event = .ok (some state) ↔ event.paymentId.encodable = true ∧
      ((db.payments.find? event.paymentId).map rowToState = some state ∨
        db.payments.find? event.paymentId = none ∧
          ∃ amount, event.amount = some amount ∧
            state = { paymentId := event.paymentId, currency := amount.currency }) := by
  simp only [openPayment, loadPayment, bind_ok, pure_eq_ok, bindStr_ok, Except.ok.injEq, exists_const]
  cases db.payments.find? event.paymentId with
  | none =>
    cases event.amount with
    | none => simp
    | some amount => simp [@eq_comm _ state]
  | some row => simp

theorem openPayment_paymentId {db : Db T} {event : CanonicalEvent T} {state : PaymentState}
    (opened : openPayment db event = .ok (some state)) : state.paymentId = event.paymentId := by
  obtain ⟨_, loaded | ⟨_, _, _, rfl⟩⟩ := openPayment_some.mp opened
  · obtain ⟨row, found, rfl⟩ := Option.map_eq_some_iff.mp loaded
    exact (Table.find?_eq_some.mp found).2
  · rfl

theorem rowToState_paymentRow (updated : PaymentState) (updatedAt : T) :
    rowToState (paymentRow updated updatedAt) = updated := by
  obtain ⟨_, _, _, _, _, _, _, voided, expired, _, _⟩ := updated
  cases voided <;> cases expired <;> rfl

theorem bindEffect_raises (row : EffectRow T) : Raises [.unicodeEncodeError, .overflowError] (bindEffect row) := by
  have text (value : Str) : Raises [.unicodeEncodeError, .overflowError] (bindStr value) := .raiseIf (by decide) _ _
  have number (value : Int) : Raises [.unicodeEncodeError, .overflowError] (bindInt value) := .raiseIf (by decide) _ _
  have texts (value : Option Str) : Raises [.unicodeEncodeError, .overflowError] (bindOption bindStr value) := by
    cases value with
    | none => exact .ok ()
    | some value => exact text value
  have numbers (value : Option Int) : Raises [.unicodeEncodeError, .overflowError] (bindOption bindInt value) := by
    cases value with
    | none => exact .ok ()
    | some value => exact number value
  unfold bindEffect
  refine .bind (text _) fun _ => .bind (text _) fun _ => .bind (numbers _) fun _ => .bind (texts _) fun _ => ?_
  exact .bind (number _) fun _ => .bind (text _) fun _ => .bind (texts _) fun _ => texts _

/-- What `INSERT INTO effects` raises is of its parameters, or of one of the two
constraints. -/
theorem insertEffect_error {db : Db T} {row : EffectRow T} {exc : Exc} (failed : insertEffect db row = .error exc) :
    bindEffect row = .error exc ∨ (bindEffect row = .ok () ∧ exc.type = .integrityError ∧
      ((∃ other ∈ db.effects.rows, other.key = row.key) ∨ db.deliveries.find? row.deliveryId = none)) := by
  unfold insertEffect at failed
  rcases bind_error.mp failed with unbound | ⟨_, bound, failed⟩
  · exact .inl unbound
  refine .inr ⟨bound, ?_⟩
  split at failed
  next inserted =>
    cases failed
    exact ⟨rfl, .inl (Table.insert?_eq_none.mp inserted)⟩
  next =>
    rcases bind_error.mp failed with raised | ⟨_, _, done⟩
    · obtain ⟨unknown, rfl⟩ := raiseIf_error.mp raised
      exact ⟨rfl, .inr (Option.isNone_iff_eq_none.mp unknown)⟩
    · cases done

/-- What is raised inside the savepoint comes from the insert or from the state machine. -/
theorem recordEffect_error {db : Db T} {deliveryId : Str} {state : PaymentState} {event : CanonicalEvent T} {exc : Exc}
    (raised : recordEffect db deliveryId state event = .error exc) :
    bindEffect (effectRow deliveryId event) = .error exc ∨
    (bindEffect (effectRow deliveryId event) = .ok () ∧ exc.type = .integrityError ∧
      ((∃ other ∈ db.effects.rows, other.key = (effectRow deliveryId event).key) ∨ db.deliveries.find? deliveryId = none)) ∨
    (bindEffect (effectRow deliveryId event) = .ok () ∧ applyEffect state event = .error exc) := by
  unfold recordEffect at raised
  rcases bind_error.mp raised with unrecorded | ⟨_, insertion, raised⟩
  · exact (insertEffect_error unrecorded).imp_right .inl
  rcases bind_error.mp raised with refused | ⟨_, _, done⟩
  · exact .inr (.inr ⟨(insertEffect_ok.mp insertion).1, refused⟩)
  · cases done

/-- Neither a parameter that does not bind nor a refusal is taken for a violated
constraint. -/
theorem recordEffect_integrity {db : Db T} {deliveryId : Str} {state : PaymentState} {event : CanonicalEvent T} {exc : Exc}
    (raised : recordEffect db deliveryId state event = .error exc) (integrity : exc.isinstance .integrityError = true) :
    bindEffect (effectRow deliveryId event) = .ok () ∧
      ((∃ other ∈ db.effects.rows, other.key = (effectRow deliveryId event).key) ∨ db.deliveries.find? deliveryId = none) := by
  rcases recordEffect_error raised with unbound | ⟨bound, _, violated⟩ | ⟨_, refused⟩
  · have listed := bindEffect_raises _ _ unbound
    obtain ⟨type, _⟩ := exc
    rcases List.mem_pair.mp listed with rfl | rfl
    all_goals simp [Exc.isinstance, ExcType.bases] at integrity
  · exact ⟨bound, violated⟩
  · have listed := applyEffect_raises state event _ refused
    obtain ⟨type, _⟩ := exc
    revert listed integrity
    cases type <;> simp [refusals, Exc.isinstance, ExcType.bases]

/-- A delivery is premature after its parameters were bound. -/
theorem recordEffect_premature {db : Db T} {deliveryId : Str} {state : PaymentState} {event : CanonicalEvent T} {exc : Exc}
    (raised : recordEffect db deliveryId state event = .error exc) (premature : exc.isinstance .prematureEvent = true) :
    bindEffect (effectRow deliveryId event) = .ok () ∧ exc.type = .prematureEvent ∧ applyEffect state event = .error exc := by
  have early : exc.type = .prematureEvent := by
    obtain ⟨type, _⟩ := exc
    cases type <;> simp [Exc.isinstance, ExcType.bases] at premature ⊢
  rcases recordEffect_error raised with unbound | ⟨_, integrity, _⟩ | ⟨bound, refused⟩
  · have listed := bindEffect_raises _ _ unbound
    simp [early] at listed
  · rw [early] at integrity
    cases integrity
  · exact ⟨bound, early, refused⟩

variable [Seconds T]

/-- The upsert leaves `updated` to be read back, if the row it meets was opened in
the same currency. -/
theorem upsertPayment_reads {db after : Db T} {updated : PaymentState} {occurredAt : T}
    (written : upsertPayment db updated occurredAt = .ok after)
    (sameCurrency : ∀ row, db.payments.find? updated.paymentId = some row → row.currency = updated.currency) :
    after.deliveries = db.deliveries ∧ after.effects = db.effects ∧ after.counters = db.counters ∧
    ∀ paymentId, (after.payments.find? paymentId).map rowToState =
      if updated.paymentId = paymentId then some updated else (db.payments.find? paymentId).map rowToState := by
  simp only [upsertPayment, bind_ok, pure_eq_ok, Except.ok.injEq] at written
  obtain ⟨_, _, rfl⟩ := written
  refine ⟨rfl, rfl, rfl, fun paymentId => ?_⟩
  rw [Table.upsert_find?]
  have key : (paymentRow updated occurredAt).paymentId = updated.paymentId := rfl
  rw [key]
  split
  next same =>
    subst same
    cases seen : db.payments.find? updated.paymentId with
    | none => exact congrArg some (rowToState_paymentRow updated occurredAt)
    | some row =>
      have currency := sameCurrency row seen
      have sameKey := (Table.find?_eq_some.mp seen).2
      refine Eq.trans ?_ (congrArg some (rowToState_paymentRow updated occurredAt))
      simp [rowToState, paymentRow, sameKey, currency]
  next => rfl

/-- One constructor for each way `applyDelivery` returns. -/
inductive Delivered (db : Db T) (deliveryId : Str) (event : CanonicalEvent T) : ApplyOutcome → Db T → Prop where
  | unopened (opened : openPayment db event = .ok none) : Delivered db deliveryId event .parked db
  | premature {state exc} (opened : openPayment db event = .ok (some state))
      (refused : recordEffect db deliveryId state event = .error exc)
      (premature : exc.isinstance .prematureEvent = true) : Delivered db deliveryId event .parked db
  | duplicate {state exc} (opened : openPayment db event = .ok (some state))
      (refused : recordEffect db deliveryId state event = .error exc)
      (timely : exc.isinstance .prematureEvent = false)
      (integrity : exc.isinstance .integrityError = true) : Delivered db deliveryId event .noopDuplicate db
  | applied {state inserted updated after} (opened : openPayment db event = .ok (some state))
      (recorded : recordEffect db deliveryId state event = .ok (inserted, updated))
      (written : upsertPayment inserted updated event.occurredAt = .ok after) :
      Delivered db deliveryId event .applied after

theorem applyDelivery_ok {db after : Db T} {deliveryId : Str} {event : CanonicalEvent T} {outcome : ApplyOutcome} :
    applyDelivery deliveryId event db = (.ok outcome, after) ↔ Delivered db deliveryId event outcome after := by
  constructor
  · intro returned
    unfold applyDelivery at returned
    split at returned
    next => cases returned
    next opened => cases returned; exact .unopened opened
    next state opened =>
      split at returned
      next exc refused =>
        split at returned
        next premature => cases returned; exact .premature opened refused premature
        next timely =>
          split at returned
          next integrity => cases returned; exact .duplicate opened refused (by simpa using timely) integrity
          next => cases returned
      next inserted updated recorded =>
        split at returned
        next => cases returned
        next written => cases returned; exact .applied opened recorded written
  · intro delivered
    cases delivered with
    | unopened opened => simp [applyDelivery, opened]
    | premature opened refused premature => simp [applyDelivery, opened, refused, premature]
    | duplicate opened refused timely integrity => simp [applyDelivery, opened, refused, timely, integrity]
    | applied opened recorded written => simp [applyDelivery, opened, recorded, written]

/-- The tables after a delivery was applied: one new row, and the payment it
belongs to as `applyEffect` left it. -/
structure Extended (db : Db T) (deliveryId : Str) (event : CanonicalEvent T) (after : Db T) : Prop where
  deliveries : after.deliveries = db.deliveries
  counters : after.counters = db.counters
  known : (db.deliveries.find? deliveryId).isSome
  inserted : db.effects.insert? (effectRow deliveryId event) = some after.effects
  folded : ∃ state updated, openPayment db event = .ok (some state) ∧ applyEffect state event = .ok updated ∧
    ∀ paymentId, (after.payments.find? paymentId).map rowToState =
      if event.paymentId = paymentId then some updated else (db.payments.find? paymentId).map rowToState

theorem Delivered.extended {db after : Db T} {deliveryId : Str} {event : CanonicalEvent T}
    (delivered : Delivered db deliveryId event .applied after) : Extended db deliveryId event after := by
  cases delivered with
  | @applied state inserted updated _ opened recorded written =>
    obtain ⟨insertion, accepted⟩ := recordEffect_ok.mp recorded
    obtain ⟨_, known, effects, inserting, rfl⟩ := insertEffect_ok.mp insertion
    obtain ⟨payment, currency⟩ := (applyEffect_ok.mp accepted).kept
    have sameCurrency : ∀ row, db.payments.find? updated.paymentId = some row → row.currency = updated.currency := by
      intro row found
      rw [payment, openPayment_paymentId opened] at found
      obtain ⟨_, loaded | ⟨absent, _⟩⟩ := openPayment_some.mp opened
      · rw [found, Option.map_some, Option.some.injEq] at loaded
        rw [currency, ← loaded, rowToState]
      · rw [found] at absent; cases absent
    obtain ⟨deliveries, sameEffects, counters, payments⟩ := upsertPayment_reads written sameCurrency
    rw [payment, openPayment_paymentId opened] at payments
    exact ⟨deliveries, counters, known, sameEffects ▸ inserting, state, updated, opened, accepted, payments⟩

/-- A stored delivery that is answered as a duplicate meets the row of another one
under its own business key. -/
theorem Delivered.taken {db after : Db T} {deliveryId : Str} {event : CanonicalEvent T}
    (known : (db.deliveries.find? deliveryId).isSome)
    (delivered : Delivered db deliveryId event .noopDuplicate after) :
    after = db ∧ ∃ row ∈ db.effects.rows, row.key = (effectRow deliveryId event).key := by
  cases delivered with
  | duplicate opened refused timely integrity =>
    refine ⟨rfl, ?_⟩
    rcases (recordEffect_integrity refused integrity).2 with taken | unknown
    · exact taken
    · rw [unknown] at known
      cases known

/-- A delivery in a transaction of its own is applied, or leaves the store as it was. -/
theorem writeTx_delivered (db : Db T) (deliveryId : Str) (event : CanonicalEvent T) :
    (∃ after, Delivered db deliveryId event .applied after ∧ (writeTx (applyDelivery deliveryId event) db).2 = after) ∨
    (∀ after, ¬Delivered db deliveryId event .applied after) ∧ (writeTx (applyDelivery deliveryId event) db).2 = db := by
  rcases answered : writeTx (applyDelivery deliveryId event) db with ⟨exc | outcome, reached⟩
  · obtain ⟨raised, same⟩ := writeTx_error.mp answered
    refine .inr ⟨fun after delivered => ?_, same⟩
    rw [applyDelivery_ok.mpr delivered] at raised
    cases raised
  · have returned := writeTx_ok.mp answered
    have delivered := applyDelivery_ok.mp returned
    cases outcome with
    | applied => exact .inl ⟨reached, delivered, rfl⟩
    | _ =>
      refine .inr ⟨fun after other => ?_, ?_⟩
      · rw [applyDelivery_ok.mpr other] at returned
        cases returned
      · cases delivered
        all_goals rfl

section Congruence

/-- Two computations that raise the same, or answer what is related. -/
inductive Alike {α β : Type} (related : α → β → Prop) : Except Exc α → Except Exc β → Prop where
  | error (exc : Exc) : Alike related (.error exc) (.error exc)
  | ok {first second} (both : related first second) : Alike related (.ok first) (.ok second)

/-- What the parts of an application do in two related stores. -/
structure Congruent (related : Db T → Db T → Prop) (deliveryId : Str) (event : CanonicalEvent T) : Prop where
  opens {db rest} : related db rest → openPayment rest event = openPayment db event
  inserts {db rest} : related db rest →
    Alike related (insertEffect db (effectRow deliveryId event)) (insertEffect rest (effectRow deliveryId event))
  upserts {db rest} {updated : PaymentState} : related db rest → updated.paymentId = event.paymentId →
    Alike related (upsertPayment db updated event.occurredAt) (upsertPayment rest updated event.occurredAt)

variable {related : Db T → Db T → Prop} {db rest : Db T} {deliveryId : Str} {event : CanonicalEvent T}

theorem Congruent.recordEffect (congruent : Congruent related deliveryId event) (both : related db rest)
    {state : PaymentState} (own : state.paymentId = event.paymentId) :
    Alike (fun first second => related first.1 second.1 ∧ second.2 = first.2 ∧ first.2.paymentId = event.paymentId)
      (recordEffect db deliveryId state event) (recordEffect rest deliveryId state event) := by
  unfold Quidz.recordEffect
  have insertion := congruent.inserts both
  generalize insertEffect db (effectRow deliveryId event) = first at insertion ⊢
  generalize insertEffect rest (effectRow deliveryId event) = second at insertion ⊢
  cases insertion with
  | error exc => exact .error exc
  | ok inserted =>
    cases accepted : applyEffect state event with
    | error exc => exact .error exc
    | ok updated => exact .ok ⟨inserted, rfl, (applyEffect_ok.mp accepted).kept.1.trans own⟩

/-- The delivery is answered alike, and where it is answered the stores are still
related. -/
theorem Congruent.applyDelivery (congruent : Congruent related deliveryId event) (both : related db rest) :
    (applyDelivery deliveryId event rest).1 = (applyDelivery deliveryId event db).1 ∧
    ∀ outcome after, applyDelivery deliveryId event db = (.ok outcome, after) →
      related after (applyDelivery deliveryId event rest).2 := by
  unfold Quidz.applyDelivery
  rw [congruent.opens both]
  cases opened : openPayment db event with
  | error exc => exact ⟨rfl, fun _ _ answered => by cases answered⟩
  | ok state =>
    cases state with
    | none => exact ⟨rfl, fun _ _ answered => by cases answered; exact both⟩
    | some state =>
      have recording := congruent.recordEffect both (openPayment_paymentId opened)
      simp only
      generalize Quidz.recordEffect db deliveryId state event = first at recording ⊢
      generalize Quidz.recordEffect rest deliveryId state event = second at recording ⊢
      cases recording with
      | error exc =>
        simp only
        split
        · exact ⟨rfl, fun _ _ answered => by cases answered; exact both⟩
        · split
          · exact ⟨rfl, fun _ _ answered => by cases answered; exact both⟩
          · exact ⟨rfl, fun _ _ answered => by cases answered⟩
      | @ok first second recorded =>
        obtain ⟨inserted, updated⟩ := first
        obtain ⟨inserted', updated'⟩ := second
        obtain ⟨still, same, kept⟩ := recorded
        obtain rfl : updated' = updated := same
        have writing := congruent.upserts still kept
        simp only
        generalize upsertPayment inserted updated' event.occurredAt = first at writing ⊢
        generalize upsertPayment inserted' updated' event.occurredAt = second at writing ⊢
        cases writing with
        | error exc => exact ⟨rfl, fun _ _ answered => by cases answered⟩
        | ok written => exact ⟨rfl, fun _ _ answered => by cases answered; exact written⟩

end Congruence

/-- A delivery and the event it decodes to. -/
abbrev Arrival (T : Type) := Str × CanonicalEvent T

/-- An event of one payment in euros. -/
def movement (kind : EffectKind) (reference : String) (sequence minor : Int) : Arrival Int :=
  (str reference,
    { provider := .stripe
      identity := str reference
      paymentId := str "pi_1"
      kind := kind
      providerRef := str reference
      amount := some ⟨minor, str "EUR", by decide⟩
      occurredAt := sequence
      sequence := sequence
      rawAmountValue := none
      rawCurrency := none })

/-- Deliveries that were claimed and not applied yet. -/
def waiting (ids : List Str) (distinct : ids.Nodup) : Db Int :=
  { Db.empty with
    deliveries := ⟨ids.map fun deliveryId =>
      { deliveryId, provider := .stripe, raw := [], headers := [], receivedAt := 0, state := .claimed },
      by rwa [List.map_map, show Delivery.deliveryId ∘ _ = id from rfl, List.map_id]⟩ }

end Quidz.Proofs
