import Quidz.Library.Retry
import Quidz.Proofs.Atomicity
import Quidz.Proofs.Processing
import Quidz.Proofs.Ratchet
import Quidz.Proofs.Twins

/-! Deliveries that are tried again and never help. Whatever makes the classifier ask for
another attempt is in the payload, or is a sum that only grows, so that no later ledger
takes the delivery either. -/

namespace Quidz.Proofs

open Library (Table Verdict)
open Library.Retry (Matches)

variable {T R : Type} [Seconds T] (rt : Runtime T R)

/-- What of a delivery its claim fixes for good. -/
structure Parcel where
  deliveryId : Str
  provider : Provider
  raw : Bytes
  deriving DecidableEq

/-- What the ledger does with a delivery, leaving the inbox aside. -/
def answer (db : Db T) (parcel : Parcel) : Verdict (Db T) :=
  match decode rt parcel.provider parcel.raw with
  | .error _ => .refused
  | .ok event =>
    match applyDelivery parcel.deliveryId event db with
    | (.ok .applied, after) => .applied after
    | (.ok .parked, _) => .parked
    | _ => .refused

def parcel (row : Selected) : Parcel := ⟨row.deliveryId, row.provider, row.raw⟩

abbrev parcels (rows : List (Delivery T)) : List Parcel := rows.map fun row => parcel row.selected

/-- Two stores with one ledger, that hold the same deliveries in whatever state. -/
structure SameStore (db rest : Db T) : Prop where
  effects : rest.effects = db.effects
  payments : rest.payments = db.payments
  posted : parcels rest.deliveries.rows = parcels db.deliveries.rows

section Ledgers

omit [Seconds T] in
theorem SameStore.refl (db : Db T) : SameStore db db := ⟨rfl, rfl, rfl⟩

omit [Seconds T] in
theorem SameStore.trans {first second third : Db T} (here : SameStore first second) (there : SameStore second third) :
    SameStore first third where
  effects := there.effects.trans here.effects
  payments := there.payments.trans here.payments
  posted := there.posted.trans here.posted

omit [Seconds T] in
theorem known_iff (db : Db T) (id : Str) :
    (db.deliveries.find? id).isNone = true ↔ id ∉ (parcels db.deliveries.rows).map Parcel.deliveryId := by
  rw [Option.isNone_iff_eq_none, Table.find?_eq_none, List.map_map, List.mem_map]
  simp only [Function.comp, parcel, Delivery.selected, not_exists, not_and]

variable {db rest : Db T} (same : SameStore db rest)
include same

omit [Seconds T] in
theorem SameStore.known (id : Str) : (rest.deliveries.find? id).isNone = (db.deliveries.find? id).isNone := by
  rw [Bool.eq_iff_iff, known_iff, known_iff, same.posted]

theorem SameStore.applyDelivery (deliveryId : Str) (event : CanonicalEvent T) :
    (applyDelivery deliveryId event rest).1 = (applyDelivery deliveryId event db).1 ∧
    ∀ outcome after, Quidz.applyDelivery deliveryId event db = (.ok outcome, after) →
      SameStore after (Quidz.applyDelivery deliveryId event rest).2 := by
  have congruent := (ledger_congruent deliveryId event).applyDelivery ⟨same.effects, same.payments, same.known deliveryId⟩
  refine ⟨congruent.1, fun outcome after answered => ?_⟩
  obtain ⟨alike, still⟩ := congruent
  obtain ⟨effects, payments, _⟩ := still outcome after answered
  rcases answered' : Quidz.applyDelivery deliveryId event rest with ⟨result, after'⟩
  rw [answered, answered'] at alike
  rw [answered'] at effects payments
  cases alike
  refine ⟨effects, payments, ?_⟩
  rw [(applyDelivery_ok.mp answered').deliveries, (applyDelivery_ok.mp answered).deliveries]
  exact same.posted

theorem SameStore.answer (parcel : Parcel) : Matches SameStore (answer rt db parcel) (answer rt rest parcel) := by
  unfold Quidz.Proofs.answer
  cases decode rt parcel.provider parcel.raw with
  | error exc => exact .refused
  | ok event =>
    obtain ⟨alike, still⟩ := same.applyDelivery parcel.deliveryId event
    rcases answered : Quidz.applyDelivery parcel.deliveryId event db with ⟨exc | outcome, after⟩
    all_goals
      rcases answered' : Quidz.applyDelivery parcel.deliveryId event rest with ⟨result, after'⟩
      rw [answered, answered'] at alike
      cases alike
      simp only [answered, answered']
    · exact .refused
    · have both := still outcome after answered
      rw [answered'] at both
      cases outcome with
      | applied => exact .applied both
      | parked => exact .parked
      | noopDuplicate | rejected => exact .refused

end Ledgers

/-- No ledger that grows out of this one applies the delivery or parks it. -/
inductive Futile (db : Db T) (parcel : Parcel) : Prop where
  | undecodable {exc} (undecodable : decode rt parcel.provider parcel.raw = .error exc)
  | unbound {event} (decoded : decode rt parcel.provider parcel.raw = .ok event)
      (opened : openPayment db event ≠ .ok none) (unbound : bindEffect (effectRow parcel.deliveryId event) ≠ .ok ())
  | overruns {event state minor} (decoded : decode rt parcel.provider parcel.raw = .ok event)
      (held : (db.payments.find? event.paymentId).map rowToState = some state) (carries : Carries state event minor)
      (timely : ∀ prerequisite ∈ event.kind.prerequisiteRank, prerequisite ≤ state.rank)
      (overflowing : Overflowing state event.kind minor)

section Refused

variable {rt} {db after : Db T} {parcel : Parcel} {deliveryId : Str} {event : CanonicalEvent T}

omit [Seconds T] in
theorem opened_held {state other : PaymentState} (held : (db.payments.find? event.paymentId).map rowToState = some state)
    (opened : openPayment db event = .ok (some other)) : other = state := by
  obtain ⟨_, loaded | ⟨absent, _⟩⟩ := openPayment_some.mp opened
  · exact Option.some.inj (loaded.symm.trans held)
  · rw [absent] at held
    cases held

theorem Delivered.not_futile {outcome : ApplyOutcome} (storable : Storable db) (futile : Futile rt db parcel)
    (decoded : decode rt parcel.provider parcel.raw = .ok event)
    (delivered : Delivered db parcel.deliveryId event outcome after) : outcome = .noopDuplicate := by
  cases futile with
  | undecodable undecodable => rw [undecodable] at decoded; cases decoded
  | unbound decoded' opened unbound =>
    obtain rfl := Except.ok.inj (decoded'.symm.trans decoded)
    cases delivered with
    | unopened unopened => exact absurd unopened opened
    | duplicate => rfl
    | premature opened refused premature => exact absurd (recordEffect_premature refused premature).1 unbound
    | applied opened recorded =>
      exact absurd (insertEffect_ok.mp (recordEffect_ok.mp recorded).1).1 unbound
  | @overruns event' state minor decoded' held carries timely overflowing =>
    obtain rfl := Except.ok.inj (decoded'.symm.trans decoded)
    have own {other : PaymentState} (opened : openPayment db event' = .ok (some other)) : other = state := opened_held held opened
    cases delivered with
    | unopened unopened => simp [openPayment, loadPayment, held] at unopened
    | duplicate => rfl
    | premature opened refused premature =>
      obtain rfl := own opened
      obtain ⟨_, early, refused⟩ := recordEffect_premature refused premature
      obtain ⟨prerequisite, needed, short⟩ := applyEffect_early refused early
      exact absurd (timely prerequisite needed) (Int.not_le.mpr short)
    | @applied state inserted updated _ opened recorded written =>
      obtain ⟨insertion, accepted⟩ := recordEffect_ok.mp recorded
      have bound := (insertEffect_ok.mp insertion).1
      have binds := ((applyEffect_ok.mp accepted).binds (openPayment_binds storable opened bound) bound).mp
      obtain rfl := own opened
      exact absurd ⟨minor, carries, overflowing⟩ (binds (upsertPayment_binds written))

theorem Futile.refused (storable : Storable db) (futile : Futile rt db parcel) : answer rt db parcel = .refused := by
  unfold answer
  cases decoded : decode rt parcel.provider parcel.raw with
  | error exc => rfl
  | ok event =>
    rcases answered : applyDelivery parcel.deliveryId event db with ⟨exc | outcome, after⟩
    · simp only [answered]
    · obtain rfl := (applyDelivery_ok.mp answered).not_futile storable futile decoded
      simp only [answered]

end Refused

section Growth

variable {state updated : PaymentState} {event : CanonicalEvent T}

omit [Seconds T] in
theorem Accepts.refundFailed_le (accepted : Accepts state event updated) : state.refundFailedMinor ≤ updated.refundFailedMinor := by
  cases accepted with
  | correction regressive carries =>
    have nonneg := carries.nonneg
    rw [folded_refundFailedMinor, fold_correction regressive]
    exact Int.le_add_of_nonneg_right nonneg
  | _ => exact Int.le_refl _

omit [Seconds T] in
/-- A prerequisite that was met stays met. -/
theorem Accepts.still_timely (accepted : Accepts state event updated) {kind : EffectKind} {prerequisite : Int}
    (needed : prerequisite ∈ kind.prerequisiteRank) (met : prerequisite ≤ state.rank) : prerequisite ≤ updated.rank := by
  cases regressive : event.kind.regressive with
  | false => exact met.trans (accepted.ratchets regressive)
  | true =>
    have floor : prerequisite ≤ 60 := by
      cases kind <;> simp at needed
      all_goals omega
    exact floor.trans (accepted.floored regressive)

variable {rt} {db after : Db T} {parcel : Parcel} {deliveryId : Str}

theorem Futile.congr (payments : after.payments = db.payments) (futile : Futile rt db parcel) : Futile rt after parcel := by
  cases futile with
  | undecodable undecodable => exact .undecodable undecodable
  | unbound decoded opened unbound =>
    refine .unbound decoded ?_ unbound
    simpa only [openPayment, loadPayment, payments] using opened
  | overruns decoded held carries timely overflowing => exact .overruns decoded (payments ▸ held) carries timely overflowing

theorem Futile.extended (futile : Futile rt db parcel) (extended : Extended db deliveryId event after) : Futile rt after parcel := by
  obtain ⟨state, updated, opened, accepted, payments⟩ := extended.folded
  rw [applyEffect_ok] at accepted
  cases futile with
  | undecodable undecodable => exact .undecodable undecodable
  | @unbound event' decoded opened' unbound =>
    refine .unbound decoded (fun closed => opened' ?_) unbound
    have absent := payments event'.paymentId
    simp only [openPayment, loadPayment, bind_ok, pure_eq_ok, Except.ok.injEq] at closed ⊢
    obtain ⟨_, ⟨_, bound, rfl⟩, nothing⟩ := closed
    refine ⟨_, ⟨_, bound, rfl⟩, ?_⟩
    rw [absent] at nothing
    split at nothing
    next => cases nothing
    next => exact nothing
  | @overruns event' before minor decoded held carries timely overflowing =>
    have found := payments event'.paymentId
    split at found
    next here =>
      obtain rfl : state = before := opened_held (here ▸ held) opened
      have carries' : Carries updated event' minor := by
        obtain ⟨amount, carried, currency, nonneg, same⟩ := carries
        exact ⟨amount, carried, currency.trans accepted.kept.2.symm, nonneg, same⟩
      refine .overruns decoded found carries' (fun prerequisite needed => ?_) ?_
      · exact accepted.still_timely needed (timely prerequisite needed)
      · have captureFailed := accepted.captureFailed_le
        have refundFailed := accepted.refundFailed_le
        rcases overflowing with ⟨kind, passes⟩ | ⟨kind, passes⟩
        · exact .inl ⟨kind, passes.trans (by omega)⟩
        · exact .inr ⟨kind, passes.trans (by omega)⟩
    next elsewhere => exact .overruns decoded (found.trans held) carries timely overflowing

end Growth

section Origin

variable {rt} {db : Db T} {parcel : Parcel} {deliveryId : Str} {event : CanonicalEvent T} {exc : Exc}

/-- One constructor for each way `applyDelivery` raises. -/
inductive Raised (db : Db T) (deliveryId : Str) (event : CanonicalEvent T) (exc : Exc) : Prop where
  | unopened (unopened : openPayment db event = .error exc)
  | unrecorded {state} (opened : openPayment db event = .ok (some state))
      (unrecorded : recordEffect db deliveryId state event = .error exc) (timely : exc.isinstance .prematureEvent = false)
      (first : exc.isinstance .integrityError = false)
  | unwritten {state inserted updated} (opened : openPayment db event = .ok (some state))
      (recorded : recordEffect db deliveryId state event = .ok (inserted, updated))
      (unwritten : upsertPayment inserted updated event.occurredAt = .error exc)

theorem applyDelivery_error (raised : (applyDelivery deliveryId event db).1 = .error exc) : Raised db deliveryId event exc := by
  unfold applyDelivery at raised
  split at raised
  next unopened => cases raised; exact .unopened unopened
  next => cases raised
  next state opened =>
    split at raised
    next unrecorded =>
      split at raised
      next => cases raised
      next timely =>
        split at raised
        next => cases raised
        next first =>
          cases raised
          exact .unrecorded opened unrecorded (by simpa using timely) (by simpa using first)
    next recorded =>
      split at raised
      next unwritten => cases raised; exact .unwritten opened recorded unwritten
      next => cases raised

omit [Seconds T] in
/-- The state machine's own refusals are buried at once. -/
theorem refusal_buried {state : PaymentState} (refused : applyEffect state event = .error exc)
    (timely : exc.isinstance .prematureEvent = false) : (classify exc).retryable = false := by
  have listed := applyEffect_raises state event exc refused
  obtain ⟨type, message⟩ := exc
  simp only [refusals, List.mem_cons, List.not_mem_nil, or_false] at listed
  rcases listed with rfl | rfl | rfl | rfl
  · rfl
  · rfl
  · rfl
  · cases timely

/-- What is tried again was refused for its parameters, or for the sum it makes. -/
theorem Raised.futile (raised : Raised db parcel.deliveryId event exc) (storable : Storable db)
    (retryable : (classify exc).retryable = true) (decoded : decode rt parcel.provider parcel.raw = .ok event) :
    Futile rt db parcel := by
  cases raised with
  | unopened unopened =>
    refine .unbound decoded (by simp [unopened]) fun bound => ?_
    simp [openPayment, loadPayment, bindStr, bindEffect_paymentId bound, raiseIf, bind, Except.bind] at unopened
  | unrecorded opened unrecorded timely first =>
    rcases recordEffect_error unrecorded with unbound | ⟨_, integrity, _⟩ | ⟨_, refused⟩
    · exact .unbound decoded (by simp [opened]) (by simp [unbound])
    · simp [Exc.isinstance, integrity] at first
    · rw [refusal_buried refused timely] at retryable; cases retryable
  | @unwritten state inserted updated opened recorded unwritten =>
    obtain ⟨insertion, accepted⟩ := recordEffect_ok.mp recorded
    rw [applyEffect_ok] at accepted
    have bound := (insertEffect_ok.mp insertion).1
    have binds := accepted.binds (openPayment_binds storable opened bound) bound
    have unbound := (upsertPayment_raises inserted updated event.occurredAt).mp ⟨exc, unwritten⟩
    rw [ne_eq, binds, not_not] at unbound
    obtain ⟨minor, carries, overflowing⟩ := unbound
    obtain ⟨row, overruns⟩ := accepted.overruns opened insertion carries overflowing
    refine .overruns decoded (by rw [overruns.held, Option.map_some]) overruns.carries (fun prerequisite needed => ?_) overruns.overflowing
    obtain rfl := opened_held (by rw [overruns.held, Option.map_some]) opened
    exact accepted.prerequisite needed

end Origin
end Quidz.Proofs
