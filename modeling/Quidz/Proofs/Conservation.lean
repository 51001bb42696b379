import Quidz.Proofs.Transitions

/-! Amount conservation along a payment's life. The rank carries the argument:
money that was taken holds the rank at 40 or above, which is what refuses a late
authorization, adjustment, void or expiry. -/

namespace Quidz.Proofs

variable {T : Type}

/-- A refused event leaves the state as it was. -/
def offer (state : PaymentState) (event : CanonicalEvent T) : PaymentState :=
  match applyEffect state event with
  | .ok after => after
  | .error _ => state

def run (state : PaymentState) (events : List (CanonicalEvent T)) : PaymentState := events.foldl offer state

/-- Induction over the events of a run, one accepted event at a time. -/
theorem run_induction {motive : PaymentState → Prop} {state : PaymentState} (initial : motive state)
    (step : ∀ {before after} {event : CanonicalEvent T}, motive before → Accepts before event after → motive after)
    (events : List (CanonicalEvent T)) : motive (run state events) := by
  induction events generalizing state with
  | nil => exact initial
  | cons event rest ih =>
    apply ih
    unfold offer
    cases seen : applyEffect state event with
    | error _ => exact initial
    | ok after => exact step initial (applyEffect_ok.mp seen)

structure Conserved (state : PaymentState) : Prop where
  refunded_nonneg : 0 ≤ state.refundedMinor
  refunded_le : state.refundedMinor ≤ state.capturedMinor
  captured_le : state.capturedMinor ≤ state.authorizedMinor
  captureFailed_nonneg : 0 ≤ state.captureFailedMinor
  refundFailed_nonneg : 0 ≤ state.refundFailedMinor
  live : 0 < state.capturedMinor → state.voided = false ∧ state.expired = false
  ranked : 0 < state.capturedMinor → 40 ≤ state.rank

theorem Carries.nonneg {state : PaymentState} {event : CanonicalEvent T} {minor : Int}
    (carries : Carries state event minor) : 0 ≤ minor := by
  obtain ⟨amount, _, _, nonneg, same⟩ := carries
  exact same ▸ nonneg

theorem Conserved.fresh (paymentId currency : Str) : Conserved { paymentId, currency } := by
  constructor <;> simp

/-- The rank never falls, except under a refund correction, which it survives at
60 or above. -/
theorem Accepts.rank_le {before after : PaymentState} {event : CanonicalEvent T}
    (accepted : Accepts before event after) : before.rank ≤ after.rank ∨ 60 ≤ after.rank := by
  cases accepted with
  | stale => exact .inl (Int.le_refl _)
  | correction regressive =>
    refine .inr (Int.le_trans ?_ (kind_rank_le_folded before event.kind _ event.sequence))
    exact (correction_rank regressive).ge
  | _ => exact .inl (rank_le_folded before _ _ event.sequence rfl)

theorem Conserved.step {before after : PaymentState} {event : CanonicalEvent T}
    (valid : Conserved before) (accepted : Accepts before event after) : Conserved after := by
  have climbs := accepted.rank_le
  obtain ⟨refunded, refundedLe, capturedLe, captureFailed, refundFailed, live, ranked⟩ := valid
  cases accepted with
  | authorizeFail kind pending =>
    constructor
    all_goals simp_all [fold]
    all_goals omega
  | authorize kind carries unheld low =>
    have nonneg := carries.nonneg
    constructor
    all_goals simp_all [fold]
    all_goals omega
  | stale => constructor <;> assumption
  | adjustAuth kind carries held newer covers low =>
    constructor
    all_goals simp_all [fold]
    all_goals omega
  | @capture minor kind carries isLive held within first low =>
    have nonneg := carries.nonneg
    have taken := kind_rank_le_folded before .capture minor event.sequence
    constructor
    all_goals simp_all [fold]
    all_goals omega
  | captureFail kind carries held low =>
    have nonneg := carries.nonneg
    constructor
    all_goals simp_all [fold]
    all_goals omega
  | void kind held low =>
    constructor
    all_goals simp_all [fold]
    all_goals omega
  | expire kind held low =>
    constructor
    all_goals simp_all [fold]
    all_goals omega
  | refund kind carries isLive open_ captured within low =>
    have nonneg := carries.nonneg
    constructor
    all_goals simp_all [fold]
    all_goals omega
  | correction regressive carries isRefunded within =>
    have nonneg := carries.nonneg
    constructor
    all_goals simp_all [fold_correction regressive]
    all_goals omega

/-- Once money is taken, every kind leaves the hold and the taking alone. -/
theorem Conserved.frozen {before after : PaymentState} {event : CanonicalEvent T}
    (valid : Conserved before) (taken : 0 < before.capturedMinor) (accepted : Accepts before event after) :
    after.capturedMinor = before.capturedMinor ∧ after.authorizedMinor = before.authorizedMinor := by
  have ranked := valid.ranked taken
  cases accepted with
  | authorize kind carries unheld low => omega
  | adjustAuth kind carries held newer covers low => omega
  | capture kind carries isLive held within first low => omega
  | correction regressive => simp [fold_correction regressive]
  | _ => simp [fold]

theorem run_conserved (paymentId currency : Str) (events : List (CanonicalEvent T)) :
    Conserved (run { paymentId, currency } events) :=
  run_induction (Conserved.fresh paymentId currency) Conserved.step events

/-- Amounts stay conserved along every run from a fresh payment, and a capture of
a positive amount fixes the hold and the captured money for good. -/
theorem amounts_conserved (paymentId currency : Str) (events : List (CanonicalEvent T)) :
    let state := run { paymentId, currency } events
    0 ≤ state.refundedMinor ∧ state.refundedMinor ≤ state.capturedMinor ∧
    state.capturedMinor ≤ state.authorizedMinor ∧
    0 ≤ state.captureFailedMinor ∧ 0 ≤ state.refundFailedMinor ∧
    (0 < state.capturedMinor → state.voided = false ∧ state.expired = false) ∧
    (0 < state.capturedMinor → ∀ later : List (CanonicalEvent T),
      (run state later).capturedMinor = state.capturedMinor ∧
      (run state later).authorizedMinor = state.authorizedMinor) := by
  intro state
  have valid : Conserved state := run_conserved paymentId currency events
  refine ⟨valid.refunded_nonneg, valid.refunded_le, valid.captured_le, valid.captureFailed_nonneg,
    valid.refundFailed_nonneg, valid.live, ?_⟩
  intro taken later
  have kept := run_induction (motive := fun current => Conserved current ∧
      current.capturedMinor = state.capturedMinor ∧ current.authorizedMinor = state.authorizedMinor)
    ⟨valid, rfl, rfl⟩ (by
      intro before after event ⟨conserved, captured, authorized⟩ accepted
      obtain ⟨sameCaptured, sameAuthorized⟩ := conserved.frozen (captured ▸ taken) accepted
      exact ⟨conserved.step accepted, sameCaptured.trans captured, sameAuthorized.trans authorized⟩) later
  exact kept.2

end Quidz.Proofs
