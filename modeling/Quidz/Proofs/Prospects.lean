import Quidz.Dlq
import Quidz.Library.Path
import Quidz.Proofs.Application
import Quidz.Proofs.Ratchet

/-! What may still become of a payment. The rank and the amounts bound every
continuation, and within these bounds the events that lead there can be named. -/

namespace Quidz.Proofs

open Library (Path Possible)

variable {T : Type} {state before after : PaymentState} {event : CanonicalEvent T}

/-- One event that the payment accepts. -/
def applies (state : PaymentState) (event : CanonicalEvent T) (after : PaymentState) : Prop :=
  applyEffect state event = .ok after

section Grades

theorem status_untaken (state : PaymentState) (none : state.capturedMinor ≤ 0) : stateRank (deriveStatus state) ≤ 30 := by
  unfold deriveStatus
  rw [if_neg (Int.not_lt.mpr none)]
  repeat' split
  all_goals decide

theorem status_clear (state : PaymentState) (none : state.capturedMinor ≤ 0) (live : state.voided = false ∧ state.expired = false)
    (clean : state.captureFailedMinor ≤ 0) : stateRank (deriveStatus state) ≤ 10 := by
  unfold deriveStatus
  rw [if_neg (Int.not_lt.mpr none), live.1, live.2, if_neg (Int.not_lt.mpr clean)]
  simp only [Bool.false_eq_true, ↓reduceIte]
  split
  all_goals decide

theorem status_unrefunded (state : PaymentState) (none : state.refundedMinor ≤ 0) : stateRank (deriveStatus state) ≤ 50 := by
  by_cases taken : 0 < state.capturedMinor
  · unfold deriveStatus
    rw [if_pos taken, if_neg (by omega), if_neg (by omega)]
    split
    all_goals decide
  · have low := status_untaken state (Int.not_lt.mp taken)
    omega

theorem status_spent (state : PaymentState) (top : 60 < stateRank (deriveStatus state)) :
    0 < state.capturedMinor ∧ state.capturedMinor ≤ state.refundedMinor := by
  by_cases taken : 0 < state.capturedMinor
  · refine ⟨taken, ?_⟩
    by_contra left
    unfold deriveStatus at top
    rw [if_pos taken, if_neg (by omega)] at top
    revert top
    repeat' split
    all_goals decide
  · have low := status_untaken state (Int.not_lt.mp taken)
    omega

/-- What the rank says about the amounts, in the other direction than `Ranked`. -/
structure Graded (state : PaymentState) : Prop extends Ranked state where
  opened : 0 < state.authorizedMinor → 10 ≤ state.rank
  failed : 0 < state.captureFailedMinor → 20 ≤ state.rank
  refunding : 0 < state.refundedMinor → 60 ≤ state.rank
  spaced : state.capturedMinor ≤ 0 → state.rank ≤ 40 ∨ 60 ≤ state.rank
  spent : 60 < state.rank → 0 < state.capturedMinor ∧ state.refundedMinor = state.capturedMinor
  clean : 60 ≤ state.rank → state.capturedMinor ≤ 0 → state.captureFailedMinor ≤ 0

theorem Graded.fresh (paymentId currency : Str) : Graded { paymentId, currency } where
  toRanked := .fresh paymentId currency
  opened := nofun
  failed := nofun
  refunding := nofun
  spaced _ := .inl (Int.le_of_lt (by decide : (0 : Int) < 40))
  spent := nofun
  clean := nofun

/-- A ratcheted rank is the one before, the kind's or that of the new status. -/
theorem folded_rank {kind : EffectKind} {minor sequence : Int} (ratchets : kind.regressive = false) :
    (folded state kind minor sequence).rank = max state.rank (max kind.rank (stateRank (deriveStatus (fold state kind minor)))) := by
  simp only [folded, ratchets, Bool.false_eq_true, ↓reduceIte]

theorem corrected_rank {kind : EffectKind} {minor sequence : Int} (regressive : kind.regressive = true) :
    (folded state kind minor sequence).rank = max 60 (stateRank (deriveStatus (fold state kind minor))) := by
  simp only [folded, regressive, correction_rank regressive, ↓reduceIte]

/-- One accepted event that ratchets, seen from the rank it leads to. -/
theorem Graded.ratchet (graded : Graded before) (valid : Ranked after) {kind : EffectKind} {minor sequence : Int}
    (ratchets : kind.regressive = false) (low : before.rank ≤ 60) (same : after = folded before kind minor sequence)
    (opened : before.authorizedMinor < after.authorizedMinor → 10 ≤ kind.rank)
    (failed : before.captureFailedMinor < after.captureFailedMinor → 20 ≤ kind.rank)
    (refunding : before.refundedMinor < after.refundedMinor → 60 ≤ kind.rank)
    (spaced : after.capturedMinor ≤ 0 → kind.rank ≤ 40 ∨ 60 ≤ kind.rank)
    (clean : after.capturedMinor ≤ 0 → after.captureFailedMinor ≤ 0 ∨ before.rank < 60 ∧ kind.rank < 60)
    (captured : before.capturedMinor ≤ after.capturedMinor) : Graded after := by
  have rank : after.rank = max before.rank (max kind.rank (stateRank (deriveStatus after))) := by
    rw [same]
    exact folded_rank ratchets
  have kinds : kind.rank ≤ 60 := by cases kind <;> decide
  have untaken (none : after.capturedMinor ≤ 0) := status_untaken after none
  constructor
  · exact valid
  · have held := graded.opened
    omega
  · have held := graded.failed
    omega
  · have held := graded.refunding
    omega
  · have held := graded.spaced
    omega
  · intro top
    obtain ⟨taken, all⟩ := status_spent after (by omega)
    exact ⟨taken, Int.le_antisymm valid.refunded_le all⟩
  · intro high none
    have low := untaken none
    rcases clean none with done | early
    · exact done
    · omega

theorem Graded.correct (graded : Graded before) (valid : Ranked after) {kind : EffectKind} {minor sequence : Int}
    (regressive : kind.regressive = true) (high : 60 ≤ before.rank) (same : after = folded before kind minor sequence) :
    Graded after := by
  have rank : after.rank = max 60 (stateRank (deriveStatus after)) := by
    rw [same]
    exact corrected_rank regressive
  have kept : after.capturedMinor = before.capturedMinor ∧ after.captureFailedMinor = before.captureFailedMinor := by
    rw [same]
    simp [fold_correction regressive]
  constructor
  · exact valid
  · omega
  · omega
  · omega
  · omega
  · intro top
    obtain ⟨taken, all⟩ := status_spent after (by omega)
    exact ⟨taken, Int.le_antisymm valid.refunded_le all⟩
  · intro _ none
    rw [kept.2]
    exact graded.clean high (kept.1 ▸ none)

theorem Graded.step (graded : Graded before) (accepted : Accepts before event after) : Graded after := by
  have valid := graded.toRanked.step accepted
  cases accepted with
  | stale => exact graded
  | correction regressive carries refunded => exact graded.correct valid regressive refunded rfl
  | capture kind carries live held within first low =>
    have nonneg := carries.nonneg
    refine graded.ratchet valid rfl (by omega) rfl ?_ ?_ ?_ ?_ ?_ ?_
    all_goals simp [fold]
    all_goals omega
  | refund kind carries live open_ captured within low =>
    have nonneg := graded.refunded_nonneg
    have within' := graded.refunded_le
    refine graded.ratchet valid rfl (by omega) rfl ?_ ?_ ?_ ?_ ?_ ?_
    all_goals simp [fold]
    all_goals omega
  | authorizeFail kind pending | authorize kind carries unheld low | adjustAuth kind carries held newer covers low
  | captureFail kind carries held low | void kind held low | expire kind held low =>
    refine graded.ratchet valid rfl (by omega) rfl ?_ ?_ ?_ ?_ ?_ ?_
    all_goals simp [fold]
    all_goals omega

theorem run_graded (paymentId currency : Str) (events : List (CanonicalEvent T)) :
    Graded (run { paymentId, currency } events) := run_induction (Graded.fresh paymentId currency) Graded.step events

end Grades

section Continuations

/-- What an accepted event, or a row of them, leaves of a payment. -/
structure Leads (first second : PaymentState) : Prop where
  currency : second.currency = first.currency
  rank : first.rank ≤ second.rank ∨ 60 ≤ second.rank
  live : second.voided = false ∧ second.expired = false → first.voided = false ∧ first.expired = false
  hold : 10 < first.rank → second.authorizedMinor = first.authorizedMinor
  taken : 0 < first.capturedMinor → second.capturedMinor = first.capturedMinor
  closed : 40 < first.rank → second.capturedMinor = first.capturedMinor
  captured : first.capturedMinor ≤ second.capturedMinor
  captureFailed : first.captureFailedMinor ≤ second.captureFailedMinor

theorem Leads.refl (state : PaymentState) : Leads state state :=
  ⟨rfl, .inl (Int.le_refl _), id, fun _ => rfl, fun _ => rfl, fun _ => rfl, Int.le_refl _, Int.le_refl _⟩

theorem Leads.trans {first second third : PaymentState} (here : Leads first second) (there : Leads second third) :
    Leads first third where
  currency := there.currency.trans here.currency
  rank := by
    have first_ := here.rank
    have second_ := there.rank
    omega
  live := here.live ∘ there.live
  hold high := by
    have first_ := here.rank
    rw [there.hold (by omega), here.hold high]
  taken some := by
    have first_ := here.captured
    rw [there.taken (by omega), here.taken some]
  closed high := by
    have first_ := here.rank
    rw [there.closed (by omega), here.closed high]
  captured := here.captured.trans there.captured
  captureFailed := here.captureFailed.trans there.captureFailed

theorem Graded.leads (graded : Graded before) (accepted : Accepts before event after) : Leads before after where
  currency := accepted.kept.2
  rank := accepted.rank_le
  live := by
    cases accepted with
    | correction regressive => simp [fold_correction regressive]
    | void => simp [fold]
    | expire => simp [fold]
    | _ => exact id
  hold high := by
    cases accepted with
    | authorize kind carries unheld low => omega
    | adjustAuth kind carries held newer covers low => omega
    | correction regressive => simp [fold_correction regressive]
    | _ => rfl
  taken some := (graded.frozen some accepted).1
  closed high := by
    cases accepted with
    | capture kind carries live held within first low => omega
    | correction regressive => simp [fold_correction regressive]
    | _ => rfl
  captured := by
    cases accepted with
    | capture kind carries =>
      have nonneg := carries.nonneg
      simp only [folded_capturedMinor, fold]
      omega
    | correction regressive => simp [fold_correction regressive]
    | _ => exact Int.le_refl _
  captureFailed := accepted.captureFailed_le

theorem Graded.path {events : List (CanonicalEvent T)} (graded : Graded before) (path : Path applies before events after) :
    Graded after ∧ Leads before after :=
  path.relates graded Leads.refl Leads.trans fun graded taken =>
    ⟨graded.step (applyEffect_ok.mp taken), graded.leads (applyEffect_ok.mp taken)⟩

theorem Carries.later {first second : PaymentState} {minor : Int} (carries : Carries second event minor)
    (leads : Leads first second) : Carries first event minor := by
  obtain ⟨amount, found, currency, nonneg, same⟩ := carries
  exact ⟨amount, found, currency.trans leads.currency, nonneg, same⟩

theorem Carries.sooner {first second : PaymentState} {minor : Int} (carries : Carries first event minor)
    (leads : Leads first second) : Carries second event minor := by
  obtain ⟨amount, found, currency, nonneg, same⟩ := carries
  exact ⟨amount, found, currency.trans leads.currency.symm, nonneg, same⟩

end Continuations
end Quidz.Proofs
