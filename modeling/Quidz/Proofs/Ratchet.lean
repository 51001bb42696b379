import Quidz.Proofs.Application
import Quidz.Proofs.Conservation

/-! The status of a payment never goes back. A status is a family of amounts and
flags, and each family is closed under every accepted event because the rank keeps
out the kinds that would leave it. -/

namespace Quidz.Proofs

variable {T : Type} {before after : PaymentState} {event : CanonicalEvent T}

/-- Money was captured, whatever of it was refunded since. -/
def Taken : Status → Prop
  | .partiallyCaptured | .captured | .partiallyRefunded | .refunded => True
  | _ => False

/-- The hold was given up before anything was captured. -/
def Released : Status → Prop
  | .voided | .expired => True
  | _ => False

theorem taken_iff (state : PaymentState) : Taken (deriveStatus state) ↔ 0 < state.capturedMinor := by
  unfold deriveStatus
  split
  next taken =>
    simp only [taken, iff_true]
    repeat' split
    all_goals trivial
  next untaken =>
    simp only [untaken, iff_false]
    repeat' split
    all_goals exact id

theorem released_iff (state : PaymentState) : Released (deriveStatus state) ↔
    ¬0 < state.capturedMinor ∧ (state.voided = true ∨ state.expired = true) := by
  unfold deriveStatus
  split
  next taken =>
    simp only [taken, not_true_eq_false, false_and, iff_false]
    repeat' split
    all_goals exact id
  next untaken =>
    simp only [untaken, not_false_eq_true, true_and]
    split
    next expired => simp [expired, Released]
    next =>
      split
      next voided => simp [voided, Released]
      next =>
        simp only [*, Bool.false_eq_true, or_self, iff_false]
        repeat' split
        all_goals exact id

/-- A failed capture is forgotten only for what came after it. -/
theorem captureFailed_past {state : PaymentState} (failed : 0 < state.captureFailedMinor) :
    deriveStatus state = .captureFailed ∨ Released (deriveStatus state) ∨ Taken (deriveStatus state) := by
  rw [taken_iff, released_iff]
  by_cases taken : 0 < state.capturedMinor
  · exact .inr (.inr taken)
  · by_cases released : state.voided = true ∨ state.expired = true
    · exact .inr (.inl ⟨taken, released⟩)
    · rw [not_or, Bool.not_eq_true, Bool.not_eq_true] at released
      exact .inl (by simp [deriveStatus, taken, released, failed])

theorem captureFailed_amount {state : PaymentState} (status : deriveStatus state = .captureFailed) :
    0 < state.captureFailedMinor := by
  unfold deriveStatus at status
  grind

/-- The money fields of a payment that was given up. -/
structure SameMoney (first second : PaymentState) : Prop where
  authorized : second.authorizedMinor = first.authorizedMinor
  captured : second.capturedMinor = first.capturedMinor
  captureFailed : second.captureFailedMinor = first.captureFailedMinor
  refunded : second.refundedMinor = first.refundedMinor
  refundFailed : second.refundFailedMinor = first.refundFailedMinor

theorem SameMoney.trans {first second third : PaymentState} (here : SameMoney first second)
    (next : SameMoney second third) : SameMoney first third where
  authorized := next.authorized.trans here.authorized
  captured := next.captured.trans here.captured
  captureFailed := next.captureFailed.trans here.captureFailed
  refunded := next.refunded.trans here.refunded
  refundFailed := next.refundFailed.trans here.refundFailed

/-- What the stored rank says about the status that is derived. -/
structure Ranked (state : PaymentState) : Prop extends Conserved state where
  covers : stateRank (deriveStatus state) ≤ state.rank
  given : state.voided = true ∨ state.expired = true → state.rank = 30

theorem Ranked.fresh (paymentId currency : Str) : Ranked { paymentId, currency } where
  toConserved := .fresh paymentId currency
  covers := Int.le_refl _
  given := by simp

theorem folded_covers (state : PaymentState) (kind : EffectKind) (minor sequence : Int) :
    stateRank (deriveStatus (folded state kind minor sequence)) ≤ (folded state kind minor sequence).rank := by
  have same : deriveStatus (folded state kind minor sequence) = deriveStatus (fold state kind minor) := rfl
  rw [same]
  simp only [folded]
  split <;> omega

/-- Giving the hold up puts a payment that was not captured at rank 30. -/
theorem folded_released {kind : EffectKind} {sequence : Int} (releases : kind = .void ∨ kind = .expire)
    (untaken : ¬0 < before.capturedMinor) (low : before.rank ≤ 30) : (folded before kind 0 sequence).rank = 30 := by
  have released : Released (deriveStatus (fold before kind 0)) := by
    rw [released_iff]
    rcases releases with rfl | rfl
    · exact ⟨untaken, .inl rfl⟩
    · exact ⟨untaken, .inr rfl⟩
  have status : stateRank (deriveStatus (fold before kind 0)) = 30 := by
    generalize deriveStatus (fold before kind 0) = status at released ⊢
    cases status
    case voided | expired => rfl
    all_goals exact released.elim
  have own : kind.rank = 30 ∧ kind.regressive = false := by
    rcases releases with rfl | rfl
    all_goals decide
  simp only [folded, own, status, Bool.false_eq_true, ↓reduceIte]
  omega

theorem Ranked.untaken (ranked : Ranked before) (low : before.rank ≤ 30) : ¬0 < before.capturedMinor := by
  intro taken
  have rank := ranked.ranked taken
  omega

/-- Once the hold was given up, only giving it up again and a stale adjustment are
accepted. -/
theorem Ranked.given_up (ranked : Ranked before) (given : before.voided = true ∨ before.expired = true)
    (accepted : Accepts before event after) :
    SameMoney before after ∧ after.rank = 30 ∧ (after.voided = true ∨ after.expired = true) := by
  have rank := ranked.given given
  have untaken := ranked.untaken (Int.le_of_eq rank)
  cases accepted with
  | stale => exact ⟨⟨rfl, rfl, rfl, rfl, rfl⟩, rank, given⟩
  | void kind held low => exact ⟨⟨rfl, rfl, rfl, rfl, rfl⟩, folded_released (.inl rfl) untaken low, .inl rfl⟩
  | expire kind held low => exact ⟨⟨rfl, rfl, rfl, rfl, rfl⟩, folded_released (.inr rfl) untaken low, .inr rfl⟩
  | capture kind carries live | refund kind carries live =>
    rcases given with flag | flag
    all_goals simp [flag] at live
  | authorizeFail | authorize | adjustAuth | captureFail | correction => omega

theorem Ranked.step (ranked : Ranked before) (accepted : Accepts before event after) : Ranked after where
  toConserved := ranked.toConserved.step accepted
  covers := by
    cases accepted with
    | stale => exact ranked.covers
    | _ => exact folded_covers _ _ _ _
  given := by
    by_cases given : before.voided = true ∨ before.expired = true
    · exact fun _ => (ranked.given_up given accepted).2.1
    · cases accepted with
      | void kind held low => exact fun _ => folded_released (.inl rfl) (ranked.untaken low) low
      | expire kind held low => exact fun _ => folded_released (.inr rfl) (ranked.untaken low) low
      | correction regressive =>
        intro flag
        apply absurd _ given
        simpa [fold_correction regressive] using flag
      | _ => exact fun flag => absurd flag given

theorem run_ranked (paymentId currency : Str) (events : List (CanonicalEvent T)) :
    Ranked (run { paymentId, currency } events) :=
  run_induction (Ranked.fresh paymentId currency) Ranked.step events

theorem Accepts.ratchets (accepted : Accepts before event after) (forward : event.kind.regressive = false) :
    before.rank ≤ after.rank := by
  cases accepted with
  | stale => exact Int.le_refl _
  | correction regressive => rw [regressive] at forward; cases forward
  | _ => exact rank_le_folded before _ _ event.sequence rfl

theorem Accepts.floored (accepted : Accepts before event after) (regressive : event.kind.regressive = true) :
    60 ≤ after.rank := by
  cases accepted with
  | correction => exact correction_rank regressive ▸ kind_rank_le_folded before event.kind _ event.sequence
  | _ kind => simp [kind] at regressive

theorem Accepts.captureFailed_le (accepted : Accepts before event after) :
    before.captureFailedMinor ≤ after.captureFailedMinor := by
  cases accepted with
  | captureFail kind carries =>
    have nonneg := carries.nonneg
    simp only [folded_captureFailedMinor, fold]
    omega
  | correction regressive => simp [fold_correction regressive]
  | _ => exact Int.le_refl _

section Families
variable {state : PaymentState} (ranked : Ranked state) (later : List (CanonicalEvent T))
include ranked

theorem Ranked.run : Ranked (run state later) := run_induction ranked Ranked.step later

theorem Ranked.stays_taken (taken : Taken (deriveStatus state)) : Taken (deriveStatus (Proofs.run state later)) := by
  rw [taken_iff] at taken ⊢
  have kept := run_induction (motive := fun current => Conserved current ∧ 0 < current.capturedMinor)
    ⟨ranked.toConserved, taken⟩ (by
      intro before after event ⟨conserved, captured⟩ accepted
      exact ⟨conserved.step accepted, (conserved.frozen captured accepted).1 ▸ captured⟩) later
  exact kept.2

theorem Ranked.stays_released (released : Released (deriveStatus state)) :
    Released (deriveStatus (Proofs.run state later)) ∧ SameMoney state (Proofs.run state later) := by
  rw [released_iff] at released ⊢
  have kept := run_induction (motive := fun current => Ranked current ∧ SameMoney state current ∧
      (current.voided = true ∨ current.expired = true))
    ⟨ranked, ⟨rfl, rfl, rfl, rfl, rfl⟩, released.2⟩ (by
      intro before after event ⟨still, same, given⟩ accepted
      obtain ⟨kept, _, flags⟩ := still.given_up given accepted
      exact ⟨still.step accepted, same.trans kept, flags⟩) later
  exact ⟨⟨kept.2.1.captured ▸ released.1, kept.2.2⟩, kept.2.1⟩

omit ranked in
theorem stays_captureFailed (failed : deriveStatus state = .captureFailed) :
    let status := deriveStatus (Proofs.run state later)
    status = .captureFailed ∨ Released status ∨ Taken status := by
  apply captureFailed_past
  have amount := captureFailed_amount failed
  exact run_induction (motive := fun current => 0 < current.captureFailedMinor) amount
    (fun kept accepted => Int.lt_of_lt_of_le kept accepted.captureFailed_le) later

end Families

/-- Along every run from a fresh payment an accepted event leaves the derived status
within the stored rank, and the rank where it was or above, but for a refund
correction. Captured money stays captured, a hold that was given up stays given up
with its amounts as they were, and a failed capture is only followed by one of the
two. -/
theorem never_dragged_back (paymentId currency : Str) (events : List (CanonicalEvent T)) :
    let state := run { paymentId, currency } events
    (∀ (event : CanonicalEvent T) after, applyEffect state event = .ok after →
      stateRank (deriveStatus after) ≤ after.rank ∧
      if event.kind = .refundFail ∨ event.kind = .refundReverse then 60 ≤ after.rank else state.rank ≤ after.rank) ∧
    ∀ later : List (CanonicalEvent T),
      (Taken (deriveStatus state) → Taken (deriveStatus (run state later))) ∧
      (Released (deriveStatus state) → Released (deriveStatus (run state later)) ∧ SameMoney state (run state later)) ∧
      (deriveStatus state = .captureFailed → deriveStatus (run state later) = .captureFailed ∨
        Released (deriveStatus (run state later)) ∨ Taken (deriveStatus (run state later))) := by
  intro state
  have ranked : Ranked state := run_ranked paymentId currency events
  refine ⟨fun event after accepted => ?_, fun later => ?_⟩
  · rw [applyEffect_ok] at accepted
    refine ⟨(ranked.step accepted).covers, ?_⟩
    split
    next correction =>
      apply accepted.floored
      rcases correction with kind | kind
      all_goals rw [kind]; rfl
    next forward =>
      apply accepted.ratchets
      cases kind : event.kind <;> simp [kind] at forward ⊢
  · exact ⟨ranked.stays_taken later, ranked.stays_released later, stays_captureFailed later⟩

/-- A failed capture is refused by every payment that was captured, whatever it failed to
take: the ratchet has the capture above it. -/
theorem capture_failure_refused (paymentId currency : Str) (events : List (CanonicalEvent T)) (event : CanonicalEvent T)
    (captured : 0 < (run { paymentId, currency } events).capturedMinor)
    (kind : event.kind = .captureFail)
    (carries : Carries (run { paymentId, currency } events) event (run { paymentId, currency } events).capturedMinor) :
    (∃ message, applyEffect (run { paymentId, currency } events) event = .error ⟨.illegalTransition, message⟩) ∧
    ¬∃ after, applyEffect (run { paymentId, currency } events) event = .ok after ∧
      deriveStatus after ≠ .captured ∧ deriveStatus after ≠ .partiallyCaptured := by
  generalize reached : run { paymentId, currency } events = state at captured carries ⊢
  have ranked : 40 ≤ state.rank := (reached ▸ run_conserved paymentId currency events).ranked captured
  have amount : effectMinor event state = .ok state.capturedMinor := by
    rw [effectMinor_ok, kind]
    exact carries
  have refused : ∃ message, applyEffect state event = .error ⟨.illegalTransition, message⟩ := by
    unfold applyEffect
    simp only [amount, kind, raiseIf]
    simp [raise, bind, Except.bind, show ¬state.rank < 10 by omega, show 20 < state.rank by omega]
  refine ⟨refused, ?_⟩
  rintro ⟨after, accepted, _⟩
  obtain ⟨message, raised⟩ := refused
  rw [raised] at accepted
  cases accepted

/-- A payment after these events. -/
def paid (events : List (Arrival Int)) : PaymentState :=
  run { paymentId := str "pi_1", currency := str "EUR" } (events.map Prod.snd)

/-- The scheme rejects a capture, and the failure is refused. -/
theorem rejection_refused :
    let captured := paid [movement .authorize "auth" 1 1000, movement .capture "capture" 2 1000]
    captured.capturedMinor = 1000 ∧ captured.refundedMinor = 0 ∧ deriveStatus captured = .captured ∧
    ¬∃ after, applyEffect captured (movement .captureFail "capture" 3 1000).2 = .ok after ∧
      deriveStatus after ≠ .captured ∧ deriveStatus after ≠ .partiallyCaptured := by
  refine ⟨by decide, by decide, by decide, fun ⟨after, accepted, _⟩ => ?_⟩
  cases accepted

theorem capture_failure_refused_whole : ∃ message,
    applyEffect (paid [movement .authorize "auth" 1 1000, movement .capture "capture" 2 1000])
      (movement .captureFail "capture" 3 1000).2 = .error ⟨.illegalTransition, message⟩ :=
  (capture_failure_refused (str "pi_1") (str "EUR") _ _ (by decide) rfl ⟨_, rfl, rfl, by decide, by decide⟩).1

end Quidz.Proofs
