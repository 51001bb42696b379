import Quidz.Proofs.Refusals

/-! Events that are parked, against what the payment may still accept. A refund that can
no longer be captured for is refused. A correction of a refund that can no longer be made
is parked, again and again. -/

namespace Quidz.Proofs

open Library (Path Possible)

variable {T : Type} {state before after : PaymentState} {event : CanonicalEvent T}

/-- The prerequisite of a premature event may still arrive: nothing but the authorization
has, or what was captured, or can still be captured, is enough for the event. -/
def Attainable (state : PaymentState) (event : CanonicalEvent T) : Prop :=
  state.rank ≤ 10 ∨ ((state.voided = false ∧ state.expired = false) ∧
    (∀ amount ∈ event.amount,
      amount.minor ≤ if 0 < state.capturedMinor then state.capturedMinor else state.authorizedMinor) ∧
    (state.captureFailedMinor = 0 ∨ 0 < state.capturedMinor ∨ 0 < state.authorizedMinor))

/-- The guards in front of the one that finds an event premature. -/
theorem premature_guards {exc : Exc} (refused : applyEffect state event = .error exc) (early : exc.type = .prematureEvent) :
    (∃ minor, effectMinor event state = .ok minor) ∧
    ¬(event.kind.movesMoney = true ∧ (state.voided = true ∨ state.expired = true)) ∧
    ¬(event.kind = .refund ∧ state.capturedMinor = 0 ∧
      (state.captureFailedMinor > 0 ∨ state.voided = true ∨ state.expired = true)) := by
  unfold applyEffect at refused
  rcases bind_error.mp refused with raised | ⟨minor, amount, refused⟩
  · have listed := @effectMinor_raises T [.illegalTransition, .amountInvariantViolation, .currencyMismatch]
      (by decide) (by decide) (by decide) event state exc raised
    rw [early] at listed
    exact absurd listed (by decide)
  rcases bind_error.mp refused with raised | ⟨_, live, refused⟩
  · obtain ⟨_, rfl⟩ := raiseIf_error.mp raised
    cases early
  rcases bind_error.mp refused with raised | ⟨_, possible, _⟩
  · obtain ⟨_, rfl⟩ := raiseIf_error.mp raised
    cases early
  · exact ⟨⟨minor, amount⟩, raiseIf_ok.mp live, raiseIf_ok.mp possible⟩

section Reaching
variable {amount : Money} {minor : Int}

/-- A payment that only waits for its authorization can come to hold any amount. -/
theorem Graded.readies (graded : Graded state) (event : CanonicalEvent T) (currency : amount.currency = state.currency)
    (low : state.rank ≤ 10) (nonneg : 0 ≤ minor) : ∃ other held, Graded held ∧ Leads state held ∧ held.rank = 10 ∧
      held.authorizedMinor = minor ∧ applies state (T := T) other held := by
  by_cases unheld : state.authorizedMinor ≤ 0
  · obtain ⟨untaken, clean, live⟩ := graded.quiet low
    have accepted : Accepts state (demand event amount .authorize minor 0) _ :=
      .authorize rfl (demand_carries currency nonneg _ _) unheld low
    refine ⟨_, _, graded.step accepted, graded.leads accepted, ?_, rfl, applyEffect_ok.mpr accepted⟩
    have status := status_clear (fold state .authorize minor) untaken live clean
    rw [folded_rank rfl]
    simp only [EffectKind.rank]
    omega
  · have opened := graded.opened (Int.not_le.mp unheld)
    obtain ⟨adjusted, valid, leads, rank, hold, taken⟩ := graded.adjusts event currency (Int.le_antisymm low opened) nonneg
    exact ⟨_, adjusted, valid, leads, rank, hold, taken⟩

/-- What is captured, or can still be, can be refunded, and the refund taken back. -/
theorem Graded.returns (graded : Graded state) (carries : Carries state event minor)
    (kind : event.kind = .refund ∨ event.kind.regressive = true) (live : state.voided = false ∧ state.expired = false)
    (held : 10 ≤ state.rank) (low : state.rank < 60)
    (within : minor ≤ if 0 < state.capturedMinor then state.capturedMinor else state.authorizedMinor)
    (clean : state.captureFailedMinor = 0 ∨ 0 < state.capturedMinor ∨ 0 < state.authorizedMinor) :
    Possible applies state event := by
  obtain ⟨amount, found, currency, nonneg, same⟩ := carries
  have carries : Carries state event minor := ⟨amount, found, currency, nonneg, same⟩
  have unrefunded := graded.refunding
  have backed := graded.refunded_nonneg
  -- Once something is captured, if only nothing, the refund is accepted.
  have finish {taken : PaymentState} (valid : Graded taken) (leads : Leads state taken)
      (live : taken.voided = false ∧ taken.expired = false) (captured : 40 ≤ taken.rank) (low : taken.rank < 60)
      (open_ : taken.capturedMinor = 0 → taken.captureFailedMinor ≤ 0) (within : minor ≤ taken.capturedMinor) :
      Possible applies taken event := by
    have unrefunded := valid.refunding
    have backed := valid.refunded_nonneg
    rcases kind with kind | regressive
    · apply Accepts.possible
      exact .refund kind (carries.sooner leads) live open_ captured (by omega) (by omega)
    · obtain ⟨refunded, _, leads', all, rank, taken'⟩ := valid.refunds event (currency.trans leads.currency.symm) live captured
        (by omega) open_ (by omega : taken.refundedMinor ≤ minor) within
      apply Accepts.follows taken'
      exact .correction regressive (carries.sooner (leads.trans leads')) rank (by omega)
  split at within
  next some => exact finish graded (.refl state) live (graded.ranked some) low (by omega) within
  next none =>
    have spaced := graded.spaced (Int.not_lt.mp none)
    have hold := graded.captured_le
    have untaken := graded.refunded_le
    obtain ⟨captured, valid, leads, all, floor, rank, failed, live, taken⟩ :=
      graded.captures event currency live held (Int.not_lt.mp none) (by omega) (by omega : 0 ≤ state.authorizedMinor) (Int.le_refl _)
    apply Possible.after_step taken
    exact finish valid leads live floor (by omega) (by omega) (by omega)

end Reaching

section Premature
variable {exc : Exc} (graded : Graded state) (refused : applyEffect state event = .error exc)
  (early : exc.type = .prematureEvent)
include graded refused early

theorem Graded.attainable (possible : Possible applies state event) : Attainable state event := by
  obtain ⟨row, reached, final, path, taken⟩ := possible
  obtain ⟨valid, leads⟩ := graded.path path
  obtain ⟨prerequisite, needed, below⟩ := applyEffect_early refused early
  have guards := premature_guards refused early
  have rank := leads.rank
  by_cases low : state.rank ≤ 10
  · exact .inl low
  have hold := leads.hold (by omega)
  have captured := leads.taken
  have covered := valid.captured_le
  have backed := valid.refunded_le
  have nonneg := graded.refunded_nonneg.trans graded.refunded_le
  have failed := leads.captureFailed
  have counted := graded.captureFailed_nonneg
  have conclude {minor : Int} (carries : Carries reached event minor) (live : reached.voided = false ∧ reached.expired = false)
      (within : minor ≤ reached.capturedMinor) (clean : reached.capturedMinor = 0 → reached.captureFailedMinor ≤ 0) :
      Attainable state event := by
    obtain ⟨money, found, _, _, same⟩ := carries
    refine .inr ⟨leads.live live, fun amount found' => ?_, by omega⟩
    obtain rfl := Option.some.inj (found.symm.trans found')
    split
    all_goals omega
  -- Only a refund and its correction are premature on a payment past its authorization.
  cases applyEffect_ok.mp taken with
  | authorizeFail kind | authorize kind => simp [kind] at needed
  | stale kind | adjustAuth kind | capture kind | captureFail kind | void kind | expire kind =>
    simp [kind] at needed
    omega
  | refund kind carries live open_ _ within =>
    have outstanding := valid.refunded_nonneg
    exact conclude carries live (by omega) open_
  | correction regressive carries refunded within =>
    exact conclude carries (valid.unreleased (by omega)) (by omega) fun nothing => valid.clean refunded (by omega)

/-- The events that the prerequisite takes can be named. -/
theorem Graded.attains (opening : Money) (currency : opening.currency = state.currency) (attainable : Attainable state event) :
    Possible applies state event := by
  obtain ⟨prerequisite, needed, below⟩ := applyEffect_early refused early
  obtain ⟨⟨minor, amount⟩, live, _⟩ := premature_guards refused early
  rw [effectMinor_ok] at amount
  by_cases returns : event.kind = .refund ∨ event.kind.regressive = true
  · have short : event.kind.needsAmount = true ∧ state.rank < 60 := by
      rcases returns with kind | regressive
      · simp [kind] at needed ⊢
        omega
      · obtain ⟨needs, _, sixty⟩ := correction_needs regressive
        rw [sixty] at needed
        cases needed
        exact ⟨needs, below⟩
    rw [if_pos short.1] at amount
    have nonneg := amount.nonneg
    by_cases low : state.rank ≤ 10
    · obtain ⟨other, held, valid, leads, rank, hold, taken⟩ :=
        graded.readies event currency low (by omega : 0 ≤ minor + 1)
      obtain ⟨untaken, clean, live⟩ := valid.quiet (by omega)
      apply Possible.after_step taken
      apply valid.returns (amount.sooner leads) returns live (by omega) (by omega)
      · rw [if_neg (by omega)]
        omega
      · omega
    · rcases attainable with low' | ⟨live, within, clean⟩
      · exact absurd low' low
      · have carried := amount
        obtain ⟨money, found, _, _, same⟩ := carried
        have within := within money found
        exact graded.returns amount returns live (by omega) short.2 (same ▸ within) clean
  · have low : state.rank < 10 := by
      cases kind : event.kind <;> simp [kind] at needed returns
      all_goals omega
    have nonneg : 0 ≤ minor := by
      split at amount
      · exact amount.nonneg
      · omega
    obtain ⟨other, held, valid, leads, rank, hold, taken⟩ := graded.readies event currency (by omega) nonneg
    obtain ⟨untaken, clean, live⟩ := valid.quiet (by omega)
    have none := valid.refunded_nonneg.trans valid.refunded_le
    apply Possible.after_step taken
    cases kind : event.kind <;> simp [kind] at needed returns amount
    case adjustAuth =>
      by_cases older : event.sequence < held.lastSequence
      · exact Accepts.possible (.stale kind (amount.sooner leads) (by omega) older)
      · exact Accepts.possible (.adjustAuth kind (amount.sooner leads) (by omega) (Int.not_lt.mp older) (by omega) (by omega))
    case capture => exact Accepts.possible (.capture kind (amount.sooner leads) live (by omega) (by omega) untaken (by omega))
    case captureFail => exact Accepts.possible (.captureFail kind (amount.sooner leads) (by omega) (by omega))
    case void => exact Accepts.possible (.void kind (by omega) (by omega))
    case expire => exact Accepts.possible (.expire kind (by omega) (by omega))

end Premature

theorem run_currency (state : PaymentState) (events : List (CanonicalEvent T)) : (run state events).currency = state.currency :=
  run_induction (motive := fun current => current.currency = state.currency) rfl (fun same accepted => accepted.kept.2.trans same) events

/-- A premature event waits for something that can still happen exactly where the payment
was not given up and what was captured, or can still be, is enough for it. -/
theorem premature_possible_iff (paymentId : Str) (opening : Money) (events : List (CanonicalEvent T)) (event : CanonicalEvent T)
    (exc : Exc) (refused : applyEffect (run { paymentId, currency := opening.currency } events) event = .error exc)
    (early : exc.type = .prematureEvent) : Possible applies (run { paymentId, currency := opening.currency } events) event ↔
      Attainable (run { paymentId, currency := opening.currency } events) event :=
  have graded := run_graded paymentId opening.currency events
  have currency := run_currency { paymentId, currency := opening.currency } events
  ⟨graded.attainable refused early, graded.attains refused early opening currency.symm⟩

/-- On a voided payment the failure of a refund is parked, although no refund will be. -/
theorem voided_waits :
    let voided := paid [movement .authorize "auth" 1 1000, movement .void "void" 2 1000]
    let failure := (movement .refundFail "refund" 3 500).2
    ∃ exc, applyEffect voided failure = .error exc ∧ exc.type = .prematureEvent ∧ ¬Possible applies voided failure := by
  intro voided failure
  refine ⟨_, rfl, rfl, fun possible => ?_⟩
  have graded : Graded voided := run_graded (str "pi_1") (str "EUR") _
  rcases graded.attainable rfl rfl possible with low | ⟨⟨live, _⟩, _⟩
  · exact absurd low (by decide)
  · exact absurd live (by decide)

/-- With nothing refunded yet, the failure of a refund waits for one that can still come. -/
theorem premature_possible_iff_refund :
    Possible applies (paid [movement .authorize "auth" 1 1000, movement .capture "capture" 2 1000])
      (movement .refundFail "refund" 3 500).2 := by
  refine (premature_possible_iff (str "pi_1") ⟨1000, str "EUR", by decide⟩
    [(movement .authorize "auth" 1 1000).2, (movement .capture "capture" 2 1000).2] _ _ rfl rfl).mpr ?_
  exact .inr (by decide)

end Quidz.Proofs
