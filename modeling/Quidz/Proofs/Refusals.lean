import Quidz.Proofs.Prospects

/-! Refusals that dead-letter an event, against what the payment may still accept. The
classifier calls them permanent; an adjustment, a capture or a refund that comes later
may make room for some of them. -/

namespace Quidz.Proofs

open Library (Path Possible)

variable {T : Type} {state before after : PaymentState} {event : CanonicalEvent T}

/-- An event of any kind over any amount, in the currency of another. -/
def demand (event : CanonicalEvent T) (amount : Money) (kind : EffectKind) (minor sequence : Int) : CanonicalEvent T :=
  { event with kind, amount := some { amount with minor }, sequence }

/-- What a refused event would need is still to be had. -/
def Recoverable (state : PaymentState) (event : CanonicalEvent T) : Prop :=
  ∃ minor, Carries state event minor ∧ match event.kind with
    -- Whatever is accepted later makes the adjustment a stale one.
    | .adjustAuth => True
    -- The hold can still be adjusted, to nothing or to what the capture takes.
    | .authorize | .capture => state.rank ≤ 10
    | .refund =>
      if 0 < state.capturedMinor then minor ≤ state.capturedMinor
      else (state.voided = false ∧ state.expired = false) ∧ state.rank ≤ 40 ∧
        0 < state.authorizedMinor ∧ minor ≤ state.authorizedMinor
    | .refundFail | .refundReverse => minor ≤ state.capturedMinor
    | .authorizeFail | .captureFail | .void | .expire => False

section Room
variable {amount : Money} {minor sequence : Int}

theorem demand_carries (currency : amount.currency = state.currency) (nonneg : 0 ≤ minor) (kind : EffectKind) (sequence : Int) :
    Carries state (demand event amount kind minor sequence) minor := ⟨_, rfl, currency, nonneg, rfl⟩

theorem Graded.quiet (graded : Graded state) (low : state.rank ≤ 10) :
    state.capturedMinor ≤ 0 ∧ state.captureFailedMinor ≤ 0 ∧ state.voided = false ∧ state.expired = false := by
  have taken := graded.ranked
  have failed := graded.failed
  have given := graded.given
  refine ⟨by omega, by omega, ?_, ?_⟩
  · apply Bool.eq_false_iff.mpr
    intro voided
    have rank := given (.inl voided)
    omega
  · apply Bool.eq_false_iff.mpr
    intro expired
    have rank := given (.inr expired)
    omega

theorem Graded.unreleased (graded : Graded state) (high : state.rank ≠ 30) : state.voided = false ∧ state.expired = false := by
  constructor
  · exact Bool.eq_false_iff.mpr fun voided => high (graded.given (.inl voided))
  · exact Bool.eq_false_iff.mpr fun expired => high (graded.given (.inr expired))

/-- As long as nothing was captured, given up or failed, the hold can be set. -/
theorem Graded.adjusts (graded : Graded state) (event : CanonicalEvent T) (currency : amount.currency = state.currency)
    (rank : state.rank = 10) (nonneg : 0 ≤ minor) : ∃ adjusted, Graded adjusted ∧ Leads state adjusted ∧ adjusted.rank = 10 ∧
      adjusted.authorizedMinor = minor ∧ applies state (demand event amount .adjustAuth minor state.lastSequence) adjusted := by
  obtain ⟨untaken, clean, live⟩ := graded.quiet (Int.le_of_eq rank)
  have accepted : Accepts state (demand event amount .adjustAuth minor state.lastSequence) _ :=
    .adjustAuth rfl (demand_carries currency nonneg _ _) (by omega) (Int.le_refl _) (by omega) (by omega)
  refine ⟨_, graded.step accepted, graded.leads accepted, ?_, rfl, applyEffect_ok.mpr accepted⟩
  have status := status_clear (fold state .adjustAuth minor) untaken live clean
  rw [folded_rank rfl]
  simp only [EffectKind.rank]
  omega

/-- A first capture, of the whole hold or less. -/
theorem Graded.captures (graded : Graded state) (event : CanonicalEvent T) (currency : amount.currency = state.currency)
    (live : state.voided = false ∧ state.expired = false) (held : 10 ≤ state.rank) (untaken : state.capturedMinor ≤ 0)
    (low : state.rank ≤ 40) (nonneg : 0 ≤ minor) (within : minor ≤ state.authorizedMinor) :
    ∃ captured, Graded captured ∧ Leads state captured ∧ captured.capturedMinor = minor ∧ 40 ≤ captured.rank ∧ captured.rank ≤ 50 ∧
      captured.captureFailedMinor = state.captureFailedMinor ∧ (captured.voided = false ∧ captured.expired = false) ∧
      applies state (demand event amount .capture minor 0) captured := by
  have zero : state.capturedMinor = 0 := Int.le_antisymm untaken (graded.refunded_nonneg.trans graded.refunded_le)
  have unrefunded : state.refundedMinor ≤ 0 := graded.refunded_le.trans untaken
  have accepted : Accepts state (demand event amount .capture minor 0) _ :=
    .capture rfl (demand_carries currency nonneg _ _) live held (by omega) untaken low
  have status := status_unrefunded (fold state .capture minor) unrefunded
  refine ⟨_, graded.step accepted, graded.leads accepted, ?_, kind_rank_le_folded _ .capture _ _, ?_, rfl, live,
    applyEffect_ok.mpr accepted⟩
  · simp only [folded_capturedMinor, fold]
    omega
  · rw [folded_rank rfl]
    simp only [EffectKind.rank]
    omega

/-- What was captured can be refunded in full. -/
theorem Graded.refunds (graded : Graded state) (event : CanonicalEvent T) (currency : amount.currency = state.currency)
    (live : state.voided = false ∧ state.expired = false) (captured : 40 ≤ state.rank) (low : state.rank ≤ 60)
    (open_ : state.capturedMinor = 0 → state.captureFailedMinor ≤ 0) (more : state.refundedMinor ≤ minor)
    (within : minor ≤ state.capturedMinor) : ∃ refunded, Graded refunded ∧ Leads state refunded ∧
      refunded.refundedMinor = minor ∧ 60 ≤ refunded.rank ∧
      applies state (demand event amount .refund (minor - state.refundedMinor) 0) refunded := by
  have accepted : Accepts state (demand event amount .refund (minor - state.refundedMinor) 0) _ :=
    .refund rfl (demand_carries currency (by omega) _ _) live open_ captured (by omega) low
  refine ⟨_, graded.step accepted, graded.leads accepted, ?_, kind_rank_le_folded _ .refund _ _, applyEffect_ok.mpr accepted⟩
  simp only [folded_refundedMinor, fold]
  omega

/-- All that was refunded may come back. -/
theorem Graded.reverses (graded : Graded state) (event : CanonicalEvent T) (currency : amount.currency = state.currency)
    (high : 60 ≤ state.rank) : ∃ reversed, Graded reversed ∧ Leads state reversed ∧ reversed.refundedMinor = 0 ∧
      reversed.rank = 60 ∧ applies state (demand event amount .refundReverse state.refundedMinor 0) reversed := by
  have accepted : Accepts state (demand event amount .refundReverse state.refundedMinor 0) _ :=
    .correction rfl (demand_carries currency graded.refunded_nonneg _ _) high (Int.le_refl _)
  have status := status_unrefunded (fold state .refundReverse state.refundedMinor) (by simp [fold])
  refine ⟨_, graded.step accepted, graded.leads accepted, by simp [demand, fold], ?_, applyEffect_ok.mpr accepted⟩
  rw [corrected_rank rfl]
  simp only [demand]
  omega

/-- No payment is through: some event is accepted, with any sequence. -/
theorem Graded.proceeds (graded : Graded state) (event : CanonicalEvent T) (currency : amount.currency = state.currency)
    (held : 10 ≤ state.rank) (sequence : Int) : ∃ kind moved, Graded moved ∧ Leads state moved ∧ sequence ≤ moved.lastSequence ∧
      applies state (demand event amount kind 0 sequence) moved := by
  have zero (kind : EffectKind) : Carries state (demand event amount kind 0 sequence) 0 :=
    demand_carries currency (Int.le_refl _) kind sequence
  have found : ∃ kind moved, Accepts state (demand event amount kind 0 sequence) moved ∧ sequence ≤ moved.lastSequence := by
    by_cases low : state.rank ≤ 30
    · exact ⟨.void, _, .void rfl held low, Int.le_max_right _ _⟩
    · have live := graded.unreleased (by omega)
      by_cases high : 60 ≤ state.rank
      · exact ⟨.refundReverse, _, .correction rfl (zero _) high graded.refunded_nonneg, Int.le_max_right _ _⟩
      · have within := graded.captured_le
        by_cases taken : 0 < state.capturedMinor
        · have captured := graded.ranked taken
          have outstanding := graded.refunded_le
          exact ⟨.refund, _, .refund rfl (zero _) live (by omega) captured (by omega) (by omega), Int.le_max_right _ _⟩
        · have spaced := graded.spaced (Int.not_lt.mp taken)
          exact ⟨.capture, _, .capture rfl (zero _) live held (by omega) (by omega) (by omega), Int.le_max_right _ _⟩
  obtain ⟨kind, moved, accepted, late⟩ := found
  exact ⟨kind, moved, graded.step accepted, graded.leads accepted, late, applyEffect_ok.mpr accepted⟩

end Room

theorem Accepts.possible (accepted : Accepts before event after) : Possible applies before event :=
  .now (applyEffect_ok.mpr accepted)

/-- One event in between is enough. -/
theorem Accepts.follows {other : CanonicalEvent T} {held : PaymentState} (taken : applies state other held)
    (accepted : Accepts held event after) : Possible applies state event := .after_step taken accepted.possible

section Refused
variable {exc : Exc} (graded : Graded state) (refused : applyEffect state event = .error exc)
  (permanent : (classify exc).retryable = false)

include refused in
theorem refuses (after : PaymentState) : ¬Accepts state event after := by
  intro accepted
  rw [applyEffect_ok.mpr accepted] at refused
  cases refused

include refused permanent in
/-- An event that waits for its prerequisite is not refused for good. -/
theorem timely_of_minor (minor : Int) (amount : effectMinor event state = .ok minor)
    (live : ¬(event.kind.movesMoney = true ∧ (state.voided = true ∨ state.expired = true)))
    (possible : ¬(event.kind = .refund ∧ state.capturedMinor = 0 ∧
      (state.captureFailedMinor > 0 ∨ state.voided = true ∨ state.expired = true)))
    (prerequisite : Int) (needed : event.kind.prerequisiteRank = some prerequisite) : prerequisite ≤ state.rank := by
  by_contra early
  obtain ⟨message, raised⟩ := applyEffect_premature amount live possible ⟨prerequisite, needed, Int.not_le.mp early⟩
  obtain rfl := Except.error.inj (raised.symm.trans refused)
  cases permanent

include refused permanent in
theorem timely_of_carries {minor : Int} (carries : Carries state event minor) (needs : event.kind.needsAmount = true)
    (moves : event.kind.movesMoney = false) (prerequisite : Int) (needed : event.kind.prerequisiteRank = some prerequisite) :
    prerequisite ≤ state.rank := by
  apply timely_of_minor refused permanent minor _ _ _ prerequisite needed
  · rw [effectMinor_ok, if_pos needs]
    exact carries
  · rintro ⟨moved, _⟩
    rw [moves] at moved
    cases moved
  · rintro ⟨kind, _⟩
    rw [kind] at moves
    cases moves

include graded refused permanent in
/-- A refund that nothing was captured for is accepted after a capture, which there has to
be room for. -/
theorem Graded.uncaptured {reached : PaymentState} {minor : Int} (valid : Graded reached) (leads : Leads state reached)
    (kind : event.kind = .refund) (own : Carries state event minor) (alive : state.voided = false ∧ state.expired = false)
    (open_ : reached.capturedMinor = 0 → reached.captureFailedMinor ≤ 0)
    (within : reached.refundedMinor + minor ≤ reached.capturedMinor) (none : state.capturedMinor ≤ 0) :
    state.rank ≤ 40 ∧ 0 < state.authorizedMinor ∧ minor ≤ state.authorizedMinor := by
  have nonneg := own.nonneg
  have outstanding := valid.refunded_nonneg
  have zero : state.capturedMinor = 0 := by
    have backed := graded.refunded_nonneg.trans graded.refunded_le
    omega
  have waited (clean : state.captureFailedMinor ≤ 0) : 40 ≤ state.rank := by
    apply timely_of_minor refused permanent minor _ _ _ 40 (by rw [kind]; rfl)
    · rw [effectMinor_ok, kind]
      exact own
    · simp [alive]
    · simp [alive]
      omega
  by_cases later : 0 < reached.capturedMinor
  · have early : state.rank ≤ 40 := by
      by_contra high
      have same := leads.closed (by omega)
      omega
    have above : 10 < state.rank := by
      by_contra low
      have waited := waited (graded.quiet (by omega)).2.1
      omega
    have hold := leads.hold above
    have covered := valid.captured_le
    exact ⟨early, by omega, by omega⟩
  · -- Nothing is captured there either, so that the refund is of nothing, and was acceptable.
    have nothing : reached.capturedMinor = 0 := by
      have backed := valid.refunded_le
      omega
    have clean := leads.captureFailed.trans (open_ nothing)
    have ranked := waited clean
    have spent := graded.spent
    have refunded := graded.refunded_le
    exact absurd (.refund kind own alive (fun _ => clean) ranked (by omega) (by omega)) (refuses refused _)

include graded refused permanent in
/-- What is accepted in the end was to be had all along. -/
theorem Graded.recoverable (possible : Possible applies state event) : Recoverable state event := by
  obtain ⟨row, reached, final, path, taken⟩ := possible
  obtain ⟨valid, leads⟩ := graded.path path
  have never := refuses refused
  have rank := leads.rank
  cases applyEffect_ok.mp taken with
  | authorizeFail kind pending => exact absurd (.authorizeFail kind (by omega)) (never _)
  | authorize kind carries unheld low =>
    refine ⟨_, carries.later leads, ?_⟩
    simp only [kind]
    omega
  | stale kind carries | adjustAuth kind carries =>
    refine ⟨_, carries.later leads, ?_⟩
    simp only [kind]
  | @capture minor kind carries live held within first low =>
    have own := carries.later leads
    refine ⟨_, own, ?_⟩
    simp only [kind]
    by_contra high
    have hold := leads.hold (by omega)
    have captured := leads.captured
    exact never _ (.capture kind own (leads.live live) (by omega) (by omega) (by omega) (by omega))
  | captureFail kind carries held low =>
    have own := carries.later leads
    have timely := timely_of_carries refused permanent own (by rw [kind]; rfl) (by rw [kind]; rfl) 10 (by rw [kind]; rfl)
    exact absurd (.captureFail kind own timely (by omega)) (never _)
  | void kind held low =>
    have timely := timely_of_minor refused permanent 0 (by rw [effectMinor_ok, kind]; rfl) (by simp [kind]) (by simp [kind])
      10 (by rw [kind]; rfl)
    exact absurd (.void kind timely (by omega)) (never _)
  | expire kind held low =>
    have timely := timely_of_minor refused permanent 0 (by rw [effectMinor_ok, kind]; rfl) (by simp [kind]) (by simp [kind])
      10 (by rw [kind]; rfl)
    exact absurd (.expire kind timely (by omega)) (never _)
  | @refund minor kind carries live open_ captured within low =>
    have own := carries.later leads
    have alive := leads.live live
    refine ⟨_, own, ?_⟩
    simp only [kind]
    split
    next some =>
      have outstanding := valid.refunded_nonneg
      have same := leads.taken some
      omega
    next none =>
      exact ⟨alive, graded.uncaptured refused permanent valid leads kind own alive open_ within (Int.not_lt.mp none)⟩
  | @correction minor regressive carries refunded within =>
    have own := carries.later leads
    have outstanding := valid.refunded_le
    obtain ⟨needs, still, prerequisite⟩ := correction_needs regressive
    have high := timely_of_carries refused permanent own needs still 60 prerequisite
    have same := leads.closed (by omega)
    refine ⟨_, own, ?_⟩
    cases kind : event.kind <;> simp [kind] at regressive ⊢
    all_goals omega

include graded refused permanent in
/-- What is to be had can be brought about. -/
theorem Graded.recovers (recoverable : Recoverable state event) : Possible applies state event := by
  obtain ⟨minor, carries, room⟩ := recoverable
  obtain ⟨amount, found, currency, valid, same⟩ := carries
  have carries : Carries state event minor := ⟨amount, found, currency, valid, same⟩
  have nonneg := carries.nonneg
  have never := refuses refused
  cases kind : event.kind <;> simp only [kind] at room
  case adjustAuth =>
    have held := timely_of_carries refused permanent carries (by rw [kind]; rfl) (by rw [kind]; rfl) 10 (by rw [kind]; rfl)
    obtain ⟨other, moved, _, leads, late, taken⟩ := graded.proceeds event currency held (event.sequence + 1)
    apply Accepts.follows taken
    exact .stale kind (carries.sooner leads) (by have rank := leads.rank; omega) (by omega)
  case authorize =>
    have held : 0 < state.authorizedMinor := by
      by_contra unheld
      exact never _ (.authorize kind carries (by omega) room)
    have opened := graded.opened held
    obtain ⟨adjusted, _, leads, rank, hold, taken⟩ := graded.adjusts event currency (by omega) (Int.le_refl 0)
    apply Accepts.follows taken
    exact .authorize kind (carries.sooner leads) (by omega) (by omega)
  case capture =>
    have quiet := graded.quiet room
    have held : 10 ≤ state.rank := by
      apply timely_of_minor refused permanent minor _ _ _ 10 (by rw [kind]; rfl)
      · rw [effectMinor_ok, kind]
        exact carries
      · simp [quiet.2.2]
      · simp [kind]
    obtain ⟨adjusted, valid, leads, rank, hold, taken⟩ := graded.adjusts event currency (by omega) nonneg
    have quiet := valid.quiet (by omega)
    have none := valid.refunded_nonneg.trans valid.refunded_le
    apply Accepts.follows taken
    exact .capture kind (carries.sooner leads) quiet.2.2 (by omega) (by omega) (by omega) (by omega)
  case refund =>
    split at room
    next some =>
      have live := graded.live some
      have captured := graded.ranked some
      by_cases high : 60 ≤ state.rank
      · obtain ⟨reversed, valid, leads, none, rank, taken⟩ := graded.reverses event currency high
        have same := leads.taken some
        apply Accepts.follows taken
        exact .refund kind (carries.sooner leads) (valid.unreleased (by omega)) (by omega) (by omega) (by omega) (by omega)
      · have unrefunded := graded.refunding
        exact (never _ (.refund kind carries live (by omega) captured (by omega) (by omega))).elim
    next none =>
      obtain ⟨live, low, held, within⟩ := room
      have opened := graded.opened held
      obtain ⟨captured, valid, leads, all, floor, rank, _, live, taken⟩ :=
        graded.captures event currency live opened (Int.not_lt.mp none) low (Int.le_of_lt held) (Int.le_refl _)
      have unrefunded := valid.refunding
      apply Accepts.follows taken
      exact .refund kind (carries.sooner leads) live (by omega) floor (by omega) (by omega)
  case refundFail | refundReverse =>
    have regressive : event.kind.regressive = true := by rw [kind]; rfl
    have high := timely_of_carries refused permanent carries (by rw [kind]; rfl) (by rw [kind]; rfl) 60 (by rw [kind]; rfl)
    have short : state.refundedMinor < minor := by
      by_contra enough
      exact never _ (.correction regressive carries high (Int.not_lt.mp enough))
    have outstanding := graded.refunded_nonneg
    have top := graded.spent
    obtain ⟨refunded, _, leads, all, rank, taken⟩ := graded.refunds event currency (graded.live (by omega)) (by omega) (by omega)
      (by omega) graded.refunded_le (Int.le_refl _)
    apply Accepts.follows taken
    exact .correction regressive (carries.sooner leads) rank (by omega)

end Refused

/-- An event is refused for good exactly where nothing it would need is still to be
had, although every one of these refusals dead-letters it at once. -/
theorem refusal_permanent_iff (paymentId currency : Str) (events : List (CanonicalEvent T)) (event : CanonicalEvent T) (exc : Exc)
    (refused : applyEffect (run { paymentId, currency } events) event = .error exc) (permanent : (classify exc).retryable = false) :
    ¬Possible applies (run { paymentId, currency } events) event ↔ ¬Recoverable (run { paymentId, currency } events) event :=
  have graded := run_graded paymentId currency events
  not_congr ⟨graded.recoverable refused permanent, graded.recovers refused permanent⟩

/-- A capture beyond the hold is dead-lettered, and would be accepted once the adjustment
is there that raises the hold. -/
theorem overcapture_recovers :
    let held := paid [movement .authorize "auth" 1 1000]
    let capture := (movement .capture "capture" 3 1500).2
    ∃ exc, applyEffect held capture = .error exc ∧ (classify exc).retryable = false ∧ Possible applies held capture := by
  refine ⟨_, rfl, by decide, [(movement .adjustAuth "adjust" 2 1500).2], _, _, .cons rfl .nil, rfl⟩

/-- A second capture stays refused. -/
theorem refusal_permanent_iff_captured :
    ¬Possible applies (paid [movement .authorize "auth" 1 1000, movement .capture "capture" 2 600])
      (movement .capture "second" 3 400).2 := by
  apply (refusal_permanent_iff (str "pi_1") (str "EUR") _ _ _ rfl (by decide)).mpr
  intro ⟨minor, _, low⟩
  have low : (paid [movement .authorize "auth" 1 1000, movement .capture "capture" 2 600]).rank ≤ 10 := low
  exact absurd low (by decide)

end Quidz.Proofs
