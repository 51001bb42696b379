import Quidz.Proofs.Processing

/-! The histories of a payment that tolerate every order of their deliveries, and why
they do: whatever was applied before it, each of their events is applied or waits. -/

namespace Quidz.Proofs

open Library.Retry (Applied Tolerant)

variable {T : Type}

/-- What follows a hold in any order: failed captures, releases, captures of nothing,
or one capture whose refunds stay within it and whose corrections stay within each of
those. -/
inductive Compatible (events : List (CanonicalEvent T)) : Prop where
  | failed (only : ∀ event ∈ events, 10 < event.kind.rank → event.kind = .captureFail)
  | released (only : ∀ event ∈ events, 10 < event.kind.rank → event.kind.rank = 30)
  | untaken (only : ∀ event ∈ events, 10 < event.kind.rank → event.kind = .capture ∧ minorOf event = 0)
  | taken (capture : CanonicalEvent T) (member : capture ∈ events) (kind : capture.kind = .capture)
      (only : ∀ event ∈ events, 10 < event.kind.rank → event = capture ∨ event.kind.rank = 60)
      (within : tally .refund events ≤ minorOf capture)
      (unspent : 0 < minorOf capture → tally .refund events = minorOf capture →
        ∀ event ∈ events, event.kind = .refund → minorOf event ≠ 0)
      (returned : ∀ event ∈ events, event.kind = .refund →
        tally .refundFail events + tally .refundReverse events ≤ minorOf event)

/-- Failures alone, holds of nothing, one authorization and its adjustments, or one
authorization that no adjustment changes and what follows it. -/
inductive Orderless (events : List (CanonicalEvent T)) : Prop where
  | failures (only : ∀ event ∈ events, event.kind = .authorizeFail)
      (currency : ∀ first ∈ events, ∀ second ∈ events, ∀ amount ∈ first.amount, ∀ other ∈ second.amount,
        amount.currency = other.currency)
  | unheld (only : ∀ event ∈ events, event.kind.rank = 10) (zero : ∀ event ∈ events, SetsHold event → minorOf event = 0)
  | adjusted (opening : CanonicalEvent T) (member : opening ∈ events) (kind : opening.kind = .authorize)
      (only : ∀ event ∈ events, event = opening ∨ event.kind = .adjustAuth)
  | held (opening : CanonicalEvent T) (member : opening ∈ events) (kind : opening.kind = .authorize)
      (only : ∀ event ∈ events, event = opening ∨ event.kind = .adjustAuth ∨ 10 < event.kind.rank)
      (hold : ∀ event ∈ events, SetsHold event → minorOf event = minorOf opening) (rest : Compatible events)

section Turn

/-- An event is offered to the aggregate that some others left, on the way to all of
them. -/
structure Turn (events past : List (CanonicalEvent T)) (event : CanonicalEvent T) (held : PaymentState) : Prop where
  standing : Standing held past
  grounded : Grounded past
  within : (event :: past).Subperm events
  distinct : events.Nodup
  carries : event.kind.needsAmount = true → Carries held event (minorOf event)
  nonneg : ∀ other ∈ events, other.kind.needsAmount = true → 0 ≤ minorOf other
  opener : past ≠ [] → ∃ opener ∈ past, opener.kind = .authorize ∨ opener.kind = .authorizeFail

variable {events past : List (CanonicalEvent T)} {event : CanonicalEvent T} {held : PaymentState} {deliveryId : Str}

/-- The guards of `applyEffect` let the event through, or have it wait. -/
def Unrefused (held : PaymentState) (event : CanonicalEvent T) : Prop :=
  ∀ deliveryId : Str, advance (some held) (deliveryId, event) ≠ .refused

variable (turn : Turn events past event held)
include turn

theorem Turn.listed : event ∈ events := turn.within.subset List.mem_cons_self

theorem Turn.earlier {other : CanonicalEvent T} (member : other ∈ past) : other ∈ events :=
  turn.within.subset (List.mem_cons_of_mem _ member)

theorem Turn.fresh : event ∉ past := by
  obtain ⟨listed, same, inside⟩ := turn.within
  exact (List.nodup_cons.mp (same.nodup_iff.mp (turn.distinct.sublist inside))).1

theorem Turn.live (unreleased : ∀ other ∈ past, other.kind.rank ≠ 30) : held.voided = false ∧ held.expired = false := by
  rw [turn.standing.voided, turn.standing.expired, ← Bool.not_eq_true, ← Bool.not_eq_true, includes_iff, includes_iff]
  constructor
  all_goals
    intro ⟨other, member, kind⟩
    exact unreleased other member (by rw [kind]; rfl)

theorem Turn.failing (kind : event.kind = .authorizeFail) (only : ∀ other ∈ past, other.kind = .authorizeFail) :
    Unrefused held event := by
  have ⟨_, low⟩ := turn.standing.low (Int.le_refl 0) (by decide) fun other member => by simp [only other member]
  apply advance_unrefused turn.carries (by simp [kind]) (by simp [kind])
  exact fun _ => ⟨_, .authorizeFail kind low⟩

theorem Turn.authorizing (kind : event.kind = .authorize) (unheld : held.authorizedMinor ≤ 0)
    (only : ∀ other ∈ past, other.kind.rank ≤ 10) : Unrefused held event := by
  have ⟨untaken, low⟩ := turn.standing.low (by decide) (by decide) only
  apply advance_unrefused turn.carries (by simp [kind]) (by simp [kind])
  exact fun _ => ⟨_, .authorize kind (turn.carries (by rw [kind]; rfl)) unheld low⟩

/-- An adjustment is stale once anything above the hold came before it. -/
theorem Turn.adjusting (kind : event.kind = .adjustAuth)
    (only : held.lastSequence ≤ event.sequence → ∀ other ∈ past, other.kind.rank ≤ 10) : Unrefused held event := by
  have carries := turn.carries (by rw [kind]; rfl)
  apply advance_unrefused turn.carries (by simp [kind]) (by simp [kind])
  intro timely
  have prerequisite : 10 ≤ held.rank := timely 10 (by rw [kind]; rfl)
  by_cases older : event.sequence < held.lastSequence
  · exact ⟨_, .stale kind carries prerequisite older⟩
  · have only := only (Int.not_lt.mp older)
    have ⟨untaken, low⟩ := turn.standing.low (by decide) (by decide) only
    exact ⟨_, .adjustAuth kind carries prerequisite (Int.not_lt.mp older) (untaken ▸ carries.nonneg) low⟩

theorem Turn.failingCapture (kind : event.kind = .captureFail) (only : ∀ other ∈ past, other.kind.rank ≤ 20) :
    Unrefused held event := by
  have ⟨untaken, low⟩ := turn.standing.low (by decide) (by decide) only
  apply advance_unrefused turn.carries (by simp [kind]) (by simp [kind])
  exact fun timely => ⟨_, .captureFail kind (turn.carries (by rw [kind]; rfl)) (timely 10 (by rw [kind]; rfl)) low⟩

theorem Turn.releasing (kind : event.kind.rank = 30) (only : ∀ other ∈ past, other.kind.rank ≤ 30) :
    Unrefused held event := by
  have ⟨untaken, low⟩ := turn.standing.low (by decide) (by decide) only
  cases same : event.kind with
  | void =>
    apply advance_unrefused turn.carries (by simp [same]) (by simp [same])
    exact fun timely => ⟨_, .void same (timely 10 (by rw [same]; rfl)) low⟩
  | expire =>
    apply advance_unrefused turn.carries (by simp [same]) (by simp [same])
    exact fun timely => ⟨_, .expire same (timely 10 (by rw [same]; rfl)) low⟩
  | _ =>
    rw [same] at kind
    exact absurd kind (by decide)

theorem Turn.capturing (kind : event.kind = .capture) (unreleased : ∀ other ∈ past, other.kind.rank ≠ 30)
    (only : ∀ other ∈ past, other.kind.rank ≤ 40) (untaken : held.capturedMinor = 0)
    (covered : 10 ≤ held.rank → minorOf event ≤ held.authorizedMinor) : Unrefused held event := by
  have live := turn.live unreleased
  have low := turn.standing.rank_le (by decide) only untaken
  apply advance_unrefused turn.carries (fun _ => live) (by simp [kind])
  intro timely
  have prerequisite : 10 ≤ held.rank := timely 10 (by rw [kind]; rfl)
  have covered := covered prerequisite
  exact ⟨_, .capture kind (turn.carries (by rw [kind]; rfl)) live prerequisite (by omega) (by omega) low⟩

/-- The event and what came before it add up to no more than all events do. -/
theorem Turn.sum_le (kind : EffectKind) (needs : kind.needsAmount = true) :
    (if event.kind = kind then minorOf event else 0) + tally kind past ≤ tally kind events := by
  rw [← tally_cons]
  exact tally_le turn.within fun other member same => turn.nonneg other member (by rw [same]; exact needs)

theorem Turn.minorOf_le {earlier : CanonicalEvent T} (member : earlier ∈ past) (needs : earlier.kind.needsAmount = true) :
    minorOf earlier ≤ tally earlier.kind past := by
  have alone : tally earlier.kind [earlier] = minorOf earlier := by simp
  rw [← alone]
  exact tally_le (List.singleton_subperm_iff.mpr member) fun other listed same =>
    turn.nonneg other (turn.earlier listed) (by rw [same]; exact needs)

/-- A refund fits into the one capture, whatever else was refunded of it. -/
theorem Turn.refunding {capture : CanonicalEvent T} (kind : event.kind = .refund) (isCapture : capture.kind = .capture)
    (only : ∀ other ∈ past, other.kind.rank ≤ 10 ∨ other = capture ∨ other.kind.rank = 60)
    (within : tally .refund events ≤ minorOf capture)
    (unspent : 0 < minorOf capture → tally .refund events = minorOf capture → minorOf event ≠ 0) :
    Unrefused held event := by
  have live := turn.live fun other member thirty => by
    rcases only other member with low | rfl | sixty
    · omega
    · simp [isCapture] at thirty
    · omega
  have unfailed : held.captureFailedMinor = 0 := by
    rw [turn.standing.captureFailed]
    refine tally_eq_zero fun other member failed => ?_
    rcases only other member with low | rfl | sixty
    · simp [failed] at low
    · simp [isCapture] at failed
    · simp [failed] at sixty
  apply advance_unrefused turn.carries (fun _ => live) (fun _ => unfailed)
  intro timely
  have prerequisite : 40 ≤ held.rank := timely 40 (by rw [kind]; rfl)
  have carries := turn.carries (by rw [kind]; rfl)
  have captured : held.capturedMinor = minorOf capture := by
    have single : ∀ other ∈ past, other.kind = capture.kind → other = capture := by
      intro other member same
      rw [isCapture] at same
      rcases only other member with low | rfl | sixty
      · simp [same] at low
      · rfl
      · simp [same] at sixty
    have needed : (40 : Int) ∈ EffectKind.refund.prerequisiteRank := rfl
    obtain ⟨earlier, member, high⟩ := turn.standing.prerequisite needed prerequisite
    obtain ⟨other, member, taken⟩ := turn.grounded.capture member high
    obtain rfl := single other member (taken.trans isCapture.symm)
    rw [turn.standing.captured, ← isCapture]
    obtain ⟨listed, same, inside⟩ := turn.within
    have distinct := List.nodup_cons.mp (same.nodup_iff.mp (turn.distinct.sublist inside))
    exact tally_single distinct.2 member single
  have sum := turn.sum_le .refund rfl
  rw [if_pos kind] at sum
  have failed := turn.standing.refundFailed
  have refunded := turn.standing.refunded
  have nonneg := turn.standing.refundFailed_nonneg
  have amount := carries.nonneg
  refine ⟨_, .refund kind carries live (fun _ => by omega) prerequisite (by omega) ?_⟩
  rw [turn.standing.rank, max_le_iff]
  refine ⟨topRank_le past, stateRank_le_sixty fun taken => ?_⟩
  by_contra spent
  exact unspent (by omega) (by omega) (by omega)

/-- A correction fits into any one of the refunds, whatever else was corrected. -/
theorem Turn.correcting (regressive : event.kind.regressive = true)
    (returned : ∀ refund ∈ events, refund.kind = .refund →
      tally .refundFail events + tally .refundReverse events ≤ minorOf refund) : Unrefused held event := by
  obtain ⟨needs, still, needed⟩ := correction_needs regressive
  apply advance_unrefused turn.carries (fun moves => absurd (still.symm.trans moves) (by decide))
    (fun kind => by simp [kind] at regressive)
  intro timely
  have prerequisite : 60 ≤ held.rank := timely 60 needed
  obtain ⟨earlier, member, high⟩ := turn.standing.prerequisite needed prerequisite
  obtain ⟨refund, member, kind⟩ := turn.grounded.refund member high
  have room := returned refund (turn.earlier member) kind
  have given := turn.minorOf_le member (by rw [kind]; rfl)
  have failed := turn.sum_le .refundFail rfl
  have reversed := turn.sum_le .refundReverse rfl
  have refunded := turn.standing.refunded
  have within : minorOf event ≤ held.refundedMinor := by
    rw [kind] at given
    cases same : event.kind with
    | refundFail | refundReverse =>
      simp only [same, ↓reduceIte, reduceCtorEq] at failed reversed
      omega
    | _ => simp [same] at regressive
  exact ⟨_, .correction regressive (turn.carries needs) prerequisite within⟩

section Shapes

/-- What came before holds an authorization, where nothing failed one. -/
theorem Turn.authorized (failureless : ∀ other ∈ events, other.kind ≠ .authorizeFail) (started : past ≠ []) :
    ∃ opener ∈ past, opener.kind = .authorize := by
  obtain ⟨opener, member, kind⟩ := turn.opener started
  exact ⟨opener, member, kind.resolve_right (failureless opener (turn.earlier member))⟩

/-- The first authorization is the only one. -/
theorem Turn.opening {opening : CanonicalEvent T} (failureless : ∀ other ∈ events, other.kind ≠ .authorizeFail)
    (single : ∀ other ∈ events, other.kind = .authorize → other = opening) (kind : event.kind = .authorize) :
    Unrefused held event := by
  have empty : past = [] := by
    by_contra started
    obtain ⟨opener, member, opens⟩ := turn.authorized failureless started
    have same := (single opener (turn.earlier member) opens).trans (single event turn.listed kind).symm
    exact turn.fresh (same ▸ member)
  exact turn.authorizing kind (turn.standing.unheld (by simp [empty])).le (by simp [empty])

theorem Turn.shape_unheld (only : ∀ other ∈ events, other.kind.rank = 10)
    (zero : ∀ other ∈ events, SetsHold other → minorOf other = 0) : Unrefused held event := by
  have low : ∀ other ∈ past, other.kind.rank ≤ 10 := fun other member => (only other (turn.earlier member)).le
  cases kind : event.kind with
  | authorize =>
    exact turn.authorizing kind (turn.standing.unheld fun other member => zero other (turn.earlier member)).le low
  | adjustAuth => exact turn.adjusting kind fun _ => low
  | _ =>
    have ten := only event turn.listed
    rw [kind] at ten
    exact absurd ten (by decide)

theorem Turn.shape_adjusted {opening : CanonicalEvent T} (opens : opening.kind = .authorize)
    (only : ∀ other ∈ events, other = opening ∨ other.kind = .adjustAuth) : Unrefused held event := by
  have ten : ∀ other ∈ events, other.kind.rank = 10 := by
    intro other member
    rcases only other member with rfl | kind
    · rw [opens]; rfl
    · rw [kind]; rfl
  rcases only event turn.listed with first | kind
  · have failureless : ∀ other ∈ events, other.kind ≠ .authorizeFail := by
      intro other member failed
      have := ten other member
      simp [failed] at this
    have single : ∀ other ∈ events, other.kind = .authorize → other = opening := by
      intro other member again
      exact (only other member).resolve_right (by simp [again])
    exact turn.opening failureless single (first ▸ opens)
  · exact turn.adjusting kind fun _ other member => (ten other (turn.earlier member)).le

/-- Every capture is of nothing, so none takes from the hold. -/
theorem Turn.shape_untaken (low : ∀ other ∈ events, ¬10 < other.kind.rank → other.kind.rank = 10)
    (onlyUntaken : ∀ other ∈ events, 10 < other.kind.rank → other.kind = .capture ∧ minorOf other = 0)
    (high : 10 < event.kind.rank) (covered : event.kind = .capture → 10 ≤ held.rank → minorOf event ≤ held.authorizedMinor) :
    Unrefused held event := by
  obtain ⟨kind, zero⟩ := onlyUntaken event turn.listed high
  have ranks : ∀ other ∈ past, other.kind.rank = 10 ∨ other.kind = .capture ∧ minorOf other = 0 := by
    intro other member
    by_cases above : 10 < other.kind.rank
    · exact .inr (onlyUntaken other (turn.earlier member) above)
    · exact .inl (low other (turn.earlier member) above)
  apply turn.capturing kind _ _ _ (covered kind)
  · intro other member thirty
    rcases ranks other member with ten | ⟨kind, _⟩
    · omega
    · simp [kind] at thirty
  · intro other member
    rcases ranks other member with ten | ⟨kind, _⟩
    · omega
    · simp [kind]
  · rw [turn.standing.captured]
    refine tally_eq_zero fun other member taken => ?_
    rcases ranks other member with ten | ⟨_, zero⟩
    · simp [taken] at ten
    · exact zero

/-- The one capture comes before its refunds, and these before their corrections. -/
theorem Turn.shape_taken {capture : CanonicalEvent T} (low : ∀ other ∈ events, ¬10 < other.kind.rank → other.kind.rank = 10)
    (isCapture : capture.kind = .capture)
    (onlyTaken : ∀ other ∈ events, 10 < other.kind.rank → other = capture ∨ other.kind.rank = 60)
    (within : tally .refund events ≤ minorOf capture)
    (unspent : 0 < minorOf capture → tally .refund events = minorOf capture →
      ∀ other ∈ events, other.kind = .refund → minorOf other ≠ 0)
    (returned : ∀ refund ∈ events, refund.kind = .refund →
      tally .refundFail events + tally .refundReverse events ≤ minorOf refund)
    (high : 10 < event.kind.rank) (covered : event.kind = .capture → 10 ≤ held.rank → minorOf event ≤ held.authorizedMinor) :
    Unrefused held event := by
  have ranks : ∀ other ∈ past, other.kind.rank ≤ 10 ∨ other = capture ∨ other.kind.rank = 60 := by
    intro other listed
    by_cases above : 10 < other.kind.rank
    · exact .inr (onlyTaken other (turn.earlier listed) above)
    · exact .inl (low other (turn.earlier listed) above).le
  rcases onlyTaken event turn.listed high with rfl | sixty
  · -- Nothing is refunded before the one capture.
    have uncaptured : ∀ other ∈ past, other.kind.rank ≤ 10 := by
      intro other listed
      rcases ranks other listed with ten | rfl | sixty
      · exact ten
      · exact absurd listed turn.fresh
      · obtain ⟨again, taken, kind⟩ := turn.grounded.captured other listed sixty
        rcases ranks again taken with ten | rfl | sixty
        · simp [kind] at ten
        · exact absurd taken turn.fresh
        · simp [kind] at sixty
    apply turn.capturing isCapture _ _ _ (covered isCapture)
    · intro other listed thirty
      have := uncaptured other listed
      omega
    · intro other listed
      have := uncaptured other listed
      omega
    · exact (turn.standing.low (by decide) (by decide) uncaptured).1
  · by_cases kind : event.kind = .refund
    · exact turn.refunding kind isCapture ranks within fun positive spent => unspent positive spent event turn.listed kind
    · have regressive : event.kind.regressive = true := by cases same : event.kind <;> simp_all
      exact turn.correcting regressive returned

theorem Turn.shape_held {opening : CanonicalEvent T} (opens : opening.kind = .authorize)
    (only : ∀ other ∈ events, other = opening ∨ other.kind = .adjustAuth ∨ 10 < other.kind.rank)
    (hold : ∀ other ∈ events, SetsHold other → minorOf other = minorOf opening) (rest : Compatible events)
    (adjusts : ∀ adjustment ∈ events, adjustment.kind = .adjustAuth → -1 ≤ adjustment.sequence → ∀ high ∈ events,
      10 < high.kind.rank → adjustment.sequence < high.sequence)
    (covers : ∀ capture ∈ events, capture.kind = .capture → ∃ setter ∈ events, SetsHold setter ∧
      minorOf capture ≤ minorOf setter) : Unrefused held event := by
  have failureless : ∀ other ∈ events, other.kind ≠ .authorizeFail := by
    intro other member failed
    rcases only other member with rfl | kind | high
    · simp [opens] at failed
    · simp [kind] at failed
    · simp [failed] at high
  have low : ∀ other ∈ events, ¬10 < other.kind.rank → other.kind.rank = 10 := by
    intro other member short
    rcases only other member with rfl | kind | high
    · simp [opens]
    · simp [kind]
    · exact absurd high short
  have covered (kind : event.kind = .capture) : 10 ≤ held.rank → minorOf event ≤ held.authorizedMinor := by
    intro raised
    have needed : (10 : Int) ∈ event.kind.prerequisiteRank := by rw [kind]; rfl
    obtain ⟨earlier, member, _⟩ := turn.standing.prerequisite needed raised
    obtain ⟨setter, listed, sets, room⟩ := covers event turn.listed kind
    rw [turn.standing.held (turn.authorized failureless (List.ne_nil_of_mem member)) fun other inside =>
      hold other (turn.earlier inside), ← hold setter listed sets]
    exact room
  rcases only event turn.listed with first | kind | high
  · have single : ∀ other ∈ events, other.kind = .authorize → other = opening := by
      intro other member again
      exact (only other member).resolve_right (by simp [again])
    exact turn.opening failureless single (first ▸ opens)
  · apply turn.adjusting kind
    intro newer other member
    rw [turn.standing.lastSequence, latest_le_iff] at newer
    by_contra high
    have older := adjusts event turn.listed kind newer.1 other (turn.earlier member) (by omega)
    have := newer.2 other member
    omega
  · cases rest with
    | failed onlyFailed =>
      apply turn.failingCapture (onlyFailed event turn.listed high)
      intro other member
      by_cases above : 10 < other.kind.rank
      · simp [onlyFailed other (turn.earlier member) above]
      · have := low other (turn.earlier member) above
        omega
    | released onlyReleased =>
      apply turn.releasing (onlyReleased event turn.listed high)
      intro other member
      by_cases above : 10 < other.kind.rank
      · exact (onlyReleased other (turn.earlier member) above).le
      · have := low other (turn.earlier member) above
        omega
    | untaken onlyUntaken =>
      exact turn.shape_untaken low onlyUntaken high covered
    | taken capture member isCapture onlyTaken within unspent returned =>
      exact turn.shape_taken low isCapture onlyTaken within unspent returned high covered

end Shapes
end Turn

section Legal

variable {paymentId : Str} {all done : List (Arrival T)} {arrival : Arrival T} {held : PaymentState}
  (legal : Legal paymentId all)
include legal

theorem Legal.distinct : (all.map Prod.snd).Nodup := by
  have sequences : ((all.map Prod.snd).map CanonicalEvent.sequence).Nodup := by
    rw [List.map_map]
    exact List.pairwise_map.mpr (legal.ordered.imp fun before => before.ne)
  exact sequences.of_map _

/-- An adjustment that was not stale came before all that is above the hold. -/
theorem Legal.adjusts : ∀ adjustment ∈ all.map Prod.snd, adjustment.kind = .adjustAuth → -1 ≤ adjustment.sequence →
    ∀ high ∈ all.map Prod.snd, 10 < high.kind.rank → adjustment.sequence < high.sequence := by
  rw [List.forall_mem_map]
  intro adjustment member kind real
  rw [List.forall_mem_map]
  intro high listed above
  obtain ⟨earlier, held, after, meets, accepted, _, before⟩ := legal.inTurn member
  by_contra late
  have older : high.2.sequence < adjustment.2.sequence := by
    rcases eq_or_lt_of_le (not_lt.mp late) with same | older
    · rw [legal.same listed member same, kind] at above
      exact absurd above (by decide)
    · exact older
  have gone : high ∈ earlier := (before high).mpr ⟨listed, older⟩
  have raised := meets.standing.rank_ge (List.mem_map_of_mem gone)
  have newest : held.lastSequence ≤ adjustment.2.sequence := by
    rw [meets.standing.lastSequence, latest_le_iff, List.forall_mem_map]
    exact ⟨real, fun other inside => ((before other).mp inside).2.le⟩
  have low := (accepted.adjusts kind newest).2
  omega

/-- A hold that covers a capture came before it. -/
theorem Legal.covers (failureless : ∀ arrival ∈ all, arrival.2.kind ≠ .authorizeFail) :
    ∀ capture ∈ all.map Prod.snd, capture.kind = .capture →
      ∃ setter ∈ all.map Prod.snd, SetsHold setter ∧ minorOf capture ≤ minorOf setter := by
  rw [List.forall_mem_map]
  intro capture member kind
  obtain ⟨earlier, held, after, meets, accepted, _, before⟩ := legal.inTurn member
  have needed : (10 : Int) ∈ capture.2.kind.prerequisiteRank := by rw [kind]; rfl
  have met := accepted.prerequisite needed
  have sum := (accepted.captures kind).2.2
  have nonneg := meets.standing.refunded_nonneg.trans meets.standing.refunded_le
  rcases meets.standing.holding with ⟨_, unset⟩ | ⟨setter, listed, sets, same⟩
  · cases meets with
    | first _ _ _ fresh =>
      rw [fresh] at met
      exact absurd (show (10 : Int) ≤ 0 from met) (by decide)
    | later grown =>
      obtain ⟨opener, inside, opens, _⟩ := grown.opener
      have opens := opens.resolve_right (failureless opener ((before opener).mp inside).1)
      exact absurd opens (unset opener.2 (List.mem_map_of_mem inside))
  · obtain ⟨setter, inside, rfl⟩ := List.mem_map.mp listed
    exact ⟨setter.2, List.mem_map_of_mem ((before setter).mp inside).1, sets, by omega⟩

/-- Where every payment is opened by an authorization, it is opened in the one
currency of all amounts. -/
theorem Legal.priced (failureless : ∀ arrival ∈ all, arrival.2.kind ≠ .authorizeFail) : ∃ currency,
    (∀ held : PaymentState, held.currency = currency → ∀ arrival ∈ all, arrival.2.kind.needsAmount = true →
      Carries held arrival.2 (minorOf arrival.2)) ∧
    ∀ held done, Grown paymentId held done → (∀ other ∈ done, other ∈ all) → held.currency = currency := by
  obtain ⟨currency, carries⟩ := legal.carries
  refine ⟨currency, carries, fun held done grown inside => ?_⟩
  obtain ⟨opener, member, opens, amount, carried, same⟩ := grown.opener
  have opens := opens.resolve_right (failureless opener (inside opener member))
  obtain ⟨other, found, priced, _⟩ := carries { paymentId, currency } rfl opener (inside opener member) (by rw [opens]; rfl)
  rw [carried] at found
  cases found
  exact same.symm.trans priced

theorem Legal.carries_meets (failureless : ∀ arrival ∈ all, arrival.2.kind ≠ .authorizeFail)
    (meets : Meets paymentId done arrival held) (inside : ∀ other ∈ arrival :: done, other ∈ all)
    (needed : arrival.2.kind.needsAmount = true) : Carries held arrival.2 (minorOf arrival.2) := by
  rw [List.forall_mem_cons] at inside
  obtain ⟨currency, carries, opened⟩ := legal.priced failureless
  apply carries held _ arrival inside.1 needed
  cases meets with
  | first _ amount carried fresh =>
    obtain ⟨other, found, same, _⟩ := carries { paymentId, currency } rfl arrival inside.1 needed
    rw [carried] at found
    cases found
    rw [fresh]
    exact same
  | later grown => exact opened held done grown inside.2

theorem Legal.turn (meets : Meets paymentId done arrival held) (within : (arrival :: done).Subperm all)
    (carries : arrival.2.kind.needsAmount = true → Carries held arrival.2 (minorOf arrival.2)) :
    Turn (all.map Prod.snd) (done.map Prod.snd) arrival.2 held where
  standing := meets.standing
  grounded := meets.grounded
  within := by
    obtain ⟨listed, same, inside⟩ := within
    exact ⟨listed.map Prod.snd, same.map _, inside.map _⟩
  distinct := legal.distinct
  carries := carries
  nonneg := List.forall_mem_map.mpr fun other member needed => legal.nonneg member needed
  opener := by
    intro started
    cases meets with
    | first none =>
      subst none
      exact absurd rfl started
    | later grown =>
      obtain ⟨opener, member, kind, _⟩ := grown.opener
      exact ⟨opener.2, List.mem_map_of_mem member, kind⟩

end Legal

section Tolerance

variable {paymentId : Str} {all done : List (Arrival T)} {held : PaymentState}

theorem Orderless.failureless {events : List (CanonicalEvent T)} (orderless : Orderless events) :
    (∀ event ∈ events, event.kind = .authorizeFail) ∨ ∀ event ∈ events, event.kind ≠ .authorizeFail := by
  cases orderless with
  | failures only => exact .inl only
  | unheld only =>
    refine .inr fun event member failed => ?_
    have := only event member
    simp [failed] at this
  | adjusted opening _ kind only | held opening _ kind only =>
    refine .inr fun event member failed => ?_
    have := only event member
    rcases this with rfl | other
    · rw [kind] at failed
      cases failed
    · simp [failed] at other

/-- Whatever was applied before, the next one is applied or waits. -/
theorem Orderless.tolerant (orderless : Orderless (all.map Prod.snd)) (legal : Legal paymentId all) :
    Tolerant advance none all where
  progress := legal.progress
  unrefused {state done arrival} applied within := by
    have inside : ∀ other ∈ arrival :: done, other ∈ all := fun other member => within.subset member
    have own : ∀ other ∈ done, other.2.paymentId = paymentId := fun other member =>
      legal.own other (inside other (List.mem_cons_of_mem _ member))
    cases seen : opened state arrival.2 with
    | none => simp [advance, seen]
    | some held =>
      have meets := meets_of_opened (applied_grown own applied) (legal.own arrival (inside arrival List.mem_cons_self)) seen
      rw [advance_opened seen]
      have turn := legal.turn meets within
      rcases orderless.failureless with failures | failureless
      · have kind := failures arrival.2 (List.mem_map_of_mem (inside arrival List.mem_cons_self))
        have turn := turn (by simp [kind])
        exact turn.failing kind (fun other member => failures other (turn.earlier member)) arrival.1
      · have failureless := List.forall_mem_map.mp failureless
        have turn := turn (legal.carries_meets failureless meets inside)
        cases orderless with
        | failures only => exact absurd (only arrival.2 turn.listed) (failureless arrival (inside arrival List.mem_cons_self))
        | unheld only zero => exact turn.shape_unheld only zero arrival.1
        | adjusted opening _ kind only => exact turn.shape_adjusted kind only arrival.1
        | held opening _ kind only hold rest =>
          exact turn.shape_held kind only hold rest legal.adjusts (legal.covers failureless) arrival.1

/-- Among adjustments of one authorization the newest sets the hold. -/
theorem Legal.newest (legal : Legal paymentId all) {opening : CanonicalEvent T} (opens : opening.kind = .authorize)
    (only : ∀ arrival ∈ all, arrival.2 = opening ∨ arrival.2.kind = .adjustAuth) {state : Option PaymentState}
    (applied : Applied advance none done state) (within : done.Subperm all) : ∀ held, state = some held →
    ∃ setter ∈ done, SetsHold setter.2 ∧ minorOf setter.2 = held.authorizedMinor ∧
      ∀ other ∈ done, SetsHold other.2 → other.2.sequence ≤ setter.2.sequence := by
  induction applied with
  | nil => exact nofun
  | @cons done state arrival after before applies ih =>
    obtain ⟨aggregate, updated, seen, accepted, rfl⟩ := advance_applied.mp applies
    rintro held ⟨⟩
    have inside : ∀ other ∈ arrival :: done, other ∈ all := fun other member => within.subset member
    rw [List.forall_mem_cons] at inside
    have meets := meets_of_opened (applied_grown (fun other member => legal.own other (inside.2 other member)) before)
      (legal.own arrival inside.1) seen
    have fresh : arrival ∉ done := by
      obtain ⟨listed, same, sub⟩ := within
      exact (List.nodup_cons.mp (same.nodup_iff.mp (legal.nodup.sublist sub))).1
    have alone (setter : Arrival T) (none : done = []) :
        ∀ other ∈ setter :: done, SetsHold other.2 → other.2.sequence ≤ setter.2.sequence := by
      rw [none]
      simp
    have floor := latest_ge (done.map Prod.snd)
    rw [← meets.standing.lastSequence] at floor
    cases id accepted with
    | authorize kind carries =>
      cases meets with
      | first none => exact ⟨arrival, List.mem_cons_self, .inl kind, carries.minorOf, alone arrival none⟩
      | later grown =>
        -- What opened it is the one authorization, which is the arrival itself.
        obtain ⟨opener, member, first, _⟩ := grown.opener
        have same : opener.2 = arrival.2 := by
          have one := (only arrival inside.1).resolve_right (by simp [kind])
          rcases only opener (inside.2 opener member) with other | adjusts
          · exact other.trans one.symm
          · simp [adjusts] at first
        exact absurd (legal.same (inside.2 opener member) inside.1 (by rw [same]) ▸ member) fresh
    | adjustAuth kind carries prerequisite newer =>
      refine ⟨arrival, List.mem_cons_self, .inr ⟨kind, floor.trans newer⟩, carries.minorOf, ?_⟩
      rw [List.forall_mem_cons]
      refine ⟨fun _ => Int.le_refl _, fun other member _ => ?_⟩
      rw [meets.standing.lastSequence, latest_le_iff, List.forall_mem_map] at newer
      exact newer.2 other member
    | stale kind carries prerequisite older =>
      cases meets with
      | first _ _ _ unheld =>
        rw [unheld] at prerequisite
        exact absurd (show (10 : Int) ≤ 0 from prerequisite) (by decide)
      | later grown =>
        obtain rfl : state = some aggregate := by
          cases state with
          | some current => exact seen
          | none =>
            obtain ⟨_, empty⟩ | ⟨_, other, _⟩ := applied_grown (fun other member => legal.own other (inside.2 other member)) before
            · obtain ⟨opener, member, _⟩ := grown.opener
              rw [empty] at member
              cases member
            · cases other
        obtain ⟨setter, member, sets, minor, newest⟩ :=
          ih ((List.sublist_cons_self arrival done).subperm.trans within) aggregate rfl
        refine ⟨setter, List.mem_cons_of_mem _ member, sets, minor, ?_⟩
        rw [List.forall_mem_cons]
        refine ⟨fun real => ?_, newest⟩
        have real : -1 ≤ arrival.2.sequence := (real.resolve_left (by simp [kind])).2
        by_contra late
        have bound : aggregate.lastSequence ≤ arrival.2.sequence := by
          rw [grown.standing.lastSequence, latest_le_iff, List.forall_mem_map]
          refine ⟨real, fun other listed => ?_⟩
          by_cases sets : SetsHold other.2
          · have := newest other listed sets
            omega
          · rcases only other (inside.2 other listed) with first | adjusts
            · exact absurd (.inl (first ▸ opens)) sets
            · have old : ¬-1 ≤ other.2.sequence := fun real => sets (.inr ⟨adjusts, real⟩)
              omega
        omega
    | correction regressive =>
      rcases only arrival inside.1 with first | adjusts
      · simp [first, opens] at regressive
      · simp [adjusts] at regressive
    | authorizeFail kind | capture kind | captureFail kind | void kind | expire kind | refund kind =>
      rcases only arrival inside.1 with first | adjusts
      · rw [first, opens] at kind
        cases kind
      · rw [adjusts] at kind
        cases kind

/-- Applied in whatever order, all of them leave one payment. -/
theorem Orderless.determined (orderless : Orderless (all.map Prod.snd)) (legal : Legal paymentId all)
    {first second : List (Arrival T)} {state other : Option PaymentState} (applied : Applied advance none first state)
    (applied' : Applied advance none second other) (order : first.Perm all) (order' : second.Perm all) : state = other := by
  have inside : ∀ arrival ∈ first, arrival ∈ all := fun arrival member => order.subset member
  have inside' : ∀ arrival ∈ second, arrival ∈ all := fun arrival member => order'.subset member
  have same := order.trans order'.symm
  rcases applied_grown (fun arrival member => legal.own arrival (inside arrival member)) applied with
    ⟨rfl, empty⟩ | ⟨held, rfl, grown⟩
  · rw [empty, List.nil_perm] at same
    rw [same] at applied'
    cases applied'
    rfl
  rcases applied_grown (fun arrival member => legal.own arrival (inside' arrival member)) applied' with
    ⟨rfl, empty⟩ | ⟨held', rfl, grown'⟩
  · rw [empty, List.perm_nil] at same
    rw [same] at grown
    obtain ⟨opener, member, _⟩ := grown.opener
    cases member
  have agree (currency : held.currency = held'.currency) (hold : held.authorizedMinor = held'.authorizedMinor) :
      some held = some held' :=
    congrArg some (grown.standing.determined grown'.standing.toTallied (same.map Prod.snd) (grown.own.trans grown'.own.symm)
      currency hold)
  have sub : ∀ event ∈ first.map Prod.snd, event ∈ all.map Prod.snd := fun event member => (order.map Prod.snd).subset member
  have sub' : ∀ event ∈ second.map Prod.snd, event ∈ all.map Prod.snd := fun event member => (order'.map Prod.snd).subset member
  have currency (failureless : ∀ event ∈ all.map Prod.snd, event.kind ≠ .authorizeFail) : held.currency = held'.currency := by
    obtain ⟨currency, _, opened⟩ := legal.priced fun arrival member => failureless arrival.2 (List.mem_map_of_mem member)
    exact (opened held first grown inside).trans (opened held' second grown' inside').symm
  have failureless {opening : CanonicalEvent T} (listed : opening ∈ all.map Prod.snd) (kind : opening.kind = .authorize) :
      ∀ event ∈ all.map Prod.snd, event.kind ≠ .authorizeFail := by
    refine orderless.failureless.resolve_left fun failures => ?_
    have failed := failures opening listed
    rw [kind] at failed
    cases failed
  cases id orderless with
  | failures only one =>
    have unset : ∀ event ∈ all.map Prod.snd, SetsHold event → minorOf event = 0 := by
      intro event member sets
      have kind := only event member
      simp [SetsHold, kind] at sets
    obtain ⟨opener, member, _, amount, carried, same⟩ := grown.opener
    obtain ⟨opener', member', _, amount', carried', same'⟩ := grown'.opener
    apply agree
    · rw [← same, ← same']
      exact one opener.2 (sub _ (List.mem_map_of_mem member)) opener'.2 (sub' _ (List.mem_map_of_mem member'))
        amount carried amount' carried'
    · rw [grown.standing.unheld fun event member => unset event (sub event member),
        grown'.standing.unheld fun event member => unset event (sub' event member)]
  | unheld only zero =>
    apply agree (currency fun event member failed => by simpa [failed] using only event member)
    rw [grown.standing.unheld fun event member => zero event (sub event member),
      grown'.standing.unheld fun event member => zero event (sub' event member)]
  | adjusted opening listed kind only =>
    apply agree (currency (failureless listed kind))
    obtain ⟨setter, member, sets, minor, newest⟩ :=
      legal.newest kind (List.forall_mem_map.mp only) applied order.subperm held rfl
    obtain ⟨setter', member', sets', minor', newest'⟩ :=
      legal.newest kind (List.forall_mem_map.mp only) applied' order'.subperm held' rfl
    have before := newest setter' (same.symm.subset member') sets'
    have after := newest' setter (same.subset member) sets
    rw [← minor, ← minor', legal.same (inside setter member) (inside' setter' member') (by omega)]
  | held opening listed kind only hold rest =>
    apply agree (currency (failureless listed kind))
    obtain ⟨opener, inAll, rfl⟩ := List.mem_map.mp listed
    rw [grown.standing.held ⟨opener.2, List.mem_map_of_mem (order.mem_iff.mpr inAll), kind⟩
        fun event member => hold event (sub event member),
      grown'.standing.held ⟨opener.2, List.mem_map_of_mem (order'.mem_iff.mpr inAll), kind⟩
        fun event member => hold event (sub' event member)]

end Tolerance
end Quidz.Proofs
