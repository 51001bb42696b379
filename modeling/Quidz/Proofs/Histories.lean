import Mathlib.Algebra.Order.BigOperators.Group.List
import Mathlib.Algebra.Order.Group.Int
import Quidz.Library.Retry
import Quidz.Proofs.Conservation
import Quidz.Proofs.LedgerFold

/-! What a payment holds after some of its events were applied, whatever their order:
sums, flags and a rank that only those events determine, and a hold that one of them
set. -/

namespace Quidz.Proofs

open Library (Verdict)

variable {T : Type}

section Tallies

/-- The minor units an event carries, if it carries an amount. -/
def minorOf (event : CanonicalEvent T) : Int := (event.amount.map Money.minor).getD 0

/-- What the events of one kind add up to. -/
def tally (kind : EffectKind) (events : List (CanonicalEvent T)) : Int :=
  ((events.filter fun event => event.kind = kind).map minorOf).sum

def topRank (events : List (CanonicalEvent T)) : Int := events.foldr (fun event top => max event.kind.rank top) 0

def latest (events : List (CanonicalEvent T)) : Int := events.foldr (fun event last => max event.sequence last) (-1)

def includes (kind : EffectKind) (events : List (CanonicalEvent T)) : Bool := events.any fun event => event.kind = kind

@[simp] theorem tally_nil (kind : EffectKind) : tally kind ([] : List (CanonicalEvent T)) = 0 := rfl

@[simp] theorem tally_cons (kind : EffectKind) (event : CanonicalEvent T) (events : List (CanonicalEvent T)) :
    tally kind (event :: events) = (if event.kind = kind then minorOf event else 0) + tally kind events := by
  by_cases same : event.kind = kind <;> simp [tally, same]

@[simp] theorem topRank_nil : topRank ([] : List (CanonicalEvent T)) = 0 := rfl

@[simp] theorem topRank_cons (event : CanonicalEvent T) (events : List (CanonicalEvent T)) :
    topRank (event :: events) = max event.kind.rank (topRank events) := rfl

@[simp] theorem latest_nil : latest ([] : List (CanonicalEvent T)) = -1 := rfl

@[simp] theorem latest_cons (event : CanonicalEvent T) (events : List (CanonicalEvent T)) :
    latest (event :: events) = max event.sequence (latest events) := rfl

@[simp] theorem includes_nil (kind : EffectKind) : includes kind ([] : List (CanonicalEvent T)) = false := rfl

@[simp] theorem includes_cons (kind : EffectKind) (event : CanonicalEvent T) (events : List (CanonicalEvent T)) :
    includes kind (event :: events) = (decide (event.kind = kind) || includes kind events) := rfl

theorem includes_iff {kind : EffectKind} {events : List (CanonicalEvent T)} :
    includes kind events = true ↔ ∃ event ∈ events, event.kind = kind := by
  simp [includes]

section Perm
variable {first second : List (CanonicalEvent T)} (same : first.Perm second)
include same

theorem tally_perm (kind : EffectKind) : tally kind first = tally kind second :=
  ((same.filter _).map minorOf).sum_eq

theorem topRank_perm : topRank first = topRank second := by
  apply same.foldr_eq'
  intro event _ other _ top
  exact max_left_comm _ _ _

theorem latest_perm : latest first = latest second := by
  apply same.foldr_eq'
  intro event _ other _ last
  exact max_left_comm _ _ _

theorem includes_perm (kind : EffectKind) : includes kind first = includes kind second := by
  rw [Bool.eq_iff_iff, includes_iff, includes_iff]
  simp only [same.mem_iff]

end Perm

theorem topRank_le_iff {events : List (CanonicalEvent T)} {bound : Int} :
    topRank events ≤ bound ↔ 0 ≤ bound ∧ ∀ event ∈ events, event.kind.rank ≤ bound := by
  induction events with
  | nil => simp
  | cons event events ih =>
    rw [topRank_cons, max_le_iff, ih, List.forall_mem_cons]
    exact and_left_comm

theorem latest_le_iff {events : List (CanonicalEvent T)} {bound : Int} :
    latest events ≤ bound ↔ -1 ≤ bound ∧ ∀ event ∈ events, event.sequence ≤ bound := by
  induction events with
  | nil => simp
  | cons event events ih =>
    rw [latest_cons, max_le_iff, ih, List.forall_mem_cons]
    exact and_left_comm

theorem rank_le_sixty (kind : EffectKind) : kind.rank ≤ 60 := by cases kind <;> decide

theorem topRank_le (events : List (CanonicalEvent T)) : topRank events ≤ 60 :=
  topRank_le_iff.mpr ⟨by decide, fun event _ => rank_le_sixty event.kind⟩

theorem latest_ge (events : List (CanonicalEvent T)) : -1 ≤ latest events := (latest_le_iff.mp (Int.le_refl _)).1

theorem topRank_attained {events : List (CanonicalEvent T)} (raised : 0 < topRank events) :
    ∃ event ∈ events, event.kind.rank = topRank events := by
  induction events with
  | nil => cases raised
  | cons event events ih =>
    rw [topRank_cons] at raised ⊢
    rcases le_total (topRank events) event.kind.rank with above | below
    · exact ⟨event, List.mem_cons_self, (max_eq_left above).symm⟩
    · rw [max_eq_right below] at raised ⊢
      obtain ⟨other, member, same⟩ := ih raised
      exact ⟨other, List.mem_cons_of_mem _ member, same⟩

theorem tally_eq_zero {kind : EffectKind} {events : List (CanonicalEvent T)}
    (none : ∀ event ∈ events, event.kind = kind → minorOf event = 0) : tally kind events = 0 := by
  induction events with
  | nil => rfl
  | cons event events ih =>
    rw [List.forall_mem_cons] at none
    rw [tally_cons, ih none.2]
    split
    next same => rw [none.1 same, Int.add_zero]
    next => rfl

theorem tally_pos {kind : EffectKind} {events : List (CanonicalEvent T)} (some : 0 < tally kind events) :
    ∃ event ∈ events, event.kind = kind := by
  by_contra none
  rw [tally_eq_zero fun event member same => absurd ⟨event, member, same⟩ none] at some
  cases some

theorem tally_append (kind : EffectKind) (first second : List (CanonicalEvent T)) :
    tally kind (first ++ second) = tally kind first + tally kind second := by
  simp [tally]

/-- What a filter leaves out is of another kind or adds nothing. -/
theorem tally_filter {kind : EffectKind} {events : List (CanonicalEvent T)} {listed : CanonicalEvent T → Bool}
    (kept : ∀ event ∈ events, event.kind = kind → minorOf event ≠ 0 → listed event = true) :
    tally kind (events.filter listed) = tally kind events := by
  induction events with
  | nil => rfl
  | cons event events ih =>
    rw [List.forall_mem_cons] at kept
    rw [List.filter_cons, tally_cons, ← ih kept.2]
    split
    next => exact tally_cons _ _ _
    next out =>
      split
      next same =>
        have zero : minorOf event = 0 := by
          by_contra real
          exact out (kept.1 same real)
        rw [zero, Int.zero_add]
      next => exact (Int.zero_add _).symm

/-- The only event of its kind is what the kind adds up to. -/
theorem tally_single {events : List (CanonicalEvent T)} {single : CanonicalEvent T} (distinct : events.Nodup)
    (member : single ∈ events) (only : ∀ event ∈ events, event.kind = single.kind → event = single) :
    tally single.kind events = minorOf single := by
  obtain ⟨front, behind, rfl⟩ := List.append_of_mem member
  have moved : (front ++ single :: behind).Perm (single :: (front ++ behind)) := List.perm_middle
  rw [moved.nodup_iff, List.nodup_cons] at distinct
  rw [tally_perm moved, tally_cons, if_pos rfl, tally_eq_zero, Int.add_zero]
  intro event listed kind
  have same := only event (moved.symm.subset (List.mem_cons_of_mem _ listed)) kind
  exact absurd (same ▸ listed) distinct.1

/-- Fewer events add up to less, where no amount is negative. -/
theorem tally_le {kind : EffectKind} {part whole : List (CanonicalEvent T)} (within : part.Subperm whole)
    (nonneg : ∀ event ∈ whole, event.kind = kind → 0 ≤ minorOf event) : tally kind part ≤ tally kind whole := by
  obtain ⟨listed, same, inside⟩ := within
  unfold tally
  rw [← (((same.filter fun event => event.kind = kind).map minorOf).sum_eq)]
  apply List.Sublist.sum_le_sum ((inside.filter _).map minorOf)
  intro minor member
  obtain ⟨event, listed, rfl⟩ := List.mem_map.mp member
  rw [List.mem_filter, decide_eq_true_eq] at listed
  exact nonneg event listed.1 listed.2

end Tallies

/-- What the applied events determine of a payment. -/
structure Tallied (state : PaymentState) (done : List (CanonicalEvent T)) : Prop where
  captured : state.capturedMinor = tally .capture done
  captureFailed : state.captureFailedMinor = tally .captureFail done
  refunded : state.refundedMinor = tally .refund done - tally .refundFail done - tally .refundReverse done
  refundFailed : state.refundFailedMinor = tally .refundFail done + tally .refundReverse done
  voided : state.voided = includes .void done
  expired : state.expired = includes .expire done
  lastSequence : state.lastSequence = latest done
  rank : state.rank = max (topRank done) (stateRank (deriveStatus state))

/-- An adjustment that is older than a fresh payment's last sequence sets nothing. -/
def SetsHold (event : CanonicalEvent T) : Prop :=
  event.kind = .authorize ∨ event.kind = .adjustAuth ∧ -1 ≤ event.sequence

/-- The hold was set by one of the applied events. -/
def Holding (state : PaymentState) (done : List (CanonicalEvent T)) : Prop :=
  (state.authorizedMinor = 0 ∧ ∀ event ∈ done, event.kind ≠ .authorize) ∨
    ∃ event ∈ done, SetsHold event ∧ minorOf event = state.authorizedMinor

structure Standing (state : PaymentState) (done : List (CanonicalEvent T)) : Prop extends
  Tallied state done, Conserved state where
  holding : Holding state done

section Steps

variable {state after : PaymentState} {done : List (CanonicalEvent T)} {event : CanonicalEvent T}

theorem Standing.fresh (paymentId currency : Str) :
    Standing { paymentId, currency } ([] : List (CanonicalEvent T)) where
  toConserved := .fresh paymentId currency
  holding := .inl ⟨rfl, nofun⟩
  captured := rfl
  captureFailed := rfl
  refunded := rfl
  refundFailed := rfl
  voided := rfl
  expired := rfl
  lastSequence := rfl
  rank := rfl

theorem Carries.minorOf {minor : Int} (carries : Carries state event minor) : minorOf event = minor := by
  obtain ⟨amount, found, _, _, same⟩ := carries
  simp [Quidz.Proofs.minorOf, found, same]

theorem deriveStatus_folded (state : PaymentState) (kind : EffectKind) (minor sequence : Int) :
    deriveStatus (folded state kind minor sequence) = deriveStatus (fold state kind minor) := rfl

/-- An accepted kind that does not take money back stands at the top of the ranks. -/
theorem Tallied.folded_rank (tallied : Tallied state done) {minor : Int} (ratchets : event.kind.regressive = false)
    (low : state.rank ≤ event.kind.rank) : (folded state event.kind minor event.sequence).rank =
      max (topRank (event :: done)) (stateRank (deriveStatus (folded state event.kind minor event.sequence))) := by
  have rank := tallied.rank
  rw [deriveStatus_folded, topRank_cons]
  simp only [folded, ratchets, Bool.false_eq_true, ↓reduceIte]
  omega

/-- An accepted event is folded in, unless it is an adjustment that came too late. -/
theorem Accepts.folds (accepted : Accepts state event after) :
    (after = state ∧ event.kind = .adjustAuth ∧ 10 ≤ state.rank ∧ event.sequence < state.lastSequence) ∨
    ∃ minor, after = folded state event.kind minor event.sequence ∧
      (event.kind.needsAmount = true → minorOf event = minor) ∧
      (event.kind.regressive = false → state.rank ≤ event.kind.rank) := by
  cases accepted with
  | stale kind carries held older => exact .inl ⟨rfl, kind, held, older⟩
  | authorizeFail kind low | void kind held low | expire kind held low =>
    exact .inr ⟨0, by rw [kind], by simp [kind], by simpa [kind] using low⟩
  | authorize kind carries unheld low | adjustAuth kind carries held newer covers low
  | capture kind carries live held within first low | captureFail kind carries held low
  | refund kind carries live open_ captured within low =>
    exact .inr ⟨_, by rw [kind], fun _ => carries.minorOf, by simpa [kind] using low⟩
  | correction regressive carries refunded within =>
    refine .inr ⟨_, rfl, fun _ => carries.minorOf, fun ratchets => ?_⟩
    rw [regressive] at ratchets
    cases ratchets

theorem Tallied.accept (tallied : Tallied state done) (accepted : Accepts state event after) :
    Tallied after (event :: done) := by
  have below := topRank_le done
  obtain ⟨captured, captureFailed, refunded, refundFailed, voided, expired, last, rank⟩ := id tallied
  rcases accepted.folds with ⟨rfl, kind, held, older⟩ | ⟨minor, rfl, amount, low⟩
  · refine ⟨?_, ?_, ?_, ?_, ?_, ?_, ?_, ?_⟩
    case refine_7 =>
      rw [latest_cons]
      omega
    case refine_8 =>
      rw [topRank_cons, kind]
      simp only [EffectKind.rank]
      omega
    all_goals simp_all
  · have ranked : (folded state event.kind minor event.sequence).rank = max (topRank (event :: done))
        (stateRank (deriveStatus (folded state event.kind minor event.sequence))) := by
      cases regressive : event.kind.regressive with
      | false => exact tallied.folded_rank regressive (low regressive)
      | true =>
        have sixty := correction_rank regressive
        rw [deriveStatus_folded, topRank_cons, sixty, max_eq_left below]
        simp only [folded, regressive, sixty, ↓reduceIte]
    refine ⟨?_, ?_, ?_, ?_, ?_, ?_, ?_, ranked⟩
    case refine_7 =>
      rw [folded_lastSequence, latest_cons, last, max_comm]
    all_goals
      cases kind : event.kind
      all_goals simp_all [fold]
    all_goals omega

theorem Holding.accept (holding : Holding state done) (tallied : Tallied state done) (accepted : Accepts state event after) :
    Holding after (event :: done) := by
  -- An event that is no authorization and leaves the hold keeps what set it.
  have kept (kind : event.kind ≠ .authorize) (hold : after.authorizedMinor = state.authorizedMinor) :
      Holding after (event :: done) := by
    unfold Holding
    rw [hold]
    refine holding.imp (fun ⟨zero, unset⟩ => ⟨zero, List.forall_mem_cons.mpr ⟨kind, unset⟩⟩) ?_
    exact fun ⟨setter, member, sets⟩ => ⟨setter, List.mem_cons_of_mem _ member, sets⟩
  cases accepted with
  | authorize kind carries => exact .inr ⟨event, List.mem_cons_self, .inl kind, carries.minorOf⟩
  | adjustAuth kind carries held newer =>
    have floor := latest_ge done
    rw [← tallied.lastSequence] at floor
    exact .inr ⟨event, List.mem_cons_self, .inr ⟨kind, floor.trans newer⟩, carries.minorOf⟩
  | stale kind => exact kept (by simp [kind]) rfl
  | correction regressive =>
    apply kept
    · intro kind
      simp [kind] at regressive
    · simp [fold_correction regressive]
  | authorizeFail kind | capture kind | captureFail kind | void kind | expire kind | refund kind =>
    exact kept (by simp [kind]) rfl

theorem Standing.accept (standing : Standing state done) (accepted : Accepts state event after) :
    Standing after (event :: done) where
  toTallied := standing.toTallied.accept accepted
  toConserved := standing.toConserved.step accepted
  holding := standing.holding.accept standing.toTallied accepted

/-- Apart from the hold, the order in which the events were applied leaves no trace. -/
theorem Tallied.determined {other : PaymentState} {done' : List (CanonicalEvent T)} (tallied : Tallied state done)
    (tallied' : Tallied other done') (same : done.Perm done') (paymentId : state.paymentId = other.paymentId)
    (currency : state.currency = other.currency) (hold : state.authorizedMinor = other.authorizedMinor) :
    state = other := by
  obtain ⟨captured, captureFailed, refunded, refundFailed, voided, expired, last, rank⟩ := tallied
  obtain ⟨captured', captureFailed', refunded', refundFailed', voided', expired', last', rank'⟩ := tallied'
  rw [← tally_perm same] at captured' captureFailed'
  rw [← tally_perm same, ← tally_perm same, ← tally_perm same] at refunded'
  rw [← tally_perm same, ← tally_perm same] at refundFailed'
  rw [← includes_perm same] at voided' expired'
  rw [← latest_perm same] at last'
  rw [← topRank_perm same] at rank'
  have status : deriveStatus state = deriveStatus other := by
    simp only [deriveStatus, hold, captured, captured', captureFailed, captureFailed', refunded, refunded', voided,
      voided', expired, expired']
  have ranks : state.rank = other.rank := by rw [rank, rank', status]
  cases state
  cases other
  simp only [PaymentState.mk.injEq]
  exact ⟨paymentId, currency, hold, captured.trans captured'.symm, captureFailed.trans captureFailed'.symm,
    refunded.trans refunded'.symm, refundFailed.trans refundFailed'.symm, voided.trans voided'.symm,
    expired.trans expired'.symm, ranks, last.trans last'.symm⟩

/-- Only an event of its own rank, or the money it took or gave back in full, raises
the status of a payment. -/
theorem Standing.status_raised (standing : Standing state done) : stateRank (deriveStatus state) = 0 ∨
    ∃ event ∈ done, event.kind.rank = stateRank (deriveStatus state) ∨
      0 < state.capturedMinor ∧ (event.kind = .capture ∧ stateRank (deriveStatus state) = 50 ∨
        event.kind = .refund ∧ stateRank (deriveStatus state) = 70) := by
  have captured : 0 < state.capturedMinor → ∃ event ∈ done, event.kind = .capture := fun positive =>
    tally_pos (standing.captured ▸ positive)
  have refunded : 0 < state.refundedMinor → ∃ event ∈ done, event.kind = .refund := by
    intro positive
    have sum := standing.refunded
    have failed := standing.refundFailed
    have nonneg := standing.refundFailed_nonneg
    exact tally_pos (by omega)
  unfold deriveStatus
  split
  next taken =>
    split
    next whole =>
      obtain ⟨event, member, kind⟩ := refunded (by omega)
      exact .inr ⟨event, member, .inr ⟨taken, .inr ⟨kind, rfl⟩⟩⟩
    next =>
      split
      next some =>
        obtain ⟨event, member, kind⟩ := refunded some
        exact .inr ⟨event, member, .inl (by rw [kind]; rfl)⟩
      next =>
        obtain ⟨event, member, kind⟩ := captured taken
        split
        · exact .inr ⟨event, member, .inr ⟨taken, .inl ⟨kind, rfl⟩⟩⟩
        · exact .inr ⟨event, member, .inl (by rw [kind]; rfl)⟩
  next =>
    split
    next expired =>
      obtain ⟨event, member, kind⟩ := includes_iff.mp (standing.expired ▸ expired)
      exact .inr ⟨event, member, .inl (by rw [kind]; rfl)⟩
    next =>
      split
      next voided =>
        obtain ⟨event, member, kind⟩ := includes_iff.mp (standing.voided ▸ voided)
        exact .inr ⟨event, member, .inl (by rw [kind]; rfl)⟩
      next =>
        split
        next failed =>
          obtain ⟨event, member, kind⟩ := tally_pos (standing.captureFailed ▸ failed)
          exact .inr ⟨event, member, .inl (by rw [kind]; rfl)⟩
        next =>
          split
          next held =>
            rcases standing.holding with ⟨zero, _⟩ | ⟨event, member, sets, _⟩
            · omega
            · refine .inr ⟨event, member, .inl ?_⟩
              rcases sets with kind | ⟨kind, _⟩
              all_goals rw [kind]; rfl
          next => exact .inl rfl

/-- A prerequisite is met by one of the applied events. -/
theorem Standing.prerequisite (standing : Standing state done) {kind : EffectKind} {prerequisite : Int}
    (needed : prerequisite ∈ kind.prerequisiteRank) (met : prerequisite ≤ state.rank) :
    ∃ event ∈ done, prerequisite ≤ event.kind.rank := by
  have listed : prerequisite = 10 ∨ prerequisite = 40 ∨ prerequisite = 60 := by
    cases kind <;> simp_all
  rw [standing.rank, le_max_iff] at met
  rcases met with met | met
  · have raised : 0 < topRank done := by omega
    obtain ⟨event, member, same⟩ := topRank_attained raised
    exact ⟨event, member, by omega⟩
  · rcases standing.status_raised with zero | ⟨event, member, own | ⟨_, ⟨kind, full⟩ | ⟨kind, full⟩⟩⟩
    · omega
    · exact ⟨event, member, by omega⟩
    · exact ⟨event, member, by simp [kind]; omega⟩
    · exact ⟨event, member, by simp [kind]; omega⟩

/-- The rank stays where the applied events put it, until money is taken. -/
theorem Standing.rank_le (standing : Standing state done) {bound : Int} (floor : 0 ≤ bound)
    (low : ∀ event ∈ done, event.kind.rank ≤ bound) (untaken : state.capturedMinor = 0) : state.rank ≤ bound := by
  rw [standing.rank, max_le_iff]
  refine ⟨topRank_le_iff.mpr ⟨floor, low⟩, ?_⟩
  rcases standing.status_raised with zero | ⟨event, member, own | ⟨taken, _⟩⟩
  · omega
  · exact own ▸ low event member
  · omega

theorem Standing.rank_ge (standing : Standing state done) {earlier : CanonicalEvent T} (member : earlier ∈ done) :
    earlier.kind.rank ≤ state.rank := by
  rw [standing.rank]
  exact le_max_of_le_left ((topRank_le_iff.mp (Int.le_refl _)).2 earlier member)

theorem Standing.untaken (standing : Standing state done) (none : ∀ event ∈ done, event.kind ≠ .capture) :
    state.capturedMinor = 0 := by
  rw [standing.captured]
  exact tally_eq_zero fun event member kind => absurd kind (none event member)

theorem Standing.low (standing : Standing state done) {bound : Int} (floor : 0 ≤ bound) (short : bound < 40)
    (only : ∀ event ∈ done, event.kind.rank ≤ bound) : state.capturedMinor = 0 ∧ state.rank ≤ bound := by
  have untaken := standing.untaken fun event member taken => by
    have low := only event member
    rw [taken, EffectKind.rank] at low
    omega
  exact ⟨untaken, standing.rank_le floor only untaken⟩

theorem stateRank_le_sixty (unspent : 0 < state.capturedMinor → state.refundedMinor < state.capturedMinor) :
    stateRank (deriveStatus state) ≤ 60 := by
  unfold deriveStatus
  split
  next taken =>
    have unspent := unspent taken
    rw [if_neg (by omega)]
    split
    · decide
    · split <;> decide
  next =>
    repeat' split
    all_goals decide

theorem Standing.unheld (standing : Standing state done) (zero : ∀ event ∈ done, SetsHold event → minorOf event = 0) :
    state.authorizedMinor = 0 := by
  rcases standing.holding with ⟨unset, _⟩ | ⟨setter, member, sets, same⟩
  · exact unset
  · rw [← same, zero setter member sets]

/-- A hold that no adjustment changes is found again under whatever follows it. -/
theorem Standing.held (standing : Standing state done) {minor : Int} (authorized : ∃ opener ∈ done, opener.kind = .authorize)
    (hold : ∀ event ∈ done, SetsHold event → minorOf event = minor) : state.authorizedMinor = minor := by
  rcases standing.holding with ⟨_, unset⟩ | ⟨setter, member, sets, same⟩
  · obtain ⟨opener, member, kind⟩ := authorized
    exact absurd kind (unset opener member)
  · rw [← same, hold setter member sets]

/-- What has a rank was authorized, what was refunded was captured before, and what
was taken back was refunded. -/
structure Grounded (done : List (CanonicalEvent T)) : Prop where
  authorized : ∀ event ∈ done, 10 ≤ event.kind.rank → ∃ opener ∈ done, opener.kind = .authorize
  captured : ∀ event ∈ done, event.kind.rank = 60 → ∃ capture ∈ done, capture.kind = .capture
  refunded : ∀ event ∈ done, event.kind.regressive = true → ∃ refund ∈ done, refund.kind = .refund

theorem Grounded.nil : Grounded ([] : List (CanonicalEvent T)) where
  authorized _ member := absurd member List.not_mem_nil
  captured _ member := absurd member List.not_mem_nil
  refunded _ member := absurd member List.not_mem_nil

/-- Only a capture, or what follows one, reaches the rank of a capture. -/
theorem Grounded.capture (grounded : Grounded done) {earlier : CanonicalEvent T} (member : earlier ∈ done)
    (high : 40 ≤ earlier.kind.rank) : ∃ capture ∈ done, capture.kind = .capture := by
  by_cases kind : earlier.kind = .capture
  · exact ⟨earlier, member, kind⟩
  · apply grounded.captured earlier member
    cases same : earlier.kind <;> simp_all

theorem Grounded.refund (grounded : Grounded done) {earlier : CanonicalEvent T} (member : earlier ∈ done)
    (high : 60 ≤ earlier.kind.rank) : ∃ refund ∈ done, refund.kind = .refund := by
  by_cases kind : earlier.kind = .refund
  · exact ⟨earlier, member, kind⟩
  · apply grounded.refunded earlier member
    cases same : earlier.kind <;> simp_all

theorem Grounded.accept (grounded : Grounded done) (standing : Standing state done)
    (accepted : ∀ prerequisite ∈ event.kind.prerequisiteRank, prerequisite ≤ state.rank) : Grounded (event :: done) := by
  -- What an accepted event needs to be at a rank is there already.
  have before (bound : Int) (needed : ∃ prerequisite ∈ event.kind.prerequisiteRank, bound ≤ prerequisite) :
      ∃ earlier ∈ done, bound ≤ earlier.kind.rank := by
    obtain ⟨prerequisite, needed, high⟩ := needed
    obtain ⟨earlier, member, raised⟩ := standing.prerequisite needed (accepted prerequisite needed)
    exact ⟨earlier, member, high.trans raised⟩
  have kept {kind : EffectKind} : (∃ earlier ∈ done, earlier.kind = kind) → ∃ earlier ∈ event :: done, earlier.kind = kind :=
    fun ⟨earlier, member, same⟩ => ⟨earlier, List.mem_cons_of_mem _ member, same⟩
  constructor
  · rw [List.forall_mem_cons]
    refine ⟨fun ten => ?_, fun other member ten => kept (grounded.authorized other member ten)⟩
    by_cases kind : event.kind = .authorize
    · exact ⟨event, List.mem_cons_self, kind⟩
    · obtain ⟨earlier, member, high⟩ := before 10 (by cases same : event.kind <;> simp_all)
      exact kept (grounded.authorized earlier member high)
  · rw [List.forall_mem_cons]
    refine ⟨fun sixty => ?_, fun other member sixty => kept (grounded.captured other member sixty)⟩
    obtain ⟨earlier, member, high⟩ := before 40 (by cases same : event.kind <;> simp_all)
    exact kept (grounded.capture member high)
  · rw [List.forall_mem_cons]
    refine ⟨fun regressive => ?_, fun other member regressive => kept (grounded.refunded other member regressive)⟩
    obtain ⟨earlier, member, high⟩ := before 60 (by cases same : event.kind <;> simp_all)
    exact kept (grounded.refund member high)

end Steps
end Quidz.Proofs
