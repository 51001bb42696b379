import Mathlib.Data.List.MinMax
import Quidz.Proofs.Histories

/-! The deliveries of one payment, processed as the inbox does: what is parked is
tried again after the others, and what is refused for good is dropped. Here is what
they do to the payment, in the order of their sequence and in any other. -/

namespace Quidz.Proofs

open Library (Verdict)
open Library.Retry (Applied)

variable {T : Type}

/-- The aggregate an event applies to: the one there is, or one in the event's own
currency. -/
def opened (state : Option PaymentState) (event : CanonicalEvent T) : Option PaymentState :=
  state.orElse fun _ => event.amount.map fun amount => { paymentId := event.paymentId, currency := amount.currency }

/-- What becomes of an event on its own payment. -/
def advance (state : Option PaymentState) (arrival : Arrival T) : Verdict (Option PaymentState) :=
  match opened state arrival.2 with
  | none => .parked
  | some aggregate =>
    match applyEffect aggregate arrival.2 with
    | .ok after => .applied (some after)
    | .error exc => if exc.type = .prematureEvent then .parked else .refused

section Advance

variable {state : Option PaymentState} {arrival : Arrival T} {held after : PaymentState} {event : CanonicalEvent T}

theorem advance_applied {after : Option PaymentState} : advance state arrival = .applied after ↔
    ∃ aggregate updated, opened state arrival.2 = some aggregate ∧ Accepts aggregate arrival.2 updated ∧
      after = some updated := by
  unfold advance
  constructor
  · intro applied
    split at applied
    next => cases applied
    next aggregate seen =>
      split at applied
      next updated accepted =>
        cases applied
        exact ⟨aggregate, updated, seen, applyEffect_ok.mp accepted, rfl⟩
      next =>
        split at applied
        all_goals cases applied
  · rintro ⟨aggregate, updated, seen, accepted, rfl⟩
    simp only [seen, applyEffect_ok.mpr accepted]

theorem advance_opened (seen : opened state arrival.2 = some held) : advance state arrival = advance (some held) arrival := by
  unfold advance
  rw [seen]
  rfl

/-- What is offered to a payment in time is applied or refused. -/
theorem advance_timely {aggregate : PaymentState} (seen : opened state arrival.2 = some aggregate)
    (timely : ∀ prerequisite ∈ arrival.2.kind.prerequisiteRank, prerequisite ≤ aggregate.rank) :
    advance state arrival ≠ .parked := by
  unfold advance
  simp only [seen]
  split
  next => exact nofun
  next exc refused =>
    split
    next premature =>
      obtain ⟨prerequisite, needed, short⟩ := applyEffect_early refused premature
      exact absurd (timely prerequisite needed) (by omega)
    next => exact nofun

theorem Accepts.prerequisite (accepted : Accepts held event after) {prerequisite : Int}
    (needed : prerequisite ∈ event.kind.prerequisiteRank) : prerequisite ≤ held.rank := by
  cases accepted with
  | correction regressive carries refunded =>
    rw [(correction_needs regressive).2.2] at needed
    cases needed
    exact refunded
  | _ => simp_all

theorem Accepts.carries (accepted : Accepts held event after) (needed : event.kind.needsAmount = true) :
    Carries held event (minorOf event) := by
  cases accepted with
  | authorizeFail kind | void kind | expire kind => simp [kind] at needed
  | authorize _ carries | stale _ carries | adjustAuth _ carries | capture _ carries | captureFail _ carries
  | refund _ carries | correction _ carries => exact carries.minorOf ▸ carries

section Guards
variable (accepted : Accepts held event after)
include accepted

/-- What is no correction ratchets, unless it is an adjustment that came too late. -/
theorem Accepts.low (ratchets : event.kind.regressive = false) (moved : after ≠ held ∨ event.kind ≠ .adjustAuth) :
    held.rank ≤ event.kind.rank := by
  cases accepted with
  | stale kind => simp [kind] at moved
  | correction regressive =>
    rw [regressive] at ratchets
    cases ratchets
  | authorizeFail kind low | authorize kind _ _ low | adjustAuth kind _ _ _ _ low | capture kind _ _ _ _ _ low
  | captureFail kind _ _ low | void kind _ low | expire kind _ low | refund kind _ _ _ _ _ low =>
    rw [kind]
    exact low

theorem Accepts.unheld (kind : event.kind = .authorize) : held.authorizedMinor ≤ 0 := by
  cases accepted with
  | authorize _ _ unheld => exact unheld
  | _ => simp_all

theorem Accepts.captures (kind : event.kind = .capture) : (held.voided = false ∧ held.expired = false) ∧
    held.capturedMinor ≤ 0 ∧ held.capturedMinor + minorOf event ≤ held.authorizedMinor := by
  cases accepted with
  | capture _ carries live _ within first => exact ⟨live, first, carries.minorOf ▸ within⟩
  | _ => simp_all

/-- An adjustment that is not stale sets the hold. -/
theorem Accepts.adjusts (kind : event.kind = .adjustAuth) (newer : held.lastSequence ≤ event.sequence) :
    after.authorizedMinor = minorOf event ∧ held.rank ≤ 10 := by
  cases accepted with
  | adjustAuth _ carries _ _ _ low => exact ⟨carries.minorOf.symm, low⟩
  | stale _ _ _ older => omega
  | _ => simp_all

end Guards

/-- The guards before the prerequisite let the event through, and the others do if it
is in time. -/
theorem advance_unrefused (amount : event.kind.needsAmount = true → Carries held event (minorOf event))
    (live : event.kind.movesMoney = true → held.voided = false ∧ held.expired = false)
    (possible : event.kind = .refund → held.captureFailedMinor = 0)
    (timely : (∀ prerequisite ∈ event.kind.prerequisiteRank, prerequisite ≤ held.rank) → ∃ after, Accepts held event after)
    (deliveryId : Str) : advance (some held) (deliveryId, event) ≠ .refused := by
  by_cases early : ∃ prerequisite ∈ event.kind.prerequisiteRank, held.rank < prerequisite
  · have minor : ∃ minor, effectMinor event held = .ok minor := by
      by_cases needed : event.kind.needsAmount = true
      · exact ⟨_, effectMinor_ok.mpr (by rw [if_pos needed]; exact amount needed)⟩
      · exact ⟨0, effectMinor_ok.mpr (by rw [if_neg needed])⟩
    obtain ⟨minor, minored⟩ := minor
    have alive : ¬(event.kind.movesMoney = true ∧ (held.voided = true ∨ held.expired = true)) := by
      intro ⟨moves, closed⟩
      simp [live moves] at closed
    have chance : ¬(event.kind = .refund ∧ held.capturedMinor = 0 ∧
        (held.captureFailedMinor > 0 ∨ held.voided = true ∨ held.expired = true)) := by
      intro ⟨kind, _, closed⟩
      have unclosed := live (by rw [kind]; rfl)
      simp [possible kind, unclosed] at closed
    obtain ⟨message, premature⟩ := applyEffect_premature minored alive chance early
    simp [advance, opened, premature]
  · obtain ⟨after, accepted⟩ := timely fun prerequisite needed => not_lt.mp fun short => early ⟨prerequisite, needed, short⟩
    have applied : advance (some held) (deliveryId, event) = .applied (some after) :=
      advance_applied.mpr ⟨held, after, rfl, accepted, rfl⟩
    rw [applied]
    exact nofun

end Advance

section Grown

/-- A payment after some arrivals were applied to it: what they determine, what it was
opened with, and the amounts they carried. -/
structure Grown (paymentId : Str) (state : PaymentState) (done : List (Arrival T)) : Prop where
  own : state.paymentId = paymentId
  standing : Standing state (done.map Prod.snd)
  grounded : Grounded (done.map Prod.snd)
  opener : ∃ arrival ∈ done, (arrival.2.kind = .authorize ∨ arrival.2.kind = .authorizeFail) ∧
    ∃ amount ∈ arrival.2.amount, amount.currency = state.currency
  carries : ∀ arrival ∈ done, arrival.2.kind.needsAmount = true → Carries state arrival.2 (minorOf arrival.2)

/-- The aggregate an arrival meets: nothing was applied yet and it opens its own, or
the others left one. -/
inductive Meets (paymentId : Str) (done : List (Arrival T)) (arrival : Arrival T) (held : PaymentState) : Prop where
  | first (none : done = []) (amount : Money) (carried : arrival.2.amount = some amount)
      (fresh : held = { paymentId, currency := amount.currency })
  | later (grown : Grown paymentId held done)

variable {paymentId : Str} {held after : PaymentState} {done : List (Arrival T)} {arrival : Arrival T}

theorem Carries.kept {event : CanonicalEvent T} {minor : Int} (carries : Carries held event minor)
    (same : after.currency = held.currency) : Carries after event minor := by
  obtain ⟨amount, found, currency, rest⟩ := carries
  exact ⟨amount, found, currency.trans same.symm, rest⟩

theorem Meets.standing (meets : Meets paymentId done arrival held) : Standing held (done.map Prod.snd) := by
  cases meets with
  | first none amount carried fresh =>
    subst none fresh
    exact .fresh paymentId amount.currency
  | later grown => exact grown.standing

theorem Meets.grounded (meets : Meets paymentId done arrival held) : Grounded (done.map Prod.snd) := by
  cases meets with
  | first none =>
    subst none
    exact .nil
  | later grown => exact grown.grounded

/-- Only an authorization or its failure can be the first. -/
theorem Accepts.opens {event : CanonicalEvent T} (accepted : Accepts held event after) (fresh : held.rank = 0) :
    event.kind = .authorize ∨ event.kind = .authorizeFail := by
  cases kind : event.kind with
  | authorize => exact .inl rfl
  | authorizeFail => exact .inr rfl
  | _ =>
    have needed := accepted.prerequisite (by rw [kind]; rfl)
    omega

theorem Meets.accept (meets : Meets paymentId done arrival held) (accepted : Accepts held arrival.2 after) :
    Grown paymentId after (arrival :: done) := by
  obtain ⟨samePayment, sameCurrency⟩ := accepted.kept
  have standing := meets.standing.accept accepted
  have grounded := meets.grounded.accept meets.standing fun _ => accepted.prerequisite
  cases meets with
  | first none amount carried fresh =>
    subst none fresh
    refine ⟨samePayment, standing, grounded,
      ⟨arrival, List.mem_cons_self, accepted.opens rfl, amount, carried, sameCurrency.symm⟩, ?_⟩
    simp only [List.mem_singleton, forall_eq]
    exact fun needed => (accepted.carries needed).kept sameCurrency
  | later grown =>
    obtain ⟨opener, member, kind, amount, carried, currency⟩ := grown.opener
    refine ⟨samePayment.trans grown.own, standing, grounded,
      ⟨opener, List.mem_cons_of_mem _ member, kind, amount, carried, currency.trans sameCurrency.symm⟩, ?_⟩
    rw [List.forall_mem_cons]
    exact ⟨fun needed => (accepted.carries needed).kept sameCurrency,
      fun other listed needed => (grown.carries other listed needed).kept sameCurrency⟩

theorem meets_of_opened {state : Option PaymentState}
    (before : (state = none ∧ done = []) ∨ ∃ held, state = some held ∧ Grown paymentId held done)
    (own : arrival.2.paymentId = paymentId) (seen : opened state arrival.2 = some held) :
    Meets paymentId done arrival held := by
  rcases before with ⟨rfl, rfl⟩ | ⟨held, rfl, grown⟩
  · obtain ⟨amount, carried, fresh⟩ := Option.map_eq_some_iff.mp seen
    exact .first rfl amount carried (by rw [← fresh, own])
  · cases seen
    exact .later grown

/-- A row of applied arrivals of one payment grows it. -/
theorem applied_grown {state : Option PaymentState} (own : ∀ arrival ∈ done, arrival.2.paymentId = paymentId)
    (applied : Applied advance none done state) :
    (state = none ∧ done = []) ∨ ∃ held, state = some held ∧ Grown paymentId held done := by
  induction applied with
  | nil => exact .inl ⟨rfl, rfl⟩
  | @cons done state arrival after before applies ih =>
    rw [List.forall_mem_cons] at own
    obtain ⟨aggregate, updated, seen, accepted, rfl⟩ := advance_applied.mp applies
    exact .inr ⟨updated, rfl, (meets_of_opened (ih own.2) own.1 seen).accept accepted⟩

end Grown

section Legal

variable (paymentId : Str)

/-- Arrivals of one payment that are all applied in the order of their sequence. -/
structure Legal (all : List (Arrival T)) : Prop where
  own : ∀ arrival ∈ all, arrival.2.paymentId = paymentId
  ordered : all.Pairwise fun first second => first.2.sequence < second.2.sequence
  inOrder : ∃ last, Applied advance none all.reverse last

variable {paymentId} {all done : List (Arrival T)} {held : PaymentState} {arrival other : Arrival T}

section
variable (legal : Legal paymentId all)
include legal

theorem Legal.nodup : all.Nodup :=
  legal.ordered.imp fun before same => by rw [same] at before; omega

theorem Legal.same (member : arrival ∈ all) (listed : other ∈ all) (same : arrival.2.sequence = other.2.sequence) :
    arrival = other := by
  have distinct : (all.map fun arrival => arrival.2.sequence).Nodup :=
    List.pairwise_map.mpr (legal.ordered.imp fun before => before.ne)
  exact List.inj_on_of_nodup_map distinct member listed same

/-- Each arrival is accepted by the aggregate that all those before it leave. -/
theorem Legal.inTurn (member : arrival ∈ all) : ∃ earlier held after, Meets paymentId earlier arrival held ∧
    Accepts held arrival.2 after ∧ Applied advance none (arrival :: earlier) (some after) ∧
    ∀ other, other ∈ earlier ↔ other ∈ all ∧ other.2.sequence < arrival.2.sequence := by
  obtain ⟨before, behind, split⟩ := List.append_of_mem member
  obtain ⟨last, applied⟩ := legal.inOrder
  have turned : all.reverse = behind.reverse ++ (arrival :: before.reverse) := by simp [split]
  rw [turned] at applied
  obtain ⟨reached, applied, _⟩ := applied.of_append
  cases id applied with
  | cons earlier applies =>
    obtain ⟨held, after, seen, accepted, rfl⟩ := advance_applied.mp applies
    have own : ∀ other ∈ before.reverse, other.2.paymentId = paymentId := by
      intro other listed
      exact legal.own other (by simp [split, List.mem_reverse.mp listed])
    refine ⟨before.reverse, held, after, meets_of_opened (applied_grown own earlier) (legal.own arrival member) seen,
      accepted, applied, fun other => ?_⟩
    have ordered := legal.ordered
    rw [split, List.pairwise_append, List.pairwise_cons] at ordered
    obtain ⟨_, ⟨later, _⟩, across⟩ := ordered
    rw [List.mem_reverse, split, List.mem_append, List.mem_cons]
    constructor
    · exact fun listed => ⟨.inl listed, across other listed arrival List.mem_cons_self⟩
    · rintro ⟨listed | rfl | listed, older⟩
      · exact listed
      · omega
      · have younger := later other listed
        omega

/-- Every amount an arrival needs is there, in one currency and not negative. -/
theorem Legal.carries : ∃ currency, ∀ held : PaymentState, held.currency = currency → ∀ arrival ∈ all,
    arrival.2.kind.needsAmount = true → Carries held arrival.2 (minorOf arrival.2) := by
  obtain ⟨last, applied⟩ := legal.inOrder
  have own : ∀ arrival ∈ all.reverse, arrival.2.paymentId = paymentId := fun arrival listed =>
    legal.own arrival (List.mem_reverse.mp listed)
  rcases applied_grown own applied with ⟨_, none⟩ | ⟨held, _, grown⟩
  · refine ⟨[], fun _ _ arrival listed => ?_⟩
    rw [← List.mem_reverse, none] at listed
    cases listed
  · exact ⟨held.currency, fun other same arrival listed needed =>
      (grown.carries arrival (List.mem_reverse.mpr listed) needed).kept same⟩

theorem Legal.grounded : Grounded (all.map Prod.snd) := by
  obtain ⟨last, applied⟩ := legal.inOrder
  have own : ∀ arrival ∈ all.reverse, arrival.2.paymentId = paymentId := fun arrival listed =>
    legal.own arrival (List.mem_reverse.mp listed)
  have same : all.reverse.map Prod.snd = (all.map Prod.snd).reverse := List.map_reverse
  have grounded : Grounded (all.map Prod.snd).reverse := by
    rw [← same]
    rcases applied_grown own applied with ⟨_, none⟩ | ⟨held, _, grown⟩
    · rw [none]
      exact .nil
    · exact grown.grounded
  obtain ⟨authorized, captured, refunded⟩ := grounded
  simp only [List.mem_reverse] at authorized captured refunded
  exact ⟨authorized, captured, refunded⟩

theorem Legal.nonneg (member : arrival ∈ all) (needed : arrival.2.kind.needsAmount = true) : 0 ≤ minorOf arrival.2 := by
  obtain ⟨currency, carries⟩ := legal.carries
  exact (carries { paymentId, currency } rfl arrival member needed).nonneg

/-- What has to wait has something of that rank before it, and an opening. -/
theorem Legal.prerequisite (member : arrival ∈ all) {prerequisite : Int}
    (needed : prerequisite ∈ arrival.2.kind.prerequisiteRank) :
    (∃ earlier ∈ all, prerequisite ≤ earlier.2.kind.rank ∧ earlier.2.sequence < arrival.2.sequence) ∧
    ∃ opener ∈ all, (opener.2.kind = .authorize ∨ opener.2.kind = .authorizeFail) ∧
      opener.2.sequence < arrival.2.sequence := by
  obtain ⟨earlier, held, after, meets, accepted, _, before⟩ := legal.inTurn member
  have met := accepted.prerequisite needed
  obtain ⟨event, listed, raised⟩ := meets.standing.prerequisite needed met
  obtain ⟨other, inside, rfl⟩ := List.mem_map.mp listed
  obtain ⟨inAll, older⟩ := (before other).mp inside
  refine ⟨⟨other, inAll, raised, older⟩, ?_⟩
  cases meets with
  | first none =>
    rw [none] at inside
    cases inside
  | later grown =>
    obtain ⟨opener, opens, kind, _⟩ := grown.opener
    obtain ⟨inAll, older⟩ := (before opener).mp opens
    exact ⟨opener, inAll, kind, older⟩

/-- The first of the waiting in the order of their sequence does not have to wait. -/
theorem Legal.progress {state : Option PaymentState} {waiting : List (Arrival T)} (applied : Applied advance none done state)
    (order : (done ++ waiting).Perm all) (unfinished : waiting ≠ []) :
    ∃ arrival ∈ waiting, advance state arrival ≠ .parked := by
  have own : ∀ arrival ∈ done, arrival.2.paymentId = paymentId := fun arrival listed =>
    legal.own arrival (order.subset (List.mem_append_left _ listed))
  -- The least sequence among the waiting.
  obtain ⟨arrival, member, least⟩ : ∃ arrival ∈ waiting, ∀ other ∈ waiting, arrival.2.sequence ≤ other.2.sequence := by
    obtain ⟨arrival, least⟩ := Option.ne_none_iff_exists'.mp fun none =>
      unfinished (List.argmin_eq_none (f := fun arrival : Arrival T => arrival.2.sequence) |>.mp none)
    refine ⟨arrival, List.argmin_mem least, fun other listed => ?_⟩
    exact List.le_of_mem_argmin (f := fun arrival : Arrival T => arrival.2.sequence) listed least
  have inAll : arrival ∈ all := order.subset (List.mem_append_right _ member)
  obtain ⟨earlier, held, after, meets, accepted, _, before⟩ := legal.inTurn inAll
  have gone : ∀ other ∈ earlier, other ∈ done := by
    intro other listed
    obtain ⟨inside, older⟩ := (before other).mp listed
    refine (List.mem_append.mp (order.mem_iff.mpr inside)).resolve_right fun waits => ?_
    have := least other waits
    omega
  refine ⟨arrival, member, ?_⟩
  rcases applied_grown own applied with ⟨rfl, rfl⟩ | ⟨current, rfl, grown⟩
  · cases meets with
    | first unopened amount carried fresh =>
      have seen : opened none arrival.2 = some { paymentId := arrival.2.paymentId, currency := amount.currency } := by
        simp [opened, carried]
      apply advance_timely seen
      intro prerequisite needed
      have met := accepted.prerequisite needed
      rw [fresh] at met
      exact met
    | later grown =>
      obtain ⟨opener, opens, _⟩ := grown.opener
      cases gone opener opens
  · have seen : opened (some current) arrival.2 = some current := rfl
    apply advance_timely seen
    intro prerequisite needed
    obtain ⟨event, listed, raised⟩ := meets.standing.prerequisite needed (accepted.prerequisite needed)
    obtain ⟨other, inside, rfl⟩ := List.mem_map.mp listed
    exact raised.trans (grown.standing.rank_ge (List.mem_map_of_mem (gone other inside)))

end
end Legal
end Quidz.Proofs
