import Quidz.Proofs.Orderless

/-! Why no other history tolerates every order: from each condition it misses, an
order is built in which one of its events is refused, or in which another hold or
another currency stays. -/

namespace Quidz.Proofs

open Library.Retry (Applied)

variable {T : Type}

/-- Nothing is refused on the way to `all`, and every way there ends at one payment. -/
structure Tolerates (all : List (Arrival T)) : Prop where
  unrefused {done state arrival} : Applied advance none done state → (arrival :: done).Subperm all →
    advance state arrival ≠ .refused
  ends : ∃ last, ∀ done state, Applied advance none done state → done.Subperm all →
    ∃ more : List (Arrival T), Applied advance state more last

variable {paymentId : Str} {all done : List (Arrival T)} {held : PaymentState} {arrival : Arrival T}

/-- A payment that some of the arrivals made. -/
def Reaches (paymentId : Str) (all done : List (Arrival T)) (held : PaymentState) : Prop :=
  Applied advance none done (some held) ∧ Grown paymentId held done ∧ ∀ arrival ∈ done, arrival ∈ all

section Steps

variable (tolerates : Tolerates all)
include tolerates

/-- What opens a payment and comes first is accepted. -/
theorem Tolerates.opens (legal : Legal paymentId all) (member : arrival ∈ all)
    (kind : arrival.2.kind = .authorize ∨ arrival.2.kind = .authorizeFail) {amount : Money}
    (carried : arrival.2.amount = some amount) : ∃ held, Reaches paymentId all [arrival] held := by
  have seen : opened none arrival.2 = some { paymentId := arrival.2.paymentId, currency := amount.currency } := by
    simp [opened, carried]
  have timely : advance none arrival ≠ .parked := by
    apply advance_timely seen
    rcases kind with kind | kind
    all_goals
      simp [kind, EffectKind.prerequisiteRank]
  have unrefused := tolerates.unrefused .nil (List.singleton_subperm_iff.mpr member)
  cases answer : advance none arrival with
  | parked => exact absurd answer timely
  | refused => exact absurd answer unrefused
  | applied after =>
    obtain ⟨_, held, _, _, rfl⟩ := advance_applied.mp answer
    have applied : Applied advance none [arrival] (some held) := Applied.nil.cons answer
    have inside : ∀ other ∈ [arrival], other ∈ all := by simpa using member
    rcases applied_grown (fun other listed => legal.own other (inside other listed)) applied with ⟨none, _⟩ | ⟨_, same, grown⟩
    · cases none
    · cases same
      exact ⟨held, applied, grown, inside⟩

/-- What finds its prerequisite met is accepted. -/
theorem Tolerates.next (reaches : Reaches paymentId all done held) (distinct : (arrival :: done).Nodup)
    (member : arrival ∈ all) (timely : ∀ prerequisite ∈ arrival.2.kind.prerequisiteRank, prerequisite ≤ held.rank) :
    ∃ after, Accepts held arrival.2 after ∧ Reaches paymentId all (arrival :: done) after := by
  obtain ⟨applied, grown, inside⟩ := reaches
  have inside : ∀ other ∈ arrival :: done, other ∈ all := List.forall_mem_cons.mpr ⟨member, inside⟩
  have unrefused := tolerates.unrefused applied (List.subperm_of_subset distinct inside)
  have seen : opened (some held) arrival.2 = some held := rfl
  have unparked := advance_timely seen timely
  cases answer : advance (some held) arrival with
  | parked => exact absurd answer unparked
  | refused => exact absurd answer unrefused
  | applied after =>
    obtain ⟨aggregate, updated, same, accepted, rfl⟩ := advance_applied.mp answer
    cases same
    exact ⟨updated, accepted, applied.cons answer, (Meets.later grown).accept accepted, inside⟩

/-- What waits for no more than the payment has is accepted one after another. -/
theorem Tolerates.batch {bound : Int} (most : bound ≤ 60) (reaches : Reaches paymentId all done held)
    (raised : bound ≤ held.rank) (batch : List (Arrival T)) (distinct : (batch ++ done).Nodup)
    (members : ∀ arrival ∈ batch, arrival ∈ all)
    (timely : ∀ arrival ∈ batch, ∀ prerequisite ∈ arrival.2.kind.prerequisiteRank, prerequisite ≤ bound) :
    ∃ after, bound ≤ after.rank ∧ Reaches paymentId all (batch ++ done) after := by
  induction batch with
  | nil => exact ⟨held, raised, reaches⟩
  | cons arrival batch ih =>
    rw [List.forall_mem_cons] at members timely
    obtain ⟨middle, high, before⟩ := ih (List.nodup_cons.mp distinct).2 members.2 timely.2
    obtain ⟨after, accepted, reached⟩ := tolerates.next before distinct members.1 fun prerequisite needed =>
      (timely.1 prerequisite needed).trans high
    have climbs := accepted.rank_le
    exact ⟨after, by omega, reached⟩

end Steps

section Values

/-- Only an authorization or an adjustment moves the hold. -/
theorem Accepts.hold {after : PaymentState} {event : CanonicalEvent T} (accepted : Accepts held event after)
    (high : 10 < held.rank ∨ 10 < event.kind.rank) : after.authorizedMinor = held.authorizedMinor := by
  cases accepted with
  | authorize kind _ _ low | adjustAuth kind _ _ _ _ low =>
    rw [kind] at high
    simp only [EffectKind.rank] at high
    omega
  | correction regressive => simp [fold_correction regressive]
  | _ => rfl

theorem Reaches.rank_ge (reaches : Reaches paymentId all done held) (member : arrival ∈ done) :
    arrival.2.kind.rank ≤ held.rank := reaches.2.1.standing.rank_ge (List.mem_map_of_mem member)

theorem Reaches.hold_opening (reaches : Reaches paymentId all done held) {opening : Arrival T} (member : opening ∈ done)
    (kind : opening.2.kind = .authorize) (only : ∀ other ∈ done, SetsHold other.2 → other = opening) :
    held.authorizedMinor = minorOf opening.2 := by
  apply reaches.2.1.standing.held ⟨opening.2, List.mem_map_of_mem member, kind⟩
  rw [List.forall_mem_map]
  intro other listed sets
  rw [only other listed sets]

/-- What every later event keeps of a payment is the same whatever came first. -/
theorem Tolerates.agree {α : Type} (tolerates : Tolerates all) (value : PaymentState → α)
    (kept : PaymentState → Prop) (steps : ∀ {held after : PaymentState} {event : CanonicalEvent T}, kept held →
      Accepts held event after → kept after ∧ value after = value held) {first second : List (Arrival T)}
    {one other : PaymentState} (reaches : Reaches paymentId all first one) (reaches' : Reaches paymentId all second other)
    (distinct : first.Nodup) (distinct' : second.Nodup) (holds : kept one) (holds' : kept other) : value one = value other := by
  obtain ⟨last, ends⟩ := tolerates.ends
  have final {done : List (Arrival T)} {held : PaymentState} (reaches : Reaches paymentId all done held)
      (distinct : done.Nodup) (holds : kept held) : ∃ current, last = some current ∧ kept current ∧ value current = value held := by
    obtain ⟨more, further⟩ := ends done (some held) reaches.1 (List.subperm_of_subset distinct reaches.2.2)
    refine further.keeps (fun state => ∃ current, state = some current ∧ kept current ∧ value current = value held)
      ⟨held, rfl, holds, rfl⟩ ?_
    rintro state arrival after ⟨current, rfl, holds, same⟩ applies
    obtain ⟨_, updated, seen, accepted, rfl⟩ := advance_applied.mp applies
    cases seen
    obtain ⟨holds, unchanged⟩ := steps holds accepted
    exact ⟨updated, rfl, holds, unchanged.trans same⟩
  obtain ⟨current, found, _, same⟩ := final reaches distinct holds
  obtain ⟨current', found', _, same'⟩ := final reaches' distinct' holds'
  rw [found, Option.some.injEq] at found'
  rw [← same, ← same', found']

theorem Tolerates.one_currency (tolerates : Tolerates all) {first second : List (Arrival T)}
    {one other : PaymentState} (reaches : Reaches paymentId all first one) (reaches' : Reaches paymentId all second other)
    (distinct : first.Nodup) (distinct' : second.Nodup) : one.currency = other.currency :=
  tolerates.agree PaymentState.currency (fun _ => True) (fun _ accepted => ⟨trivial, accepted.kept.2⟩) reaches reaches'
    distinct distinct' trivial trivial

theorem Tolerates.one_hold (tolerates : Tolerates all) {first second : List (Arrival T)}
    {one other : PaymentState} (reaches : Reaches paymentId all first one) (reaches' : Reaches paymentId all second other)
    (distinct : first.Nodup) (distinct' : second.Nodup) (high : 10 < one.rank) (high' : 10 < other.rank) :
    one.authorizedMinor = other.authorizedMinor := by
  apply tolerates.agree PaymentState.authorizedMinor (fun held => 10 < held.rank) _ reaches reaches' distinct distinct'
    high high'
  intro held after event high accepted
  have climbs := accepted.rank_le
  exact ⟨by omega, accepted.hold (.inl high)⟩

end Values

section Necessity

variable (legal : Legal paymentId all) (tolerates : Tolerates all)
include legal tolerates

omit tolerates in
theorem Legal.authorizes_amount (member : arrival ∈ all) (kind : arrival.2.kind = .authorize) :
    ∃ amount, arrival.2.amount = some amount := by
  obtain ⟨currency, carries⟩ := legal.carries
  obtain ⟨amount, carried, _⟩ := carries { paymentId, currency } rfl arrival member (by rw [kind]; rfl)
  exact ⟨amount, carried⟩

omit tolerates in
theorem Legal.authorize_of (member : arrival ∈ all) (high : 10 ≤ arrival.2.kind.rank) :
    ∃ opener ∈ all, opener.2.kind = .authorize := by
  obtain ⟨event, listed, kind⟩ := legal.grounded.authorized arrival.2 (List.mem_map_of_mem member) high
  obtain ⟨opener, inside, rfl⟩ := List.mem_map.mp listed
  exact ⟨opener, inside, kind⟩

/-- A failed authorization stands alone, in one currency. -/
theorem Tolerates.failures {failure : Arrival T} (member : failure ∈ all) (failed : failure.2.kind = .authorizeFail) :
    Orderless (all.map Prod.snd) := by
  have unauthorized : ∀ opener ∈ all, opener.2.kind ≠ .authorize := by
    intro opener listed kind
    obtain ⟨amount, carried⟩ := legal.authorizes_amount listed kind
    obtain ⟨held, reaches⟩ := tolerates.opens legal listed (.inl kind) carried
    have different : failure ≠ opener := by
      rintro rfl
      rw [failed] at kind
      cases kind
    obtain ⟨after, accepted, _⟩ := tolerates.next reaches (by simpa using different) member (by simp [failed])
    have raised := reaches.rank_ge List.mem_cons_self
    rw [kind] at raised
    have low := accepted.low (by rw [failed]; rfl) (.inr (by rw [failed]; exact nofun))
    rw [failed] at low
    exact absurd (raised.trans low) (by decide)
  have only : ∀ arrival ∈ all, arrival.2.kind = .authorizeFail := by
    intro arrival listed
    by_contra other
    have high : 10 ≤ arrival.2.kind.rank := by cases kind : arrival.2.kind <;> simp_all
    obtain ⟨opener, inside, kind⟩ := legal.authorize_of listed high
    exact unauthorized opener inside kind
  refine .failures (List.forall_mem_map.mpr only) ?_
  rw [List.forall_mem_map]
  intro first listed
  rw [List.forall_mem_map]
  intro second listed' amount carried other carried'
  obtain ⟨held, reaches⟩ := tolerates.opens legal listed (.inr (only first listed)) carried
  obtain ⟨held', reaches'⟩ := tolerates.opens legal listed' (.inr (only second listed')) carried'
  have same := tolerates.one_currency reaches reaches' (List.nodup_singleton _) (List.nodup_singleton _)
  obtain ⟨_, inside, _, found, same1, currency⟩ := reaches.2.1.opener
  obtain ⟨_, inside', _, found', same1', currency'⟩ := reaches'.2.1.opener
  rw [List.mem_singleton] at inside inside'
  subst inside inside'
  rw [Option.mem_def] at same1 same1' carried carried'
  rw [carried, Option.some.injEq] at same1
  rw [carried', Option.some.injEq] at same1'
  rw [same1, same1', currency, currency', same]

/-- An authorization is taken first, whichever it is. -/
theorem Tolerates.authorizes {opener : Arrival T} (member : opener ∈ all) (kind : opener.2.kind = .authorize) :
    ∃ held, Reaches paymentId all [opener] held ∧ 10 ≤ held.rank ∧ held.authorizedMinor = minorOf opener.2 := by
  obtain ⟨amount, carried⟩ := legal.authorizes_amount member kind
  obtain ⟨held, reaches⟩ := tolerates.opens legal member (.inl kind) carried
  have raised := reaches.rank_ge List.mem_cons_self
  rw [kind] at raised
  exact ⟨held, reaches, raised, reaches.hold_opening List.mem_cons_self kind (by simp)⟩

/-- With a second authorization, none of what may set the hold holds anything. -/
theorem Tolerates.unheld (failureless : ∀ arrival ∈ all, arrival.2.kind ≠ .authorizeFail) {first second : Arrival T}
    (member : first ∈ all) (member' : second ∈ all) (kind : first.2.kind = .authorize) (kind' : second.2.kind = .authorize)
    (different : first ≠ second) : ∀ setter ∈ all, SetsHold setter.2 → minorOf setter.2 = 0 := by
  have another (opener : Arrival T) : ∃ other ∈ all, other.2.kind = .authorize ∧ other ≠ opener := by
    by_cases same : first = opener
    · exact ⟨second, member', kind', fun again => different (same.trans again.symm)⟩
    · exact ⟨first, member, kind, same⟩
  have never (setter : Arrival T) (listed : setter ∈ all) (needs : setter.2.kind.needsAmount = true)
      (unheld : minorOf setter.2 ≤ 0) : minorOf setter.2 = 0 :=
    Int.le_antisymm unheld (legal.nonneg listed needs)
  intro setter listed sets
  rcases sets with opens | ⟨adjusts, real⟩
  · obtain ⟨other, inside, again, different⟩ := another setter
    obtain ⟨held, reaches, _, hold⟩ := tolerates.authorizes legal listed opens
    obtain ⟨after, accepted, _⟩ := tolerates.next reaches (by simpa using different) inside (by simp [again])
    exact never setter listed (by rw [opens]; rfl) (hold ▸ accepted.unheld again)
  · have needed : (10 : Int) ∈ setter.2.kind.prerequisiteRank := by rw [adjusts]; rfl
    obtain ⟨_, opener, inside, opens, older⟩ := legal.prerequisite listed needed
    have opens := opens.resolve_right (failureless opener inside)
    obtain ⟨other, inside', again, different⟩ := another opener
    obtain ⟨held, reaches, raised, _⟩ := tolerates.authorizes legal inside opens
    have apart : setter ≠ opener ∧ other ≠ setter := by
      constructor
      · rintro rfl
        omega
      · rintro rfl
        rw [adjusts] at again
        cases again
    obtain ⟨after, accepted, through⟩ := tolerates.next reaches (by simpa using apart.1) listed (by simpa [adjusts] using raised)
    have newer : held.lastSequence ≤ setter.2.sequence := by
      rw [reaches.2.1.standing.lastSequence, latest_le_iff]
      simpa using ⟨real, older.le⟩
    have hold := (accepted.adjusts adjusts newer).1
    obtain ⟨_, accepted, _⟩ := tolerates.next through (by simp [apart, different]) inside' (by simp [again])
    exact never setter listed (by rw [adjusts]; rfl) (hold ▸ accepted.unheld again)

/-- What may stand right above a hold. -/
def Follows (arrival : Arrival T) : Prop := arrival.2.kind.prerequisiteRank = some 10 ∧ 10 < arrival.2.kind.rank

omit legal tolerates in
theorem Follows.timely (follows : Follows arrival) (raised : 10 ≤ held.rank) :
    ∀ prerequisite ∈ arrival.2.kind.prerequisiteRank, prerequisite ≤ held.rank := by
  intro prerequisite needed
  rw [follows.1] at needed
  cases needed
  exact raised

omit tolerates in
theorem Legal.follower (member : arrival ∈ all) (high : 10 < arrival.2.kind.rank) :
    ∃ follower ∈ all, Follows follower ∧ (follower = arrival ∨ follower.2.kind = .capture) := by
  by_cases sixty : arrival.2.kind.rank = 60
  · obtain ⟨event, listed, kind⟩ := legal.grounded.captured arrival.2 (List.mem_map_of_mem member) sixty
    obtain ⟨capture, inside, rfl⟩ := List.mem_map.mp listed
    exact ⟨capture, inside, by simp [Follows, kind], .inr kind⟩
  · refine ⟨arrival, member, ?_, .inl rfl⟩
    unfold Follows
    cases kind : arrival.2.kind <;> simp_all

/-- After an authorization comes whatever stands above it. -/
theorem Tolerates.follows {opener follower : Arrival T} (member : opener ∈ all) (kind : opener.2.kind = .authorize)
    (listed : follower ∈ all) (follows : Follows follower) : ∃ held after, Reaches paymentId all [opener] held ∧
      held.authorizedMinor = minorOf opener.2 ∧ Accepts held follower.2 after ∧
      Reaches paymentId all [follower, opener] after ∧ follower.2.kind.rank ≤ after.rank := by
  obtain ⟨held, reaches, raised, hold⟩ := tolerates.authorizes legal member kind
  have apart : follower ≠ opener := by
    rintro rfl
    have high := follows.2
    rw [kind] at high
    exact absurd high (by decide)
  obtain ⟨after, accepted, further⟩ := tolerates.next reaches (by simpa using apart) listed (follows.timely raised)
  exact ⟨held, after, reaches, hold, accepted, further, further.rank_ge List.mem_cons_self⟩

/-- What follows a hold leaves no room for a second authorization. -/
theorem Tolerates.single {opener other follower : Arrival T} (member : opener ∈ all) (kind : opener.2.kind = .authorize)
    (member' : other ∈ all) (kind' : other.2.kind = .authorize) (listed : follower ∈ all) (follows : Follows follower) :
    other = opener := by
  by_contra different
  obtain ⟨held, after, _, _, _, reaches, raised⟩ := tolerates.follows legal member kind listed follows
  have high := follows.2
  have apart : follower ≠ opener ∧ other ≠ follower := by
    constructor
    all_goals
      rintro rfl
      simp_all
  obtain ⟨_, accepted, _⟩ := tolerates.next reaches (by simp [apart, different]) member' (by simp [kind'])
  have low := accepted.low (by rw [kind']; rfl) (.inr (by rw [kind']; exact nofun))
  rw [kind'] at low
  simp only [EffectKind.rank] at low
  omega

/-- What follows a hold leaves no room for an adjustment that changes it. -/
theorem Tolerates.unchanged (failureless : ∀ arrival ∈ all, arrival.2.kind ≠ .authorizeFail) {opener follower : Arrival T}
    (member : opener ∈ all) (kind : opener.2.kind = .authorize) (listed : follower ∈ all) (follows : Follows follower) :
    ∀ setter ∈ all, SetsHold setter.2 → minorOf setter.2 = minorOf opener.2 := by
  intro setter inside sets
  rcases sets with opens | ⟨adjusts, real⟩
  · rw [tolerates.single legal member kind inside opens listed follows]
  · have high := follows.2
    obtain ⟨held, after, reaches, hold, accepted, direct, raised⟩ := tolerates.follows legal member kind listed follows
    have needed : (10 : Int) ∈ setter.2.kind.prerequisiteRank := by rw [adjusts]; rfl
    obtain ⟨_, first, within, opens, older⟩ := legal.prerequisite inside needed
    have opens := opens.resolve_right (failureless first within)
    obtain rfl := tolerates.single legal member kind within opens listed follows
    have apart : setter ≠ first ∧ follower ≠ setter ∧ follower ≠ first := by
      refine ⟨?_, ?_, ?_⟩
      all_goals
        rintro rfl
        simp_all
    have ten := reaches.rank_ge List.mem_cons_self
    rw [kind] at ten
    obtain ⟨adjusted, changed, through⟩ := tolerates.next reaches (by simpa using apart.1) inside (by simpa [adjusts] using ten)
    have newer : held.lastSequence ≤ setter.2.sequence := by
      rw [reaches.2.1.standing.lastSequence, latest_le_iff]
      simpa using ⟨real, older.le⟩
    have again := through.rank_ge List.mem_cons_self
    rw [adjusts] at again
    obtain ⟨final, followed, detour⟩ := tolerates.next through (by simp [apart]) listed (follows.timely again)
    have raised' := detour.rank_ge List.mem_cons_self
    have same := tolerates.one_hold direct detour (by simp [apart]) (by simp [apart]) (by omega) (by omega)
    rw [accepted.hold (.inr high), followed.hold (.inr high), hold, (changed.adjusts adjusts newer).1] at same
    exact same.symm

/-- What follows a hold has a rank of its own kind. -/
theorem Tolerates.above {opener follower later : Arrival T} (member : opener ∈ all) (kind : opener.2.kind = .authorize)
    (listed : follower ∈ all) (follows : Follows follower) (listed' : later ∈ all) (follows' : Follows later)
    (apart : later ≠ follower) : ∃ after final, Reaches paymentId all [follower, opener] after ∧
      Accepts after later.2 final ∧ Reaches paymentId all [later, follower, opener] final ∧
      follower.2.kind.rank ≤ later.2.kind.rank := by
  obtain ⟨_, after, _, _, _, reaches, raised⟩ := tolerates.follows legal member kind listed follows
  have high := follows.2
  have high' := follows'.2
  have different : later ≠ opener ∧ follower ≠ opener := by
    constructor
    all_goals
      rintro rfl
      simp_all
  obtain ⟨final, accepted, further⟩ := tolerates.next reaches (by simp [apart, different]) listed' (follows'.timely (by omega))
  have low := accepted.low (by cases same : later.2.kind <;> simp_all [Follows]) (.inr (by rintro same; simp_all))
  exact ⟨after, final, reaches, accepted, further, raised.trans low⟩

omit legal tolerates in
theorem Follows.kinds (follows : Follows arrival) :
    arrival.2.kind = .captureFail ∨ arrival.2.kind.rank = 30 ∨ arrival.2.kind = .capture := by
  have ⟨needed, high⟩ := follows
  cases kind : arrival.2.kind <;> simp_all

/-- A failed capture leaves room for no more than others. -/
theorem Tolerates.onlyFailed {opener failed : Arrival T} (member : opener ∈ all) (kind : opener.2.kind = .authorize)
    (listed : failed ∈ all) (failure : failed.2.kind = .captureFail) :
    ∀ arrival ∈ all, 10 < arrival.2.kind.rank → arrival.2.kind = .captureFail := by
  intro arrival inside high
  by_contra other
  obtain ⟨follower, among, follows, same⟩ := legal.follower inside high
  have above : 20 < follower.2.kind.rank := by
    rcases follows.kinds with fails | thirty | captures
    · rcases same with rfl | captures
      · exact absurd fails other
      · rw [captures] at fails
        cases fails
    · omega
    · rw [captures]
      decide
  have apart : failed ≠ follower := by
    rintro rfl
    rw [failure] at above
    exact absurd above (by decide)
  obtain ⟨_, _, _, _, _, low⟩ := tolerates.above legal member kind among follows listed (by simp [Follows, failure]) apart
  rw [failure] at low
  exact absurd (above.trans_le low) (by decide)

/-- A release leaves room for no more than others. -/
theorem Tolerates.onlyReleased {opener released : Arrival T} (member : opener ∈ all) (kind : opener.2.kind = .authorize)
    (listed : released ∈ all) (thirty : released.2.kind.rank = 30) (unfailed : ∀ arrival ∈ all, arrival.2.kind ≠ .captureFail) :
    ∀ arrival ∈ all, 10 < arrival.2.kind.rank → arrival.2.kind.rank = 30 := by
  intro arrival inside high
  by_contra other
  obtain ⟨capture, among, follows, same⟩ := legal.follower inside high
  have captures : capture.2.kind = .capture := by
    rcases follows.kinds with fails | released | captures
    · exact absurd fails (unfailed capture among)
    · rcases same with rfl | captures
      · exact absurd released other
      · exact captures
    · exact captures
  have release : Follows released := by
    unfold Follows
    cases same : released.2.kind <;> simp_all
  have apart : capture ≠ released := by
    rintro rfl
    rw [captures] at thirty
    cases thirty
  obtain ⟨after, _, reaches, accepted, _⟩ := tolerates.above legal member kind listed release among follows apart
  obtain ⟨⟨unvoided, unexpired⟩, _⟩ := accepted.captures captures
  rw [reaches.2.1.standing.voided] at unvoided
  rw [reaches.2.1.standing.expired] at unexpired
  cases same : released.2.kind <;> simp_all

/-- Two captures take nothing, and nothing is refunded of them. -/
theorem Tolerates.onlyUntaken {opener first second : Arrival T} (member : opener ∈ all) (kind : opener.2.kind = .authorize)
    (listed : first ∈ all) (listed' : second ∈ all) (captures : first.2.kind = .capture) (captures' : second.2.kind = .capture)
    (different : second ≠ first)
    (taken : ∀ arrival ∈ all, 10 < arrival.2.kind.rank → arrival.2.kind = .capture ∨ arrival.2.kind.rank = 60) :
    ∀ arrival ∈ all, 10 < arrival.2.kind.rank → arrival.2.kind = .capture ∧ minorOf arrival.2 = 0 := by
  have follows (capture : Arrival T) (captures : capture.2.kind = .capture) : Follows capture := by simp [Follows, captures]
  intro arrival inside high
  rcases taken arrival inside high with captured | sixty
  · refine ⟨captured, Int.le_antisymm ?_ (legal.nonneg inside (by rw [captured]; rfl))⟩
    obtain ⟨other, among, again, apart⟩ : ∃ other ∈ all, other.2.kind = .capture ∧ other ≠ arrival := by
      by_cases same : first = arrival
      · exact ⟨second, listed', captures', fun again => different (again.trans same.symm)⟩
      · exact ⟨first, listed, captures, same⟩
    obtain ⟨after, _, reaches, accepted, _⟩ :=
      tolerates.above legal member kind inside (follows arrival captured) among (follows other again) apart
    have nothing := (accepted.captures again).2.1
    rw [reaches.2.1.standing.captured] at nothing
    simpa [captured, kind] using nothing
  · exfalso
    obtain ⟨event, refunded, refunds⟩ := legal.grounded.refund (List.mem_map_of_mem inside) sixty.ge
    obtain ⟨refund, among, rfl⟩ := List.mem_map.mp refunded
    obtain ⟨_, after, _, _, _, reaches, raised⟩ := tolerates.follows legal member kind listed (follows first captures)
    rw [captures] at raised
    have apart : refund ≠ first ∧ refund ≠ opener ∧ first ≠ opener ∧ second ≠ refund ∧ second ≠ opener := by
      refine ⟨?_, ?_, ?_, ?_, ?_⟩
      all_goals
        rintro rfl
        simp_all
    obtain ⟨final, _, further⟩ := tolerates.next reaches (by simp [apart]) among (by simpa [refunds] using raised)
    have climbed := further.rank_ge List.mem_cons_self
    rw [refunds] at climbed
    simp only [EffectKind.rank] at climbed
    obtain ⟨_, accepted, _⟩ := tolerates.next further (by simp [apart, different]) listed' (by simp [captures']; omega)
    have low := accepted.low (by rw [captures']; rfl) (.inr (by rw [captures']; decide))
    rw [captures'] at low
    simp only [EffectKind.rank] at low
    omega

/-- All arrivals of some kinds are taken, where each of them may. -/
theorem Tolerates.batched (listed : CanonicalEvent T → Bool) {bound : Int} (most : bound ≤ 60)
    (reaches : Reaches paymentId all done held) (raised : bound ≤ held.rank) (distinct : done.Nodup)
    (out : ∀ arrival ∈ done, listed arrival.2 = false)
    (timely : ∀ event, listed event = true → ∀ prerequisite ∈ event.kind.prerequisiteRank, prerequisite ≤ bound) :
    ∃ after, bound ≤ after.rank ∧ Reaches paymentId all (all.filter (listed ∘ Prod.snd) ++ done) after ∧
      (all.filter (listed ∘ Prod.snd) ++ done).Nodup := by
  have apart : (all.filter (listed ∘ Prod.snd) ++ done).Nodup := by
    rw [List.nodup_append]
    refine ⟨legal.nodup.filter _, distinct, fun first member other member' same => ?_⟩
    have chosen := (List.mem_filter.mp member).2
    have unchosen := out other member'
    rw [← same] at unchosen
    exact absurd (chosen.symm.trans unchosen) (by decide)
  obtain ⟨after, high, reached⟩ := tolerates.batch most reaches raised _ apart
    (fun arrival member => (List.mem_filter.mp member).1)
    (fun arrival member => timely arrival.2 (List.mem_filter.mp member).2)
  exact ⟨after, high, reached, apart⟩

omit legal tolerates in
/-- What the batch and those before it add up to. -/
theorem tally_batched (listed : CanonicalEvent T → Bool) (all done : List (Arrival T)) (kind : EffectKind)
    (kept : ∀ event, event.kind = kind → minorOf event ≠ 0 → listed event = true) :
    tally kind ((all.filter (listed ∘ Prod.snd) ++ done).map Prod.snd) =
      tally kind (all.map Prod.snd) + tally kind (done.map Prod.snd) := by
  rw [List.map_append, tally_append, ← List.filter_map, tally_filter fun event _ => kept event]

omit legal tolerates in
theorem tally_unbatched (listed : CanonicalEvent T → Bool) (all done : List (Arrival T)) (kind : EffectKind)
    (out : ∀ event, event.kind = kind → listed event = false) :
    tally kind ((all.filter (listed ∘ Prod.snd) ++ done).map Prod.snd) = tally kind (done.map Prod.snd) := by
  rw [List.map_append, tally_append, ← List.filter_map, tally_eq_zero, Int.zero_add]
  intro event member same
  have chosen := (List.mem_filter.mp member).2
  rw [out event same] at chosen
  cases chosen

/-- A refund of something. -/
def spends (event : CanonicalEvent T) : Bool := event.kind = .refund ∧ minorOf event ≠ 0

def corrects (event : CanonicalEvent T) : Bool := event.kind.regressive

variable {opener capture : Arrival T} (opens : opener.2.kind = .authorize) (captures : capture.2.kind = .capture)
  (reaches : Reaches paymentId all [capture, opener] held)
include opens captures reaches

/-- One capture covers all of its refunds together. -/
theorem Tolerates.spent (apart : capture ≠ opener) : ∃ final, 40 ≤ final.rank ∧
    Reaches paymentId all (all.filter (spends ∘ Prod.snd) ++ [capture, opener]) final ∧
    (all.filter (spends ∘ Prod.snd) ++ [capture, opener]).Nodup ∧
    final.refundedMinor = tally .refund (all.map Prod.snd) ∧ final.capturedMinor = minorOf capture.2 := by
  have raised := reaches.rank_ge List.mem_cons_self
  rw [captures, EffectKind.rank] at raised
  obtain ⟨final, high, reached, distinct⟩ := tolerates.batched legal spends (by decide) reaches raised (by simp [apart])
    (by simp [spends, captures, opens]) (by simp_all [spends])
  have refunded := reached.2.1.standing.refunded
  have captured := reached.2.1.standing.captured
  rw [tally_batched spends all _ .refund (by simp_all [spends]), tally_unbatched spends all _ .refundFail (by simp_all [spends]),
    tally_unbatched spends all _ .refundReverse (by simp_all [spends])] at refunded
  rw [tally_unbatched spends all _ .capture (by simp_all [spends])] at captured
  simp only [List.map_cons, List.map_nil, tally_cons, tally_nil, captures, opens, reduceCtorEq, ↓reduceIte] at refunded captured
  exact ⟨final, high, reached, distinct, by omega, by omega⟩

/-- Once everything was refunded, there is no room for a refund of nothing. -/
theorem Tolerates.unspent (apart : capture ≠ opener) (positive : 0 < minorOf capture.2)
    (spent : tally .refund (all.map Prod.snd) = minorOf capture.2) {refund : Arrival T} (listed : refund ∈ all)
    (refunds : refund.2.kind = .refund) : minorOf refund.2 ≠ 0 := by
  intro zero
  obtain ⟨final, high, reached, distinct, refunded, captured⟩ := tolerates.spent legal opens captures reaches apart
  have full : stateRank (deriveStatus final) = 70 := by
    unfold deriveStatus
    rw [if_pos (by omega), if_pos (by omega)]
    rfl
  have top := reached.2.1.standing.rank
  have fresh : refund ∉ all.filter (spends ∘ Prod.snd) ++ [capture, opener] := by
    simp only [List.mem_append, List.mem_filter, Function.comp_apply, spends, zero, List.mem_cons, List.not_mem_nil, or_false]
    rintro (⟨_, chosen⟩ | rfl | rfl)
    all_goals simp_all
  obtain ⟨_, accepted, _⟩ := tolerates.next reached (List.nodup_cons.mpr ⟨fresh, distinct⟩) listed
    (by simpa [refunds] using high)
  have low := accepted.low (by rw [refunds]; rfl) (.inr (by rw [refunds]; exact nofun))
  rw [refunds, EffectKind.rank] at low
  omega

/-- Any one refund covers all corrections together. -/
theorem Tolerates.corrected (apart : capture ≠ opener) {refund : Arrival T} (listed : refund ∈ all)
    (refunds : refund.2.kind = .refund) :
    tally .refundFail (all.map Prod.snd) + tally .refundReverse (all.map Prod.snd) ≤ minorOf refund.2 := by
  have raised := reaches.rank_ge List.mem_cons_self
  rw [captures, EffectKind.rank] at raised
  have different : refund ≠ capture ∧ refund ≠ opener := by
    constructor
    all_goals
      rintro rfl
      simp_all
  obtain ⟨middle, _, further⟩ := tolerates.next reaches (by simp [apart, different]) listed (by simpa [refunds] using raised)
  have climbed := further.rank_ge List.mem_cons_self
  rw [refunds, EffectKind.rank] at climbed
  have timely : ∀ event : CanonicalEvent T, corrects event = true →
      ∀ prerequisite ∈ event.kind.prerequisiteRank, prerequisite ≤ 60 := by
    intro event regressive prerequisite needed
    cases same : event.kind <;> simp_all [corrects]
  obtain ⟨final, _, reached, _⟩ := tolerates.batched legal corrects (by decide) further climbed (by simp [apart, different])
    (by simp [corrects, captures, opens, refunds]) timely
  have refunded := reached.2.1.standing.refunded
  have nonneg := reached.2.1.standing.refunded_nonneg
  rw [tally_unbatched corrects all _ .refund (by simp_all [corrects]), tally_batched corrects all _ .refundFail
    (by simp_all [corrects]), tally_batched corrects all _ .refundReverse (by simp_all [corrects])] at refunded
  simp only [List.map_cons, List.map_nil, tally_cons, tally_nil, captures, opens, refunds, reduceCtorEq, ↓reduceIte] at refunded
  omega

omit reaches captures in
/-- What follows a hold, where every order is tolerated. -/
theorem Tolerates.compatible (member : opener ∈ all) {above : Arrival T} (listed : above ∈ all)
    (high : 10 < above.2.kind.rank) : Compatible (all.map Prod.snd) := by
  by_cases fails : ∃ failed ∈ all, failed.2.kind = .captureFail
  · obtain ⟨failed, inside, failure⟩ := fails
    exact .failed (List.forall_mem_map.mpr (tolerates.onlyFailed legal member opens inside failure))
  have unfailed : ∀ arrival ∈ all, arrival.2.kind ≠ .captureFail := fun arrival inside failure => fails ⟨arrival, inside, failure⟩
  by_cases releases : ∃ released ∈ all, released.2.kind.rank = 30
  · obtain ⟨released, inside, thirty⟩ := releases
    exact .released (List.forall_mem_map.mpr (tolerates.onlyReleased legal member opens inside thirty unfailed))
  have taken : ∀ arrival ∈ all, 10 < arrival.2.kind.rank → arrival.2.kind = .capture ∨ arrival.2.kind.rank = 60 := by
    intro arrival inside high
    have unreleased : arrival.2.kind.rank ≠ 30 := fun thirty => releases ⟨arrival, inside, thirty⟩
    have unfailed := unfailed arrival inside
    cases kind : arrival.2.kind <;> simp_all
  obtain ⟨capture, inside, follows, _⟩ := legal.follower listed high
  have captures : capture.2.kind = .capture := by
    rcases follows.kinds with failure | thirty | captures
    · exact absurd failure (unfailed capture inside)
    · exact absurd ⟨capture, inside, thirty⟩ releases
    · exact captures
  by_cases again : ∃ other ∈ all, other.2.kind = .capture ∧ other ≠ capture
  · obtain ⟨other, inside', captures', different⟩ := again
    exact .untaken (List.forall_mem_map.mpr
      (tolerates.onlyUntaken legal member opens inside inside' captures captures' different taken))
  · have single : ∀ other ∈ all, other.2.kind = .capture → other = capture := by
      intro other inside' captures'
      by_contra different
      exact again ⟨other, inside', captures', different⟩
    obtain ⟨_, held, _, _, _, reaches, _⟩ := tolerates.follows legal member opens inside follows
    have apart : capture ≠ opener := by
      rintro rfl
      simp_all
    refine .taken capture.2 (List.mem_map_of_mem inside) captures (List.forall_mem_map.mpr fun arrival inside' above => ?_) ?_
      (fun positive spent => List.forall_mem_map.mpr fun refund among refunds => ?_)
      (List.forall_mem_map.mpr fun refund among refunds => ?_)
    · exact (taken arrival inside' above).imp_left fun again => congrArg Prod.snd (single arrival inside' again)
    · obtain ⟨final, _, reached, _, refunded, captured⟩ := tolerates.spent legal opens captures reaches apart
      have within := reached.2.1.standing.refunded_le
      omega
    · exact tolerates.unspent legal opens captures reaches apart positive spent among refunds
    · exact tolerates.corrected legal opens captures reaches apart among refunds

end Necessity

section Kinds
variable {kind : EffectKind}

theorem ten_le_rank (other : kind ≠ .authorizeFail) : 10 ≤ kind.rank := by
  cases kind <;> simp at other ⊢

/-- What is of the rank of a hold, but does not open it, adjusts it or comes after it. -/
theorem adjusts_or_above (other : kind ≠ .authorize) (ten : 10 ≤ kind.rank) : kind = .adjustAuth ∨ 10 < kind.rank := by
  cases kind <;> simp at other ten ⊢

end Kinds

/-- A history that tolerates every order has one of the shapes that do. -/
theorem Tolerates.orderless (legal : Legal paymentId all) (tolerates : Tolerates all) : Orderless (all.map Prod.snd) := by
  by_cases fails : ∃ failure ∈ all, failure.2.kind = .authorizeFail
  · obtain ⟨failure, member, failed⟩ := fails
    exact tolerates.failures legal member failed
  have failureless : ∀ arrival ∈ all, arrival.2.kind ≠ .authorizeFail := fun arrival member failed => fails ⟨arrival, member, failed⟩
  have ten : ∀ arrival ∈ all, 10 ≤ arrival.2.kind.rank := fun arrival member => ten_le_rank (failureless arrival member)
  cases all with
  | nil => exact .failures (by simp) (by simp)
  | cons first rest =>
    obtain ⟨opener, member, opens⟩ := legal.authorize_of List.mem_cons_self (ten first List.mem_cons_self)
    by_cases high : ∃ above ∈ first :: rest, 10 < above.2.kind.rank
    · obtain ⟨above, listed, high⟩ := high
      obtain ⟨follower, inside, follows, _⟩ := legal.follower listed high
      refine .held opener.2 (List.mem_map_of_mem member) opens (List.forall_mem_map.mpr fun arrival among => ?_)
        (List.forall_mem_map.mpr (tolerates.unchanged legal failureless member opens inside follows))
        (tolerates.compatible legal opens member listed high)
      by_cases again : arrival.2.kind = .authorize
      · exact .inl (congrArg Prod.snd (tolerates.single legal member opens among again inside follows))
      · exact .inr (adjusts_or_above again (ten arrival among))
    · have only : ∀ arrival ∈ first :: rest, arrival.2.kind.rank = 10 := by
        intro arrival among
        have low : ¬10 < arrival.2.kind.rank := fun above => high ⟨arrival, among, above⟩
        have := ten arrival among
        omega
      by_cases again : ∃ other ∈ first :: rest, other.2.kind = .authorize ∧ other ≠ opener
      · obtain ⟨other, among, opens', different⟩ := again
        exact .unheld (List.forall_mem_map.mpr only)
          (List.forall_mem_map.mpr (tolerates.unheld legal failureless member among opens opens' different.symm))
      · refine .adjusted opener.2 (List.mem_map_of_mem member) opens (List.forall_mem_map.mpr fun arrival among => ?_)
        by_cases opens' : arrival.2.kind = .authorize
        · left
          by_contra different
          exact again ⟨arrival, among, opens', fun same => different (congrArg Prod.snd same)⟩
        · have low := only arrival among
          exact .inr ((adjusts_or_above opens' (by omega)).resolve_right (by omega))

end Quidz.Proofs
