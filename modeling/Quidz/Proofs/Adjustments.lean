import Mathlib.Data.List.MinMax
import Quidz.Proofs.Prospects

/-! The hold against the newest adjustment of it. Which adjustment is stale is read off
the newest event of any kind, so that one that is replaced by a declined authorization
or a capture is passed over with no newer adjustment there. -/

namespace Quidz.Proofs

open Library (Path)

variable {T : Type} {start state before after : PaymentState} {event : CanonicalEvent T} {events : List (CanonicalEvent T)}

/-- The event is newer than the adjustments of the list. -/
def Newer (event : CanonicalEvent T) (events : List (CanonicalEvent T)) : Prop :=
  ∀ other ∈ events, other.kind = .adjustAuth → other.sequence < event.sequence

/-- Two adjustments of the list have two sequences. -/
def Distinct (events : List (CanonicalEvent T)) : Prop :=
  events.Pairwise fun first second => first.kind = .adjustAuth → second.kind = .adjustAuth → first.sequence ≠ second.sequence

/-- The hold is what the newest adjustment says, or the authorization if there is none, and
no adjustment was passed over that was newer than those before it. -/
structure Adjusted (start : PaymentState) (events : List (CanonicalEvent T)) (opening : CanonicalEvent T)
    (final : PaymentState) : Prop where
  unadjusted : (∀ event ∈ events, event.kind ≠ .adjustAuth) → ∃ amount ∈ opening.amount, final.authorizedMinor = amount.minor
  newest : ∀ event ∈ events, event.kind = .adjustAuth →
    (∀ other ∈ events, other.kind = .adjustAuth → other.sequence ≤ event.sequence) →
    ∃ amount ∈ event.amount, final.authorizedMinor = amount.minor
  heard : ∀ earlier event later state, events = earlier ++ event :: later → event.kind = .adjustAuth → Newer event earlier →
    Path applies start earlier state → ¬event.sequence < state.lastSequence

/-- No adjustment comes after an event of another kind that is newer than it, and the
newest one comes after the authorization. -/
structure Undisturbed (earlier : List (CanonicalEvent T)) (opening : CanonicalEvent T) (later : List (CanonicalEvent T)) : Prop where
  timely : ∀ first event rest, earlier ++ opening :: later = first ++ event :: rest → event.kind = .adjustAuth →
    Newer event first → -1 ≤ event.sequence ∧ ∀ other ∈ first, other.kind ≠ .adjustAuth → other.sequence ≤ event.sequence
  opened : ∀ event ∈ earlier, event.kind = .adjustAuth → ∃ newer ∈ later, newer.kind = .adjustAuth ∧ event.sequence < newer.sequence

section Steps

theorem Accepts.sequence (accepted : Accepts before event after) :
    after.lastSequence = max before.lastSequence event.sequence := by
  cases accepted with
  | stale kind carries held older => exact (Int.max_eq_left (Int.le_of_lt older)).symm
  | _ => rfl

/-- The sequence that is kept is the newest of the run. -/
theorem lastSequence_le_iff (path : Path applies before events after) (bound : Int) :
    after.lastSequence ≤ bound ↔ before.lastSequence ≤ bound ∧ ∀ event ∈ events, event.sequence ≤ bound := by
  induction path with
  | nil => simp
  | cons taken _ ih =>
    rw [ih, (applyEffect_ok.mp taken).sequence, List.forall_mem_cons, Int.max_le, and_assoc]

theorem Accepts.authorizes (accepted : Accepts before event after) (kind : event.kind = .authorize) :
    before.authorizedMinor ≤ 0 ∧ ∃ amount ∈ event.amount, 0 ≤ amount.minor ∧ after.authorizedMinor = amount.minor := by
  cases accepted with
  | authorize _ carries unheld =>
    obtain ⟨amount, found, _, nonneg, rfl⟩ := carries
    exact ⟨unheld, amount, found, nonneg, rfl⟩
  | correction regressive => simp [kind] at regressive
  | _ other => simp [kind] at other

theorem Accepts.adjusted (accepted : Accepts before event after) (kind : event.kind = .adjustAuth) :
    if event.sequence < before.lastSequence then after = before
    else ∃ amount ∈ event.amount, 0 ≤ amount.minor ∧ after.authorizedMinor = amount.minor := by
  cases accepted with
  | stale _ carries held older => rw [if_pos older]
  | adjustAuth _ carries held newer =>
    obtain ⟨amount, found, _, nonneg, rfl⟩ := carries
    rw [if_neg (Int.not_lt.mpr newer)]
    exact ⟨amount, found, nonneg, rfl⟩
  | correction regressive => simp [kind] at regressive
  | _ other => simp [kind] at other

theorem Accepts.keeps_hold (accepted : Accepts before event after) (authorize : event.kind ≠ .authorize)
    (adjust : event.kind ≠ .adjustAuth) : after.authorizedMinor = before.authorizedMinor := by
  cases accepted with
  | authorize kind => exact absurd kind authorize
  | adjustAuth kind => exact absurd kind adjust
  | correction regressive => simp [fold_correction regressive]
  | _ => rfl

end Steps

/-- Adjustments older than what was accepted, and authorizations of nothing. -/
def Idle (bound : Int) (event : CanonicalEvent T) : Prop :=
  (event.kind = .adjustAuth → event.sequence < bound) ∧ (event.kind = .authorize → ∀ amount ∈ event.amount, amount.minor ≤ 0)

theorem Accepts.idles {bound : Int} (accepted : Accepts before event after) (conserved : Conserved before)
    (reached : bound ≤ before.lastSequence) (idle : Idle bound event) : after.authorizedMinor = before.authorizedMinor := by
  by_cases authorize : event.kind = .authorize
  · obtain ⟨unheld, amount, found, nonneg, hold⟩ := accepted.authorizes authorize
    have nothing := idle.2 authorize amount found
    have held := conserved.refunded_nonneg.trans (conserved.refunded_le.trans conserved.captured_le)
    omega
  · by_cases adjust : event.kind = .adjustAuth
    · have adjusted := accepted.adjusted adjust
      have older := idle.1 adjust
      rw [if_pos (by omega)] at adjusted
      rw [adjusted]
    · exact accepted.keeps_hold authorize adjust

/-- Idle events leave the hold. -/
theorem hold_kept {bound : Int} (path : Path applies before events after) (conserved : Conserved before)
    (reached : bound ≤ before.lastSequence) (idle : ∀ event ∈ events, Idle bound event) :
    after.authorizedMinor = before.authorizedMinor := by
  induction path with
  | nil => rfl
  | cons taken _ ih =>
    rw [List.forall_mem_cons] at idle
    have accepted := applyEffect_ok.mp taken
    have raised := accepted.sequence
    rw [ih (conserved.step accepted) (by omega) idle.2]
    exact accepted.idles conserved reached idle.1

theorem path_conserved (path : Path applies before events after) (conserved : Conserved before) : Conserved after :=
  path.keeps conserved fun valid taken => valid.step (applyEffect_ok.mp taken)

/-- Of some adjustments one is the newest. -/
theorem newest_exists (member : event ∈ events) (kind : event.kind = .adjustAuth) : ∃ newest ∈ events, newest.kind = .adjustAuth ∧
    ∀ other ∈ events, other.kind = .adjustAuth → other.sequence ≤ newest.sequence := by
  cases top : (events.filter fun event => event.kind = .adjustAuth).argmax CanonicalEvent.sequence with
  | none =>
    rw [List.argmax_eq_none, List.filter_eq_nil_iff] at top
    exact absurd kind (by simpa using top event member)
  | some newest =>
    obtain ⟨inside, own⟩ := List.mem_filter.mp (List.argmax_mem top)
    refine ⟨newest, inside, of_decide_eq_true own, fun other member kind => ?_⟩
    exact List.le_of_mem_argmax (List.mem_filter.mpr ⟨member, decide_eq_true kind⟩) top

section Runs
variable {earlier later : List (CanonicalEvent T)} {opening : CanonicalEvent T} {final : PaymentState}
  (conserved : Conserved start) (path : Path applies start (earlier ++ opening :: later) final)
  (authorizes : opening.kind = .authorize) (positive : ∀ amount ∈ opening.amount, 0 < amount.minor)
  (single : ∀ other ∈ earlier ++ later, other.kind = .authorize → ∀ amount ∈ other.amount, amount.minor ≤ 0)
  (distinct : Distinct (earlier ++ opening :: later))

/-- What comes after the newest adjustment of a run is idle. -/
theorem idle_after {rest : List (CanonicalEvent T)} {newest : CanonicalEvent T}
    (apart : ∀ other ∈ rest, other.kind = .adjustAuth → newest.sequence ≠ other.sequence)
    (all : ∀ other ∈ rest, other.kind = .adjustAuth → other.sequence ≤ newest.sequence)
    (nothing : ∀ other ∈ rest, other.kind = .authorize → ∀ amount ∈ other.amount, amount.minor ≤ 0) :
    ∀ other ∈ rest, Idle newest.sequence other := by
  intro other member
  refine ⟨fun adjust => ?_, nothing other member⟩
  have apart := apart other member adjust
  have least := all other member adjust
  omega

theorem newer_before {first rest : List (CanonicalEvent T)} {newest : CanonicalEvent T}
    (distinct : Distinct (first ++ newest :: rest)) (kind : newest.kind = .adjustAuth)
    (all : ∀ other ∈ first, other.kind = .adjustAuth → other.sequence ≤ newest.sequence) : Newer newest first := by
  intro other member adjust
  have apart := (List.pairwise_append.mp distinct).2.2 other member newest List.mem_cons_self adjust kind
  have least := all other member adjust
  omega

theorem apart_behind {first rest : List (CanonicalEvent T)} {newest : CanonicalEvent T}
    (distinct : Distinct (first ++ newest :: rest)) (kind : newest.kind = .adjustAuth) :
    ∀ other ∈ rest, other.kind = .adjustAuth → newest.sequence ≠ other.sequence := fun other member adjust =>
  (List.pairwise_cons.mp (List.pairwise_append.mp distinct).2.1).1 other member kind adjust

/-- An adjustment that is heard sets the hold, which idle events leave. -/
theorem hold_adjusted {rest : List (CanonicalEvent T)} {newest : CanonicalEvent T} {behind : PaymentState} (conserved : Conserved before)
    (taken : applies before newest behind) (path : Path applies behind rest after) (kind : newest.kind = .adjustAuth)
    (heard : ¬newest.sequence < before.lastSequence) (idle : ∀ other ∈ rest, Idle newest.sequence other) :
    ∃ amount ∈ newest.amount, 0 ≤ amount.minor ∧ after.authorizedMinor = amount.minor := by
  have accepted := applyEffect_ok.mp taken
  have adjusted := accepted.adjusted kind
  rw [if_neg heard] at adjusted
  obtain ⟨amount, found, nonneg, hold⟩ := adjusted
  have reached : newest.sequence ≤ behind.lastSequence := accepted.sequence ▸ Int.le_max_right _ _
  exact ⟨amount, found, nonneg, (hold_kept path (conserved.step accepted) reached idle).trans hold⟩

include conserved authorizes positive in
/-- An adjustment in front of the authorization left it room, and is no longer the hold. -/
theorem replaced {first rest : List (CanonicalEvent T)} {newest : CanonicalEvent T}
    (path : Path applies start ((first ++ newest :: rest) ++ opening :: later) final) (kind : newest.kind = .adjustAuth)
    (heard : ∀ state, Path applies start first state → ¬newest.sequence < state.lastSequence)
    (before : ∀ other ∈ rest, Idle newest.sequence other) (behind : ∀ other ∈ later, Idle newest.sequence other) :
    ∀ amount ∈ newest.amount, final.authorizedMinor ≠ amount.minor := by
  intro amount given same
  obtain ⟨room, opened, early, authorized, late⟩ := path.around
  obtain ⟨state, held, path, taken, further⟩ := early.around
  obtain ⟨_, found, nonneg, hold⟩ := hold_adjusted (path_conserved path conserved) taken further kind (heard state path) before
  obtain rfl := Option.some.inj (found.symm.trans given)
  have accepted := applyEffect_ok.mp authorized
  obtain ⟨unheld, money, opens, _, reopened⟩ := accepted.authorizes authorizes
  have more := positive money opens
  have reached := ((lastSequence_le_iff early room.lastSequence).mp (Int.le_refl _)).2 newest (by simp)
  have raised := accepted.sequence
  have kept := hold_kept late ((path_conserved early conserved).step accepted) (by omega : newest.sequence ≤ _) behind
  omega

include conserved path authorizes positive single distinct

theorem Adjusted.undisturbed (fresh : start.lastSequence = -1) (adjusted : Adjusted start (earlier ++ opening :: later) opening final) :
    Undisturbed earlier opening later where
  timely := by
    intro first event rest split kind newer
    rw [split] at path
    obtain ⟨state, _, path, taken, _⟩ := path.around
    have heard := adjusted.heard first event rest state split kind newer path
    have bound := (lastSequence_le_iff path event.sequence).mp (Int.not_lt.mp heard)
    exact ⟨fresh ▸ bound.1, fun other member _ => bound.2 other member⟩
  opened := by
    intro event member kind
    by_contra none
    -- The newest adjustment is then in front of the authorization, which it gave room for.
    obtain ⟨newest, inside, adjust, all⟩ := newest_exists member kind
    have least := all event member kind
    have every : ∀ other ∈ later, other.kind = .adjustAuth → other.sequence ≤ newest.sequence := by
      intro other listed kind'
      by_contra above
      exact none ⟨other, listed, kind', by omega⟩
    obtain ⟨first, rest, rfl⟩ := List.append_of_mem inside
    have split : first ++ newest :: rest ++ opening :: later = first ++ newest :: (rest ++ opening :: later) := by simp
    have spread : Distinct (first ++ newest :: (rest ++ opening :: later)) := split ▸ distinct
    have apart := apart_behind spread adjust
    have newer := newer_before spread adjust fun other member => all other (List.mem_append_left _ member)
    have topmost : ∀ other ∈ first ++ newest :: rest ++ opening :: later, other.kind = .adjustAuth →
        other.sequence ≤ newest.sequence := by
      intro other member kind'
      rcases List.mem_append.mp member with early | late
      · exact all other early kind'
      · rcases List.mem_cons.mp late with rfl | behind
        · rw [authorizes] at kind'
          cases kind'
        · exact every other behind kind'
    obtain ⟨amount, given, hold⟩ := adjusted.newest newest (by simp) adjust topmost
    refine replaced conserved authorizes positive path adjust ?_ ?_ ?_ amount given hold
    · exact fun state early => adjusted.heard first newest _ state split adjust newer early
    · exact idle_after (fun other member => apart other (by simp [member])) (fun other member => all other (by simp [member]))
        fun other member => single other (by simp [member])
    · exact idle_after (fun other member => apart other (by simp [member])) every fun other member => single other (by simp [member])

omit conserved path authorizes positive single distinct in
/-- A newer adjustment with nothing newer in front of it is heard. -/
theorem Undisturbed.heard (fresh : start.lastSequence = -1) (undisturbed : Undisturbed earlier opening later)
    {first rest : List (CanonicalEvent T)} (split : earlier ++ opening :: later = first ++ event :: rest)
    (kind : event.kind = .adjustAuth) (newer : Newer event first) (path : Path applies start first state) :
    ¬event.sequence < state.lastSequence := by
  obtain ⟨floor, others⟩ := undisturbed.timely first event rest split kind newer
  rw [Int.not_lt, lastSequence_le_iff path, fresh]
  refine ⟨floor, fun other member => ?_⟩
  by_cases adjust : other.kind = .adjustAuth
  · exact Int.le_of_lt (newer other member adjust)
  · exact others other member adjust

omit positive in
theorem Undisturbed.adjusted (fresh : start.lastSequence = -1) (undisturbed : Undisturbed earlier opening later) :
    Adjusted start (earlier ++ opening :: later) opening final where
  unadjusted := by
    intro none
    obtain ⟨state, held, early, taken, further⟩ := path.around
    have accepted := applyEffect_ok.mp taken
    obtain ⟨_, amount, found, _, hold⟩ := accepted.authorizes authorizes
    have kept := hold_kept further ((path_conserved early conserved).step accepted) (Int.le_refl _) fun other member =>
      ⟨fun adjust => absurd adjust (none other (by simp [member])), single other (by simp [member])⟩
    exact ⟨amount, found, kept.trans hold⟩
  newest := by
    intro event member kind all
    rcases List.mem_append.mp member with early | late
    · obtain ⟨newer, behind, adjust, above⟩ := undisturbed.opened event early kind
      have least := all newer (by simp [behind]) adjust
      omega
    · rcases List.mem_cons.mp late with rfl | behind
      · rw [authorizes] at kind
        cases kind
      · obtain ⟨first, rest, rfl⟩ := List.append_of_mem behind
        have split : earlier ++ opening :: (first ++ event :: rest) = (earlier ++ opening :: first) ++ event :: rest := by simp
        rw [split] at path distinct all
        obtain ⟨state, held, early, taken, further⟩ := path.around
        have newer := newer_before distinct kind fun other member => all other (List.mem_append_left _ member)
        obtain ⟨amount, found, _, hold⟩ := hold_adjusted (path_conserved early conserved) taken further kind
          (undisturbed.heard fresh split kind newer early)
          (idle_after (apart_behind distinct kind) (fun other member => all other (by simp [member]))
            fun other member => single other (by simp [member]))
        exact ⟨amount, found, hold⟩
  heard := fun _ _ _ _ split kind newer path => undisturbed.heard fresh split kind newer path

end Runs

/-- In every run with one authorization the newest adjustment is the hold, in whatever order
the adjustments arrive, exactly where none of them is older than an event of another kind
before it and the newest comes after the authorization. -/
theorem newest_adjustment_iff (paymentId currency : Str) (earlier later : List (CanonicalEvent T)) (opening : CanonicalEvent T)
    (final : PaymentState) (path : Path applies { paymentId, currency } (earlier ++ opening :: later) final)
    (authorizes : opening.kind = .authorize) (positive : ∀ amount ∈ opening.amount, 0 < amount.minor)
    (single : ∀ other ∈ earlier ++ later, other.kind = .authorize → ∀ amount ∈ other.amount, amount.minor ≤ 0)
    (distinct : Distinct (earlier ++ opening :: later)) :
    Adjusted { paymentId, currency } (earlier ++ opening :: later) opening final ↔ Undisturbed earlier opening later :=
  have fresh := Conserved.fresh paymentId currency
  ⟨Adjusted.undisturbed fresh path authorizes positive single distinct rfl,
    Undisturbed.adjusted fresh path authorizes single distinct rfl⟩

/-- A declined authorization that is newer than both passes over the only adjustment. -/
theorem declined_passes_over :
    let decline := (movement .authorizeFail "decline" 10 1000).2
    let authorize := (movement .authorize "auth" 1 1000).2
    let adjust := (movement .adjustAuth "adjust" 2 1500).2
    ∃ final, Path applies { paymentId := str "pi_1", currency := str "EUR" } [decline, authorize, adjust] final ∧
      final.authorizedMinor = 1000 ∧
      ¬Adjusted { paymentId := str "pi_1", currency := str "EUR" } [decline, authorize, adjust] authorize final := by
  intro decline authorize adjust
  refine ⟨_, .cons rfl (.cons rfl (.cons rfl .nil)), by decide, fun adjusted => ?_⟩
  obtain ⟨amount, found, hold⟩ := adjusted.newest adjust (by simp) rfl (by decide)
  cases found
  exact absurd hold (by decide)

/-- Two adjustments that arrive in the other order. -/
theorem newest_adjustment_iff_reordered : ∃ final,
    Path applies { paymentId := str "pi_1", currency := str "EUR" } [(movement .authorize "auth" 1 1000).2,
      (movement .adjustAuth "newer" 3 500).2, (movement .adjustAuth "older" 2 1500).2] final ∧
    Adjusted { paymentId := str "pi_1", currency := str "EUR" } [(movement .authorize "auth" 1 1000).2,
      (movement .adjustAuth "newer" 3 500).2, (movement .adjustAuth "older" 2 1500).2] (movement .authorize "auth" 1 1000).2 final := by
  have path : Path applies { paymentId := str "pi_1", currency := str "EUR" } [(movement .authorize "auth" 1 1000).2,
      (movement .adjustAuth "newer" 3 500).2, (movement .adjustAuth "older" 2 1500).2] _ := .cons rfl (.cons rfl (.cons rfl .nil))
  refine ⟨_, path, ?_⟩
  have distinct : Distinct [(movement .authorize "auth" 1 1000).2, (movement .adjustAuth "newer" 3 500).2,
      (movement .adjustAuth "older" 2 1500).2] := by
    unfold Distinct
    decide
  refine (newest_adjustment_iff (str "pi_1") (str "EUR") [] _ _ _ path rfl (by decide) (by decide) distinct).mpr ⟨?_, nofun⟩
  intro first event rest split kind newer
  rcases first with _ | ⟨one, _ | ⟨two, _ | ⟨three, more⟩⟩⟩
  · cases split
    cases kind
  · cases split
    exact by decide
  · cases split
    exact absurd (newer (movement .adjustAuth "newer" 3 500).2 (by simp) rfl) (by decide)
  · have short := congrArg List.length split
    simp at short

end Quidz.Proofs
