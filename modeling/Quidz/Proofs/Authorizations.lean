import Quidz.Library.Run
import Quidz.Proofs.Adjustments

/-! A double authorization. That there was one is read off the current hold, which an
adjustment to nothing takes back to where it was before. -/

namespace Quidz.Proofs

variable {T : Type}

/-- An authorization of money. -/
def Authorizes (event : CanonicalEvent T) : Prop := event.kind = .authorize ∧ 0 < (event.amount.map Money.minor).getD 0

instance (event : CanonicalEvent T) : Decidable (Authorizes event) := inferInstanceAs (Decidable (_ ∧ _))

/-- A payment, and how many authorizations of money it has accepted. -/
structure Account where
  state : PaymentState
  authorized : Nat := 0

/-- What is refused changes nothing and does not count. -/
def Account.offer (account : Account) (event : CanonicalEvent T) : Account where
  state := Proofs.offer account.state event
  authorized := account.authorized + if Authorizes event ∧ (applyEffect account.state event).isOk then 1 else 0

/-- A fresh payment after the events it was offered. -/
def accountOf (paymentId currency : Str) (events : List (CanonicalEvent T)) : Account :=
  events.foldl Account.offer { state := { paymentId, currency } }

variable (T) in
/-- No second authorization of money was accepted, and none is going to be. -/
structure Single (account : Account) : Prop where
  once : account.authorized ≤ 1
  refused : 0 < account.authorized → ∀ event : CanonicalEvent T, Authorizes event → (applyEffect account.state event).isOk = false

/-- The step that goes wrong, an adjustment to nothing that every check lets through. The
payment has accepted an authorization of money, and nothing that came after it raised the rank. -/
structure Empties (account : Account) (event : CanonicalEvent T) : Prop where
  authorized : 0 < account.authorized
  kind : event.kind = .adjustAuth
  nothing : Carries account.state event 0
  newer : account.state.lastSequence ≤ event.sequence
  uncaptured : account.state.capturedMinor ≤ 0
  rank : account.state.rank = 10

section Steps
variable {before after : PaymentState} {account : Account} {event : CanonicalEvent T}

theorem Authorizes.carried (authorizes : Authorizes event) : ∃ amount, event.amount = some amount ∧ 0 < amount.minor := by
  obtain ⟨_, positive⟩ := authorizes
  cases found : event.amount with
  | none => simp [found] at positive
  | some amount =>
    rw [found] at positive
    exact ⟨amount, rfl, positive⟩

theorem Authorizes.accepted (authorizes : Authorizes event) (accepted : Accepts before event after) :
    before.authorizedMinor ≤ 0 ∧ 0 < after.authorizedMinor := by
  obtain ⟨amount, found, positive⟩ := authorizes.carried
  obtain ⟨unheld, other, same, _, hold⟩ := accepted.authorizes authorizes.1
  obtain rfl := Option.some.inj (found.symm.trans same)
  exact ⟨unheld, hold ▸ positive⟩

/-- Only an adjustment to nothing gives a hold up. -/
theorem Accepts.holds (accepted : Accepts before event after) (held : 0 < before.authorizedMinor) :
    0 < after.authorizedMinor ∨ event.kind = .adjustAuth ∧ Carries before event 0 ∧ before.lastSequence ≤ event.sequence ∧
      before.capturedMinor ≤ 0 ∧ before.rank = 10 := by
  by_cases authorize : event.kind = .authorize
  · have unheld := (accepted.authorizes authorize).1
    omega
  by_cases adjust : event.kind = .adjustAuth
  · cases accepted with
    | stale => exact .inl held
    | @adjustAuth minor _ carries above newer covers low =>
      have nonneg := carries.nonneg
      by_cases some_ : 0 < minor
      · exact .inl some_
      · obtain rfl : minor = 0 := by omega
        exact .inr ⟨adjust, carries, newer, covers, Int.le_antisymm low above⟩
    | correction regressive => simp [adjust] at regressive
    | _ other => simp [adjust] at other
  · left
    rwa [accepted.keeps_hold authorize adjust]

/-- The hold of the one authorization that was accepted stands. -/
structure Upheld (account : Account) : Prop where
  once : account.authorized ≤ 1
  stands : 0 < account.authorized → 0 < account.state.authorizedMinor

theorem Upheld.single (held : Upheld account) : Single T account where
  once := held.once
  refused authorized event authorizes := by
    cases taken : applyEffect account.state event with
    | error exc => rfl
    | ok after =>
      have unheld := (authorizes.accepted (applyEffect_ok.mp taken)).1
      have stands := held.stands authorized
      omega

theorem Empties.accepted (empties : Empties account event) :
    Accepts account.state event (folded account.state .adjustAuth 0 event.sequence) :=
  .adjustAuth empties.kind empties.nothing (Int.le_of_eq empties.rank.symm) empties.newer empties.uncaptured
    (Int.le_of_eq empties.rank)

theorem Account.offer_ok (taken : applyEffect account.state event = .ok after) :
    account.offer event = ⟨after, account.authorized + if Authorizes event then 1 else 0⟩ := by
  simp only [Account.offer, Proofs.offer, taken, Except.isOk, Except.toBool, and_true]

theorem Account.offer_error {exc : Exc} (refused : applyEffect account.state event = .error exc) : account.offer event = account := by
  simp only [Account.offer, Proofs.offer, refused, Except.isOk, Except.toBool, Bool.false_eq_true, and_false, if_false, Nat.add_zero]

/-- The hold stands behind a step exactly where the step does not empty it. -/
theorem upheld_offer (held : Upheld account) : Upheld (account.offer event) ↔ ¬Empties account event := by
  cases taken : applyEffect account.state event with
  | error exc =>
    rw [Account.offer_error taken]
    refine iff_of_true held fun empties => ?_
    rw [applyEffect_ok.mpr empties.accepted] at taken
    cases taken
  | ok after =>
    rw [Account.offer_ok taken]
    have accepted := applyEffect_ok.mp taken
    by_cases authorizes : Authorizes event
    · -- The one that is accepted is the first, since the hold of another would stand.
      obtain ⟨unheld, opened⟩ := authorizes.accepted accepted
      have first : account.authorized = 0 := by
        have stands := held.stands
        omega
      rw [if_pos authorizes, first]
      refine iff_of_true ⟨Nat.le_refl _, fun _ => opened⟩ fun empties => ?_
      exact absurd empties.authorized (by omega)
    · rw [if_neg authorizes, Nat.add_zero]
      constructor
      · intro still empties
        have emptied := empties.accepted
        rw [← applyEffect_ok, taken] at emptied
        cases emptied
        exact absurd (still.stands empties.authorized) (Int.lt_irrefl 0)
      · intro filled
        refine ⟨held.once, fun authorized => ?_⟩
        rcases accepted.holds (held.stands authorized) with stands | ⟨kind, nothing, newer, uncaptured, rank⟩
        · exact stands
        · exact absurd ⟨authorized, kind, nothing, newer, uncaptured, rank⟩ filled

/-- Behind the step that goes wrong an authorization is accepted again. -/
theorem Empties.reopens (empties : Empties account event) (graded : Graded account.state) : ¬Single T (account.offer event) := by
  intro single
  rw [Account.offer_ok (applyEffect_ok.mpr empties.accepted)] at single
  obtain ⟨amount, _, currency, _⟩ := empties.nothing
  have rank := empties.rank
  have live : account.state.voided = false ∧ account.state.expired = false := by
    have given := graded.given
    grind
  have clean : account.state.captureFailedMinor ≤ 0 := by
    have failed := graded.failed
    omega
  have low : (folded account.state .adjustAuth 0 event.sequence).rank ≤ 10 := by
    have status : stateRank (deriveStatus (fold account.state .adjustAuth 0)) ≤ 10 :=
      status_clear _ empties.uncaptured live clean
    rw [folded_rank rfl, rank]
    exact max_le (Int.le_refl 10) (max_le (Int.le_refl 10) status)
  let again : CanonicalEvent T := { event with kind := .authorize, amount := some { amount with minor := 1 } }
  have carries : Carries (folded account.state .adjustAuth 0 event.sequence) again 1 :=
    ⟨{ amount with minor := 1 }, rfl, currency, Int.one_nonneg, rfl⟩
  have accepted : Accepts (folded account.state .adjustAuth 0 event.sequence) again _ :=
    .authorize rfl carries (Int.le_refl 0) low
  have refused := single.refused (Nat.add_pos_left empties.authorized _) again ⟨rfl, Int.one_pos⟩
  rw [applyEffect_ok.mpr accepted] at refused
  cases refused

end Steps

section Runs
variable {paymentId currency : Str} {events : List (CanonicalEvent T)}

theorem accountOf_state : (accountOf paymentId currency events).state = run { paymentId, currency } events := by
  have along (account : Account) : (events.foldl Account.offer account).state = run account.state events := by
    induction events generalizing account with
    | nil => rfl
    | cons event rest ih => exact ih (account.offer event)
  exact along _

theorem accountOf_graded : Graded (accountOf paymentId currency events).state := by
  rw [accountOf_state]
  exact run_graded paymentId currency events

end Runs

/-- Whatever a payment is offered, at every moment it has accepted one authorization of money at
most and would refuse a second, exactly if no step is an adjustment to nothing that is accepted
behind an authorization. -/
theorem single_authorization_iff (paymentId currency : Str) (events : List (CanonicalEvent T)) :
    (∀ earlier, earlier <+: events → Single T (accountOf paymentId currency earlier)) ↔
      ∀ earlier event, earlier ++ [event] <+: events → ¬Empties (accountOf paymentId currency earlier) event := by
  have one (earlier : List (CanonicalEvent T)) (event : CanonicalEvent T) :
      accountOf paymentId currency (earlier ++ [event]) = (accountOf paymentId currency earlier).offer event := by
    rw [accountOf, List.foldl_append]
    rfl
  have stands := @Library.Run.kept_iff _ _ Account.offer (fun _ => True) Upheld (fun account event => ¬Empties account event)
    { state := { paymentId, currency } } trivial ⟨Nat.zero_le _, fun none => absurd none (Nat.lt_irrefl 0)⟩
    (fun _ _ _ => trivial) (fun _ _ _ held => upheld_offer held) events
  constructor
  · intro single earlier event within empties
    have after := single _ within
    rw [one] at after
    exact empties.reopens accountOf_graded after
  · intro filled earlier within
    exact (stands.mpr filled earlier within).single

/-- A hold that is adjusted to nothing, and authorized again. -/
theorem emptied_reopens : (accountOf (str "pi_1") (str "EUR") [(movement .authorize "auth" 1 1000).2,
    (movement .adjustAuth "adjust" 2 0).2, (movement .authorize "again" 3 1000).2]).authorized = 2 := by
  decide +kernel

end Quidz.Proofs
