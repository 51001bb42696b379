import Quidz.Receive
import Quidz.Reconcile
import Quidz.Proofs.Decoding

/-! The keys of an event. The front door and the adapters read the identity from the same
fields, and every key is a text with something in it, but for the payment of a Stripe
event: an empty `payment_intent` is taken as it is. -/

namespace Quidz.Proofs

variable {T R : Type} [Seconds T] (rt : Runtime T R)

/-- `_ADAPTERS`. -/
def adapter (provider : Provider) : Mapping → Except Exc (CanonicalEvent T) :=
  match provider with
  | .stripe => fromStripe rt
  | .adyen => fromAdyen rt

/-- The front door reads the event's identity, and the keys of the inbox, the ledger and
the gate are all there: no finding about the payment lacks the gate's. -/
structure UsableKeys (provider : Provider) (payload : Mapping) (event : CanonicalEvent T) : Prop where
  agreed : identity provider payload = .ok event.identity
  identified : event.identity ≠ []
  payment : event.paymentId ≠ []
  reference : event.providerRef ≠ []
  gated : ∀ finding : Finding T, finding.paymentId = some event.paymentId →
    finding.scopeKey .payment = some event.paymentId

/-- A Stripe event whose object names its payment by the empty string. -/
def Unreferenced (provider : Provider) (payload : Mapping) : Prop :=
  provider = .stripe ∧ ∃ object, stripeObject payload = .ok object ∧ object.get (str "payment_intent") = .str []

omit [Seconds T] in
theorem gated_iff (paymentId : Str) : (∀ finding : Finding T, finding.paymentId = some paymentId →
    finding.scopeKey .payment = some paymentId) ↔ paymentId ≠ [] := by
  constructor
  · rintro gated rfl
    have dropped := gated { kind := .missingLocally, severity := .critical, paymentId := some [], detail := [] } rfl
    cases dropped
  · intro present_ finding named
    simp [Finding.scopeKey, named, present, present_]

variable {rt} {payload : Mapping} {event : CanonicalEvent T}

/-- Where `fromStripe` reads the keys of the event. -/
structure StripeKeyed (payload : Mapping) (event : CanonicalEvent T) (object : Mapping) : Prop where
  found : stripeObject payload = .ok object
  identity : payload.get (str "id") = .str event.identity
  identified : event.identity ≠ []
  reference : event.providerRef ≠ []
  payment : event.paymentId = match object.get (str "payment_intent") with
    | .str paymentIntent => paymentIntent
    | _ => event.providerRef

theorem fromStripe_keyed (decoded : fromStripe rt payload = .ok event) : ∃ object, StripeKeyed payload event object := by
  simp only [fromStripe, bind_ok, requireStr_ok, pure_eq_ok, Prod.exists] at decoded
  obtain ⟨id, ⟨identity, identified⟩, _, _, _, _, object, found, _, _, ref, ⟨_, reference⟩, _, _, _, _, timed⟩ := decoded
  split at timed
  next =>
    cases timed
    exact ⟨object, found, identity, identified, reference, rfl⟩
  next => cases timed

omit [Seconds T] in
/-- An event has no payment exactly where its object names it by the empty string. -/
theorem StripeKeyed.payment_eq_nil {object : Mapping} (keyed : StripeKeyed payload event object) :
    event.paymentId = [] ↔ object.get (str "payment_intent") = .str [] := by
  rw [keyed.payment]
  split
  next named => rw [named, Json.str.injEq]
  next unnamed =>
    refine iff_of_false keyed.reference fun empty => ?_
    exact unnamed [] empty

theorem fromStripe_usable (decoded : fromStripe rt payload = .ok event) :
    UsableKeys .stripe payload event ↔ ¬Unreferenced .stripe payload := by
  obtain ⟨object, keyed⟩ := fromStripe_keyed decoded
  have unreferenced : Unreferenced .stripe payload ↔ event.paymentId = [] := by
    simp only [Unreferenced, keyed.found, Except.ok.injEq, exists_eq_left', true_and, keyed.payment_eq_nil]
  rw [unreferenced]
  constructor
  · exact UsableKeys.payment
  · intro payment
    refine ⟨?_, keyed.identified, payment, keyed.reference, (gated_iff _).mpr payment⟩
    simp only [identity, keyed.identity, if_pos keyed.identified]

theorem fromAdyen_usable (decoded : fromAdyen rt payload = .ok event) : UsableKeys .adyen payload event := by
  simp only [fromAdyen, bind_ok, requireStr_ok, pure_eq_ok, Except.ok.injEq, Prod.exists] at decoded
  obtain ⟨psp, ⟨reference, referenced⟩, code, ⟨coded, some_⟩, _, _, _, _, _, _, _, _, _, _, payment, ⟨_, paid⟩, rfl⟩ := decoded
  refine ⟨?_, by simp [referenced], paid, referenced, (gated_iff _).mpr paid⟩
  simp only [identity, reference, coded, if_pos (And.intro referenced some_)]

/-- The two readers of an accepted payload agree on keys that are all usable, exactly if it
is no Stripe event with an empty `payment_intent`. -/
theorem usable_keys_iff {provider : Provider} (accepted : adapter rt provider payload = .ok event) :
    UsableKeys provider payload event ↔ ¬Unreferenced provider payload := by
  cases provider with
  | stripe => exact fromStripe_usable accepted
  | adyen => exact iff_of_true (fromAdyen_usable accepted) fun unreferenced => Provider.noConfusion unreferenced.1

theorem usable_keys_iff_authorization : ∃ event : CanonicalEvent Int,
    adapter authorizations .stripe (authorization 1000) = .ok event ∧ UsableKeys .stripe (authorization 1000) event := by
  obtain ⟨event, accepted⟩ : ∃ event, adapter authorizations .stripe (authorization 1000) = .ok event := ⟨_, rfl⟩
  refine ⟨event, accepted, (usable_keys_iff accepted).mpr ?_⟩
  rintro ⟨_, object, found, empty⟩
  cases found
  cases empty

/-- The captures of two charges, with nothing in the field that names the payment. -/
def unnamedCapture (identity charge : String) : Mapping := captureBody identity charge "" 100 1000

theorem unnamed_captures_merge : ∃ first second : CanonicalEvent Int,
    adapter authorizations .stripe (unnamedCapture "evt_1" "ch_1") = .ok first ∧
    adapter authorizations .stripe (unnamedCapture "evt_2" "ch_2") = .ok second ∧
    first.providerRef ≠ second.providerRef ∧ first.paymentId = [] ∧ second.paymentId = [] ∧
    ¬UsableKeys .stripe (unnamedCapture "evt_1" "ch_1") first :=
  ⟨_, _, rfl, rfl, by decide, rfl, rfl, fun usable => usable.payment rfl⟩

end Quidz.Proofs
