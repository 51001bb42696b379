import Quidz.Events
import Quidz.Proofs.Transitions

/-! What the adapters accept. A decoded event keeps, field by field, where in the
payload it came from. -/

namespace Quidz.Proofs

section Fields
variable {T R : Type} (rt : Runtime T R)

theorem requireStr_ok {source : Mapping} {key value : Str} :
    requireStr rt source key = .ok value ↔ source.get key = .str value ∧ value ≠ [] := by
  unfold requireStr
  split
  next found seen =>
    rw [seen]
    split
    next nonempty => simpa using fun same => same ▸ nonempty
    next empty => simpa using fun same => same ▸ (by simpa using empty)
  next other =>
    simp only [raise_ne_ok, false_iff, not_and]
    intro seen
    exact absurd seen (other value)

theorem requireInt_ok {source : Mapping} {key : Str} {value : Int} :
    requireInt rt source key = .ok value ↔ source.get key = .int value := by
  unfold requireInt
  split
  next found seen => simp [seen]
  next other => simpa using other value

/-- The nested amount of an item: absent, or an integer and a valid currency. -/
def AmountOf (item : Mapping) (amount : Option Money) : Prop :=
  match (item.get (str "amount")).mapping, amount with
  | none, none => True
  | some nested, some money =>
    nested.get (str "value") = .int money.minor ∧ nested.get (str "currency") = .str money.currency
  | _, _ => False

theorem adyenAmount_ok {item : Mapping} {value currency : Option Str} {amount : Option Money}
    (decoded : adyenAmount rt item = .ok (value, currency, amount)) : AmountOf item amount := by
  unfold adyenAmount at decoded
  unfold AmountOf
  split at decoded
  next nested found =>
    simp only [bind_ok, requireInt_ok, requireStr_ok, pure_eq_ok, Except.ok.injEq, Prod.mk.injEq] at decoded
    obtain ⟨minor, isInt, text, ⟨isStr, _⟩, money, made, _, _, rfl⟩ := decoded
    obtain ⟨sameMinor, sameCurrency⟩ := Money.new_ok made
    rw [found]
    exact ⟨sameMinor ▸ isInt, sameCurrency ▸ isStr⟩
  next absent =>
    cases decoded
    rw [absent]
    trivial

end Fields

variable {T R : Type} [Seconds T] (rt : Runtime T R)

/-- Where `fromAdyen` reads the parts of the event that move money. -/
structure AdyenDecoded (item : Mapping) (event : CanonicalEvent T) : Prop where
  pspReference : item.get (str "pspReference") = .str event.providerRef
  kind : ∃ eventCode success, item.get (str "eventCode") = .str eventCode ∧
    adyenSuccess rt (item.get (str "success")) = .ok success ∧ adyenKind eventCode success = .ok event.kind
  merchantReference : item.get (str "merchantReference") = .str event.paymentId
  amount : AmountOf item event.amount

theorem fromAdyen_ok {item : Mapping} {event : CanonicalEvent T} (decoded : fromAdyen rt item = .ok event) :
    AdyenDecoded rt item event := by
  simp only [fromAdyen, bind_ok, requireStr_ok, pure_eq_ok, Except.ok.injEq, Prod.exists] at decoded
  obtain ⟨psp, ⟨pspReference, _⟩, eventCode, ⟨code, _⟩, success, succeeded, kind, mapped, moment, dated,
    value, currency, amount, measured, paymentId, ⟨merchantReference, _⟩, rfl⟩ := decoded
  exact ⟨pspReference, ⟨eventCode, success, code, succeeded, mapped⟩, merchantReference, adyenAmount_ok rt measured⟩

/-- The body of a Stripe event about an object. -/
def stripeBody (identity eventType : String) (created : Int) (object : Mapping) : Mapping :=
  [(str "id", .str (str identity)), (str "type", .str (str eventType)), (str "created", .int created),
    (str "data", .dict [(str "object", .dict object)])]

/-- The authorization of a payment in euros. -/
def authorizationBody (identity payment : String) (created minor : Int) : Mapping :=
  stripeBody identity "payment_intent.amount_capturable_updated" created
    [(str "id", .str (str payment)), (str "amount_capturable", .int minor), (str "currency", .str (str "eur"))]

/-- The capture of a payment in euros. -/
def captureBody (identity charge payment : String) (created minor : Int) : Mapping :=
  stripeBody identity "charge.captured" created
    [(str "id", .str (str charge)), (str "payment_intent", .str (str payment)), (str "amount_captured", .int minor),
      (str "currency", .str (str "eur"))]

/-- An event of a type that the ledger does not model. -/
def unmodelled : Mapping := stripeBody "evt_1" "payment_intent.processing" 100 [(str "id", .str (str "pi_1"))]

/-- An authorization of the payment, the holds of which may differ. -/
def authorization (minor : Int) : Mapping := authorizationBody "evt_1" "pi_1" 100 minor

def authorizations : Runtime Int Unit := .recorded [authorization 1000, authorization 2500] []

end Quidz.Proofs
