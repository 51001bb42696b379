import Quidz.Event

/-! Provider payloads to one canonical event. -/

namespace Quidz

variable {T R : Type} [Seconds T] (rt : Runtime T R)

private def quoted (value : Json) : Str := value.repr rt.isprintable

def requireStr (source : Mapping) (key : Str) : Except Exc Str :=
  match source.get key with
  | .str value =>
    if value ≠ [] then .ok value
    else raise .malformedEvent (str "field " ++ quoted rt (.str key) ++
      str " must be a non empty string, got " ++ quoted rt (.str value))
  | value => raise .malformedEvent (str "field " ++ quoted rt (.str key) ++
      str " must be a non empty string, got " ++ quoted rt value)

def requireInt (source : Mapping) (key : Str) : Except Exc Int :=
  match source.get key with
  | .int value => .ok value
  | value => raise .malformedEvent (str "field " ++ quoted rt (.str key) ++
      str " must be an integer, got " ++ quoted rt value)

def stripeKinds : List (Str × EffectKind) :=
  [(str "payment_intent.amount_capturable_updated", .authorize),
    (str "payment_intent.payment_failed", .authorizeFail),
    (str "payment_intent.canceled", .void),
    (str "charge.captured", .capture),
    (str "charge.expired", .expire)]

def stripeRefundType : Str := str "charge.refund.updated"

def adyenKinds : List (Str × EffectKind) :=
  [(str "AUTHORISATION", .authorize),
    (str "AUTHORISATION_ADJUSTMENT", .adjustAuth),
    (str "CANCELLATION", .void),
    (str "CAPTURE", .capture),
    (str "CAPTURE_FAILED", .captureFail),
    (str "REFUND", .refund),
    (str "REFUND_FAILED", .refundFail),
    (str "REFUNDED_REVERSED", .refundReverse),
    (str "EXPIRE", .expire)]

def adyenFailureKinds : List (Str × EffectKind) :=
  [(str "AUTHORISATION", .authorizeFail), (str "CAPTURE", .captureFail), (str "REFUND", .refundFail)]

def stripeObject (payload : Mapping) : Except Exc Mapping := do
  let data ← match (payload.get (str "data")).mapping with
    | some data => .ok data
    | none => raise .malformedEvent (str "Stripe event has no data object")
  match (data.get (str "object")).mapping with
  | some object => .ok object
  | none => raise .malformedEvent (str "Stripe event data carries no object")

/-- The provider's amount and currency as it wrote them, and as money. -/
abbrev Amount := Option Str × Option Str × Option Money

def stripeAmount (kind : EffectKind) (object : Mapping) : Except Exc Amount := do
  if kind = .void ∨ kind = .expire then
    return (none, none, none)
  let field :=
    if kind = .authorize then
      if object.has (str "amount_capturable") then str "amount_capturable" else str "amount"
    else if kind = .capture then
      if object.has (str "amount_captured") then str "amount_captured" else str "amount"
    else str "amount"
  let minor ← requireInt rt object field
  let currency ← requireStr rt object (str "currency")
  let money ← Money.new rt.isprintable minor (rt.upper currency)
  return (some (Str.ofInt minor), some currency, some money)

def stripeKind (eventType : Str) (object : Mapping) : Except Exc EffectKind :=
  if eventType = stripeRefundType then
    match object.get (str "status") with
    | .str status => .ok (if status = str "failed" then .refundFail else .refund)
    | _ => .ok .refund
  else
    match stripeKinds.lookup eventType with
    | some kind => .ok kind
    | none => raise .unknownEventType (str "unsupported Stripe event type " ++ quoted rt (.str eventType))

def fromStripe (payload : Mapping) : Except Exc (CanonicalEvent T) := do
  let identity ← requireStr rt payload (str "id")
  let eventType ← requireStr rt payload (str "type")
  let created ← requireInt rt payload (str "created")
  let object ← stripeObject payload
  let kind ← stripeKind rt eventType object
  let providerRef ← requireStr rt object (str "id")
  let paymentId := match object.get (str "payment_intent") with
    | .str paymentIntent => paymentIntent
    | _ => providerRef
  let (rawAmountValue, rawCurrency, amount) ← stripeAmount rt kind object
  let occurredAt ← match (Seconds.ofInt created : Option T) with
    | some occurredAt => .ok occurredAt
    | none => raise .overflowError (str "int too large to convert to float")
  return {
    provider := .stripe, identity, paymentId, kind, providerRef, amount, occurredAt, sequence := created,
    rawAmountValue, rawCurrency }

def adyenSuccess (value : Json) : Except Exc Bool :=
  match value with
  | .bool success => .ok success
  | value =>
    let text := rt.lower (Str.strip rt.isspace (value.toStr rt.isprintable))
    if text = str "true" then .ok true
    else if text = str "false" then .ok false
    else raise .malformedEvent (str "Adyen success must be true or false, got " ++ quoted rt value)

def adyenKind (eventCode : Str) (success : Bool) : Except Exc EffectKind :=
  match (if success then adyenKinds else adyenFailureKinds).lookup eventCode with
  | some kind => .ok kind
  | none => raise .unknownEventType (str "unsupported Adyen event pair (" ++ eventCode ++ str ", " ++
      (if success then str "true" else str "false") ++ str ")")

def adyenMoment (item : Mapping) : Except Exc T := do
  let text ← requireStr rt item (str "eventDate")
  match rt.timestamp text with
  | some moment => .ok moment
  | none => raise .malformedEvent (str "eventDate " ++ quoted rt (.str text) ++ str " is not ISO 8601")

def adyenAmount (item : Mapping) : Except Exc Amount :=
  match (item.get (str "amount")).mapping with
  | some amount => do
    let minor ← requireInt rt amount (str "value")
    let currency ← requireStr rt amount (str "currency")
    let money ← Money.new rt.isprintable minor currency
    return (some (Str.ofInt minor), some currency, some money)
  | none => .ok (none, none, none)

def fromAdyen (item : Mapping) : Except Exc (CanonicalEvent T) := do
  let pspReference ← requireStr rt item (str "pspReference")
  let eventCode ← requireStr rt item (str "eventCode")
  let success ← adyenSuccess rt (item.get (str "success"))
  let kind ← adyenKind eventCode success
  let occurredAt ← adyenMoment rt item
  let (rawAmountValue, rawCurrency, amount) ← adyenAmount rt item
  let paymentId ← requireStr rt item (str "merchantReference")
  return {
    provider := .adyen, identity := pspReference ++ str ":" ++ eventCode, paymentId, kind,
    providerRef := pspReference, amount, occurredAt, sequence := Seconds.toInt occurredAt,
    rawAmountValue, rawCurrency }

end Quidz
