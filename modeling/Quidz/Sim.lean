import Quidz.Cli

/-! The synthetic provider: signed deliveries of six planned payments, the payment list and
the settlement file, all drawn from one seeded generator. -/

namespace Quidz.Sim

section Plans

def scenarios : List Str := [str "happy", str "adversarial"]

def letters : Str := str "ABCDEFGHJKLMNPQRSTVWXYZ"

def alnum : Str := str "ABCDEFGHJKLMNPQRSTVWXYZabcdefghjklmnpqrstvwxyz23456789"

def merchantAccount : Str := str "QUIDZ_SYNTHETIC"

/-- Basis points of the acquirer, beside a fixed fee in minor units. -/
def feeBasisPoints : Int := 290

def feeFixedMinor : Int := 25

inductive BreakMode where
  | duplicate | replay | reorder | drop | amountMismatch | tamper | unmodelled
  deriving DecidableEq, Repr

/-- `set(BreakMode)`. -/
def breakModes : List BreakMode := [.duplicate, .replay, .reorder, .drop, .amountMismatch, .tamper, .unmodelled]

structure Plan where
  provider : Provider
  currency : Str
  capturePct : Int
  refundPct : Int
  captureFailed : Bool
  /-- `age_days * 86_400.0`. -/
  ageSeconds : Nat
  /-- The provider captured, and the webhook that says so has not arrived. -/
  captureWebhookPending : Bool := false

def plans : List Plan := [
  { provider := .stripe, currency := str "EUR", capturePct := 100, refundPct := 0, captureFailed := false, ageSeconds := 345600 },
  { provider := .stripe, currency := str "USD", capturePct := 66, refundPct := 33, captureFailed := false, ageSeconds := 345600 },
  { provider := .stripe, currency := str "JPY", capturePct := 100, refundPct := 0, captureFailed := false, ageSeconds := 345600 },
  { provider := .adyen, currency := str "EUR", capturePct := 100, refundPct := 0, captureFailed := false, ageSeconds := 345600 },
  { provider := .adyen, currency := str "EUR", capturePct := 100, refundPct := 0, captureFailed := true, ageSeconds := 1728,
    captureWebhookPending := true },
  { provider := .adyen, currency := str "GBP", capturePct := 100, refundPct := 100, captureFailed := false, ageSeconds := 345600 }]

def reorderIndex : Nat := 0
def skewIndex : Nat := 1
def tamperIndex : Nat := 2
def dropIndex : Nat := 3
def duplicateIndex : Nat := 5

end Plans

structure Booked (T : Type) where
  paymentId : Str
  provider : Provider
  currency : Str
  authorized : Int
  captured : Int
  refunded : Int
  captureFailed : Bool
  captureWebhookPending : Bool
  createdAt : T
  authRef : Str
  captureRef : Str
  refundRef : Str

structure Simulator (T : Type) where
  seed : Int := 0
  stripeSecrets : List Bytes
  adyenHmacKeyHex : Str
  startedAt : T

/-- What the simulator takes from Python. -/
structure Kit (T G : Type) where
  /-- `random.Random(seed)`. -/
  seeded : Int → G
  randrange : Int → Int → StateM G Int
  choice : Str → StateM G CodePoint
  sha256 : Bytes → Bytes
  /-- `base64.b32encode(raw).decode("ascii")`. -/
  b32encode : Bytes → Str
  /-- The text of `hexdigest`. -/
  hex : Bytes → Str
  /-- `json.dumps(value, sort_keys=True, separators=(",", ":"))`. -/
  compact : Json → Str
  /-- `datetime.fromtimestamp(moment, UTC).isoformat()`. -/
  iso : T → Except Exc Str
  /-- A literal such as `86_400.0`. -/
  literal : Nat → T

/-- `encode` of a text that is ASCII, whose code points are its bytes. -/
def ascii (text : Str) : Bytes := text.map fun c => .ofNat c.val

/-- `encode("utf-8")`. -/
def encode (text : Str) : Except Exc Bytes :=
  match text.encode with
  | .ok raw => .ok raw
  | .error _ => raise .unicodeEncodeError (str "surrogates not allowed")

@[simp] theorem encode_ok {text : Str} {raw : Bytes} : encode text = .ok raw ↔ text.encode = .ok raw := by
  unfold encode
  split <;> simp_all [raise]

variable {T R G : Type} [Seconds T] (rt : Runtime T R) (kit : Kit T G)

section Tokens

/-- Every fourth character is a letter, so that no run of digits is longer than three. -/
def token (size : Nat) : StateM G Str :=
  (List.range size).mapM fun position => kit.choice (if position % 4 = 0 then letters else alnum)

def pspReference : StateM G Str := return rt.upper (← token kit 16)

/-- An identifier made of the content, which a re-delivery has again. -/
def stableToken (material : Str) : Except Exc Str := do
  let raw := (kit.b32encode (kit.sha256 (← encode material))).take 16
  return raw.mapIdx fun index c => if index % 4 = 0 ∧ rt.isdigit [c] then codePoint 'A' else c

end Tokens

variable (simulator : Simulator T)

section Book

def book (plan : Plan) (index : Nat) : StateM G (Booked T) := do
  let authorized := (← kit.randrange 60 400) * 50
  let captured := authorized * plan.capturePct / 100
  let refunded := captured * plan.refundPct / 100
  let (paymentId, authRef, captureRef, refundRef) ← match plan.provider with
    | .stripe => do
      let paymentId := str "pi_" ++ (← token kit 16)
      let chargeRef := str "ch_" ++ (← token kit 16)
      let refundRef := str "re_" ++ (← token kit 16)
      pure (paymentId, paymentId, chargeRef, refundRef)
    | .adyen => do
      -- One merchant reference has a colon, which a signer that does not escape would trip over.
      let separator := if index = duplicateIndex then str ":" else str "-"
      let paymentId := str "order" ++ separator ++ rt.upper (← token kit 8)
      let authRef ← pspReference rt kit
      let captureRef ← pspReference rt kit
      let refundRef ← pspReference rt kit
      pure (paymentId, authRef, captureRef, refundRef)
  return {
    paymentId, provider := plan.provider, currency := plan.currency, authorized, captured, refunded
    captureFailed := plan.captureFailed, captureWebhookPending := plan.captureWebhookPending
    createdAt := simulator.startedAt - kit.literal plan.ageSeconds, authRef, captureRef, refundRef }

def buildBook : List (Booked T) :=
  ((plans.zipIdx.mapM fun entry => book rt kit simulator entry.1 entry.2).run (kit.seeded simulator.seed)).1

end Book

section Stripe

/-- The type of an event, the time it was made at and its object. -/
abbrev StripeEvent := Str × Int × Mapping

variable (event : StripeEvent)

def stripeId (salt : Str) : Except Exc Str := do
  return str "evt_" ++ (← stableToken rt kit
    (Str.join (str ":") [event.1, (event.2.2.get (str "id")).toStr rt.isprintable, Str.ofInt event.2.1, salt]))

def stripePayload (eventId : Str) : Json := .dict [
  (str "id", .str eventId),
  (str "type", .str event.1),
  (str "created", .int event.2.1),
  (str "data", .dict [(str "object", .dict event.2.2)])]

def stripe (salt : Str := []) (signedAt : Option Int := none) : Except Exc Delivery := do
  let eventId ← stripeId rt kit event salt
  let raw := ascii (kit.compact (stripePayload event eventId))
  let timestamp := signedAt.getD (Seconds.toInt simulator.startedAt)
  -- A signature for each active secret, as while a secret is rotated.
  let parts := (str "t=" ++ Str.ofInt timestamp) :: simulator.stripeSecrets.reverse.map fun secret =>
    str "v1=" ++ kit.hex (rt.hmacSha256 secret (signedPayload timestamp raw))
  return { provider := .stripe, identity := eventId, raw, headers := [(stripeSignatureHeader, Str.join (str ",") parts)] }

variable (booked : Booked T)

/-- The objects of the events. -/
def intent : Mapping := [
  (str "id", .str booked.paymentId),
  (str "object", .str (str "payment_intent")),
  (str "amount", .int booked.authorized),
  (str "amount_capturable", .int booked.authorized),
  (str "currency", .str (rt.lower booked.currency))]

def charge : Mapping := [
  (str "id", .str booked.captureRef),
  (str "object", .str (str "charge")),
  (str "payment_intent", .str booked.paymentId),
  (str "amount", .int booked.authorized),
  (str "amount_captured", .int booked.captured),
  (str "currency", .str (rt.lower booked.currency))]

def refund : Mapping := [
  (str "id", .str booked.refundRef),
  (str "object", .str (str "refund")),
  (str "payment_intent", .str booked.paymentId),
  (str "amount", .int booked.refunded),
  (str "currency", .str (rt.lower booked.currency)),
  (str "status", .str (str "succeeded"))]

/-- The webhook of the capture is sent. -/
def Booked.announced : Prop := booked.captured ≠ 0 ∧ booked.captureWebhookPending = false

instance : Decidable booked.announced := inferInstanceAs (Decidable (_ ∧ _))

def stripeEvents : List StripeEvent :=
  let created := Seconds.toInt booked.createdAt
  [(str "payment_intent.amount_capturable_updated", created, intent rt booked)] ++
    (if booked.announced then [(str "charge.captured", created + 120, charge rt booked)] else []) ++
    if booked.refunded ≠ 0 then [(str "charge.refund.updated", created + 7200, refund rt booked)] else []

end Stripe

section Adyen

/-- What an item is made of beside its payment. -/
structure AdyenNotice where
  psp : Str
  eventCode : Str
  minor : Int
  created : Int
  originalReference : Str

variable (booked : Booked T) (notice : AdyenNotice)

def adyenFields : List (Str × Str) := [
  (str "pspReference", notice.psp),
  (str "originalReference", notice.originalReference),
  (str "merchantAccountCode", merchantAccount),
  (str "merchantReference", booked.paymentId),
  (str "value", Str.ofInt notice.minor),
  (str "currency", booked.currency),
  (str "eventCode", notice.eventCode),
  (str "success", str "true")]

def adyenSignature (fields : List (Str × Str)) : Except Exc Str := do
  let key ← orRaise (rt.fromhex simulator.adyenHmacKeyHex) .valueError (str "non-hexadecimal number found in fromhex() arg")
  let message ← encode (adyenSigningString fields)
  return rt.b64encode (rt.hmacSha256 key message)

def adyenItem : Except Exc Mapping := do
  let moment ← orRaise (Seconds.ofInt notice.created : Option T) .overflowError (str "int too large to convert to float")
  let eventDate ← kit.iso moment
  let signature ← adyenSignature rt simulator (adyenFields booked notice)
  return [
    (str "pspReference", .str notice.psp),
    (str "originalReference", .str notice.originalReference),
    (str "merchantAccountCode", .str merchantAccount),
    (str "merchantReference", .str booked.paymentId),
    (str "amount", .dict [(str "value", .int notice.minor), (str "currency", .str booked.currency)]),
    (str "eventCode", .str notice.eventCode),
    (str "success", .str (str "true")),
    (str "eventDate", .str eventDate),
    (str "paymentMethod", .str (str "visa")),
    (str "additionalData", .dict [(str "hmacSignature", .str signature)])]

def adyen : Except Exc Delivery := do
  let item ← adyenItem rt kit simulator booked notice
  return {
    provider := .adyen, identity := notice.psp ++ str ":" ++ notice.eventCode, raw := ascii (kit.compact (.dict item)), headers := [] }

def adyenNotices : List AdyenNotice :=
  let created := Seconds.toInt booked.createdAt
  [⟨booked.authRef, str "AUTHORISATION", booked.authorized, created, []⟩] ++
    (if booked.captureFailed then [⟨booked.captureRef, str "CAPTURE_FAILED", booked.authorized, created + 300, booked.authRef⟩]
      else []) ++
    (if booked.announced then [⟨booked.captureRef, str "CAPTURE", booked.captured, created + 120, booked.authRef⟩] else []) ++
    if booked.refunded ≠ 0 then [⟨booked.refundRef, str "REFUND", booked.refunded, created + 7200, booked.captureRef⟩] else []

end Adyen

def paymentDeliveries (booked : Booked T) : Except Exc (List Delivery) :=
  match booked.provider with
  | .stripe => (stripeEvents rt booked).mapM fun event => stripe rt kit simulator event
  | .adyen => (adyenNotices booked).mapM (adyen rt kit simulator booked)

section Breaks

/-- The same bytes again, and another event that describes the same charge. -/
def duplicateDeliveries (booked : Booked T) : Except Exc (List Delivery) := do
  let created := Seconds.toInt booked.createdAt
  let original ← stripe rt kit simulator (str "charge.captured", created + 120, charge rt booked)
  let secondEvent ← stripe rt kit simulator (str "charge.captured", created + 121, charge rt booked) (str "dup")
  return [original, secondEvent]

/-- A delivery of an event type that the ledger does not model, correctly signed. -/
def unmodelledEvent (booked : Booked T) : Except Exc Delivery :=
  stripe rt kit simulator (str "payment_intent.requires_action", Seconds.toInt booked.createdAt + 60, [
    (str "id", .str booked.paymentId),
    (str "object", .str (str "payment_intent")),
    (str "amount", .int booked.authorized),
    (str "currency", .str (rt.lower booked.currency))])

/-- A delivery that was captured earlier and is sent again outside the window. -/
def replayedAuthorization (booked : Booked T) : Except Exc Delivery :=
  stripe rt kit simulator
    (str "payment_intent.amount_capturable_updated", Seconds.toInt booked.createdAt, intent rt booked) []
    (some (Seconds.toInt simulator.startedAt - 3600))

/-- `find`, where the needle is found. -/
def find (needle : Bytes) : Bytes → Option Nat
  | [] => if needle = [] then some 0 else none
  | c :: rest => if needle <+: c :: rest then some 0 else (find needle rest).map (· + 1)

/-- One digit of the body is another one after signing. -/
def tamper (delivery : Delivery) : Except Exc Delivery := do
  let body := delivery.raw
  -- A body without an amount is searched from its last byte on, at the index -1.
  let positions := match find (ascii (str "\"amount\":")) body with
    | some position => (List.range body.length).drop position
    | none => (body.length - 1) :: List.range body.length
  let isdigit (position : Nat) : Bool := body[position]?.any fun byte => rt.isdigit [Fin.ofNat _ byte.toNat]
  let position ← orRaise (positions.find? isdigit) .valueError (str "delivery body carries no amount digit to tamper with")
  let nine : UInt8 := 57
  return { delivery with raw := body.set position (if body[position]? ≠ some nine then nine else 56) }

/-- What `deliveries` leaves in the simulator. -/
structure Staged (T : Type) where
  scenario : Str
  breaks : List BreakMode
  book : List (Booked T)

variable (staged : Staged T)

/-- The deliveries of one payment, with the breaks that are aimed at it. -/
def brokenDeliveries (booked : Booked T) (index : Nat) : Except Exc (List Delivery) := do
  let batch ← paymentDeliveries rt kit simulator booked
  let batch := match batch with
    | first :: second :: rest => if BreakMode.reorder ∈ staged.breaks ∧ index = reorderIndex then second :: first :: rest else batch
    | _ => batch
  let batch := if BreakMode.drop ∈ staged.breaks ∧ index = dropIndex then batch.drop 1 else batch
  match batch with
  | first :: second :: rest =>
    if BreakMode.tamper ∈ staged.breaks ∧ index = tamperIndex then return first :: (← tamper rt second) :: rest else return batch
  | _ => return batch

def buildDeliveries : Except Exc (List Delivery) := do
  let batches ← staged.book.zipIdx.mapM fun entry => brokenDeliveries rt kit simulator staged entry.1 entry.2
  -- Only these breaks look for a payment of their own.
  let aimed (made : Booked T → Except Exc (List Delivery)) (mode : BreakMode) : Except Exc (List Delivery) := do
    if mode ∈ staged.breaks then made (← orRaise staged.book[reorderIndex]? .indexError (str "tuple index out of range"))
    else return []
  let duplicates ← aimed (duplicateDeliveries rt kit simulator) .duplicate
  let replays ← aimed (fun booked => return [← replayedAuthorization rt kit simulator booked]) .replay
  let unmodelled ← aimed (fun booked => return [← unmodelledEvent rt kit simulator booked]) .unmodelled
  return batches.flatten ++ duplicates ++ replays ++ unmodelled

def deliveries (scenario : Str) (breaks : List BreakMode) : Except Exc (List Delivery × Staged T) := do
  raiseIf (scenario ∉ scenarios) .valueError (str "unknown scenario " ++ Json.reprStr rt.isprintable scenario ++
    str "; expected one of ('happy', 'adversarial')")
  let staged := {
    scenario, breaks := breaks ++ if scenario = str "adversarial" then breakModes else []
    book := buildBook rt kit simulator }
  return (← buildDeliveries rt kit simulator staged, staged)

end Breaks

section Sources
variable (staged : Staged T)

/-- The provider's record of a payment. -/
def remotePayment (booked : Booked T) (index : Nat) : RemotePayment T :=
  let captured := if BreakMode.amountMismatch ∈ staged.breaks ∧ index = skewIndex then booked.captured + 1000 else booked.captured
  let state : PaymentState := {
    paymentId := booked.paymentId, currency := booked.currency, authorizedMinor := booked.authorized, capturedMinor := captured
    captureFailedMinor := if captured ≠ 0 then 0 else if booked.captureFailed then booked.authorized else 0
    refundedMinor := booked.refunded }
  { paymentId := booked.paymentId, providerRef := if captured ≠ 0 then booked.captureRef else booked.authRef
    currency := booked.currency, authorizedMinor := booked.authorized, capturedMinor := captured
    refundedMinor := booked.refunded, status := (deriveStatus state).value, createdAt := booked.createdAt }

def remotePayments : List (RemotePayment T) := staged.book.zipIdx.map fun entry => remotePayment staged entry.1 entry.2

def fee (captured : Int) : Int := captured * feeBasisPoints / 10000 + feeFixedMinor

/-- The row of a payment that has settled. One is held back on purpose. -/
def settlementRow (payoutDate : Str) (booked : Booked T) (index : Nat) : Option SettlementRow :=
  if booked.captured ≤ 0 ∨ booked.captureWebhookPending then none
  else if staged.scenario = str "adversarial" ∧ index = duplicateIndex then none
  else
    some {
      pspReference := booked.captureRef, grossMinor := booked.captured, feeMinor := fee booked.captured
      netMinor := booked.captured - fee booked.captured, currency := booked.currency, payoutDate
      journalType := str "Settled" }

/-- A journal row that joins to no payment. -/
def payoutRow (payoutDate : Str) : SettlementRow where
  pspReference := str "PAYOUT_BATCH_0001"
  grossMinor := 0
  feeMinor := 0
  netMinor := 0
  currency := str "EUR"
  payoutDate := payoutDate
  journalType := str "MerchantPayout"

def settlementReport : Except Exc (List SettlementRow) := do
  -- Some planned payment always settles, so that the date is written in every scenario.
  let payoutDate := (← kit.iso (simulator.startedAt + kit.literal 86400)).take 10
  return (staged.book.zipIdx.filterMap fun entry => settlementRow staged payoutDate entry.1 entry.2) ++
    if staged.scenario = str "adversarial" then [payoutRow payoutDate] else []

/-- What the command line asks a simulator for. -/
def simulate (scenario : Str) (breaks : List BreakMode) : Except Exc (Simulated T) := do
  let (deliveries, staged) ← deliveries rt kit simulator scenario breaks
  return {
    startedAt := simulator.startedAt, deliveries, settlementReport := ← settlementReport kit simulator staged
    remotePayments := remotePayments staged }

end Sources
end Quidz.Sim
