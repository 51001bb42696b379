import Quidz.Receive

/-! The webhooks. A Stripe request carries one event; the items of an Adyen notification
are received one by one, each in a transaction of its own, and the first that is refused
ends the request. -/

namespace Quidz

variable {T R : Type} [Seconds T] (rt : Runtime T R)

/-- A `JSONResponse`, by its status and content. -/
structure JsonResponse where
  statusCode : Nat
  content : Mapping

def errorResponse (statusCode : Nat) (error : Str) : JsonResponse := ⟨statusCode, [(str "error", .str error)]⟩

/-- What the Stripe route answers when `receive_stripe` returned or raised. -/
def stripeAnswer : Except Exc ClaimResult → Except Exc JsonResponse
  | .error exc =>
    if exc.isinstance .signatureError then .ok (errorResponse 400 exc.message)
    else if exc.isinstance .eventError || exc.isinstance .valueError then .ok (errorResponse 400 exc.message)
    else .error exc
  | .ok result =>
    if result.reason = .inProgress then .ok (errorResponse 409 (str "delivery is still being processed"))
    else .ok ⟨200, [(str "received", .bool true)]⟩

def stripeWebhook (raw : Bytes) (headers : List (Str × Str)) (secrets : List Bytes)
    (received now leaseSeconds toleranceSeconds : T) : Statements T JsonResponse := fun db =>
  let (result, after) := receiveStripe rt raw headers secrets received now leaseSeconds toleranceSeconds db
  (stripeAnswer result, after)

/-- A `PlainTextResponse`. -/
structure Response where
  statusCode : Nat
  text : Str
  deriving DecidableEq

/-- The item an entry of `notificationItems` wraps, if it wraps one. -/
def notificationItem (entry : Json) : Option Mapping :=
  entry.mapping.bind fun entry => (entry.get (str "NotificationRequestItem")).mapping

def adyenItems (payload : Json) : Except Exc (List Mapping) :=
  match payload with
  | .dict entries =>
    match Mapping.get entries (str "notificationItems") with
    | .null => .ok [entries]
    | .list wrapped => wrapped.mapM fun entry =>
      orRaise (notificationItem entry) .eventError (str "each notificationItems entry needs a NotificationRequestItem")
    | _ => raise .eventError (str "notificationItems must be a list")
  | _ => raise .eventError (str "an Adyen notification must be a JSON object")

-- `json.dumps(value, sort_keys=True, separators=(",", ":"))`.
variable (compact : Json → Str)

/-- The bytes an item is received and stored as. -/
def itemBody (item : Mapping) : Except Exc Bytes :=
  match (compact (.dict item)).encode with
  | .ok body => .ok body
  | .error _ => raise .unicodeEncodeError (str "surrogates not allowed")

/-- The loop over the items, the clock reading `now turn` in each turn. -/
def receiveItems (hmacKeyHex : Str) (now : Nat → T) (leaseSeconds : T) :
    List Mapping → Nat → Bool → Statements T Response
  | [], _, inProgress => fun db =>
    (.ok (if inProgress then ⟨409, str "delivery is still being processed"⟩ else ⟨200, str "[accepted]"⟩), db)
  | item :: rest, turn, inProgress => fun db =>
    match itemBody compact item with
    | .error exc => (.error exc, db)
    | .ok body =>
      match receiveAdyen rt body hmacKeyHex (now turn) leaseSeconds db with
      | (.error exc, after) =>
        if exc.isinstance .signatureError then (.ok ⟨401, exc.message⟩, after)
        else if exc.isinstance .eventError then (.ok ⟨400, exc.message⟩, after)
        else (.error exc, after)
      | (.ok result, after) =>
        receiveItems hmacKeyHex now leaseSeconds rest (turn + 1) (inProgress || result.reason = .inProgress) after

def adyenWebhook (raw : Bytes) (hmacKeyHex : Str) (now : Nat → T) (leaseSeconds : T) : Statements T Response := fun db =>
  match (do adyenItems (← rt.loads raw)) with
  | .error exc =>
    if exc.isinstance .valueError || exc.isinstance .eventError then (.ok ⟨400, exc.message⟩, db) else (.error exc, db)
  | .ok items => receiveItems rt compact hmacKeyHex now leaseSeconds items 0 false db

end Quidz
