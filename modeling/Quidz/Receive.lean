import Quidz.Inbox
import Quidz.Verify

/-! The request thread: verify the bytes that arrived, then claim them. The counters
are bumped in statements of their own. -/

namespace Quidz

variable {T R : Type} [Seconds T] (rt : Runtime T R)

/-- The identity of a delivery, read without decoding the whole event. -/
def identity (provider : Provider) (payload : Mapping) : Except Exc Str :=
  match provider with
  | .stripe =>
    match payload.get (str "id") with
    | .str value => if value ≠ [] then .ok value else raise .malformedEvent (str "Stripe event carries no id")
    | _ => raise .malformedEvent (str "Stripe event carries no id")
  | .adyen =>
    match payload.get (str "pspReference"), payload.get (str "eventCode") with
    | .str psp, .str code =>
      if psp ≠ [] ∧ code ≠ [] then .ok (psp ++ str ":" ++ code)
      else raise .malformedEvent (str "Adyen item carries no pspReference and eventCode pair")
    | _, _ => raise .malformedEvent (str "Adyen item carries no pspReference and eventCode pair")

/-- The claim of a verified delivery, and the counter its answer may bump. -/
def claimVerified (provider : Provider) (payload : Mapping) (raw : Bytes) (headers : List (Str × Str))
    (now leaseSeconds : T) : Statements T ClaimResult := fun db =>
  match identity provider payload with
  | .error exc => (.error exc, db)
  | .ok identity =>
    match claim rt provider identity raw headers now leaseSeconds db with
    | (.error exc, after) => (.error exc, after)
    | (.ok result, after) => (.ok result, if result.reason = .duplicate then after.bump .deduped else after)

/-- Both readings of the clock are taken here, before the bytes are verified and when
they are claimed. -/
def receiveStripe (raw : Bytes) (headers : List (Str × Str)) (secrets : List Bytes)
    (received now leaseSeconds toleranceSeconds : T) : Statements T ClaimResult := fun db =>
  let counted := db.bump .eventsReceived
  match verifyStripe rt raw headers secrets received toleranceSeconds with
  | .error exc =>
    (.error exc,
      if exc.isinstance .staleTimestamp then counted.bump .replayRejected
      else if exc.isinstance .signatureError then counted.bump .signatureRejected
      else counted)
  | .ok _ =>
    match payload rt raw with
    | .error exc => (.error exc, counted)
    | .ok body => claimVerified rt .stripe body raw headers now leaseSeconds counted

/-- `additional.get("hmacSignature", "")`, as text. -/
def adyenSignature (item : Mapping) : Str :=
  match (item.get (str "additionalData")).mapping with
  | some additional => ((additional.lookup (str "hmacSignature")).getD (.str [])).toStr rt.isprintable
  | none => []

def receiveAdyen (raw : Bytes) (hmacKeyHex : Str) (now leaseSeconds : T) : Statements T ClaimResult := fun db =>
  let received := db.bump .eventsReceived
  match payload rt raw with
  | .error exc => (.error exc, received)
  | .ok item =>
    match verifyAdyen rt item (adyenSignature rt item) hmacKeyHex with
    | .error exc => (.error exc, if exc.isinstance .signatureError then received.bump .signatureRejected else received)
    | .ok _ => claimVerified rt .adyen item raw [] now leaseSeconds received

end Quidz
