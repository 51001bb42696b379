import Quidz.Runtime

/-! The two signature schemes. Stripe's is an HMAC over the raw bytes behind the
timestamp it signs with them, Adyen's over eight fields, escaped and joined with
colons. -/

namespace Quidz

variable {T R : Type} (rt : Runtime T R)

section Stripe

def stripeSignatureHeader : Str := str "Stripe-Signature"

def stripeScheme : Str := str "v1"

/-- The first header of that name, in any case. -/
def header (headers : List (Str × Str)) (name : Str) : Option Str :=
  (headers.find? fun entry => rt.lower entry.1 = rt.lower name).map Prod.snd

/-- What a part of the header adds to the timestamp and the signatures read so far. -/
def parsePart (parsed : Option Str × List Str) (part : Str) : Option Str × List Str :=
  match (Str.strip rt.isspace part).partition (codePoint '=') with
  | none => parsed
  | some (scheme, raw) =>
    if scheme = str "t" then (some raw, parsed.2)
    else if scheme = stripeScheme then (parsed.1, parsed.2 ++ [raw])
    else parsed

def parseStripeSignatureHeader (value : Str) : Except Exc (Int × List Str) := do
  let (timestamp, signatures) := (value.split (codePoint ',')).foldl (parsePart rt) (none, [])
  let timestamp ← orRaise (timestamp.filter rt.isdigit) .malformedHeader
    (stripeSignatureHeader ++ str " carries no usable t= timestamp")
  let value ← rt.int timestamp
  -- The payload is rebuilt from the integer, so no other spelling of it may pass.
  raiseIf (timestamp ≠ Str.ofInt value) .malformedHeader
    (stripeSignatureHeader ++ str " timestamp " ++ Json.reprStr rt.isprintable timestamp ++ str " is not canonical")
  raiseIf (signatures = []) .malformedHeader
    (stripeSignatureHeader ++ str " carries no " ++ stripeScheme ++ str " signature")
  return (value, signatures)

/-- `f"{timestamp}.".encode() + raw`. The text is ASCII, whose code points are its
bytes. -/
def signedPayload (timestamp : Int) (raw : Bytes) : Bytes :=
  (Str.ofInt timestamp ++ str ".").map (fun c => .ofNat c.val) ++ raw

def verifyStripe [Seconds T] (raw : Bytes) (headers : List (Str × Str)) (secrets : List Bytes)
    (now toleranceSeconds : T) : Except Exc Int := do
  raiseIf (toleranceSeconds ≤ 0) .valueError (str "tolerance_seconds must be positive; Stripe's guidance is that " ++
    str "a tolerance of 0 disables the recency check entirely")
  raiseIf (secrets = []) .valueError (str "at least one endpoint secret is required")
  let value ← orRaise (header rt headers stripeSignatureHeader) .malformedHeader
    (str "missing " ++ stripeSignatureHeader ++ str " header")
  let (timestamp, candidates) ← parseStripeSignatureHeader rt value
  let expected (secret : Bytes) := rt.hmacSha256 secret (signedPayload timestamp raw)
  let matched := secrets.any fun secret => candidates.any fun candidate => rt.fromhex candidate = some (expected secret)
  raiseIf (matched = false) .badSignature (str "no active endpoint secret reproduces a v1 signature in the header")
  let signed ← orRaise (Seconds.ofInt timestamp : Option T) .overflowError (str "int too large to convert to float")
  -- One sided: nobody can sign a later timestamp without the secret.
  raiseIf (toleranceSeconds < now - signed) .staleTimestamp
    (str "signed timestamp " ++ Str.ofInt timestamp ++ str " is older than the " ++ rt.format toleranceSeconds ++
      str "s tolerance at " ++ rt.format now)
  return timestamp

end Stripe

section Adyen

def adyenSignedFields : List Str :=
  [str "pspReference", str "originalReference", str "merchantAccountCode", str "merchantReference",
    str "value", str "currency", str "eventCode", str "success"]

def adyenEscape (value : Str) : Str :=
  (value.replace (codePoint '\\') (str "\\\\")).replace (codePoint ':') (str "\\:")

def text : Json → Str
  | .null => []
  | .bool true => str "true"
  | .bool false => str "false"
  | value => value.toStr rt.isprintable

/-- The eight signed fields of a notification item. The amount is read from the
top level first, and from under `amount` where nothing is there. -/
def adyenSigningFields (item : Mapping) : List (Str × Str) :=
  let nested := (item.get (str "amount")).mapping.getD []
  let lifted (name fields : Str) : Str := if fields = [] then text rt (nested.get name) else fields
  adyenSignedFields.map fun name =>
    let value := text rt (item.get name)
    (name, if name = str "value" ∨ name = str "currency" then lifted name value else value)

def adyenSigningString (item : List (Str × Str)) : Str :=
  Str.join (str ":") (adyenSignedFields.map fun name => adyenEscape ((item.lookup name).getD []))

def verifyAdyen (item : Mapping) (signatureB64 hmacKeyHex : Str) : Except Exc Unit := do
  let key ← match rt.fromhex hmacKeyHex with
    | some key => .ok key
    | none => raise .valueError (str "the Adyen HMAC key is the hexadecimal value from the Customer Area, " ++
        str "decoded to raw bytes before use")
  let signingString := adyenSigningString (adyenSigningFields rt item)
  let message ← match signingString.encode with
    | .ok message => .ok message
    | .error _ => raise .unicodeEncodeError (str "surrogates not allowed")
  let expected := rt.hmacSha256 key message
  let given ← match rt.b64decode signatureB64 with
    | some given => .ok given
    | none => raise .badSignature (str "hmacSignature is not valid base64")
  if expected = given then .ok () else raise .badSignature (str "hmacSignature does not match the signed field string")

end Adyen
end Quidz
