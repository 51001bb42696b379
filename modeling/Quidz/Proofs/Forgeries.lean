import Quidz.Receive
import Quidz.Proofs.AdyenBinding

/-! Adyen items that are refused. What cannot be verified is refused with a
`SignatureError` and counted, unless a signed field has no UTF-8 encoding: the encoder's
own exception then leaves the request thread. -/

namespace Quidz.Proofs

open AdyenBinding (adyenEscape_eq signed)

section Encoding

theorem encodable_append (first second : Str) :
    (first ++ second).encodable = (first.encodable && second.encodable) := List.all_append

theorem encodable_join {separator : Str} (plain : separator.encodable = true) (parts : List Str) :
    (Str.join separator parts).encodable = true ↔ ∀ part ∈ parts, part.encodable = true := by
  induction parts with
  | nil => exact iff_of_true rfl nofun
  | cons part rest ih =>
    cases rest with
    | nil => simp [Str.join]
    | cons next rest =>
      have split : Str.join separator (part :: next :: rest) = part ++ (separator ++ Str.join separator (next :: rest)) := by
        simp [Str.join, List.intercalate_cons_cons]
      rw [split, encodable_append, encodable_append, plain, Bool.true_and, Bool.and_eq_true, ih, List.forall_mem_cons (a := part)]

/-- An escape is plain, so escaping neither adds a surrogate nor hides one. -/
theorem encodable_escape (value : Str) : (adyenEscape value).encodable = value.encodable := by
  have plain : Str.isSurrogate (codePoint '\\') = false := by decide
  rw [adyenEscape_eq, Library.Escape.escape, Str.encodable, Str.encodable, List.all_flatMap]
  congr 1
  funext c
  split
  next => simp [plain]
  next => simp

theorem encodable_signingString (item : List (Str × Str)) : (adyenSigningString item).encodable = true ↔
    ∀ name ∈ adyenSignedFields, ((item.lookup name).getD []).encodable = true := by
  rw [adyenSigningString, encodable_join (by decide), List.forall_mem_map]
  simp only [encodable_escape]

end Encoding

section Verify
variable {T R : Type} (rt : Runtime T R)

/-- Every signed field of the item, as text, has a UTF-8 encoding. -/
def Signable (item : Mapping) : Prop := ∀ name ∈ adyenSignedFields, (signed rt item name).encodable = true

theorem signable_iff (item : Mapping) :
    Signable rt item ↔ (adyenSigningString (adyenSigningFields rt item)).encodable = true :=
  (encodable_signingString _).symm

variable {rt} {item : Mapping} {signatureB64 hmacKeyHex : Str} {key : Bytes}

/-- Under a usable key a signature is correct or bad, if there is a string to sign. -/
theorem Signable.refused (signable : Signable rt item) (usable : rt.fromhex hmacKeyHex = some key) {exc : Exc}
    (refused : verifyAdyen rt item signatureB64 hmacKeyHex = .error exc) : exc.type = .badSignature := by
  rw [signable_iff] at signable
  cases decoded : rt.b64decode signatureB64 with
  | none =>
    simp only [verifyAdyen, usable, Str.encode, signable, decoded, ↓reduceIte] at refused
    cases refused
    rfl
  | some given =>
    simp only [verifyAdyen, usable, Str.encode, signable, decoded, ↓reduceIte, bind_error, reduceCtorEq, false_or, Except.ok.injEq,
      exists_eq_left'] at refused
    split at refused
    · cases refused
    · cases refused
      rfl

theorem unsignable_raises (unsignable : ¬Signable rt item) (usable : rt.fromhex hmacKeyHex = some key) :
    verifyAdyen rt item signatureB64 hmacKeyHex = raise .unicodeEncodeError (str "surrogates not allowed") := by
  rw [signable_iff, Bool.not_eq_true] at unsignable
  simp only [verifyAdyen, usable, Str.encode, unsignable]
  rfl

end Verify

section Receive
variable {T R : Type} [Seconds T] (rt : Runtime T R)

/-- The delivery is refused as the front door refuses: by a `SignatureError`, counted
once, with nothing stored. -/
def Refused (raw : Bytes) (hmacKeyHex : Str) (now leaseSeconds : T) (db : Db T) : Prop :=
  ∃ exc after, receiveAdyen rt raw hmacKeyHex now leaseSeconds db = (.error exc, after) ∧
    exc.isinstance .signatureError = true ∧
    after.counter (.metric .signatureRejected) = db.counter (.metric .signatureRejected) + 1 ∧
    after.deliveries = db.deliveries ∧ after.effects = db.effects ∧ after.payments = db.payments

variable {rt} {raw : Bytes} {item : Mapping} {hmacKeyHex : Str}

theorem receiveAdyen_refused {exc : Exc} (read : payload rt raw = .ok item)
    (refused : verifyAdyen rt item (adyenSignature rt item) hmacKeyHex = .error exc) (now leaseSeconds : T) (db : Db T) :
    receiveAdyen rt raw hmacKeyHex now leaseSeconds db = (.error exc,
      if exc.isinstance .signatureError then (db.bump .eventsReceived).bump .signatureRejected
      else db.bump .eventsReceived) := by
  simp only [receiveAdyen, read, refused]

/-- Whatever an item says, its signature is found correct or it is a counted refusal,
exactly if each of its signed fields can be encoded. -/
theorem forgery_counted_iff (read : payload rt raw = .ok item) {key : Bytes} (usable : rt.fromhex hmacKeyHex = some key)
    (now leaseSeconds : T) (db : Db T) :
    verifyAdyen rt item (adyenSignature rt item) hmacKeyHex = .ok () ∨ Refused rt raw hmacKeyHex now leaseSeconds db ↔
      ∀ name ∈ adyenSignedFields, (signed rt item name).encodable = true := by
  constructor
  · intro answered
    by_contra unsignable
    have escapes : verifyAdyen rt item (adyenSignature rt item) hmacKeyHex = _ := unsignable_raises unsignable usable
    rcases answered with correct | ⟨exc, after, answered, signature, _⟩
    · rw [escapes] at correct
      cases correct
    · rw [receiveAdyen_refused read escapes] at answered
      cases answered
      cases signature
  · intro signable
    cases verified : verifyAdyen rt item (adyenSignature rt item) hmacKeyHex with
    | ok _ => exact .inl rfl
    | error exc =>
      right
      have bad := Signable.refused signable usable verified
      have signature : exc.isinstance .signatureError = true := by simp [Exc.isinstance, bad, ExcType.bases]
      refine ⟨exc, _, receiveAdyen_refused read verified now leaseSeconds db, signature, ?_⟩
      simp [signature]

end Receive

/-- The HMAC of the order's signing string under the key `00ff`. -/
def orderDigest : Bytes :=
  [175, 66, 216, 254, 21, 125, 151, 39, 7, 168, 139, 173, 101, 95, 251, 56,
    87, 95, 213, 76, 62, 255, 39, 30, 185, 230, 79, 223, 57, 155, 185, 198]

/-- A runtime that knows the key of an account, and reads the given bytes as this item. -/
def keyed (raw : Bytes) (item : Mapping) : Runtime Int Unit :=
  { Runtime.recorded [] [] with
    loads := fun body =>
      if body = raw then .ok (.dict item) else raise .jsonDecodeError (str "Expecting value: line 1 column 1 (char 0)")
    fromhex := fun text => if text = str "00ff" then some [0, 255] else none
    b64decode := fun text => if text = [] then some [] else none
    hmacSha256 := fun _ _ => orderDigest }

@[simp] theorem keyed_reads (raw : Bytes) (item : Mapping) : payload (keyed raw item) raw = .ok item := by
  simp [payload, keyed]

/-- The item carries no signature at all. -/
def forgedBody : Bytes := Json.body AdyenBinding.forgedItem

/-- A lone surrogate, as the escape of a JSON text puts it into a string. -/
def surrogateItem : Mapping := [(str "pspReference", .str [⟨0xD800, by decide⟩])]

def surrogateBody : Bytes := (str "\x7b\"pspReference\": \"\\ud800\"\x7d").map fun c => .ofNat c.val

theorem surrogate_escapes :
    payload (keyed surrogateBody surrogateItem) surrogateBody = .ok surrogateItem ∧
    receiveAdyen (keyed surrogateBody surrogateItem) surrogateBody (str "00ff") 0 30 .empty =
      (raise .unicodeEncodeError (str "surrogates not allowed"), Db.empty.bump .eventsReceived) ∧
    ¬(verifyAdyen (keyed surrogateBody surrogateItem) surrogateItem (adyenSignature (keyed surrogateBody surrogateItem) surrogateItem)
        (str "00ff") = .ok () ∨ Refused (keyed surrogateBody surrogateItem) surrogateBody (str "00ff") 0 30 .empty) := by
  have answered : receiveAdyen (keyed surrogateBody surrogateItem) surrogateBody (str "00ff") 0 30 .empty =
      (raise .unicodeEncodeError (str "surrogates not allowed"), Db.empty.bump .eventsReceived) := rfl
  refine ⟨rfl, answered, ?_⟩
  rintro (correct | ⟨exc, after, refused, signature, _⟩)
  · cases correct
  · rw [answered] at refused
    cases refused
    cases signature

theorem forgery_counted_iff_forgedItem : Refused (keyed forgedBody AdyenBinding.forgedItem) forgedBody (str "00ff") 0 30 .empty := by
  have read := keyed_reads forgedBody AdyenBinding.forgedItem
  have usable : (keyed forgedBody AdyenBinding.forgedItem).fromhex (str "00ff") = some [0, 255] := rfl
  refine ((forgery_counted_iff read usable 0 30 .empty).mpr (by decide)).resolve_left ?_
  intro correct
  cases correct

end Quidz.Proofs
