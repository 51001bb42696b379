import Mathlib.Tactic.IntervalCases
import Quidz.Proofs.AdyenBinding
import Quidz.Proofs.Replay
import Quidz.Proofs.Snapshots
import Quidz.Proofs.StripeBinding
import Quidz.Proofs.Undecodable
import Quidz.Sim

/-! What the simulator signs the front door verifies, and what it writes the adapters read: each
delivery comes out as the movement of the payment that was booked. -/

namespace Quidz.Proofs

open Sim (Booked Simulator Kit AdyenNotice)
open StripeBinding (under parts Signs Recent verifyStripe_ok)
open AdyenBinding (signed signed_plain signed_lifted)

variable {T R G : Type} {rt : Runtime T R}

section Read

/-- What is read of a mapping that was written: the same, with the values' keys sorted. -/
def ReadAs (entries read : Mapping) : Prop := ∀ key, read.get key = (entries.get key).sorted ∧ read.has key = entries.has key

theorem readAs_sorted {entries : Mapping} (distinct : (entries.map Prod.fst).Nodup) : ∃ read : Mapping,
    (Json.dict entries).sorted = .dict read ∧ ReadAs entries read := by
  obtain ⟨read, sorted, same⟩ := sorted_perm entries
  have keys : (read.map Prod.fst).Perm (entries.map Prod.fst) := by
    refine (same.map Prod.fst).trans ?_
    rw [List.map_map]
    exact .refl _
  have found (key : Str) : read.lookup key = (entries.lookup key).map Json.sorted := by
    ext value
    rw [lookup_iff (keys.nodup_iff.mpr distinct), same.mem_iff, Option.map_eq_some_iff, List.mem_map]
    constructor
    · rintro ⟨⟨name, held⟩, member, same⟩
      obtain ⟨rfl, rfl⟩ := Prod.mk.inj same
      exact ⟨held, (lookup_iff distinct).mpr member, rfl⟩
    · rintro ⟨held, listed, rfl⟩
      exact ⟨(key, held), (lookup_iff distinct).mp listed, rfl⟩
  refine ⟨read, sorted, fun key => ⟨?_, ?_⟩⟩
  · rw [Mapping.get, Mapping.get, found]
    cases entries.lookup key with
    | none => rfl
    | some value => rfl
  · rw [Mapping.has, Mapping.has, found, Option.isSome_map]

end Read

section Header

/-- A text without a separator in front of it is what stands before it. -/
theorem partition_front {front rest : Str} {separator : CodePoint} (plain : separator ∉ front) :
    Str.partition (front ++ separator :: rest) separator = some (front, rest) := by
  have others : ∀ c ∈ front, decide (c ≠ separator) = true := fun c member => decide_eq_true fun same => plain (same ▸ member)
  unfold Str.partition
  rw [List.dropWhile_append_of_pos others, List.takeWhile_append_of_pos others, List.dropWhile_cons_of_neg (by simp),
    List.takeWhile_cons_of_neg (by simp)]
  simp

theorem strip_plain {isspace : CodePoint → Bool} {text : Str} (plain : ∀ c ∈ text, isspace c = false) :
    Str.strip isspace text = text := by
  have kept {text : Str} (plain : ∀ c ∈ text, isspace c = false) : text.dropWhile isspace = text := by
    cases text with
    | nil => rfl
    | cons c rest =>
      apply List.dropWhile_cons_of_neg
      rw [plain c List.mem_cons_self]
      exact Bool.false_ne_true
  have backwards : ∀ c ∈ text.reverse, isspace c = false := fun c member => plain c (List.mem_reverse.mp member)
  rw [Str.strip, kept plain, kept backwards, List.reverse_reverse]

theorem header_own (value : Str) : header rt [(stripeSignatureHeader, value)] stripeSignatureHeader = some value := by
  simp [header]

/-- A text of digits, decimal or hexadecimal. -/
def Word (text : Str) : Prop := ∀ c ∈ text, codePoint '0' ≤ c ∧ c ≤ codePoint '9' ∨ codePoint 'a' ≤ c ∧ c ≤ codePoint 'f'

theorem Word.ofNat (n : Nat) : Word (Str.ofNat n) := fun _ member => .inl (StripeBinding.mem_ofNat member)

/-- A part of the header: a scheme that counts, and a word under it. -/
structure Part (entry : Str × Str) : Prop where
  scheme : entry.1 = str "t" ∨ entry.1 = str "v1"
  word : Word entry.2

variable (rt) in
theorem Part.plain {entry : Str × Str} (part : Part entry) {c : CodePoint} (member : c ∈ entry.1 ++ str "=" ++ entry.2) :
    c ≠ codePoint ',' ∧ rt.isspace c = false := by
  have comma : codePoint ',' = ⟨44, by decide⟩ := rfl
  have visible (low : 44 < c.val) (high : c.val < 128) : c ≠ codePoint ',' ∧ rt.isspace c = false := by
    have ascii : isascii c = true := decide_eq_true high
    refine ⟨fun same => ?_, ?_⟩
    · rw [same, comma] at low
      exact absurd low (by decide)
    · simp only [Runtime.isspace, ascii, ↓reduceIte, Bool.or_eq_false_iff, Bool.and_eq_false_imp, decide_eq_true_eq,
        decide_eq_false_iff_not]
      omega
  rcases List.mem_append.mp member with front | value
  · have named : (entry.1 ++ str "=").all (fun c => 44 < c.val && c.val < 128) = true := by
      rcases part.scheme with same | same
      · rw [same]
        decide
      · rw [same]
        decide
    have bounds := List.all_eq_true.mp named c front
    simp only [Bool.and_eq_true, decide_eq_true_eq] at bounds
    exact visible bounds.1 bounds.2
  · have bounds := part.word c value
    simp only [Fin.le_def] at bounds
    have zero : (codePoint '0').val = 48 := rfl
    have nine : (codePoint '9').val = 57 := rfl
    have a : (codePoint 'a').val = 97 := rfl
    have f : (codePoint 'f').val = 102 := rfl
    exact visible (by omega) (by omega)

variable (rt) in
/-- What a header of such parts is read as. -/
theorem parts_join {entries : List (Str × Str)} (some_ : entries ≠ []) (named : ∀ entry ∈ entries, Part entry) :
    parts rt (Str.join (str ",") (entries.map fun entry => entry.1 ++ str "=" ++ entry.2)) = entries := by
  have separated : Str.split (Str.join (str ",") (entries.map fun entry => entry.1 ++ str "=" ++ entry.2)) (codePoint ',') =
      entries.map fun entry => entry.1 ++ str "=" ++ entry.2 := by
    apply List.splitOn_intercalate
    · intro piece member comma
      obtain ⟨entry, listed, rfl⟩ := List.mem_map.mp member
      exact ((named entry listed).plain rt comma).1 rfl
    · simpa using some_
  unfold parts
  rw [separated, List.filterMap_map]
  have each (entry : Str × Str) (listed : entry ∈ entries) :
      (Str.strip rt.isspace (entry.1 ++ str "=" ++ entry.2)).partition (codePoint '=') = some entry := by
    rw [strip_plain fun c member => ((named entry listed).plain rt member).2, List.append_assoc]
    apply partition_front
    rcases (named entry listed).scheme with same | same
    · rw [same]
      decide
    · rw [same]
      decide
  exact (List.filterMap_congr each).trans List.filterMap_some

end Header

section Laws
variable [Seconds T] (rt) (kit : Kit T G) (simulator : Simulator T)

/-- What is relied on of `hmac`, `base64`, `bytes` and `datetime`: digests are written in digits,
and what was written is read back. -/
structure Lawful : Prop where
  words : ∀ key message, Word (kit.hex (rt.hmacSha256 key message))
  hex : ∀ key message, rt.fromhex (kit.hex (rt.hmacSha256 key message)) = some (rt.hmacSha256 key message)
  base64 : ∀ key message, rt.b64decode (rt.b64encode (rt.hmacSha256 key message)) = some (rt.hmacSha256 key message)
  key : ∃ key, rt.fromhex simulator.adyenHmacKeyHex = some key
  iso : ∀ created moment text, (Seconds.ofInt created : Option T) = some moment → kit.iso moment = .ok text →
    text ≠ [] ∧ rt.timestamp text = some moment ∧ Seconds.toInt moment = created

/-- The document is read as it was written, its keys sorted. -/
def Restored (document : Json) : Prop := rt.loads (Sim.ascii (kit.compact document)) = .ok document.sorted

end Laws

section Stripe
variable [Seconds T] {kit : Kit T G} {simulator : Simulator T}

/-- What `stripe` makes once it has the event's id. -/
theorem stripe_made {rt : Runtime T R} {event : Sim.StripeEvent} {salt : Str} {signedAt : Option Int} {delivery : Sim.Delivery}
    (made : Sim.stripe rt kit simulator event salt signedAt = .ok delivery) :
    let timestamp := signedAt.getD (Seconds.toInt simulator.startedAt)
    ∃ eventId, Sim.stripeId rt kit event salt = .ok eventId ∧
      let raw := Sim.ascii (kit.compact (Sim.stripePayload event eventId))
      delivery = {
        provider := .stripe, identity := eventId, raw
        headers := [(stripeSignatureHeader, Str.join (str ",")
          ((str "t=" ++ Str.ofInt timestamp) :: simulator.stripeSecrets.reverse.map fun secret =>
            str "v1=" ++ kit.hex (rt.hmacSha256 secret (signedPayload timestamp raw))))] } := by
  obtain ⟨eventId, identified, result⟩ := bind_ok.mp made
  exact ⟨eventId, identified, (Except.ok.inj result).symm⟩

variable (lawful : Lawful rt kit simulator)
include lawful

/-- Under any active secret a delivery is verified at the times within the tolerance. -/
theorem stripe_verifies (event : Sim.StripeEvent) (salt : Str) (signedAt : Option Int) {t : Nat}
    (timestamp : signedAt.getD (Seconds.toInt simulator.startedAt) = t) (short : (Str.ofNat t).length ≤ intMaxStrDigits)
    {secrets : List Bytes} (active : ∃ secret ∈ simulator.stripeSecrets, secret ∈ secrets) {now tolerance : T}
    (positive : 0 < tolerance) (recent : Recent now tolerance t) {delivery : Sim.Delivery}
    (made : Sim.stripe rt kit simulator event salt signedAt = .ok delivery) :
    verifyStripe rt delivery.raw delivery.headers secrets now tolerance = .ok t := by
  obtain ⟨secret, listed, active⟩ := active
  obtain ⟨eventId, _, rfl⟩ := stripe_made made
  dsimp only
  rw [timestamp]
  generalize Sim.ascii (kit.compact (Sim.stripePayload event eventId)) = raw
  refine (verifyStripe_ok rt).mpr ⟨positive, t, rfl, short, ?_, recent⟩
  let entries : List (Str × Str) := (str "t", Str.ofNat t) :: simulator.stripeSecrets.reverse.map fun secret =>
    (str "v1", kit.hex (rt.hmacSha256 secret (signedPayload t raw)))
  have named : ∀ entry ∈ entries, Part entry := by
    refine List.forall_mem_cons.mpr ⟨⟨.inl rfl, .ofNat t⟩, List.forall_mem_map.mpr fun secret _ => ⟨.inr rfl, lawful.words _ _⟩⟩
  have read := parts_join rt (List.cons_ne_nil _ _ : entries ≠ []) named
  have written : Str.join (str ",") ((str "t=" ++ Str.ofNat t) :: simulator.stripeSecrets.reverse.map fun secret =>
      str "v1=" ++ kit.hex (rt.hmacSha256 secret (signedPayload t raw))) =
        Str.join (str ",") (entries.map fun entry => entry.1 ++ str "=" ++ entry.2) := by
    rw [List.map_cons, List.map_map]
    rfl
  have same : Str.ofInt (t : Int) = Str.ofNat t := rfl
  rw [same, written]
  refine ⟨_, Option.mem_def.mpr (header_own _), ?_⟩
  rw [read]
  have candidates : under stripeScheme entries = simulator.stripeSecrets.reverse.map fun secret =>
      kit.hex (rt.hmacSha256 secret (signedPayload t raw)) := by
    have other : str "t" ≠ stripeScheme := by decide
    unfold under
    rw [List.filter_cons_of_neg (by simpa using other), List.filter_eq_self.mpr, List.map_map]
    · rfl
    · exact List.forall_mem_map.mpr fun _ _ => rfl
  have time : under (str "t") entries = [Str.ofNat t] := by
    unfold under
    rw [List.filter_cons_of_pos (by simp), List.filter_eq_nil_iff.mpr]
    · rfl
    · exact List.forall_mem_map.mpr fun _ _ => nofun
  refine ⟨?_, secret, active, _, ?_, lawful.hex _ _⟩
  · rw [time]
    rfl
  · rw [candidates]
    exact List.mem_map_of_mem (List.mem_reverse.mpr listed)

end Stripe

section Adyen
variable [Seconds T] {kit : Kit T G} {simulator : Simulator T} {booked : Booked T} {notice : AdyenNotice}

/-- What an item is made of, and what of it the front door and the adapter come to. -/
structure Itemized (rt : Runtime T R) (kit : Kit T G) (simulator : Simulator T) (booked : Booked T) (notice : AdyenNotice)
    (item : Mapping) : Prop where
  keys : item.map Prod.fst = [str "pspReference", str "originalReference", str "merchantAccountCode", str "merchantReference",
    str "amount", str "eventCode", str "success", str "eventDate", str "paymentMethod", str "additionalData"]
  fields : ∀ entry ∈ Sim.adyenFields booked notice, entry.1 ≠ str "value" → entry.1 ≠ str "currency" → item.get entry.1 = .str entry.2
  amount : item.get (str "amount") = .dict [(str "value", .int notice.minor), (str "currency", .str booked.currency)]
  dated : ∃ moment text, (Seconds.ofInt notice.created : Option T) = some moment ∧ kit.iso moment = .ok text ∧
    item.get (str "eventDate") = .str text
  sealed_ : ∃ key message, rt.fromhex simulator.adyenHmacKeyHex = some key ∧
    (adyenSigningString (Sim.adyenFields booked notice)).encode = .ok message ∧
    item.get (str "additionalData") = .dict [(str "hmacSignature", .str (rt.b64encode (rt.hmacSha256 key message)))]

theorem adyenItem_itemized {item : Mapping} (made : Sim.adyenItem rt kit simulator booked notice = .ok item) :
    Itemized rt kit simulator booked notice item := by
  simp only [Sim.adyenItem, Sim.adyenSignature, bind_ok, orRaise_ok, Sim.encode_ok, pure_eq_ok, Except.ok.injEq] at made
  obtain ⟨moment, dated, text, iso, _, ⟨key, usable, message, found, rfl⟩, rfl⟩ := made
  refine ⟨rfl, ?_, rfl, ⟨moment, text, dated, iso, rfl⟩, key, message, usable, found, rfl⟩
  intro entry member value currency
  simp only [Sim.adyenFields, List.mem_cons, List.not_mem_nil, or_false] at member
  rcases member with rfl | rfl | rfl | rfl | rfl | rfl | rfl | rfl
  all_goals first | rfl | exact absurd rfl value | exact absurd rfl currency

theorem get_absent {entries : Mapping} {key : Str} (absent : key ∉ entries.map Prod.fst) : entries.get key = .null := by
  have none_found : entries.lookup key = none := by
    rw [List.lookup_eq_none_iff]
    intro entry member
    rw [bne_iff_ne]
    exact fun same => absent (same ▸ List.mem_map_of_mem member)
  rw [Mapping.get, none_found]
  rfl

/-- The nested amount is read as it was written. -/
theorem amount_read (minor : Int) (currency : Str) : ∃ nested : Mapping,
    (Json.dict [(str "value", .int minor), (str "currency", .str currency)]).sorted = .dict nested ∧
      nested.get (str "value") = .int minor ∧ nested.get (str "currency") = .str currency := by
  have distinct : ([(str "value", .int minor), (str "currency", .str currency)].map (Prod.fst : Str × Json → Str)).Nodup := by
    change [str "value", str "currency"].Nodup
    decide
  obtain ⟨nested, sorted, reads⟩ := readAs_sorted distinct
  exact ⟨nested, sorted, (reads _).1, (reads _).1⟩

variable {item read : Mapping} (lawful : Lawful rt kit simulator) (itemized : Itemized rt kit simulator booked notice item)
  (reads : ReadAs item read)
include itemized reads

theorem Itemized.signing : adyenSigningString (adyenSigningFields rt read) = adyenSigningString (Sim.adyenFields booked notice) := by
  apply (AdyenBinding.signing_string_unambiguous _ _).mpr
  obtain ⟨nested, sorted, value, currency⟩ := amount_read notice.minor booked.currency
  have amount : (read.get (str "amount")).mapping.getD [] = nested := by
    rw [(reads _).1, itemized.amount, sorted]
    rfl
  have missing {name : Str} (absent : name ∉ item.map Prod.fst) : read.get name = .null := by
    rw [(reads _).1, get_absent absent]
    rfl
  have plain (name value : Str) (listed : (name, value) ∈ Sim.adyenFields booked notice) (member : name ∈ adyenSignedFields)
      (apart : name ≠ str "value" ∧ name ≠ str "currency") : signed rt read name = value := by
    rw [signed_plain rt read member apart, (reads _).1, itemized.fields (name, value) listed apart.1 apart.2]
    rfl
  have first : Sim.adyenFields booked notice = [(str "pspReference", notice.psp), (str "originalReference", notice.originalReference),
    (str "merchantAccountCode", Sim.merchantAccount), (str "merchantReference", booked.paymentId),
    (str "value", Str.ofInt notice.minor), (str "currency", booked.currency), (str "eventCode", notice.eventCode),
    (str "success", str "true")] := rfl
  rw [first] at plain ⊢
  intro name member
  change signed rt read name = _
  have lifted (name : Str) (member : name ∈ adyenSignedFields) (either : name = str "value" ∨ name = str "currency")
      (absent : name ∉ item.map Prod.fst) : signed rt read name = text rt (nested.get name) := by
    rw [signed_lifted rt read member either, missing absent, amount]
    rfl
  have keys := itemized.keys
  simp only [adyenSignedFields, List.mem_cons, List.not_mem_nil, or_false] at member
  rcases member with rfl | rfl | rfl | rfl | rfl | rfl | rfl | rfl
  · exact plain (str "pspReference") notice.psp (by simp) (by decide) (by decide)
  · exact plain (str "originalReference") notice.originalReference (by simp) (by decide) (by decide)
  · exact plain (str "merchantAccountCode") Sim.merchantAccount (by simp) (by decide) (by decide)
  · exact plain (str "merchantReference") booked.paymentId (by simp) (by decide) (by decide)
  · rw [lifted _ (by decide) (.inl rfl) (by rw [keys]; decide), value]
    rfl
  · rw [lifted _ (by decide) (.inr rfl) (by rw [keys]; decide), currency]
    rfl
  · exact plain (str "eventCode") notice.eventCode (by simp) (by decide) (by decide)
  · exact plain (str "success") (str "true") (by simp) (by decide) (by decide)

include lawful

theorem Itemized.verifies :
    verifyAdyen rt read (Quidz.adyenSignature rt read) simulator.adyenHmacKeyHex = .ok () := by
  obtain ⟨key, message, usable, encoded, signature⟩ := itemized.sealed_
  have given : Quidz.adyenSignature rt read = rt.b64encode (rt.hmacSha256 key message) := by
    unfold Quidz.adyenSignature
    rw [(reads _).1, signature]
    rfl
  have same := itemized.signing reads
  unfold verifyAdyen
  simp only [usable, same, encoded, given, lawful.base64, bind_ok, Except.ok.injEq, exists_eq_left', ↓reduceIte]

end Adyen

section Movements

/-- What a delivery says of its payment. -/
structure Movement where
  kind : EffectKind
  providerRef : Str
  minor : Int
  created : Int

/-- The movements of a payment, in the order they are announced in. -/
def movements [Seconds T] (booked : Booked T) : List Movement :=
  let created := Seconds.toInt booked.createdAt
  [⟨.authorize, booked.authRef, booked.authorized, created⟩] ++
    (if booked.provider = .adyen ∧ booked.captureFailed then [⟨.captureFail, booked.captureRef, booked.authorized, created + 300⟩]
      else []) ++
    (if booked.announced then [⟨.capture, booked.captureRef, booked.captured, created + 120⟩] else []) ++
    if booked.refunded ≠ 0 then [⟨.refund, booked.refundRef, booked.refunded, created + 7200⟩] else []

/-- A payment as the plans book it. -/
structure Regular (booked : Booked T) : Prop where
  currency : validCurrency booked.currency = true
  paymentId : booked.paymentId ≠ []
  authRef : booked.authRef ≠ []
  captureRef : booked.captureRef ≠ []
  refundRef : booked.refundRef ≠ []
  intent : booked.provider = .stripe → booked.authRef = booked.paymentId

variable (rt)

/-- The canonical event of a movement. -/
def eventOf (booked : Booked T) (regular : Regular booked) (movement : Movement) (moment : T) (identity : Str) :
    CanonicalEvent T where
  provider := booked.provider
  identity := identity
  paymentId := booked.paymentId
  kind := movement.kind
  providerRef := movement.providerRef
  amount := some ⟨movement.minor, booked.currency, regular.currency⟩
  occurredAt := moment
  sequence := movement.created
  rawAmountValue := some (Str.ofInt movement.minor)
  rawCurrency := some (match booked.provider with
    | .stripe => rt.lower booked.currency
    | .adyen => booked.currency)

end Movements

section Currency

/-- In ASCII each letter is changed on its own. -/
theorem lower_ascii {text : Str} (ascii : ∀ c ∈ text, isascii c = true) : rt.lower text = text.flatMap fun c => rt.lower [c] := by
  rw [Runtime.lower, if_pos (List.all_eq_true.mpr ascii), List.map_eq_flatMap]
  refine List.flatMap_congr fun c member => ?_
  rw [Runtime.lower, if_pos (by simpa using ascii c member)]
  rfl

theorem upper_ascii {text : Str} (ascii : ∀ c ∈ text, isascii c = true) : rt.upper text = text.flatMap fun c => rt.upper [c] := by
  rw [Runtime.upper, if_pos (List.all_eq_true.mpr ascii), List.map_eq_flatMap]
  refine List.flatMap_congr fun c member => ?_
  rw [Runtime.upper, if_pos (by simpa using ascii c member)]
  rfl

variable (rt) in
theorem letter_lower {c : CodePoint} (low : codePoint 'A' ≤ c) (high : c ≤ codePoint 'Z') :
    ∃ small, rt.lower [c] = [small] ∧ isascii small = true ∧ rt.upper [small] = [c] := by
  obtain ⟨n, bound⟩ := c
  have first : 65 ≤ n := low
  have last : n ≤ 90 := high
  interval_cases n
  all_goals exact ⟨_, rfl, rfl, rfl⟩

variable (rt) in
/-- The letters of a currency come back from their small ones. -/
theorem upper_lower {currency : Str} (valid : validCurrency currency = true) : rt.upper (rt.lower currency) = currency ∧
    rt.lower currency ≠ [] := by
  simp only [validCurrency, Bool.and_eq_true, beq_iff_eq, List.all_eq_true, decide_eq_true_eq] at valid
  obtain ⟨three, letters⟩ := valid
  have ascii : ∀ c ∈ currency, isascii c = true := by
    intro c member
    have bound : c.val ≤ 90 := (letters c member).2
    exact decide_eq_true (by omega)
  have small : ∀ c ∈ currency.flatMap fun c => rt.lower [c], isascii c = true := by
    intro d member
    obtain ⟨c, inside, here⟩ := List.mem_flatMap.mp member
    obtain ⟨small, lowered, plain, _⟩ := letter_lower rt (letters c inside).1 (letters c inside).2
    rw [lowered] at here
    rwa [List.mem_singleton.mp here]
  have back : ∀ c ∈ currency, (rt.lower [c]).flatMap (fun d => rt.upper [d]) = [c] := by
    intro c member
    obtain ⟨small, lowered, _, raised⟩ := letter_lower rt (letters c member).1 (letters c member).2
    rw [lowered]
    exact (List.append_nil _).trans raised
  constructor
  · rw [lower_ascii ascii, upper_ascii small, List.flatMap_assoc, List.flatMap_congr back]
    exact List.flatMap_singleton' currency
  · intro blank
    rw [lower_ascii ascii, List.flatMap_eq_nil_iff] at blank
    cases currency with
    | nil => cases three
    | cons c rest =>
      obtain ⟨small, lowered, _⟩ := letter_lower rt (letters c List.mem_cons_self).1 (letters c List.mem_cons_self).2
      have nothing := blank c List.mem_cons_self
      rw [lowered] at nothing
      cases nothing

end Currency

section Decode
variable [Seconds T]

omit [Seconds T] in
theorem stripeKind_reads {eventType : Str} {object read : Mapping} (reads : ReadAs object read) :
    stripeKind rt eventType read = stripeKind rt eventType object := by
  unfold stripeKind
  rw [(reads _).1]
  cases object.get (str "status") with
  | list items => rw [Json.sorted]
  | dict entries => rw [Json.sorted]
  | _ => rfl

theorem stripeField_reads {object read : Mapping} (reads : ReadAs object read) (kind : EffectKind) :
    stripeField kind read = stripeField kind object := by
  unfold stripeField
  rw [(reads _).2, (reads _).2]

section Payload
variable {kit : Kit T G} {event : Sim.StripeEvent} {salt eventId : Str} {read : Mapping}

omit [Seconds T] in
theorem stripeId_ne_nil (made : Sim.stripeId rt kit event salt = .ok eventId) : eventId ≠ [] := by
  obtain ⟨token, _, same⟩ := bind_ok.mp made
  rw [← Except.ok.inj same]
  exact List.append_ne_nil_of_left_ne_nil (by decide) token

theorem payload_reads (sorted : (Sim.stripePayload event eventId).sorted = .dict read) :
    ReadAs [(str "id", .str eventId), (str "type", .str event.1), (str "created", .int event.2.1),
      (str "data", .dict [(str "object", .dict event.2.2)])] read := by
  obtain ⟨other, sorted', reads⟩ := readAs_sorted
    (show ([(str "id", .str eventId), (str "type", .str event.1), (str "created", .int event.2.1),
      (str "data", .dict [(str "object", .dict event.2.2)])].map (Prod.fst : Str × Json → Str)).Nodup by
        change [str "id", str "type", str "created", str "data"].Nodup
        decide)
  obtain rfl : other = read := Json.dict.inj (sorted'.symm.trans sorted)
  exact reads

end Payload

/-- An event that says of its payment what the movement does. -/
structure Tells (rt : Runtime T R) (booked : Booked T) (event : Sim.StripeEvent) (movement : Movement) : Prop where
  distinct : (event.2.2.map Prod.fst).Nodup
  named : event.1 ≠ []
  kind : stripeKind rt event.1 event.2.2 = .ok movement.kind
  needed : ¬(movement.kind = .void ∨ movement.kind = .expire)
  reference : event.2.2.get (str "id") = .str movement.providerRef
  referenced : movement.providerRef ≠ []
  paid : event.2.2.get (str "payment_intent") = .str booked.paymentId ∨
    event.2.2.get (str "payment_intent") = .null ∧ movement.providerRef = booked.paymentId
  minor : event.2.2.get (stripeField movement.kind event.2.2) = .int movement.minor
  currency : event.2.2.get (str "currency") = .str (rt.lower booked.currency)
  created : event.2.1 = movement.created

/-- What the adapter makes of such an event. -/
theorem stripe_decodes {event : Sim.StripeEvent} {eventId : Str} (identified : eventId ≠ []) {read : Mapping} {booked : Booked T}
    (regular : Regular booked) (provider : booked.provider = .stripe) {movement : Movement} {moment : T}
    (tells : Tells rt booked event movement) (sorted : (Sim.stripePayload event eventId).sorted = .dict read)
    (dated : (Seconds.ofInt movement.created : Option T) = some moment) :
    fromStripe rt read = .ok (eventOf rt booked regular movement moment eventId) := by
  obtain ⟨distinct, named, kind, needed, reference, referenced, paid, minor, currency, created⟩ := tells
  obtain ⟨object, objectSorted, objectReads⟩ := readAs_sorted distinct
  have payload := payload_reads sorted
  have data : read.get (str "data") = .dict [(str "object", .dict object)] := by
    rw [(payload _).1]
    change (Json.dict [(str "object", .dict event.2.2)]).sorted = _
    rw [Json.sorted, Json.sortedEntries, Json.sortedEntries, objectSorted]
    rfl
  have found : stripeObject read = .ok object := by
    unfold stripeObject
    rw [data]
    rfl
  obtain ⟨raised, nonempty⟩ := upper_lower rt regular.currency
  have amount : stripeAmount rt movement.kind object = .ok (some (Str.ofInt movement.minor), some (rt.lower booked.currency),
      some ⟨movement.minor, booked.currency, regular.currency⟩) := by
    rw [stripeAmount_eq, if_neg needed, stripeField_reads objectReads]
    have isInt : requireInt rt object (stripeField movement.kind event.2.2) = .ok movement.minor := by
      rw [requireInt_ok, (objectReads _).1, minor]
      rfl
    have isStr : requireStr rt object (str "currency") = .ok (rt.lower booked.currency) := by
      rw [requireStr_ok, (objectReads _).1, currency]
      exact ⟨rfl, nonempty⟩
    have made : Money.new rt.isprintable movement.minor (rt.upper (rt.lower booked.currency)) =
        .ok ⟨movement.minor, booked.currency, regular.currency⟩ := by
      rw [raised]
      exact dif_pos regular.currency
    exact bind_ok.mpr ⟨_, isInt, bind_ok.mpr ⟨_, isStr, bind_ok.mpr ⟨_, made, rfl⟩⟩⟩
  have ref : object.get (str "id") = .str movement.providerRef := by
    rw [(objectReads _).1, reference]
    rfl
  unfold fromStripe
  refine bind_ok.mpr ⟨_, (requireStr_ok rt).mpr ⟨(payload _).1, identified⟩, ?_⟩
  refine bind_ok.mpr ⟨_, (requireStr_ok rt).mpr ⟨(payload _).1, named⟩, ?_⟩
  refine bind_ok.mpr ⟨_, (requireInt_ok rt).mpr (payload _).1, ?_⟩
  refine bind_ok.mpr ⟨_, found, bind_ok.mpr ⟨_, (stripeKind_reads objectReads).trans kind, ?_⟩⟩
  refine bind_ok.mpr ⟨_, (requireStr_ok rt).mpr ⟨ref, referenced⟩, bind_ok.mpr ⟨_, amount, ?_⟩⟩
  rw [created, dated]
  refine congrArg Except.ok ?_
  unfold eventOf
  rw [provider, (objectReads _).1]
  rcases paid with intent | ⟨none_given, same⟩
  · rw [intent]
    rfl
  · rw [none_given, ← same]
    rfl

/-- A notice that says of its payment what the movement does. -/
structure Notes (notice : AdyenNotice) (movement : Movement) : Prop where
  psp : notice.psp = movement.providerRef
  referenced : movement.providerRef ≠ []
  named : notice.eventCode ≠ []
  kind : adyenKind notice.eventCode true = .ok movement.kind
  minor : notice.minor = movement.minor
  created : notice.created = movement.created

/-- What the adapter makes of its item. -/
theorem Itemized.decodes {kit : Kit T G} {simulator : Simulator T} {notice : AdyenNotice} {item read : Mapping} {booked : Booked T}
    (lawful : Lawful rt kit simulator) (itemized : Itemized rt kit simulator booked notice item) (reads : ReadAs item read)
    (regular : Regular booked) (provider : booked.provider = .adyen) {movement : Movement}
    (notes : Notes notice movement) : ∃ moment, (Seconds.ofInt movement.created : Option T) = some moment ∧
      fromAdyen rt read = .ok (eventOf rt booked regular movement moment (notice.psp ++ str ":" ++ notice.eventCode)) := by
  obtain ⟨psp, referenced, named, kind, minor, created⟩ := notes
  obtain ⟨moment, text, dated, iso, written⟩ := itemized.dated
  obtain ⟨nonempty, timed, whole⟩ := lawful.iso _ _ _ dated iso
  refine ⟨moment, created ▸ dated, ?_⟩
  have plain (name value : Str) (listed : (name, value) ∈ Sim.adyenFields booked notice)
      (apart : name ≠ str "value" ∧ name ≠ str "currency") : read.get name = .str value := by
    rw [(reads _).1, itemized.fields (name, value) listed apart.1 apart.2]
    rfl
  have fields : Sim.adyenFields booked notice = [(str "pspReference", notice.psp), (str "originalReference", notice.originalReference),
    (str "merchantAccountCode", Sim.merchantAccount), (str "merchantReference", booked.paymentId),
    (str "value", Str.ofInt notice.minor), (str "currency", booked.currency), (str "eventCode", notice.eventCode),
    (str "success", str "true")] := rfl
  rw [fields] at plain
  have reference := plain (str "pspReference") notice.psp (by simp) (by decide)
  have code := plain (str "eventCode") notice.eventCode (by simp) (by decide)
  have success := plain (str "success") (str "true") (by simp) (by decide)
  have payment := plain (str "merchantReference") booked.paymentId (by simp) (by decide)
  have moved : adyenMoment rt read = .ok moment := by
    have isStr : requireStr rt read (str "eventDate") = .ok text := by
      rw [requireStr_ok, (reads _).1, written]
      exact ⟨rfl, nonempty⟩
    unfold adyenMoment
    rw [isStr]
    dsimp only [Bind.bind, Except.bind]
    rw [timed]
  have amount : adyenAmount rt read = .ok (some (Str.ofInt movement.minor), some booked.currency,
      some ⟨movement.minor, booked.currency, regular.currency⟩) := by
    obtain ⟨nested, sorted, value, currency⟩ := amount_read notice.minor booked.currency
    have isMapping : (read.get (str "amount")).mapping = some nested := by
      rw [(reads _).1, itemized.amount, sorted]
      rfl
    have coded : booked.currency ≠ [] := by
      intro blank
      have valid := regular.currency
      rw [blank] at valid
      cases valid
    unfold adyenAmount
    rw [isMapping]
    refine bind_ok.mpr ⟨_, (requireInt_ok rt).mpr (minor ▸ value), bind_ok.mpr ⟨_, (requireStr_ok rt).mpr ⟨currency, coded⟩, ?_⟩⟩
    exact bind_ok.mpr ⟨_, dif_pos regular.currency, rfl⟩
  unfold fromAdyen
  refine bind_ok.mpr ⟨_, (requireStr_ok rt).mpr ⟨reference, psp ▸ referenced⟩, ?_⟩
  refine bind_ok.mpr ⟨_, (requireStr_ok rt).mpr ⟨code, named⟩, ?_⟩
  refine bind_ok.mpr ⟨true, by rw [success]; rfl, bind_ok.mpr ⟨_, kind, bind_ok.mpr ⟨_, moved, ?_⟩⟩⟩
  refine bind_ok.mpr ⟨_, amount, bind_ok.mpr ⟨_, (requireStr_ok rt).mpr ⟨payment, regular.paymentId⟩, ?_⟩⟩
  refine congrArg Except.ok ?_
  unfold eventOf
  rw [provider, psp, whole, created]

end Decode

section Deliveries
variable [Seconds T] (rt) (kit : Kit T G) (simulator : Simulator T) (config : AppConfig T)

/-- The front door finds the delivery signed. -/
def Verified (now : T) (delivery : Sim.Delivery) (body : Mapping) : Prop :=
  match delivery.provider with
  | .stripe => ∃ t, verifyStripe rt delivery.raw delivery.headers config.secrets now config.toleranceSeconds = .ok t
  | .adyen => verifyAdyen rt body (Quidz.adyenSignature rt body) config.adyenHmacKeyHex = .ok ()

/-- The service has a secret of the simulator's, and its key. -/
structure Trusts : Prop where
  secret : ∃ secret ∈ simulator.stripeSecrets, secret ∈ config.secrets
  key : config.adyenHmacKeyHex = simulator.adyenHmacKeyHex
  tolerance : 0 < config.toleranceSeconds
  dated : ∃ t : Nat, Seconds.toInt simulator.startedAt = t ∧ (Str.ofNat t).length ≤ intMaxStrDigits

/-- A signature of the start is not too old yet. -/
def Prompt (now : T) : Prop :=
  ∃ signed ∈ (Seconds.ofInt (Seconds.toInt simulator.startedAt) : Option T), now - signed ≤ config.toleranceSeconds

/-- The documents of a payment are read back as they were written, and their times are floats. -/
structure Told (booked : Booked T) : Prop where
  stripe : booked.provider = .stripe → ∀ event ∈ Sim.stripeEvents rt booked, (Seconds.ofInt event.2.1 : Option T).isSome ∧
    ∀ eventId, Sim.stripeId rt kit event [] = .ok eventId → Restored rt kit (Sim.stripePayload event eventId)
  adyen : booked.provider = .adyen → ∀ notice ∈ Sim.adyenNotices booked, ∀ item,
    Sim.adyenItem rt kit simulator booked notice = .ok item → Restored rt kit (.dict item)

/-- A delivery that is let in under its own identity, and decoded as a movement of the payment. -/
structure Announces (booked : Booked T) (regular : Regular booked) (delivery : Sim.Delivery) (movement : Movement) : Prop where
  provider : delivery.provider = booked.provider
  bare : delivery.provider = .adyen → delivery.headers = []
  verified : ∃ body, payload rt delivery.raw = .ok body ∧ identity delivery.provider body = .ok delivery.identity ∧
    ∀ now, Prompt simulator config now → Verified rt config now delivery body
  decoded : ∃ moment, (Seconds.ofInt movement.created : Option T) = some moment ∧
    decode rt delivery.provider delivery.raw = .ok (eventOf rt booked regular movement moment delivery.identity)

end Deliveries

section Payment
variable {booked : Booked T} (regular : Regular booked)

section Events
include regular

theorem intent_tells (same : booked.authRef = booked.paymentId) (created : Int) :
    Tells rt booked (str "payment_intent.amount_capturable_updated", created, Sim.intent rt booked)
      ⟨.authorize, booked.authRef, booked.authorized, created⟩ where
  distinct := (by decide : [str "id", str "object", str "amount", str "amount_capturable", str "currency"].Nodup)
  named := (by decide : str "payment_intent.amount_capturable_updated" ≠ [])
  kind := rfl
  needed := nofun
  reference := same ▸ rfl
  referenced := regular.authRef
  paid := .inr ⟨rfl, same⟩
  minor := rfl
  currency := rfl
  created := rfl

theorem charge_tells (created : Int) : Tells rt booked (str "charge.captured", created, Sim.charge rt booked)
    ⟨.capture, booked.captureRef, booked.captured, created⟩ where
  distinct := (by decide : [str "id", str "object", str "payment_intent", str "amount", str "amount_captured", str "currency"].Nodup)
  named := (by decide : str "charge.captured" ≠ [])
  kind := rfl
  needed := nofun
  reference := rfl
  referenced := regular.captureRef
  paid := .inl rfl
  minor := rfl
  currency := rfl
  created := rfl

theorem refund_tells (created : Int) : Tells rt booked (str "charge.refund.updated", created, Sim.refund rt booked)
    ⟨.refund, booked.refundRef, booked.refunded, created⟩ where
  distinct := (by decide : [str "id", str "object", str "payment_intent", str "amount", str "currency", str "status"].Nodup)
  named := (by decide : str "charge.refund.updated" ≠ [])
  kind := rfl
  needed := nofun
  reference := rfl
  referenced := regular.refundRef
  paid := .inl rfl
  minor := rfl
  currency := rfl
  created := rfl

end Events

section Announced
variable [Seconds T]

section Listed
include regular

variable (rt) in
theorem stripeEvents_tell (provider : booked.provider = .stripe) :
    List.Forall₂ (Tells rt booked) (Sim.stripeEvents rt booked) (movements booked) := by
  have unfailed : ¬(booked.provider = .adyen ∧ booked.captureFailed = true) := by simp [provider]
  unfold Sim.stripeEvents movements
  dsimp only
  rw [if_neg unfailed, List.append_nil]
  apply List.rel_append
  · apply List.rel_append
    · exact .cons (intent_tells regular (regular.intent provider) _) .nil
    · split
      next => exact .cons (charge_tells regular _) .nil
      next => exact .nil
  · split
    next => exact .cons (refund_tells regular _) .nil
    next => exact .nil

theorem adyenNotices_note (provider : booked.provider = .adyen) :
    List.Forall₂ Notes (Sim.adyenNotices booked) (movements booked) := by
  have failed : (booked.provider = .adyen ∧ booked.captureFailed = true) = (booked.captureFailed = true) := by simp [provider]
  unfold Sim.adyenNotices movements
  dsimp only
  simp only [failed]
  apply List.rel_append
  · apply List.rel_append
    · apply List.rel_append
      · exact .cons ⟨rfl, regular.authRef, (by decide : str "AUTHORISATION" ≠ []), rfl, rfl, rfl⟩ .nil
      · split
        next => exact .cons ⟨rfl, regular.captureRef, (by decide : str "CAPTURE_FAILED" ≠ []), rfl, rfl, rfl⟩ .nil
        next => exact .nil
    · split
      next => exact .cons ⟨rfl, regular.captureRef, (by decide : str "CAPTURE" ≠ []), rfl, rfl, rfl⟩ .nil
      next => exact .nil
  · split
    next => exact .cons ⟨rfl, regular.refundRef, (by decide : str "REFUND" ≠ []), rfl, rfl, rfl⟩ .nil
    next => exact .nil

end Listed

variable {kit : Kit T G} {simulator : Simulator T} {config : AppConfig T} (lawful : Lawful rt kit simulator)
  (trusts : Trusts simulator config)
include lawful trusts

/-- A Stripe delivery is let in and decoded. -/
theorem stripe_announces (provider : booked.provider = .stripe) {event : Sim.StripeEvent} {salt : Str} {movement : Movement}
    (tells : Tells rt booked event movement) (dated : (Seconds.ofInt event.2.1 : Option T).isSome) {delivery : Sim.Delivery}
    (made : Sim.stripe rt kit simulator event salt = .ok delivery)
    (restored : ∀ eventId, Sim.stripeId rt kit event salt = .ok eventId → Restored rt kit (Sim.stripePayload event eventId)) :
    Announces rt simulator config booked regular delivery movement := by
  have verifies (t : Nat) (started) (short) (now : T) (recent) := @stripe_verifies T R G rt _ kit simulator lawful event salt none t
    started short config.secrets trusts.secret now config.toleranceSeconds trusts.tolerance recent delivery made
  obtain ⟨eventId, identified, rfl⟩ := stripe_made made
  have nonempty := stripeId_ne_nil identified
  obtain ⟨read, sorted, _⟩ := sorted_perm [(str "id", .str eventId), (str "type", .str event.1),
    (str "created", .int event.2.1), (str "data", .dict [(str "object", .dict event.2.2)])]
  have payload := payload_reads sorted
  have body : Quidz.payload rt (Sim.ascii (kit.compact (Sim.stripePayload event eventId))) = .ok read := by
    refine bind_ok.mpr ⟨_, restored eventId identified, ?_⟩
    rw [show (Sim.stripePayload event eventId).sorted = .dict read from sorted]
    rfl
  obtain ⟨moment, some_⟩ := Option.isSome_iff_exists.mp dated
  rw [tells.created] at some_
  refine ⟨provider.symm, nofun, ⟨read, body, ?_, ?_⟩, moment, some_, ?_⟩
  · have id := (payload (str "id")).1
    change read.get (str "id") = .str eventId at id
    change identity .stripe read = _
    simp only [identity, id]
    rw [if_pos nonempty]
  · intro now prompt
    obtain ⟨t, started, short⟩ := trusts.dated
    refine ⟨t, verifies t started short now ?_⟩
    unfold Prompt at prompt
    rwa [started] at prompt
  · refine bind_ok.mpr ⟨_, body, ?_⟩
    exact stripe_decodes nonempty regular provider tells sorted some_

omit [Seconds T] lawful trusts in
/-- What is made one by one stands to others as each of it does. -/
theorem mapM_forall₂ {α β γ : Type} {make : α → Except Exc β} {items : List α} {made : List β} {others : List γ}
    {tells : α → γ → Prop} {announces : β → γ → Prop} (ok : items.mapM make = .ok made) (told : List.Forall₂ tells items others)
    (each : ∀ item result other, make item = .ok result → tells item other → announces result other) :
    List.Forall₂ announces made others := by
  induction told generalizing made with
  | nil =>
    obtain rfl := Except.ok.inj ok
    exact .nil
  | cons first _ ih =>
    simp only [List.mapM_cons, bind_ok, pure_eq_ok, Except.ok.injEq] at ok
    obtain ⟨result, here, rest, further, rfl⟩ := ok
    exact .cons (each _ _ _ here first) (ih further)

/-- An Adyen item is let in and decoded. -/
theorem adyen_announces (provider : booked.provider = .adyen) {notice : AdyenNotice} {movement : Movement}
    (notes : Notes notice movement) {delivery : Sim.Delivery} (made : Sim.adyen rt kit simulator booked notice = .ok delivery)
    (restored : ∀ item, Sim.adyenItem rt kit simulator booked notice = .ok item → Restored rt kit (.dict item)) :
    Announces rt simulator config booked regular delivery movement := by
  simp only [Sim.adyen, bind_ok, pure_eq_ok, Except.ok.injEq] at made
  obtain ⟨item, built, rfl⟩ := made
  have itemized := adyenItem_itemized built
  have distinct : (item.map Prod.fst).Nodup := by
    rw [itemized.keys]
    decide
  obtain ⟨read, sorted, reads⟩ := readAs_sorted distinct
  have body : payload rt (Sim.ascii (kit.compact (.dict item))) = .ok read := by
    refine bind_ok.mpr ⟨_, restored item built, ?_⟩
    rw [sorted]
    rfl
  obtain ⟨moment, dated, decoded⟩ := itemized.decodes lawful reads regular provider notes
  have found := fromAdyen_ok rt decoded
  refine ⟨provider.symm, fun _ => rfl, ⟨read, body, ?_, ?_⟩, moment, dated, bind_ok.mpr ⟨_, body, decoded⟩⟩
  · have psp : read.get (str "pspReference") = .str notice.psp := notes.psp ▸ found.pspReference
    have code : read.get (str "eventCode") = .str notice.eventCode := by
      rw [(reads _).1, itemized.fields (str "eventCode", notice.eventCode) (by simp [Sim.adyenFields])
        (by decide : str "eventCode" ≠ str "value") (by decide : str "eventCode" ≠ str "currency")]
      rfl
    change identity .adyen read = _
    simp only [identity, psp, code]
    exact if_pos ⟨notes.psp ▸ notes.referenced, notes.named⟩
  · intro now _
    change verifyAdyen rt read (Quidz.adyenSignature rt read) config.adyenHmacKeyHex = .ok ()
    rw [trusts.key]
    exact itemized.verifies lawful reads

/-- What the simulator signs and writes of a payment is let in as it was signed, and decoded as the
movements of the payment, one by one. -/
theorem deliveries_announce (told : Told rt kit simulator booked) {deliveries : List Sim.Delivery}
    (made : Sim.paymentDeliveries rt kit simulator booked = .ok deliveries) :
    List.Forall₂ (Announces rt simulator config booked regular) deliveries (movements booked) := by
  unfold Sim.paymentDeliveries at made
  split at made
  next provider =>
    have both := (List.forall₂_and_left _ _).mpr ⟨told.stripe provider, stripeEvents_tell rt regular provider⟩
    exact mapM_forall₂ made both fun event delivery movement made ⟨⟨dated, restored⟩, tells⟩ =>
      stripe_announces regular lawful trusts provider tells dated made restored
  next provider =>
    have both := (List.forall₂_and_left _ _).mpr ⟨told.adyen provider, adyenNotices_note regular provider⟩
    exact mapM_forall₂ made both fun notice delivery movement made ⟨restored, notes⟩ =>
      adyen_announces regular lawful trusts provider notes made restored

end Announced

end Payment

section Example

/-- A payment that was authorized and captured. -/
def bookedCapture : Booked Int where
  paymentId := str "pi_1"
  provider := .stripe
  currency := str "EUR"
  authorized := 1000
  captured := 1000
  refunded := 0
  captureFailed := false
  captureWebhookPending := false
  createdAt := 100
  authRef := str "pi_1"
  captureRef := str "ch_1"
  refundRef := str "re_1"

def desk : Simulator Int where
  stripeSecrets := [(str "whsec").map fun c => .ofNat c.val]
  adyenHmacKeyHex := str "00"
  startedAt := 400

/-- What is hashed of the two events, its hash, and that in base 32. -/
def hashed : List (Str × Bytes × Str) := [
  (str "payment_intent.amount_capturable_updated:pi_1:100:",
    [126, 181, 161, 61, 251, 4, 15, 63, 172, 191, 185, 11, 162, 194, 104, 24,
      56, 130, 27, 14, 150, 145, 201, 9, 211, 145, 61, 220, 106, 23, 75, 99],
    str "P222CPP3AQHT7LF7XEF2FQTIDA4IEGYOS2I4SCOTSE65Y2QXJNRQ===="),
  (str "charge.captured:ch_1:220:",
    [253, 118, 72, 39, 68, 182, 118, 97, 247, 180, 130, 197, 10, 155, 163, 188,
      206, 247, 161, 237, 37, 14, 91, 168, 101, 105, 121, 228, 148, 199, 12, 228],
    str "7V3EQJ2EWZ3GD55UQLCQVG5DXTHPPIPNEUHFXKDFNF46JFGHBTSA====")]

/-- The two payloads, and their digests under the secret at 400. -/
def digested : List (Mapping × Bytes) := [
  (stripeBody "evt_P222CPP3AQHTALF7" "payment_intent.amount_capturable_updated" 100 [
      (str "id", .str (str "pi_1")), (str "object", .str (str "payment_intent")), (str "amount", .int 1000),
      (str "amount_capturable", .int 1000), (str "currency", .str (str "eur"))],
    [12, 235, 201, 48, 87, 91, 240, 35, 255, 18, 186, 83, 146, 26, 133, 15,
      175, 63, 30, 184, 254, 116, 116, 253, 47, 159, 221, 172, 202, 104, 107, 149]),
  (stripeBody "evt_AV3EQJ2EWZ3GD55U" "charge.captured" 220 [
      (str "id", .str (str "ch_1")), (str "object", .str (str "charge")), (str "payment_intent", .str (str "pi_1")),
      (str "amount", .int 1000), (str "amount_captured", .int 1000), (str "currency", .str (str "eur"))],
    [102, 165, 25, 197, 99, 115, 44, 174, 249, 2, 34, 18, 131, 88, 80, 54,
      54, 248, 102, 193, 127, 165, 35, 12, 171, 29, 108, 247, 122, 43, 223, 252])]

/-- A payment of the other provider, to the same amounts. -/
def bookedNotice : Booked Int :=
  { bookedCapture with
    paymentId := str "order-1"
    provider := .adyen
    authRef := str "PSP_A"
    captureRef := str "PSP_C"
    refundRef := str "PSP_R" }

def noticeItem (psp originalReference eventCode eventDate : String) (digest : Bytes) : Mapping := [
  (str "pspReference", .str (str psp)),
  (str "originalReference", .str (str originalReference)),
  (str "merchantAccountCode", .str Sim.merchantAccount),
  (str "merchantReference", .str (str "order-1")),
  (str "amount", .dict [(str "value", .int 1000), (str "currency", .str (str "EUR"))]),
  (str "eventCode", .str (str eventCode)),
  (str "success", .str (str "true")),
  (str "eventDate", .str (str eventDate)),
  (str "paymentMethod", .str (str "visa")),
  (str "additionalData", .dict [(str "hmacSignature", .str (base64 digest))])]

/-- The digests of the two signing strings under the key. -/
def authorisationDigest : Bytes :=
  [168, 26, 33, 0, 130, 112, 50, 71, 141, 254, 128, 185, 181, 245, 145, 210,
    120, 66, 95, 183, 162, 178, 73, 142, 193, 16, 16, 184, 233, 146, 55, 77]

def noticeDigest : Bytes :=
  [201, 201, 248, 71, 237, 78, 253, 200, 93, 97, 87, 70, 14, 216, 23, 44,
    198, 168, 197, 206, 162, 144, 67, 158, 140, 128, 114, 103, 5, 172, 171, 11]

/-- The two items, what is signed of them, and the digests. -/
def noticed : List (Mapping × Str × Bytes) := [
  (noticeItem "PSP_A" "" "AUTHORISATION" "1970-01-01T00:01:40+00:00" authorisationDigest,
    str "PSP_A::QUIDZ_SYNTHETIC:order-1:1000:EUR:AUTHORISATION:true", authorisationDigest),
  (noticeItem "PSP_C" "PSP_A" "CAPTURE" "1970-01-01T00:03:40+00:00" noticeDigest,
    str "PSP_C:PSP_A:QUIDZ_SYNTHETIC:order-1:1000:EUR:CAPTURE:true", noticeDigest)]

/-- The dates of the items. -/
def dates : List (Str × Int) := [(str "1970-01-01T00:01:40+00:00", 100), (str "1970-01-01T00:03:40+00:00", 220)]

/-- The text without spaces, of a document whose texts have none. -/
def squeezed (value : Json) : Str := value.sorted.written.filter fun c => c ≠ codePoint ' '

def hexadecimal (raw : Bytes) : Str :=
  let digit (n : Nat) : CodePoint := .ofNat _ (if n < 10 then n + 48 else n + 87)
  raw.flatMap fun byte => [digit (byte.toNat / 16), digit (byte.toNat % 16)]

def documents : List Mapping := digested.map Prod.fst ++ noticed.map Prod.fst

def deskDigests : List Bytes := [] :: (digested.map Prod.snd ++ noticed.map fun entry => entry.2.2)

def deskRuntime : Runtime Int Unit :=
  { Runtime.recorded [] dates with
    loads := fun raw => match documents.find? fun document => Sim.ascii (squeezed (.dict document)) = raw with
      | some document => .ok (Json.dict document).sorted
      | none => raise .jsonDecodeError (str "Expecting value: line 1 column 1 (char 0)")
    fromhex := fun text => ([0] :: deskDigests).find? fun raw => hexadecimal raw = text
    b64decode := fun text => deskDigests.find? fun raw => base64 raw = text
    b64encode := base64
    hmacSha256 := fun secret payload =>
      match digested.find? fun entry => secret ∈ desk.stripeSecrets ∧
        signedPayload 400 (Sim.ascii (squeezed (.dict entry.1))) = payload with
      | some entry => entry.2
      | none =>
        match noticed.find? fun entry => secret = [0] ∧ Sim.ascii entry.2.1 = payload with
        | some entry => entry.2.2
        | none => [] }

/-- Nothing is drawn. -/
def deskKit : Kit Int Unit where
  seeded _ := ()
  randrange low _ := pure low
  choice pool := pure (pool.headD 0)
  sha256 raw := ((hashed.find? fun entry => Sim.ascii entry.1 = raw).map fun entry => entry.2.1).getD []
  b32encode raw := ((hashed.find? fun entry => entry.2.1 = raw).map fun entry => entry.2.2).getD []
  hex := hexadecimal
  compact := squeezed
  iso moment :=
    match dates.find? fun entry => entry.2 = moment with
    | some entry => .ok entry.1
    | none => raise .overflowError (str "timestamp out of range for platform time_t")
  literal n := n

def deskConfig : AppConfig Int where
  secrets := desk.stripeSecrets
  adyenHmacKeyHex := str "00"
  leaseSeconds := 30
  toleranceSeconds := 300

theorem bookedCapture_regular : Regular bookedCapture where
  currency := by decide
  paymentId := by decide
  authRef := by decide
  captureRef := by decide
  refundRef := by decide
  intent _ := rfl

theorem bookedNotice_regular : Regular bookedNotice where
  currency := by decide
  paymentId := by decide
  authRef := by decide
  captureRef := by decide
  refundRef := by decide
  intent := nofun

theorem desk_digest (key message : Bytes) : deskRuntime.hmacSha256 key message ∈ deskDigests := by
  unfold deskRuntime
  dsimp only
  split
  next entry found =>
    exact List.mem_cons_of_mem _ (List.mem_append_left _ (List.mem_map_of_mem (List.mem_of_find?_eq_some found)))
  next =>
    split
    next entry found =>
      have listed : entry.2.2 ∈ noticed.map fun entry => entry.2.2 := List.mem_map_of_mem (List.mem_of_find?_eq_some found)
      exact List.mem_cons_of_mem _ (List.mem_append_right _ listed)
    next => exact List.mem_cons_self

theorem desk_lawful : Lawful deskRuntime deskKit desk where
  words key message := by
    have plain : (deskDigests.all fun raw => (hexadecimal raw).all fun c =>
        codePoint '0' ≤ c && c ≤ codePoint '9' || codePoint 'a' ≤ c && c ≤ codePoint 'f') = true := by decide +kernel
    intro c member
    have own := List.all_eq_true.mp (List.all_eq_true.mp plain _ (desk_digest key message)) c member
    simpa only [Bool.or_eq_true, Bool.and_eq_true, decide_eq_true_eq] using own
  hex key message := by
    have read : (deskDigests.all fun raw => deskRuntime.fromhex (hexadecimal raw) = some raw) = true := by decide +kernel
    exact of_decide_eq_true (List.all_eq_true.mp read _ (desk_digest key message))
  base64 key message := by
    have read : (deskDigests.all fun raw => deskRuntime.b64decode (base64 raw) = some raw) = true := by decide +kernel
    exact of_decide_eq_true (List.all_eq_true.mp read _ (desk_digest key message))
  key := ⟨[0], by decide +kernel⟩
  iso created moment text float written := by
    have dated : (dates.all fun entry => decide (entry.1 ≠ [] ∧ deskRuntime.timestamp entry.1 = some entry.2)) = true := by
      decide +kernel
    unfold deskKit at written
    dsimp only at written
    split at written
    next entry found =>
      obtain rfl := Except.ok.inj written
      have own := of_decide_eq_true (List.all_eq_true.mp dated _ (List.mem_of_find?_eq_some found))
      have same : entry.2 = moment := by simpa using List.find?_some found
      rw [← same]
      exact ⟨own.1, own.2, same.trans (Option.some.inj float).symm⟩
    next => cases written

theorem desk_trusts : Trusts desk deskConfig where
  secret := ⟨_, List.mem_cons_self, List.mem_cons_self⟩
  key := rfl
  tolerance := by decide
  dated := ⟨400, rfl, by decide⟩

theorem desk_loads {document : Mapping} (inside : document ∈ documents) : Restored deskRuntime deskKit (.dict document) := by
  have distinct : (documents.map fun document => Sim.ascii (squeezed (.dict document))).Nodup := by decide +kernel
  have found : documents.find? (fun other => Sim.ascii (squeezed (.dict other)) = Sim.ascii (squeezed (.dict document))) =
      some document := by
    cases first : documents.find? fun other => Sim.ascii (squeezed (.dict other)) = Sim.ascii (squeezed (.dict document)) with
    | none => simpa using List.find?_eq_none.mp first document inside
    | some other =>
      have same : Sim.ascii (squeezed (.dict other)) = Sim.ascii (squeezed (.dict document)) := by simpa using List.find?_some first
      rw [List.inj_on_of_nodup_map distinct (List.mem_of_find?_eq_some first) inside same]
  have reads : deskKit.compact = squeezed := rfl
  simp only [Restored, deskRuntime, reads, found]

theorem of_toOption {α : Type} {made : Except Exc α} {value : α} (found : made.toOption = some value) : made = .ok value := by
  cases made with
  | ok other => exact congrArg _ (Option.some.inj found)
  | error exc => cases found

theorem desk_told : Told deskRuntime deskKit desk bookedCapture where
  stripe _ event member := by
    have events : Sim.stripeEvents deskRuntime bookedCapture =
        [(str "payment_intent.amount_capturable_updated", 100, Sim.intent deskRuntime bookedCapture),
          (str "charge.captured", 220, Sim.charge deskRuntime bookedCapture)] := rfl
    have first : Sim.stripeId deskRuntime deskKit
        (str "payment_intent.amount_capturable_updated", 100, Sim.intent deskRuntime bookedCapture) [] =
          .ok (str "evt_P222CPP3AQHTALF7") := of_toOption (by decide +kernel)
    have second : Sim.stripeId deskRuntime deskKit (str "charge.captured", 220, Sim.charge deskRuntime bookedCapture) [] =
        .ok (str "evt_AV3EQJ2EWZ3GD55U") := of_toOption (by decide +kernel)
    rw [events, List.mem_cons, List.mem_singleton] at member
    refine ⟨rfl, fun eventId made => ?_⟩
    rcases member with rfl | rfl
    · obtain rfl := Except.ok.inj (first.symm.trans made)
      exact desk_loads (List.mem_cons_self : _ ∈ documents)
    · obtain rfl := Except.ok.inj (second.symm.trans made)
      exact desk_loads (List.mem_cons_of_mem _ List.mem_cons_self : _ ∈ documents)
  adyen other := by cases other

theorem desk_noted : Told deskRuntime deskKit desk bookedNotice where
  stripe other := by cases other
  adyen _ notice member item made := by
    have notices : Sim.adyenNotices bookedNotice =
        [⟨str "PSP_A", str "AUTHORISATION", 1000, 100, []⟩, ⟨str "PSP_C", str "CAPTURE", 1000, 220, str "PSP_A"⟩] := rfl
    have first : Sim.adyenSignature deskRuntime desk
        (Sim.adyenFields bookedNotice ⟨str "PSP_A", str "AUTHORISATION", 1000, 100, []⟩) = .ok (base64 authorisationDigest) :=
      of_toOption (by decide +kernel)
    have second : Sim.adyenSignature deskRuntime desk
        (Sim.adyenFields bookedNotice ⟨str "PSP_C", str "CAPTURE", 1000, 220, str "PSP_A"⟩) = .ok (base64 noticeDigest) :=
      of_toOption (by decide +kernel)
    rw [notices, List.mem_cons, List.mem_singleton] at member
    unfold Sim.adyenItem at made
    obtain ⟨moment, dated, made⟩ := bind_ok.mp made
    obtain ⟨date, iso, made⟩ := bind_ok.mp made
    obtain ⟨signature, signed, made⟩ := bind_ok.mp made
    rcases member with rfl | rfl
    · cases dated
      cases iso
      obtain rfl := Except.ok.inj (first.symm.trans signed)
      cases made
      exact desk_loads (List.mem_append_right _ List.mem_cons_self : _ ∈ documents)
    · cases dated
      cases iso
      obtain rfl := Except.ok.inj (second.symm.trans signed)
      cases made
      exact desk_loads (List.mem_append_right _ (List.mem_cons_of_mem _ List.mem_cons_self) : _ ∈ documents)

/-- The service lets the deliveries of both payments in for five minutes, and reads an
authorization and a capture of each. -/
theorem deliveries_announce_captures : ∃ deliveries notices,
    Sim.paymentDeliveries deskRuntime deskKit desk bookedCapture = .ok deliveries ∧
    Sim.paymentDeliveries deskRuntime deskKit desk bookedNotice = .ok notices ∧
    List.Forall₂ (Announces deskRuntime desk deskConfig bookedCapture bookedCapture_regular) deliveries
      [⟨.authorize, str "pi_1", 1000, 100⟩, ⟨.capture, str "ch_1", 1000, 220⟩] ∧
    List.Forall₂ (Announces deskRuntime desk deskConfig bookedNotice bookedNotice_regular) notices
      [⟨.authorize, str "PSP_A", 1000, 100⟩, ⟨.capture, str "PSP_C", 1000, 220⟩] := by
  have made (booked : Booked Int) (some_ : (Sim.paymentDeliveries deskRuntime deskKit desk booked).toOption.isSome = true) :
      ∃ deliveries, Sim.paymentDeliveries deskRuntime deskKit desk booked = .ok deliveries := by
    cases answer : Sim.paymentDeliveries deskRuntime deskKit desk booked with
    | ok deliveries => exact ⟨deliveries, rfl⟩
    | error exc =>
      rw [answer] at some_
      cases some_
  obtain ⟨deliveries, sent⟩ := made bookedCapture (by decide +kernel)
  obtain ⟨notices, sent'⟩ := made bookedNotice (by decide +kernel)
  exact ⟨deliveries, notices, sent, sent', deliveries_announce bookedCapture_regular desk_lawful desk_trusts desk_told sent,
    deliveries_announce bookedNotice_regular desk_lawful desk_trusts desk_noted sent'⟩

end Example
end Quidz.Proofs
