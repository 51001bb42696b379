import Quidz.Library.Escape
import Quidz.Verify
import Quidz.Proofs.Decoding

/-! What an Adyen signature says about the event the ledger applies. The signed
string determines all eight fields, but the amount it carries is read from the top
level of the item where one is there, and the adapter reads the nested one. -/

namespace Quidz.Proofs.AdyenBinding

variable {T R : Type} (rt : Runtime T R)

theorem adyenEscape_eq (value : Str) :
    adyenEscape value = Library.Escape.escape (codePoint '\\') (codePoint ':') value := by
  unfold adyenEscape Str.replace Library.Escape.escape
  rw [List.flatMap_assoc]
  congr 1
  funext c
  by_cases backslash : c = codePoint '\\'
  · subst backslash; decide
  · by_cases colon : c = codePoint ':'
    · subst colon; decide
    · simp [backslash, colon]

theorem adyenSigningString_injective {first second : List (Str × Str)}
    (same : adyenSigningString first = adyenSigningString second) :
    ∀ name ∈ adyenSignedFields, (first.lookup name).getD [] = (second.lookup name).getD [] := by
  have written (item : List (Str × Str)) : adyenSigningString item =
      Library.Escape.write (codePoint '\\') (codePoint ':')
        (adyenSignedFields.map fun name => (item.lookup name).getD []) := by
    simp [adyenSigningString, Library.Escape.write, Str.join, adyenEscape_eq, Function.comp_def, str]
  rw [written, written] at same
  have fields := Library.Escape.write_injective (by decide) (by simp [adyenSignedFields])
    (by simp [adyenSignedFields]) same
  exact fun name member => List.map_inj_left.mp fields name member

/-- The signing string reads back: two assignments to the eight fields have the same one
exactly if they are equal field by field. -/
theorem signing_string_unambiguous (first second : List (Str × Str)) :
    adyenSigningString first = adyenSigningString second ↔
      ∀ name ∈ adyenSignedFields, (first.lookup name).getD [] = (second.lookup name).getD [] := by
  refine ⟨adyenSigningString_injective, fun same => ?_⟩
  unfold adyenSigningString
  congr 1
  exact List.map_congr_left fun name member => congrArg adyenEscape (same name member)

/-- One signed field of an item. -/
def signed (item : Mapping) (name : Str) : Str := ((adyenSigningFields rt item).lookup name).getD []

private theorem lookup_map {α : Type} (value : Str → α) {names : List Str} {name : Str} (member : name ∈ names) :
    (names.map fun name => (name, value name)).lookup name = some (value name) := by
  induction names with
  | nil => cases member
  | cons head rest ih =>
    by_cases here : name = head
    · subst here; simp
    · simp only [List.map_cons, List.lookup_cons, beq_eq_false_iff_ne.mpr here]
      exact ih ((List.mem_cons.mp member).resolve_left here)

theorem signed_plain (item : Mapping) {name : Str} (member : name ∈ adyenSignedFields)
    (plain : name ≠ str "value" ∧ name ≠ str "currency") : signed rt item name = text rt (item.get name) := by
  simp [signed, adyenSigningFields, lookup_map _ member, plain]

theorem signed_lifted (item : Mapping) {name : Str} (member : name ∈ adyenSignedFields)
    (lifted : name = str "value" ∨ name = str "currency") :
    signed rt item name = if text rt (item.get name) = [] then
      text rt (((item.get (str "amount")).mapping.getD []).get name) else text rt (item.get name) := by
  simp [signed, adyenSigningFields, lookup_map _ member, lifted]

/-- The value and the currency the adapter reads, as text. -/
def nestedAmount (item : Mapping) : Str × Str :=
  let nested := (item.get (str "amount")).mapping.getD []
  (text rt (nested.get (str "value")), text rt (nested.get (str "currency")))

/-- What is signed is not the amount the adapter reads: a value or a currency at
the top level of the item stands in front of the nested one. -/
def Overridden (item : Mapping) : Prop :=
  (signed rt item (str "value"), signed rt item (str "currency")) ≠ nestedAmount rt item

/-- `success` means what its signed text says. -/
theorem adyenSuccess_text {value : Json} {success : Bool} (decoded : adyenSuccess rt value = .ok success) :
    rt.lower (Str.strip rt.isspace (text rt value)) = if success then str "true" else str "false" := by
  cases value with
  | null =>
    have none : rt.lower (Str.strip rt.isspace (Json.null.toStr rt.isprintable)) = str "none" := rfl
    rw [adyenSuccess, none, if_neg (by decide), if_neg (by decide)] at decoded
    · exact absurd decoded (raise_ne_ok _ _ _)
    · exact nofun
  | bool read =>
    cases decoded
    cases success <;> rfl
  | _ =>
    simp only [adyenSuccess] at decoded
    split at decoded
    · next isTrue => cases decoded; exact isTrue
    · split at decoded
      · next isFalse => cases decoded; exact isFalse
      · exact absurd decoded (raise_ne_ok _ _ _)

private def written (amount : Option Money) : Str × Str :=
  amount.elim ([], []) fun money => (Str.ofInt money.minor, money.currency)

private theorem written_injective : Function.Injective written := by
  intro first second same
  cases first with
  | none =>
    cases second with
    | none => rfl
    | some money => exact absurd (congrArg Prod.fst same).symm (Str.ofInt_ne_nil money.minor)
  | some money =>
    cases second with
    | none => exact absurd (congrArg Prod.fst same) (Str.ofInt_ne_nil money.minor)
    | some other =>
      obtain ⟨minor, currency, _⟩ := money
      obtain ⟨minor', currency', _⟩ := other
      obtain ⟨sameMinor, rfl⟩ := Prod.mk.inj same
      cases Str.ofInt_injective sameMinor
      rfl

private theorem nestedAmount_written {item : Mapping} {amount : Option Money} (decoded : AmountOf item amount) :
    nestedAmount rt item = written amount := by
  unfold AmountOf at decoded
  unfold nestedAmount
  split at decoded
  next absent => rw [absent]; rfl
  next nested money found =>
    rw [found]
    simp only [Option.getD_some, decoded]
    rfl
  next => exact False.elim decoded

/-- The nested texts determine the amount of an accepted item, its absence
included. -/
theorem amount_eq_iff {first second : Mapping} {amount other : Option Money} (decoded : AmountOf first amount)
    (decoded' : AmountOf second other) : amount = other ↔ nestedAmount rt first = nestedAmount rt second := by
  rw [nestedAmount_written rt decoded, nestedAmount_written rt decoded', written_injective.eq_iff]

variable [Seconds T]

/-- The two events move the same amount of the same payment in the same way. -/
def SameMovement (first second : CanonicalEvent T) : Prop :=
  first.paymentId = second.paymentId ∧ first.providerRef = second.providerRef ∧ first.kind = second.kind ∧
    first.amount = second.amount

section Pair
variable {first second : Mapping} {event other : CanonicalEvent T}

omit [Seconds T] in
private theorem signed_eq (same : adyenSigningString (adyenSigningFields rt first) =
    adyenSigningString (adyenSigningFields rt second)) {name : Str} (member : name ∈ adyenSignedFields) :
    signed rt first name = signed rt second name := adyenSigningString_injective same name member

/-- Payment, reference and kind are bound by the signature; the amount is not. -/
theorem identity_bound (decoded : fromAdyen rt first = .ok event) (decoded' : fromAdyen rt second = .ok other)
    (same : adyenSigningString (adyenSigningFields rt first) = adyenSigningString (adyenSigningFields rt second)) :
    event.paymentId = other.paymentId ∧ event.providerRef = other.providerRef ∧ event.kind = other.kind := by
  have read := fromAdyen_ok rt decoded
  have read' := fromAdyen_ok rt decoded'
  have plain (name : Str) (member : name ∈ adyenSignedFields) (free : name ≠ str "value" ∧ name ≠ str "currency") :
      text rt (first.get name) = text rt (second.get name) := by
    rw [← signed_plain rt first member free, ← signed_plain rt second member free]
    exact signed_eq rt same member
  have reference := plain (str "pspReference") (by decide) (by decide)
  have payment := plain (str "merchantReference") (by decide) (by decide)
  have code := plain (str "eventCode") (by decide) (by decide)
  have succeeded := plain (str "success") (by decide) (by decide)
  obtain ⟨eventCode, success, coded, outcome, kind⟩ := read.kind
  obtain ⟨eventCode', success', coded', outcome', kind'⟩ := read'.kind
  rw [read.pspReference, read'.pspReference] at reference
  rw [read.merchantReference, read'.merchantReference] at payment
  rw [coded, coded'] at code
  have texts := adyenSuccess_text rt outcome
  rw [succeeded, adyenSuccess_text rt outcome'] at texts
  have outcomes : success = success' := by
    revert texts
    cases success <;> cases success' <;> decide
  obtain rfl : eventCode = eventCode' := code
  subst outcomes
  exact ⟨payment, reference, Except.ok.inj (kind.symm.trans kind')⟩

/-- A signature minted for one item verifies for every item with the same signed
string, and binds the movement exactly when the two items agree on what stands in
front of the nested amount. -/
theorem signature_binds_movement (decoded : fromAdyen rt first = .ok event)
    (decoded' : fromAdyen rt second = .ok other)
    (same : adyenSigningString (adyenSigningFields rt first) = adyenSigningString (adyenSigningFields rt second)) :
    (∀ signature key, verifyAdyen rt first signature key = verifyAdyen rt second signature key) ∧
    (SameMovement event other ↔
      (¬Overridden rt first ∧ ¬Overridden rt second) ∨
      (Overridden rt first ∧ Overridden rt second ∧ nestedAmount rt first = nestedAmount rt second)) := by
  constructor
  · intro signature key
    simp only [verifyAdyen, same]
  · have amounts := amount_eq_iff rt (fromAdyen_ok rt decoded).amount (fromAdyen_ok rt decoded').amount
    obtain ⟨payment, reference, kind⟩ := identity_bound rt decoded decoded' same
    have value : signed rt first (str "value") = signed rt second (str "value") := signed_eq rt same (by decide)
    have currency : signed rt first (str "currency") = signed rt second (str "currency") := signed_eq rt same (by decide)
    simp only [SameMovement, payment, reference, kind, true_and, amounts, Overridden, value, currency, not_not]
    constructor
    · intro nested
      by_cases honest : (signed rt second (str "value"), signed rt second (str "currency")) = nestedAmount rt second
      · exact .inl ⟨honest.trans nested.symm, honest⟩
      · exact .inr ⟨fun other => honest (other.trans nested), honest, nested⟩
    · rintro (⟨first, second⟩ | ⟨_, _, nested⟩)
      · exact first.symm.trans second
      · exact nested

end Pair

/-- One authorisation as the provider sends it, after the given fields. -/
def authorisation (minor : Int) (top : Mapping) : Mapping :=
  top ++ [(str "pspReference", .str (str "7914073381342284")), (str "eventCode", .str (str "AUTHORISATION")),
    (str "success", .str (str "true")), (str "eventDate", .str (str "2026-01-01T00:00:00+00:00")),
    (str "merchantReference", .str (str "order-1")), (str "merchantAccountCode", .str (str "shop")),
    (str "amount", .dict [(str "value", .int minor), (str "currency", .str (str "EUR"))])]

def signedItem : Mapping := authorisation 1000 []

/-- The signed amount repeated at the top level, and another one underneath. -/
def forgedItem : Mapping :=
  authorisation 999900 [(str "value", .int 1000), (str "currency", .str (str "EUR"))]

def newYear : Runtime Int Unit := .recorded [] [(str "2026-01-01T00:00:00+00:00", 1767225600)]

theorem forgedItem_moves_more : ∃ event other : CanonicalEvent Int,
    fromAdyen newYear signedItem = .ok event ∧ fromAdyen newYear forgedItem = .ok other ∧
    adyenSigningString (adyenSigningFields newYear signedItem) =
      adyenSigningString (adyenSigningFields newYear forgedItem) ∧
    event.amount.map Money.minor = some 1000 ∧ other.amount.map Money.minor = some 999900 ∧
    ¬SameMovement event other :=
  ⟨_, _, rfl, rfl, by decide, rfl, rfl, fun same => absurd same.2.2.2 (by decide)⟩

theorem signature_binds_movement_forgedItem :
    ∃ event other : CanonicalEvent Int, fromAdyen newYear signedItem = .ok event ∧
      fromAdyen newYear forgedItem = .ok other ∧
      (SameMovement event other ↔
        (¬Overridden newYear signedItem ∧ ¬Overridden newYear forgedItem) ∨
        (Overridden newYear signedItem ∧ Overridden newYear forgedItem ∧
          nestedAmount newYear signedItem = nestedAmount newYear forgedItem)) :=
  ⟨_, _, rfl, rfl, (signature_binds_movement newYear rfl rfl (by decide)).2⟩

end Quidz.Proofs.AdyenBinding
