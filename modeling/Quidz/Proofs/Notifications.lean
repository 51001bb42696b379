import Quidz.App
import Quidz.Proofs.Forgeries
import Quidz.Proofs.Transactions

/-! The items of one Adyen notification. Each item in front of the first refused one gets
its row, and those behind it get none. -/

namespace Quidz.Proofs

open Library (Table)
open AdyenBinding (signed signed_plain)

variable {T R : Type} [Seconds T]

section Claims

/-- The inbox has the delivery's row. -/
def Known (db : Db T) (id : Str) : Prop := ∃ row ∈ db.deliveries.rows, row.deliveryId = id

omit [Seconds T] in
theorem known_find? {db : Db T} {id : Str} : Known db id ↔ (db.deliveries.find? id).isSome := Table.find?_isSome.symm

variable {db after : Db T} {fresh : Delivery T} {now : T} {answer : Except Exc ClaimResult}

/-- A claim whose id can be stored is answered, and adds no row but its own. -/
theorem Claimed.knows (claimed : Claimed db fresh now answer after) (bound : fresh.deliveryId.encodable = true) :
    (∃ result, answer = .ok result) ∧ ∀ id, Known after id ↔ Known db id ∨ fresh.deliveryId = id := by
  have stored {row : Delivery T} (found : db.deliveries.find? fresh.deliveryId = some row) (id : Str) :
      Known db id ↔ Known db id ∨ fresh.deliveryId = id := by
    refine (or_iff_left_of_imp ?_).symm
    rintro rfl
    rw [known_find?, found]
    rfl
  cases claimed with
  | unbound unbound => cases bound.symm.trans unbound
  | new _ inserted =>
    refine ⟨⟨_, rfl⟩, fun id => ?_⟩
    simp only [known_find?, Table.find?_insert inserted]
    by_cases same : fresh.deliveryId = id <;> simp [same]
  | duplicate found => exact ⟨⟨_, rfl⟩, stored found⟩
  | inProgress found => exact ⟨⟨_, rfl⟩, stored found⟩
  | reclaimed found =>
    refine ⟨⟨_, rfl⟩, fun id => ?_⟩
    rw [← stored found id, known_find?, known_find?, Db.updateDelivery_deliveries, Table.find?_modify]
    split
    next same =>
      rw [← same, found]
      rfl
    next => rfl

end Claims

section Items
variable (rt : Runtime T R) (compact : Json → Str) (hmacKeyHex : Str)

/-- The item verifies under the key, and names itself. -/
def Authentic (item : Mapping) (id : Str) : Prop :=
  verifyAdyen rt item (adyenSignature rt item) hmacKeyHex = .ok () ∧ identity .adyen item = .ok id

/-- The identity under which an item is received, if it is: what is read back of its bytes
has to verify and to name itself. -/
def receivedAs (item : Mapping) : Option Str :=
  match (do payload rt (← itemBody compact item)) with
  | .error _ => none
  | .ok read =>
    match verifyAdyen rt read (adyenSignature rt read) hmacKeyHex, identity .adyen read with
    | .ok _, .ok id => some id
    | _, _ => none

/-- The identities of the items in front of the first that is not received. -/
def receivedIds : List Mapping → List Str
  | [] => []
  | item :: rest =>
    match receivedAs rt compact hmacKeyHex item with
    | some id => id :: receivedIds rest
    | none => []

variable {rt compact hmacKeyHex} {item : Mapping} {id : Str}

omit [Seconds T] in
/-- What was signed can be encoded, and so can the id that is made of it. -/
theorem Authentic.bound (authentic : Authentic rt hmacKeyHex item id) : (deliveryId .adyen id).encodable = true := by
  obtain ⟨verified, identified⟩ := authentic
  have signable : Signable rt item := by
    by_contra unsignable
    cases usable : rt.fromhex hmacKeyHex with
    | none =>
      simp only [verifyAdyen, usable] at verified
      cases verified
    | some key =>
      rw [unsignable_raises unsignable usable] at verified
      cases verified
  have plain (name : Str) (member : name ∈ adyenSignedFields) (free : name ≠ str "value" ∧ name ≠ str "currency") :
      (text rt (item.get name)).encodable = true := by
    rw [← signed_plain rt item member free]
    exact signable name member
  have reference := plain (str "pspReference") (by decide) (by decide)
  have code := plain (str "eventCode") (by decide) (by decide)
  simp only [identity] at identified
  split at identified
  next psp eventCode psp_ coded =>
    rw [psp_] at reference
    rw [coded] at code
    split at identified
    next =>
      cases identified
      simp only [deliveryId, encodable_append, Bool.and_eq_true]
      exact ⟨by decide, ⟨reference, by decide⟩, code⟩
    next => cases identified
  next => cases identified

variable (rt) in
theorem claimVerified_knows {provider : Provider} {payload : Mapping} (identified : identity provider payload = .ok id)
    (bound : (deliveryId provider id).encodable = true) (raw : Bytes) (headers : List (Str × Str)) (now leaseSeconds : T)
    (db : Db T) : ∃ result after, claimVerified rt provider payload raw headers now leaseSeconds db = (.ok result, after) ∧
      ∀ other, Known after other ↔ Known db other ∨ deliveryId provider id = other := by
  have claimed := claimed_self rt provider id raw headers now leaseSeconds db
  obtain ⟨⟨result, answered⟩, knows⟩ := claimed.knows bound
  cases outcome : claim rt provider id raw headers now leaseSeconds db with
  | mk answer after =>
    rw [outcome] at answered knows
    cases answered
    have counted : claimVerified rt provider payload raw headers now leaseSeconds db =
        (.ok result, if result.reason = .duplicate then after.bump .deduped else after) := by
      simp only [claimVerified, identified, outcome]
    refine ⟨result, _, counted, fun other => Iff.trans ?_ (knows other)⟩
    split <;> rfl

omit [Seconds T] in
theorem receivedAs_some (received : receivedAs rt compact hmacKeyHex item = some id) :
    ∃ body read, itemBody compact item = .ok body ∧ payload rt body = .ok read ∧ Authentic rt hmacKeyHex read id := by
  unfold receivedAs at received
  split at received
  next => cases received
  next read found =>
    obtain ⟨body, made, parsed⟩ := bind_ok.mp found
    split at received
    next verified identified =>
      cases received
      exact ⟨body, read, made, parsed, verified, identified⟩
    next => cases received

/-- A received item is claimed. -/
theorem receivedAs_receives (received : receivedAs rt compact hmacKeyHex item = some id) (now leaseSeconds : T) (db : Db T) :
    ∃ body result after, itemBody compact item = .ok body ∧
      receiveAdyen rt body hmacKeyHex now leaseSeconds db = (.ok result, after) ∧
      ∀ other, Known after other ↔ Known db other ∨ deliveryId .adyen id = other := by
  obtain ⟨body, read, made, parsed, authentic⟩ := receivedAs_some received
  obtain ⟨result, after, answered, knows⟩ :=
    claimVerified_knows rt authentic.2 authentic.bound body [] now leaseSeconds (db.bump .eventsReceived)
  exact ⟨body, result, after, made, by simp only [receiveAdyen, parsed, authentic.1, answered], knows⟩

/-- An item that is not received raises, and leaves the inbox as it is. -/
theorem receivedAs_raises (unreceived : receivedAs rt compact hmacKeyHex item = none) {body : Bytes}
    (made : itemBody compact item = .ok body) (now leaseSeconds : T) (db : Db T) :
    ∃ exc after, receiveAdyen rt body hmacKeyHex now leaseSeconds db = (.error exc, after) ∧ after.deliveries = db.deliveries := by
  unfold receiveAdyen
  cases parsed : payload rt body with
  | error exc => exact ⟨exc, _, rfl, rfl⟩
  | ok read =>
    cases verified : verifyAdyen rt read (adyenSignature rt read) hmacKeyHex with
    | error exc =>
      simp only [verified]
      refine ⟨exc, _, rfl, ?_⟩
      split <;> rfl
    | ok _ =>
      cases identified : identity .adyen read with
      | error exc =>
        refine ⟨exc, db.bump .eventsReceived, ?_, rfl⟩
        simp only [verified, claimVerified, identified]
      | ok id =>
        have received : receivedAs rt compact hmacKeyHex item = some id := by
          simp only [receivedAs, made, bind, Except.bind, parsed, verified, identified]
        rw [received] at unreceived
        cases unreceived

/-- After the loop the inbox knows what it knew, and the items in front of the first that is
not received. -/
theorem receiveItems_knows (items : List Mapping) (now : Nat → T) (leaseSeconds : T) (turn : Nat) (inProgress : Bool) (db : Db T)
    (other : Str) : Known (receiveItems rt compact hmacKeyHex now leaseSeconds items turn inProgress db).2 other ↔
      Known db other ∨ ∃ id ∈ receivedIds rt compact hmacKeyHex items, deliveryId .adyen id = other := by
  induction items generalizing turn inProgress db with
  | nil => simp [receiveItems, receivedIds]
  | cons item rest ih =>
    unfold receiveItems receivedIds
    cases received : receivedAs rt compact hmacKeyHex item with
    | some id =>
      obtain ⟨body, result, after, made, answered, knows⟩ := receivedAs_receives received (now turn) leaseSeconds db
      simp only [made, answered]
      rw [ih, knows, or_assoc, List.exists_mem_cons_iff]
    | none =>
      simp only [List.not_mem_nil, false_and, exists_false, or_false]
      cases made : itemBody compact item with
      | error exc => rfl
      | ok body =>
        obtain ⟨exc, after, answered, same⟩ := receivedAs_raises received made (now turn) leaseSeconds db
        have unchanged : Known after other ↔ Known db other := by rw [Known, same]; rfl
        simp only [answered]
        split
        next => exact unchanged
        next => split <;> exact unchanged

omit [Seconds T] in
theorem mem_receivedIds {items : List Mapping} : id ∈ receivedIds rt compact hmacKeyHex items ↔
    ∃ front item back, items = front ++ item :: back ∧ receivedAs rt compact hmacKeyHex item = some id ∧
      ∀ other ∈ front, (receivedAs rt compact hmacKeyHex other).isSome := by
  induction items with
  | nil => simp [receivedIds]
  | cons first rest ih =>
    unfold receivedIds
    cases received : receivedAs rt compact hmacKeyHex first with
    | none =>
      refine iff_of_false List.not_mem_nil ?_
      rintro ⟨front, item, back, split, same, before⟩
      cases front with
      | nil =>
        rw [(List.cons.inj split).1, same] at received
        cases received
      | cons other front =>
        have some_ := before other List.mem_cons_self
        rw [← (List.cons.inj split).1, received] at some_
        cases some_
    | some own =>
      simp only [List.mem_cons, ih]
      constructor
      · rintro (rfl | ⟨front, item, back, rfl, same, before⟩)
        · exact ⟨[], first, rest, rfl, received, nofun⟩
        · refine ⟨first :: front, item, back, rfl, same, List.forall_mem_cons.mpr ⟨?_, before⟩⟩
          rw [received]
          rfl
      · rintro ⟨front, item, back, split, same, before⟩
        cases front with
        | nil =>
          rw [(List.cons.inj split).1, same] at received
          exact .inl (Option.some.inj received)
        | cons other front =>
          exact .inr ⟨front, item, back, (List.cons.inj split).2, same, (List.forall_mem_cons.mp before).2⟩

end Items

section Envelopes
variable (rt : Runtime T R) (compact : Json → Str) (hmacKeyHex : Str)

/-- The items a notification carries, next to whatever else stands in it. -/
def enclosed (payload : Json) : List Mapping :=
  match payload with
  | .dict entries =>
    match Mapping.get entries (str "notificationItems") with
    | .null => [entries]
    | .list wrapped => wrapped.filterMap notificationItem
    | _ => []
  | _ => []

/-- Every entry of the notification carries an item, and one of this identity is received
behind none that is refused. -/
def Unhindered (payload : Json) (id : Str) : Prop :=
  ∃ front item back, adyenItems payload = .ok (front ++ item :: back) ∧ receivedAs rt compact hmacKeyHex item = some id ∧
    ∀ other ∈ front, (receivedAs rt compact hmacKeyHex other).isSome

variable {rt compact hmacKeyHex} {raw : Bytes} {payload : Json}

theorem adyenWebhook_knows (read : rt.loads raw = .ok payload) (now : Nat → T) (leaseSeconds : T) (db : Db T) (id : Str) :
    Known (adyenWebhook rt compact raw hmacKeyHex now leaseSeconds db).2 (deliveryId .adyen id) ↔
      Known db (deliveryId .adyen id) ∨ Unhindered rt compact hmacKeyHex payload id := by
  unfold adyenWebhook Unhindered
  simp only [read, bind, Except.bind]
  cases listed : adyenItems payload with
  | error exc =>
    simp only [reduceCtorEq, false_and, exists_false, or_false]
    split <;> rfl
  | ok items =>
    simp only [receiveItems_knows, Except.ok.injEq]
    refine or_congr_right ?_
    have own : (∃ other ∈ receivedIds rt compact hmacKeyHex items, deliveryId .adyen other = deliveryId .adyen id) ↔
        id ∈ receivedIds rt compact hmacKeyHex items := by simp [deliveryId]
    rw [own, mem_receivedIds]

/-- Every item that verifies and names itself is in the inbox after the request, exactly if
it was there before or stands, in a notification of items only, in front of the first item
that is refused. -/
theorem items_independent_iff (read : rt.loads raw = .ok payload) (now : Nat → T) (leaseSeconds : T) (db : Db T) :
    (∀ item ∈ enclosed payload, ∀ id, Authentic rt hmacKeyHex item id →
      Known (adyenWebhook rt compact raw hmacKeyHex now leaseSeconds db).2 (deliveryId .adyen id)) ↔
    ∀ item ∈ enclosed payload, ∀ id, Authentic rt hmacKeyHex item id →
      Known db (deliveryId .adyen id) ∨ Unhindered rt compact hmacKeyHex payload id := by
  simp only [adyenWebhook_knows read]

end Envelopes

/-- The compact text of a document whose texts hold no blanks. -/
def compactText (value : Json) : Str := value.written.filter (· ≠ codePoint ' ')

/-- A capture, signed or not. -/
def captureItem (signature : String) : Mapping :=
  [(str "additionalData", .dict [(str "hmacSignature", .str (str signature))]),
    (str "eventCode", .str (str "CAPTURE")), (str "pspReference", .str (str "psp_2"))]

def genuineItem : Mapping := captureItem "VNxeYxWP0lxfvxiOhPDGDXADqFeYgLdaJm7fEYjg5Ek="

def notification (items : List Mapping) : Json :=
  .dict [(str "notificationItems", .list (items.map fun item => .dict [(str "NotificationRequestItem", .dict item)]))]

def compactBody (value : Json) : Bytes := (compactText value).map fun c => .ofNat c.val

/-- The HMAC of the capture's signing string under the key `00ff`. -/
def captureDigest : Bytes :=
  [84, 220, 94, 99, 21, 143, 210, 92, 95, 191, 24, 142, 132, 240, 198, 13,
    112, 3, 168, 87, 152, 128, 183, 90, 38, 110, 223, 17, 136, 224, 228, 73]

/-- A runtime that knows the key, the signature and these items, alone and together. -/
def notified (items : List Mapping) : Runtime Int Unit :=
  { keyed [] [] with
    loads := fun raw =>
      match (notification items :: items.map Json.dict).find? fun document => compactBody document = raw with
      | some document => .ok document
      | none => raise .jsonDecodeError (str "Expecting value: line 1 column 1 (char 0)")
    b64decode := fun text =>
      if text = [] then some [] else if text = str "VNxeYxWP0lxfvxiOhPDGDXADqFeYgLdaJm7fEYjg5Ek=" then some captureDigest else none
    hmacSha256 := fun _ message =>
      if message = (str "psp_2::::::CAPTURE:").map (fun c => .ofNat c.val) then captureDigest else [] }

/-- The item and the same without its signature. -/
def forgedFirst : List Mapping := [captureItem "", genuineItem]

/-- What the webhook answers to a notification of these items, and what it leaves. -/
def notify (items : List Mapping) : Except Exc Response × Db Int :=
  adyenWebhook (notified items) compactText (compactBody (notification items)) (str "00ff") (fun _ => 0) 30 .empty

/-- A forged item keeps the genuine one behind it from the inbox. -/
theorem forged_first_hinders :
    genuineItem ∈ enclosed (notification forgedFirst) ∧
    Authentic (notified forgedFirst) (str "00ff") genuineItem (str "psp_2:CAPTURE") ∧
    (notify forgedFirst).1 = .ok ⟨401, str "hmacSignature does not match the signed field string"⟩ ∧
    ¬Known (notify forgedFirst).2 (deliveryId .adyen (str "psp_2:CAPTURE")) := by
  refine ⟨by simp [enclosed, notification, forgedFirst, notificationItem, Mapping.get, Json.mapping], ⟨?_, ?_⟩, ?_, ?_⟩
  · decide +kernel
  · decide +kernel
  · decide +kernel
  · rw [known_find?]
    decide +kernel

/-- The item and behind it the same without its signature. -/
def forgedLast : List Mapping := [genuineItem, captureItem ""]

/-- In front of the forged item, nothing keeps the genuine one from the inbox. -/
theorem items_independent_iff_genuine :
    Known (notify forgedLast).2 (deliveryId .adyen (str "psp_2:CAPTURE")) := by
  have read : (notified forgedLast).loads (compactBody (notification forgedLast)) = .ok (notification forgedLast) := by
    simp [notified]
  have both : enclosed (notification forgedLast) = [genuineItem, captureItem ""] := by
    simp [enclosed, notification, forgedLast, notificationItem, Mapping.get, Json.mapping]
  have named : identity .adyen genuineItem = .ok (str "psp_2:CAPTURE") := by decide +kernel
  have authentic : Authentic (notified forgedLast) (str "00ff") genuineItem (str "psp_2:CAPTURE") :=
    ⟨by decide +kernel, named⟩
  have forged (id : Str) : ¬Authentic (notified forgedLast) (str "00ff") (captureItem "") id := by
    rintro ⟨verified, _⟩
    revert verified
    decide +kernel
  refine (items_independent_iff read (fun _ => 0) 30 .empty).mpr ?_ genuineItem ?_ _ authentic
  · intro item member id signed
    rw [both, List.mem_cons, List.mem_singleton] at member
    rcases member with rfl | rfl
    · obtain rfl := Except.ok.inj (named.symm.trans signed.2)
      have listed : adyenItems (notification forgedLast) = .ok [genuineItem, captureItem ""] := by
        simp [adyenItems, notification, forgedLast, notificationItem, Mapping.get, Json.mapping]
      exact .inr ⟨[], genuineItem, [captureItem ""], listed, by decide +kernel, by simp⟩
    · exact absurd signed (forged id)
  · rw [both]
    exact List.mem_cons_self

end Quidz.Proofs
