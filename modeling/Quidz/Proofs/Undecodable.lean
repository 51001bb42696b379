import Quidz.Proofs.Decoding
import Quidz.Proofs.Passes

/-! Bodies that no adapter decodes. What an adapter rejects is buried at once; the
constructors it calls on the way raise errors of their own, which are tried again. -/

namespace Quidz.Proofs

open Library (Table)

variable {T R : Type} [Seconds T] (rt : Runtime T R)

section Fields

/-- What the adapters raise themselves. -/
def rejections : List ExcType := [.malformedEvent, .unknownEventType]

/-- What `Money` and `float` raise under them. -/
def oversights : List ExcType := [.valueError, .overflowError]

omit [Seconds T] in
theorem requireStr_raises (source : Mapping) (key : Str) : Raises rejections (requireStr rt source key) := by
  unfold requireStr
  split
  next value _ =>
    split
    next => exact Raises.ok value
    next => exact Raises.raise (by decide) _
  next => exact Raises.raise (by decide) _

omit [Seconds T] in
theorem requireInt_raises (source : Mapping) (key : Str) : Raises rejections (requireInt rt source key) := by
  unfold requireInt
  split
  next value _ => exact Raises.ok value
  next => exact Raises.raise (by decide) _

/-- A text that is not empty. -/
def Texted (source : Mapping) (key : Str) : Prop := ∃ value, source.get key = .str value ∧ value ≠ []

omit [Seconds T] in
theorem money_error {minor : Int} {currency : Str} {exc : Exc} (raised : Money.new rt.isprintable minor currency = .error exc) :
    exc.type = .valueError ∧ validCurrency currency = false := by
  unfold Money.new at raised
  split at raised
  next => cases raised
  next invalid =>
    cases raised
    exact ⟨rfl, by simpa using invalid⟩

/-- An amount as both adapters read it. -/
def priced (source : Mapping) (field : Str) (code : Str → Str) : Except Exc Amount := do
  let minor ← requireInt rt source field
  let currency ← requireStr rt source (str "currency")
  let money ← Money.new rt.isprintable minor (code currency)
  return (some (Str.ofInt minor), some currency, some money)

/-- An integer, and a text beside it whose code is a currency's or not. -/
def Priced (source : Mapping) (field : Str) (code : Str → Str) (valid : Bool) : Prop :=
  ∃ minor currency, source.get field = .int minor ∧ source.get (str "currency") = .str currency ∧ currency ≠ [] ∧
    validCurrency (code currency) = valid

omit [Seconds T] in
theorem priced_ok {source : Mapping} {field : Str} {code : Str → Str} :
    (∃ amount, priced rt source field code = .ok amount) ↔ Priced source field code true := by
  simp only [priced, bind_ok, requireInt_ok, requireStr_ok, pure_eq_ok]
  constructor
  · rintro ⟨_, minor, isInt, currency, ⟨isStr, nonempty⟩, money, made, _⟩
    exact ⟨minor, currency, isInt, isStr, nonempty, (Money.new_ok made).2 ▸ money.valid⟩
  · rintro ⟨minor, currency, isInt, isStr, nonempty, valid⟩
    exact ⟨_, minor, isInt, currency, ⟨isStr, nonempty⟩, ⟨minor, code currency, valid⟩, dif_pos valid, rfl⟩

omit [Seconds T] in
theorem priced_invalid {source : Mapping} {field : Str} {code : Str → Str} (miscoded : Priced source field code false) :
    ∃ exc, priced rt source field code = .error exc ∧ exc.type = .valueError := by
  obtain ⟨minor, currency, isInt, isStr, nonempty, invalid⟩ := miscoded
  simp only [priced, bind_error, requireInt_ok, requireStr_ok]
  cases made : Money.new rt.isprintable minor (code currency) with
  | ok money =>
    have valid := money.valid
    rw [(Money.new_ok made).2, invalid] at valid
    cases valid
  | error exc =>
    exact ⟨exc, .inr ⟨minor, isInt, .inr ⟨currency, ⟨isStr, nonempty⟩, .inl made⟩⟩, (money_error rt made).1⟩

omit [Seconds T] in
theorem priced_error {source : Mapping} {field : Str} {code : Str → Str} {exc : Exc}
    (raised : priced rt source field code = .error exc) :
    exc.type ∈ rejections ∨ exc.type = .valueError ∧ Priced source field code false := by
  simp only [priced, bind_error, requireInt_ok, requireStr_ok, pure_eq_ok] at raised
  rcases raised with raised | ⟨minor, isInt, raised | ⟨currency, ⟨isStr, nonempty⟩, raised | ⟨money, _, raised⟩⟩⟩
  · exact .inl (requireInt_raises rt _ _ exc raised)
  · exact .inl (requireStr_raises rt _ _ exc raised)
  · obtain ⟨type, invalid⟩ := money_error rt raised
    exact .inr ⟨type, minor, currency, isInt, isStr, nonempty, invalid⟩
  · cases raised

end Fields

section Stripe

/-- The field a Stripe object carries the amount of an event in. -/
def stripeField (kind : EffectKind) (object : Mapping) : Str :=
  if kind = .authorize then
    if object.has (str "amount_capturable") then str "amount_capturable" else str "amount"
  else if kind = .capture then
    if object.has (str "amount_captured") then str "amount_captured" else str "amount"
  else str "amount"

omit [Seconds T] in
theorem stripeAmount_eq (kind : EffectKind) (object : Mapping) : stripeAmount rt kind object =
    if kind = .void ∨ kind = .expire then .ok (none, none, none)
    else priced rt object (stripeField kind object) rt.upper := by
  unfold stripeAmount
  split
  next => rfl
  next => rfl

theorem stripeObject_raises (body : Mapping) : Raises rejections (stripeObject body) := by
  unfold stripeObject
  split
  next data _ =>
    apply Raises.bind (Raises.ok data)
    intro data
    beta_reduce
    split
    next object _ => exact Raises.ok object
    next => exact Raises.raise (by decide) _
  next => exact Raises.raise (by decide) _

omit [Seconds T] in
theorem stripeKind_raises (eventType : Str) (object : Mapping) : Raises rejections (stripeKind rt eventType object) := by
  unfold stripeKind
  split
  next =>
    split
    next => exact Raises.ok _
    next => exact Raises.ok _
  next =>
    split
    next kind _ => exact Raises.ok kind
    next => exact Raises.raise (by decide) _

/-- What `fromStripe` has read of a body before it comes to the amount. -/
structure StripeRead (body : Mapping) (created : Int) (kind : EffectKind) (object : Mapping) : Prop where
  identity : Texted body (str "id")
  eventType : ∃ eventType, body.get (str "type") = .str eventType ∧ eventType ≠ [] ∧ stripeKind rt eventType object = .ok kind
  created : body.get (str "created") = .int created
  carried : stripeObject body = .ok object
  providerRef : Texted object (str "id")

/-- The two bodies that `fromStripe` gets wrong: a currency that is none, and a time that
no float holds. -/
inductive StripeMisread (body : Mapping) : Prop where
  | currency {created kind object} (read : StripeRead rt body created kind object) (moves : ¬(kind = .void ∨ kind = .expire))
      (miscoded : Priced object (stripeField kind object) rt.upper false)
  | created {created kind object} (read : StripeRead rt body created kind object)
      (prices : kind = .void ∨ kind = .expire ∨ Priced object (stripeField kind object) rt.upper true)
      (distant : (Seconds.ofInt created : Option T) = none)

omit [Seconds T] in
theorem stripeAmount_error {kind : EffectKind} {object : Mapping} {exc : Exc} (raised : stripeAmount rt kind object = .error exc) :
    exc.type ∈ rejections ∨
      exc.type = .valueError ∧ ¬(kind = .void ∨ kind = .expire) ∧ Priced object (stripeField kind object) rt.upper false := by
  rw [stripeAmount_eq] at raised
  split at raised
  next => cases raised
  next moves =>
    rcases priced_error rt raised with rejected | ⟨type, miscoded⟩
    · exact .inl rejected
    · exact .inr ⟨type, moves, miscoded⟩

theorem fromStripe_error {body : Mapping} {exc : Exc} (raised : (fromStripe rt body : Except Exc (CanonicalEvent T)) = .error exc) :
    exc.type ∈ rejections ∨ exc.type ∈ oversights ∧ StripeMisread rt body := by
  simp only [fromStripe, bind_error, requireStr_ok, requireInt_ok, Prod.exists, pure_eq_ok] at raised
  rcases raised with raised | ⟨identity, identified, raised⟩
  · exact .inl (requireStr_raises rt _ _ exc raised)
  rcases raised with raised | ⟨eventType, ⟨typed, nonempty⟩, raised⟩
  · exact .inl (requireStr_raises rt _ _ exc raised)
  rcases raised with raised | ⟨created, dated, raised⟩
  · exact .inl (requireInt_raises rt _ _ exc raised)
  rcases raised with raised | ⟨object, carried, raised⟩
  · exact .inl (stripeObject_raises _ exc raised)
  rcases raised with raised | ⟨kind, mapped, raised⟩
  · exact .inl (stripeKind_raises rt _ _ exc raised)
  rcases raised with raised | ⟨providerRef, referenced, raised⟩
  · exact .inl (requireStr_raises rt _ _ exc raised)
  have read : StripeRead rt body created kind object :=
    ⟨⟨identity, identified⟩, ⟨eventType, typed, nonempty, mapped⟩, dated, carried, ⟨providerRef, referenced⟩⟩
  rcases raised with raised | ⟨value, currency, amount, measured, raised⟩
  · rcases stripeAmount_error rt raised with rejected | ⟨type, moves, miscoded⟩
    · exact .inl rejected
    · exact .inr ⟨by simp [oversights, type], .currency read moves miscoded⟩
  · split at raised
    next => cases raised
    next distant =>
      cases raised
      refine .inr ⟨by decide, .created read ?_ distant⟩
      rw [stripeAmount_eq] at measured
      split at measured
      next moves => exact moves.imp_right .inl
      next moves => exact .inr (.inr ((priced_ok rt).mp ⟨_, measured⟩))

theorem StripeMisread.raises {body : Mapping} (misread : StripeMisread rt body) :
    ∃ exc, (fromStripe rt body : Except Exc (CanonicalEvent T)) = .error exc ∧ exc.type ∈ oversights := by
  obtain ⟨created, kind, object, read, raises⟩ : ∃ created kind object, StripeRead rt body created kind object ∧
      ((∃ exc, stripeAmount rt kind object = .error exc ∧ exc.type = .valueError) ∨
        (∃ amount, stripeAmount rt kind object = .ok amount) ∧ (Seconds.ofInt created : Option T) = none) := by
    cases misread with
    | @currency created kind object read moves miscoded =>
      refine ⟨created, kind, object, read, .inl ?_⟩
      rw [stripeAmount_eq, if_neg moves]
      exact priced_invalid rt miscoded
    | @created created kind object read prices distant =>
      refine ⟨created, kind, object, read, .inr ⟨?_, distant⟩⟩
      rw [stripeAmount_eq]
      split
      next => exact ⟨_, rfl⟩
      next moves => exact (priced_ok rt).mpr ((or_assoc.mpr prices).resolve_left moves)
  obtain ⟨⟨identity, identified⟩, ⟨eventType, typed, nonempty, mapped⟩, dated, carried, ⟨providerRef, referenced⟩⟩ := read
  have first := (requireStr_ok rt).mpr identified
  have second := (requireStr_ok rt).mpr ⟨typed, nonempty⟩
  have third := (requireInt_ok rt).mpr dated
  have last := (requireStr_ok rt).mpr referenced
  simp only [fromStripe, bind_error, first, second, third, carried, mapped, last, reduceCtorEq, false_or, Except.ok.injEq,
    exists_eq_left']
  rcases raises with ⟨exc, raised, type⟩ | ⟨⟨amount, measured⟩, distant⟩
  · exact ⟨exc, .inl raised, by simp [oversights, type]⟩
  · refine ⟨⟨.overflowError, str "int too large to convert to float"⟩, .inr ⟨amount, measured, ?_⟩, by decide⟩
    rw [distant]
    rfl

end Stripe

section Adyen

omit [Seconds T] in
theorem adyenSuccess_raises (value : Json) : Raises rejections (adyenSuccess rt value) := by
  unfold adyenSuccess
  split
  next success => exact Raises.ok success
  next =>
    simp only
    split
    next => exact Raises.ok true
    next =>
      split
      next => exact Raises.ok false
      next => exact Raises.raise (by decide) _

theorem adyenKind_raises (eventCode : Str) (success : Bool) : Raises rejections (adyenKind eventCode success) := by
  unfold adyenKind
  split
  next kind _ => exact Raises.ok kind
  next => exact Raises.raise (by decide) _

omit [Seconds T] in
theorem adyenMoment_raises (item : Mapping) : Raises rejections (adyenMoment rt item) := by
  unfold adyenMoment
  apply Raises.bind (requireStr_raises rt _ _)
  intro text
  split
  next moment _ => exact Raises.ok moment
  next => exact Raises.raise (by decide) _

/-- The one item that `fromAdyen` gets wrong: its amount is in a currency that is none. -/
structure AdyenMisread (item : Mapping) : Prop where
  pspReference : Texted item (str "pspReference")
  pair : ∃ eventCode success kind, item.get (str "eventCode") = .str eventCode ∧ eventCode ≠ [] ∧
    adyenSuccess rt (item.get (str "success")) = .ok success ∧ adyenKind eventCode success = .ok kind
  dated : ∃ text moment, item.get (str "eventDate") = .str text ∧ text ≠ [] ∧ rt.timestamp text = some moment
  miscoded : ∃ amount, (item.get (str "amount")).mapping = some amount ∧ Priced amount (str "value") id false

omit [Seconds T] in
theorem adyenMoment_ok {item : Mapping} {moment : T} : adyenMoment rt item = .ok moment ↔
    ∃ text, item.get (str "eventDate") = .str text ∧ text ≠ [] ∧ rt.timestamp text = some moment := by
  simp only [adyenMoment, bind_ok, requireStr_ok, and_assoc]
  apply exists_congr
  intro text
  cases rt.timestamp text with
  | none => simp
  | some _ => simp

theorem fromAdyen_error {item : Mapping} {exc : Exc} (raised : fromAdyen rt item = .error exc) :
    exc.type ∈ rejections ∨ exc.type ∈ oversights ∧ AdyenMisread rt item := by
  simp only [fromAdyen, bind_error, requireStr_ok, Prod.exists, pure_eq_ok] at raised
  rcases raised with raised | ⟨pspReference, referenced, raised⟩
  · exact .inl (requireStr_raises rt _ _ exc raised)
  rcases raised with raised | ⟨eventCode, ⟨coded, nonempty⟩, raised⟩
  · exact .inl (requireStr_raises rt _ _ exc raised)
  rcases raised with raised | ⟨success, succeeded, raised⟩
  · exact .inl (adyenSuccess_raises rt _ exc raised)
  rcases raised with raised | ⟨kind, mapped, raised⟩
  · exact .inl (adyenKind_raises _ _ exc raised)
  rcases raised with raised | ⟨moment, dated, raised⟩
  · exact .inl (adyenMoment_raises rt _ exc raised)
  rcases raised with raised | ⟨value, currency, amount, _, raised | ⟨_, _, raised⟩⟩
  · unfold adyenAmount at raised
    split at raised
    next nested found =>
      rcases priced_error rt raised with rejected | ⟨type, miscoded⟩
      · exact .inl rejected
      · obtain ⟨text, dated⟩ := (adyenMoment_ok rt).mp dated
        exact .inr ⟨by simp [oversights, type], ⟨_, referenced⟩, ⟨_, _, _, coded, nonempty, succeeded, mapped⟩,
          ⟨text, moment, dated⟩, nested, found, miscoded⟩
    next => cases raised
  · exact .inl (requireStr_raises rt _ _ exc raised)
  · cases raised

theorem AdyenMisread.raises {item : Mapping} (misread : AdyenMisread rt item) :
    ∃ exc, fromAdyen rt item = .error exc ∧ exc.type ∈ oversights := by
  obtain ⟨⟨pspReference, referenced⟩, ⟨eventCode, success, kind, coded, nonempty, succeeded, mapped⟩, ⟨text, moment, dated⟩,
    nested, found, miscoded⟩ := misread
  obtain ⟨exc, raised, type⟩ := priced_invalid rt miscoded
  have first := (requireStr_ok rt).mpr referenced
  have second := (requireStr_ok rt).mpr ⟨coded, nonempty⟩
  have third := (adyenMoment_ok rt).mpr ⟨text, dated⟩
  have last : adyenAmount rt item = .error exc := by
    unfold adyenAmount
    rw [found]
    exact raised
  refine ⟨exc, ?_, by simp [oversights, type]⟩
  simp only [fromAdyen, bind_error, first, second, succeeded, mapped, third, last, reduceCtorEq, false_or, Except.ok.injEq,
    exists_eq_left', true_or]

end Adyen

section Classified

variable {provider : Provider} {raw : Bytes} {exc : Exc}

/-- A body that its adapter gets wrong. -/
def Misread (provider : Provider) (raw : Bytes) : Prop :=
  ∃ body, payload rt raw = .ok body ∧
    match provider with
    | .stripe => StripeMisread rt body
    | .adyen => AdyenMisread rt body

/-- What `json` and the adapters raise of a body that is at fault itself. -/
def bodyFaults : List ExcType := [.jsonDecodeError, .unicodeDecodeError, .malformedEvent, .unknownEventType]

omit [Seconds T] in
theorem payload_raises (json : ∀ raw exc, rt.loads raw = .error exc → exc.type = .jsonDecodeError ∨ exc.type = .unicodeDecodeError)
    (raw : Bytes) : Raises bodyFaults (payload rt raw) := by
  unfold payload
  apply Raises.bind
  · intro exc raised
    rcases json raw exc raised with type | type
    all_goals simp [bodyFaults, type]
  · intro value
    cases value with
    | dict entries => exact Raises.ok entries
    | _ => exact Raises.raise (by decide) _

theorem decode_error (json : ∀ raw exc, rt.loads raw = .error exc → exc.type = .jsonDecodeError ∨ exc.type = .unicodeDecodeError)
    (raised : decode rt provider raw = .error exc) : exc.type ∈ bodyFaults ∨ exc.type ∈ oversights ∧ Misread rt provider raw := by
  have lists (type : ExcType) (rejected : type ∈ rejections) : type ∈ bodyFaults := by
    revert type
    decide
  simp only [decode, bind_error] at raised
  rcases raised with raised | ⟨body, read, raised⟩
  · exact .inl (payload_raises rt json raw exc raised)
  · cases provider with
    | stripe => exact (fromStripe_error rt raised).imp (lists _) fun ⟨type, misread⟩ => ⟨type, body, read, misread⟩
    | adyen => exact (fromAdyen_error rt raised).imp (lists _) fun ⟨type, misread⟩ => ⟨type, body, read, misread⟩

theorem Misread.raises (misread : Misread rt provider raw) :
    ∃ exc, decode rt provider raw = .error exc ∧ exc.type ∈ oversights := by
  obtain ⟨body, read, misread⟩ := misread
  simp only [decode, read, bind_error, reduceCtorEq, false_or, Except.ok.injEq, exists_eq_left']
  cases provider with
  | stripe => exact StripeMisread.raises rt misread
  | adyen => exact AdyenMisread.raises rt misread

end Classified

section Drained

theorem fault_permanent {exc : Exc} (listed : exc.type ∈ bodyFaults) (known : exc.type ≠ .unknownEventType) :
    (classify exc).retryable = false := by
  obtain ⟨type, message⟩ := exc
  simp only [bodyFaults, List.mem_cons, List.not_mem_nil, or_false] at listed
  rcases listed with rfl | rfl | rfl | rfl
  · rfl
  · rfl
  · rfl
  · exact absurd rfl known

theorem oversight_retried {exc : Exc} (listed : exc.type ∈ oversights) : (classify exc).retryable = true := by
  obtain ⟨type, message⟩ := exc
  simp only [oversights, List.mem_cons, List.not_mem_nil, or_false] at listed
  rcases listed with rfl | rfl
  · rfl
  · rfl

/-- No attempt follows the first one: whatever pass selects the delivery as it is stored,
and whenever, the delivery is dead-lettered by it. -/
def Buried (provider : Provider) (raw : Bytes) (exc : Exc) : Prop :=
  (classify exc).retryable = false ∧
    ∀ (policy : RetryPolicy T) (now : T) (limit : Int) (rng : Option R) (faults : Str → Option Exc) (db : Db T) (row : Delivery T),
      db.deliveries.find? row.deliveryId = some row → row.provider = provider → row.raw = raw →
      row.selected ∈ selectDue db now limit → faults row.deliveryId = none →
      (drain rt policy now limit rng faults db).db.deliveries.find? row.deliveryId = some
        { row with
          state := .deadLettered, attempts := row.attempts + 1, reasonCode := some (classify exc).code
          nextAttemptAt := none, leaseExpiresAt := none }

theorem drainRow_undecodable {policy : RetryPolicy T} {now : T} {faults : Str → Option Exc} {pass : Pass T R} {row : Selected}
    {exc : Exc} (undecodable : decode rt row.provider row.raw = .error exc) (sound : faults row.deliveryId = none) :
    drainRow rt policy now faults pass row = handle rt policy now row exc pass := by
  simp only [drainRow, attempt, writeTx, sound, undecodable]

/-- A reason that is not tried again buries the delivery at once. -/
theorem buried_of_permanent {provider : Provider} {raw : Bytes} {exc : Exc} (undecodable : decode rt provider raw = .error exc)
    (permanent : (classify exc).retryable = false) : Buried rt provider raw exc := by
  refine ⟨permanent, fun policy now limit rng faults db row stored same bytes selected sound => ?_⟩
  obtain ⟨pass, found, left⟩ := drain_row rt policy now limit rng faults db selected
  rw [← same, ← bytes] at undecodable
  have never : retryDelay rt policy row.selected exc pass.budgetUsed pass.rng = none := by
    simp [retryDelay, shouldRetry, permanent]
  refine left.trans ?_
  have attempted : pass.db.deliveries.find? row.selected.deliveryId = some row := found.trans stored
  rw [drainRow_undecodable rt undecodable sound, handle_deliveries, never, Table.find?_modify, if_pos rfl, attempted]
  rfl

/-- What cannot be decoded is buried at its first attempt, unless the body is misread. -/
theorem undecodable_buried_iff
    (json : ∀ raw exc, rt.loads raw = .error exc → exc.type = .jsonDecodeError ∨ exc.type = .unicodeDecodeError)
    {provider : Provider} {raw : Bytes} {exc : Exc} (undecodable : decode rt provider raw = .error exc)
    (known : exc.type ≠ .unknownEventType) : Buried rt provider raw exc ↔ ¬Misread rt provider raw := by
  constructor
  · rintro ⟨permanent, _⟩ misread
    obtain ⟨raised, same, type⟩ := misread.raises
    rw [undecodable] at same
    obtain rfl := Except.error.inj same
    rw [oversight_retried type] at permanent
    cases permanent
  · intro sound
    apply buried_of_permanent rt undecodable
    rcases decode_error rt json undecodable with listed | ⟨_, misread⟩
    · exact fault_permanent listed known
    · exact absurd misread sound

end Drained

/-- An authorization in a currency of two letters. -/
def misread : Mapping := stripeBody "evt_1" "payment_intent.amount_capturable_updated" 100
  [(str "id", .str (str "pi_1")), (str "amount_capturable", .int 1000), (str "currency", .str (str "eu"))]

/-- The authorization of no payment. -/
def unreferenced : Mapping :=
  [(str "pspReference", .str (str "psp_1")), (str "eventCode", .str (str "AUTHORISATION")), (str "success", .bool true),
    (str "eventDate", .str (str "2026-01-01T00:00:00Z"))]

def misreading : Runtime Int Unit := .recorded [misread, unreferenced] [(str "2026-01-01T00:00:00Z", 1767225600)]

theorem misreading_json (raw : Bytes) (exc : Exc) (raised : misreading.loads raw = .error exc) :
    exc.type = .jsonDecodeError ∨ exc.type = .unicodeDecodeError := by
  simp only [misreading, Runtime.recorded] at raised
  split at raised
  · cases raised
  · cases raised
    exact .inl rfl

theorem undecodable_buried_iff_unreferenced :
    let exc : Exc := ⟨.malformedEvent, str "field 'merchantReference' must be a non empty string, got None"⟩
    decode misreading .adyen (Json.body unreferenced) = .error exc ∧
      (Buried misreading .adyen (Json.body unreferenced) exc ↔ ¬Misread misreading .adyen (Json.body unreferenced)) := by
  intro exc
  have undecodable : decode misreading .adyen (Json.body unreferenced) = .error exc := by decide +kernel
  exact ⟨undecodable, undecodable_buried_iff misreading misreading_json undecodable (by decide)⟩

/-- The delivery of the two letters is due again after its first attempt. -/
theorem misread_retried :
    let exc : Exc := ⟨.valueError, str "currency must be three uppercase ASCII letters, got 'EU'"⟩
    decode misreading .stripe (Json.body misread) = .error exc ∧ exc.type ≠ .unknownEventType ∧
      ¬Buried misreading .stripe (Json.body misread) exc ∧
      let db := (Shared.run misreading { db := .empty } [.claim .stripe (str "evt_1") (Json.body misread) [] 0 30]).db
      let after := (drain misreading .standard 1 100 none (fun _ => none) db).db
      (after.deliveries.find? (str "stripe:evt_1")).map (fun row => (row.state, row.attempts, row.nextAttemptAt)) =
        some (.claimed, 1, some 3) := by
  intro exc
  refine ⟨by decide +kernel, by decide, fun buried => ?_, by decide +kernel⟩
  exact absurd buried.1 (by decide)

end Quidz.Proofs
