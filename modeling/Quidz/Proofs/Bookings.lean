import Quidz.Proofs.Entries
import Quidz.Proofs.Signing

/-! From the simulator's book to the ledger's. A service that takes in what was made of the
booked payments, and drains, has applied every delivery, and holds of each payment what was
booked. -/

namespace Quidz.Proofs

open Library (Path)
open Sim (Booked Simulator Kit)

variable {T R G : Type} [Seconds T] {rt : Runtime T R}

section Amounts

/-- The amounts of a payment follow from one another, and the tables have room for it. -/
structure Funded (booked : Booked T) : Prop where
  authorized : 0 < booked.authorized ∧ booked.authorized < 2 ^ 63
  captured : 0 ≤ booked.captured ∧ booked.captured ≤ booked.authorized
  refunded : 0 ≤ booked.refunded ∧ booked.refunded ≤ booked.captured
  announced : booked.refunded ≠ 0 → booked.announced
  created : Fits (Seconds.toInt booked.createdAt) ∧ Fits (Seconds.toInt booked.createdAt + 7200)
  texts : ∀ text ∈ [booked.paymentId, booked.authRef, booked.captureRef, booked.refundRef], text.encodable = true

/-- What the ledger holds of a booked payment so far. -/
structure Stands (booked : Booked T) (captured failed refunded low high : Int) (state : PaymentState) : Prop where
  paymentId : state.paymentId = booked.paymentId
  currency : state.currency = booked.currency
  authorized : state.authorizedMinor = booked.authorized
  captured : state.capturedMinor = captured
  failed : state.captureFailedMinor = failed
  refunded : state.refundedMinor = refunded
  corrected : state.refundFailedMinor = 0
  live : state.voided = false ∧ state.expired = false
  rank : low ≤ state.rank ∧ state.rank ≤ high
  binds : bindPayment state = .ok ()

/-- Whatever the time and the identity of its event, the movement is accepted. -/
def Moves (rt : Runtime T R) (booked : Booked T) (regular : Regular booked) (state : PaymentState) (movement : Movement)
    (updated : PaymentState) : Prop :=
  (∀ moment identity, applyEffect state (eventOf rt booked regular movement moment identity) = .ok updated) ∧
    bindPayment updated = .ok ()

variable {booked : Booked T} (regular : Regular booked) (funded : Funded booked)

/-- What is captured and refunded in the end. -/
def capturedOf (booked : Booked T) : Int := if booked.announced then booked.captured else 0

def failedOf (booked : Booked T) : Int := if booked.provider = .adyen ∧ booked.captureFailed then booked.authorized else 0

section Steps
variable {state : PaymentState} {created : Int}

omit [Seconds T] in
theorem Stands.widen {captured failed refunded low high low' high' : Int}
    (stands : Stands booked captured failed refunded low high state) (below : low' ≤ low) (above : high ≤ high') :
    Stands booked captured failed refunded low' high' state :=
  { stands with rank := ⟨below.trans stands.rank.1, stands.rank.2.trans above⟩ }

variable (rt) in
omit [Seconds T] in
/-- A movement is accepted as whatever event of its kind and amount. -/
theorem movement_accepted {movement : Movement} (currency : state.currency = booked.currency) (nonneg : 0 ≤ movement.minor)
    (accepts : ∀ event : CanonicalEvent T, event.kind = movement.kind → Carries state event movement.minor →
      Accepts state event (folded state movement.kind movement.minor event.sequence)) (moment : T) (identity : Str) :
    applyEffect state (eventOf rt booked regular movement moment identity) =
      .ok (folded state movement.kind movement.minor movement.created) := by
  apply applyEffect_ok.mpr
  exact accepts _ rfl ⟨_, rfl, currency.symm, nonneg, rfl⟩

omit [Seconds T] in
theorem currency_encodable {currency : Str} (valid : validCurrency currency = true) : currency.encodable = true := by
  simp only [validCurrency, Bool.and_eq_true, List.all_eq_true, decide_eq_true_eq] at valid
  refine List.all_eq_true.mpr fun c member => ?_
  have bound : c.val ≤ 90 := (valid.2 c member).2
  simp only [Str.isSurrogate, Bool.not_eq_true', Bool.and_eq_false_iff, decide_eq_false_iff_not]
  omega

variable (rt) (fits : Fits created)
include funded fits

theorem authorize_moves : ∃ updated, Moves rt booked regular { paymentId := booked.paymentId, currency := booked.currency }
      ⟨.authorize, booked.authRef, booked.authorized, created⟩ updated ∧ Stands booked 0 0 0 10 10 updated := by
  obtain ⟨positive, room⟩ := funded.authorized
  let opened : PaymentState := { paymentId := booked.paymentId, currency := booked.currency }
  have opens : bindPayment opened = .ok () := by
    apply bindPayment_fits.mpr
    exact ⟨funded.texts _ List.mem_cons_self, currency_encodable regular.currency, by simp [opened, Fits]⟩
  have binds : bindPayment (folded opened .authorize booked.authorized created) = .ok () := by
    apply (folded_fits opens fits).mpr
    simp only [opened, fold, Fits]
    omega
  refine ⟨folded opened .authorize booked.authorized created, ⟨?_, binds⟩, ?_⟩
  · apply movement_accepted rt regular rfl positive.le
    intro event kind carries
    exact .authorize kind carries le_rfl (by norm_num : (0 : Int) ≤ 10)
  · refine ⟨rfl, rfl, rfl, rfl, rfl, rfl, rfl, ⟨rfl, rfl⟩, ?_, binds⟩
    simp [folded, fold, deriveStatus, stateRank, opened, positive]

theorem captureFail_moves (stands : Stands booked 0 0 0 10 10 state) : ∃ updated, Moves rt booked regular state
      ⟨.captureFail, booked.captureRef, booked.authorized, created⟩ updated ∧ Stands booked 0 booked.authorized 0 10 20 updated := by
  obtain ⟨positive, room⟩ := funded.authorized
  obtain ⟨paymentId, currency, authorized, captured, failed, refunded, corrected, ⟨voided, expired⟩, ⟨low, high⟩, held⟩ := stands
  have binds : bindPayment (folded state .captureFail booked.authorized created) = .ok () := by
    apply (folded_fits held fits).mpr
    simp only [fold, Fits, authorized, captured, failed, refunded, corrected]
    omega
  refine ⟨folded state .captureFail booked.authorized created, ⟨?_, binds⟩, ?_⟩
  · apply movement_accepted rt regular currency positive.le
    intro event kind carries
    exact .captureFail kind carries low (by omega)
  · refine ⟨paymentId, currency, authorized, captured, ?_, refunded, corrected, ⟨voided, expired⟩, ?_, binds⟩
    · simp [folded, fold, failed]
    · simp [folded, fold, deriveStatus, stateRank, captured, failed, voided, expired, positive]
      omega

theorem capture_moves {failed : Int} (stands : Stands booked 0 failed 0 10 20 state) (some_ : booked.captured ≠ 0) :
    ∃ updated, Moves rt booked regular state ⟨.capture, booked.captureRef, booked.captured, created⟩ updated ∧
      Stands booked booked.captured failed 0 40 50 updated := by
  obtain ⟨positive, room⟩ := funded.authorized
  obtain ⟨nonneg, within⟩ := funded.captured
  obtain ⟨paymentId, currency, authorized, captured, failed, refunded, corrected, ⟨voided, expired⟩, ⟨low, high⟩, held⟩ := stands
  have some_ : 0 < booked.captured := by omega
  have bounded := bindPayment_fits.mp held
  have binds : bindPayment (folded state .capture booked.captured created) = .ok () := by
    apply (folded_fits held fits).mpr
    obtain ⟨_, _, first, second, third, fourth, fifth, _⟩ := bounded
    refine ⟨first, ?_, third, fourth, fifth⟩
    simp only [fold, Fits, captured]
    omega
  refine ⟨folded state .capture booked.captured created, ⟨?_, binds⟩, ?_⟩
  · apply movement_accepted rt regular currency nonneg
    intro event kind carries
    have room : state.capturedMinor + booked.captured ≤ state.authorizedMinor := by omega
    exact .capture kind carries ⟨voided, expired⟩ low room captured.le (by omega)
  · refine ⟨paymentId, currency, authorized, ?_, failed, refunded, corrected, ⟨voided, expired⟩, ?_, binds⟩
    · simp [folded, fold, captured]
    · have status : stateRank (deriveStatus (fold state .capture booked.captured)) =
          if booked.captured ≥ booked.authorized then 50 else 40 := by
        simp only [deriveStatus, fold, captured, refunded, authorized, zero_add]
        rw [if_pos some_, if_neg (by omega), if_neg (by omega)]
        split
        next => rfl
        next => rfl
      simp only [folded, EffectKind.regressive, EffectKind.rank, status, Bool.false_eq_true, ↓reduceIte]
      split <;> omega

theorem refund_moves {failed : Int} (stands : Stands booked booked.captured failed 0 40 50 state) (some_ : booked.refunded ≠ 0) :
    ∃ updated, Moves rt booked regular state ⟨.refund, booked.refundRef, booked.refunded, created⟩ updated ∧
      Stands booked booked.captured failed booked.refunded 60 70 updated := by
  obtain ⟨positive, room⟩ := funded.authorized
  obtain ⟨nonneg, within⟩ := funded.captured
  obtain ⟨low', within'⟩ := funded.refunded
  obtain ⟨paymentId, currency, authorized, captured, failed, refunded, corrected, ⟨voided, expired⟩, ⟨low, high⟩, held⟩ := stands
  have some_ : 0 < booked.refunded := by omega
  have bounded := bindPayment_fits.mp held
  have binds : bindPayment (folded state .refund booked.refunded created) = .ok () := by
    apply (folded_fits held fits).mpr
    obtain ⟨_, _, first, second, third, fourth, fifth, _⟩ := bounded
    refine ⟨first, second, third, ?_, fifth⟩
    simp only [fold, Fits, refunded]
    omega
  refine ⟨folded state .refund booked.refunded created, ⟨?_, binds⟩, ?_⟩
  · apply movement_accepted rt regular currency low'
    intro event kind carries
    have room : state.refundedMinor + booked.refunded ≤ state.capturedMinor := by omega
    exact .refund kind carries ⟨voided, expired⟩ (fun none => absurd (captured.symm.trans none) (by omega)) low room (by omega)
  · refine ⟨paymentId, currency, authorized, captured, failed, ?_, corrected, ⟨voided, expired⟩, ?_, binds⟩
    · simp [folded, fold, refunded]
    · have status := stateRank_bounds (fold state .refund booked.refunded)
      simp only [folded, EffectKind.regressive, EffectKind.rank, Bool.false_eq_true, ↓reduceIte]
      omega

end Steps

section Course
variable (rt)
include funded

omit regular in
theorem fits_later {later : Int} (nonneg : 0 ≤ later) (within : later ≤ 7200) : Fits (Seconds.toInt booked.createdAt + later) := by
  obtain ⟨first, last⟩ := funded.created
  unfold Fits at first last ⊢
  omega

/-- The movements of a payment are accepted one after the other, and leave what was booked. -/
theorem movements_move : ∃ state, Path (Moves rt booked regular) { paymentId := booked.paymentId, currency := booked.currency }
    (movements booked) state ∧ Stands booked (capturedOf booked) (failedOf booked) booked.refunded 10 70 state := by
  obtain ⟨held, moved, stands⟩ := authorize_moves rt regular funded funded.created.1
  obtain ⟨failed, failing, stands⟩ : ∃ failed, Path (Moves rt booked regular) held
      (if booked.provider = .adyen ∧ booked.captureFailed then
        [⟨.captureFail, booked.captureRef, booked.authorized, Seconds.toInt booked.createdAt + 300⟩] else []) failed ∧
      Stands booked 0 (failedOf booked) 0 10 20 failed := by
    unfold failedOf
    split
    next =>
      obtain ⟨failed, moved, stands⟩ :=
        captureFail_moves rt regular funded (fits_later funded (by norm_num : (0 : Int) ≤ 300) (by norm_num)) stands
      exact ⟨failed, .cons moved .nil, stands⟩
    next => exact ⟨held, .nil, stands.widen le_rfl (by norm_num)⟩
  have first := Library.Path.trans (.cons moved .nil) failing
  by_cases announced : booked.announced
  · obtain ⟨captured, moved, stands⟩ :=
      capture_moves rt regular funded (fits_later funded (by norm_num : (0 : Int) ≤ 120) (by norm_num)) stands announced.1
    obtain ⟨refunded, refunding, stands⟩ : ∃ refunded, Path (Moves rt booked regular) captured
        (if booked.refunded ≠ 0 then [⟨.refund, booked.refundRef, booked.refunded, Seconds.toInt booked.createdAt + 7200⟩]
          else []) refunded ∧ Stands booked booked.captured (failedOf booked) booked.refunded 10 70 refunded := by
      split
      next some_ =>
        obtain ⟨refunded, moved, stands⟩ :=
          refund_moves rt regular funded (fits_later funded (by norm_num : (0 : Int) ≤ 7200) le_rfl) stands some_
        exact ⟨refunded, .cons moved .nil, stands.widen (by norm_num) le_rfl⟩
      next none_ => exact ⟨captured, .nil, (not_not.mp none_).symm ▸ stands.widen (by norm_num) (by norm_num)⟩
    refine ⟨refunded, ?_, by rwa [capturedOf, if_pos announced]⟩
    unfold movements
    dsimp only
    rw [if_pos announced]
    exact (first.trans (.cons moved .nil)).trans refunding
  · have none_ : booked.refunded = 0 := by
      by_contra some_
      exact announced (funded.announced some_)
    refine ⟨failed, ?_, ?_⟩
    · unfold movements
      dsimp only
      rw [if_neg announced, if_neg (not_not.mpr none_), List.append_nil, List.append_nil]
      exact first
    · rw [capturedOf, if_neg announced, none_]
      exact stands.widen le_rfl (by norm_num)

end Course
end Amounts

section Rows

variable {booked : Booked T} (regular : Regular booked) (funded : Funded booked)

omit [Seconds T] in
theorem lower_encodable {currency : Str} (valid : validCurrency currency = true) : (rt.lower currency).encodable = true := by
  simp only [validCurrency, Bool.and_eq_true, List.all_eq_true, decide_eq_true_eq] at valid
  have ascii : ∀ c ∈ currency, isascii c = true := by
    intro c member
    have bound : c.val ≤ 90 := (valid.2 c member).2
    exact decide_eq_true (by omega)
  rw [lower_ascii ascii]
  refine List.all_eq_true.mpr fun d member => ?_
  obtain ⟨c, inside, here⟩ := List.mem_flatMap.mp member
  obtain ⟨small, lowered, plain, _⟩ := letter_lower rt (valid.2 c inside).1 (valid.2 c inside).2
  rw [lowered] at here
  have bound : d.val < 128 := of_decide_eq_true (List.mem_singleton.mp here ▸ plain : isascii d = true)
  simp only [Str.isSurrogate, Bool.not_eq_true', Bool.and_eq_false_iff, decide_eq_false_iff_not]
  omega

theorem ofInt_encodable {n : Int} (nonneg : 0 ≤ n) : (Str.ofInt n).encodable = true := by
  obtain ⟨n, rfl⟩ := Int.eq_ofNat_of_zero_le nonneg
  refine List.all_eq_true.mpr fun c member => ?_
  have bounds := (StripeBinding.mem_ofNat member).2
  have nine : (codePoint '9').val = 57 := rfl
  have bound : c.val ≤ (codePoint '9').val := bounds
  simp only [Str.isSurrogate, Bool.not_eq_true', Bool.and_eq_false_iff, decide_eq_false_iff_not]
  omega

include funded

/-- The tables have room for each movement. -/
theorem movements_fit {movement : Movement} (member : movement ∈ movements booked) :
    0 ≤ movement.minor ∧ Fits movement.minor ∧ Fits movement.created ∧ movement.providerRef.encodable = true := by
  obtain ⟨positive, room⟩ := funded.authorized
  obtain ⟨nonneg, within⟩ := funded.captured
  obtain ⟨nonneg', within'⟩ := funded.refunded
  have held : Fits booked.authorized ∧ Fits booked.captured ∧ Fits booked.refunded := by
    unfold Fits
    omega
  have authRef := funded.texts booked.authRef (by simp)
  have captureRef := funded.texts booked.captureRef (by simp)
  have refundRef := funded.texts booked.refundRef (by simp)
  unfold movements at member
  rcases List.mem_append.mp member with member | member
  · rcases List.mem_append.mp member with member | member
    · rcases List.mem_append.mp member with member | member
      · obtain rfl := List.mem_singleton.mp member
        exact ⟨positive.le, held.1, funded.created.1, authRef⟩
      · split at member
        next =>
          obtain rfl := List.mem_singleton.mp member
          exact ⟨positive.le, held.1, fits_later funded (by norm_num) (by norm_num), captureRef⟩
        next => cases member
    · split at member
      next =>
        obtain rfl := List.mem_singleton.mp member
        exact ⟨nonneg, held.2.1, fits_later funded (by norm_num) (by norm_num), captureRef⟩
      next => cases member
  · split at member
    next =>
      obtain rfl := List.mem_singleton.mp member
      exact ⟨nonneg', held.2.2, fits_later funded (by norm_num) le_rfl, refundRef⟩
    next => cases member

omit funded in
theorem movements_distinct (booked : Booked T) : ((movements booked).map Movement.kind).Nodup := by
  unfold movements
  dsimp only
  split
  all_goals split
  all_goals split
  all_goals simp

variable (rt)

theorem effect_binds {movement : Movement} (member : movement ∈ movements booked) {id : Str} (encodable : id.encodable = true)
    (moment : T) (identity : Str) : bindEffect (effectRow id (eventOf rt booked regular movement moment identity)) = .ok () := by
  obtain ⟨nonneg, minor, created, reference⟩ := movements_fit funded member
  have currency : ∀ text : Str, text = rt.lower booked.currency ∨ text = booked.currency → text.encodable = true := by
    rintro text (rfl | rfl)
    · exact lower_encodable regular.currency
    · exact currency_encodable regular.currency
  have raw : ((eventOf rt booked regular movement moment identity).rawCurrency.getD []).encodable = true := by
    apply currency
    unfold eventOf
    cases booked.provider with
    | stripe => exact .inl rfl
    | adyen => exact .inr rfl
  unfold bindEffect
  refine bind_ok.mpr ⟨(), bindStr_ok.mpr (funded.texts _ List.mem_cons_self), bind_ok.mpr ⟨(), bindStr_ok.mpr reference, ?_⟩⟩
  refine bind_ok.mpr ⟨(), bindInt_ok.mpr minor, bind_ok.mpr ⟨(), bindStr_ok.mpr (currency _ (.inr rfl)), ?_⟩⟩
  refine bind_ok.mpr ⟨(), bindInt_ok.mpr created, bind_ok.mpr ⟨(), bindStr_ok.mpr encodable, ?_⟩⟩
  exact bind_ok.mpr ⟨(), bindStr_ok.mpr (ofInt_encodable nonneg), bindStr_ok.mpr raw⟩

end Rows

section Queue
variable {booked : Booked T} (regular : Regular booked) (funded : Funded booked)

/-- The book after an entry. -/
def Book.enter (book : Book) (key : BusinessKey) (updated : PaymentState) : Book where
  entered := insert key book.entered
  payment id := if key.1 = id then some updated else book.payment id

/-- A delivery in the queue with its event, which is the movement's. -/
structure Carried (rt : Runtime T R) (booked : Booked T) (regular : Regular booked) (item : Parcel × CanonicalEvent T)
    (movement : Movement) : Prop where
  decoded : decode rt item.1.provider item.1.raw = .ok item.2
  event : ∃ moment identity, item.2 = eventOf rt booked regular movement moment identity
  encodable : item.1.deliveryId.encodable = true

/-- The business key of a movement. -/
def keyOf (booked : Booked T) (movement : Movement) : BusinessKey := (booked.paymentId, movement.kind, movement.providerRef)

omit [Seconds T] in
/-- Any event of the payment opens it, where the book does not have it. -/
theorem opens_fresh {book : Book} (absent : book.payment booked.paymentId = none) (movement : Movement) (moment : T)
    (identity : Str) : book.Opens (eventOf rt booked regular movement moment identity)
      { paymentId := booked.paymentId, currency := booked.currency } := by
  have carries : (eventOf rt booked regular movement moment identity).amount =
      some ⟨movement.minor, booked.currency, regular.currency⟩ := rfl
  exact .fresh absent carries

include funded

theorem Carried.posts {item : Parcel × CanonicalEvent T} {movement : Movement} (carried : Carried rt booked regular item movement)
    (member : movement ∈ movements booked) {book : Book} {state updated : PaymentState} (opens : book.Opens item.2 state)
    (fresh : keyOf booked movement ∉ book.entered) (moves : Moves rt booked regular state movement updated) :
    Posts rt book item.1 item.2 (book.enter (keyOf booked movement) updated) := by
  obtain ⟨moment, identity, same⟩ := carried.event
  have key : eventKey item.2 = keyOf booked movement := by
    rw [same]
    rfl
  refine ⟨carried.decoded, ⟨key ▸ fresh, by rw [key]; rfl, state, updated, opens, ?_, ?_⟩, ?_, ?_⟩
  · rw [same]
    exact moves.1 moment identity
  · intro id
    rw [same]
    rfl
  · rw [same]
    exact effect_binds rt regular funded member carried.encodable moment identity
  · intro found listed
    rw [same] at listed
    have here : (if booked.paymentId = booked.paymentId then some updated else book.payment booked.paymentId) = some found := listed
    rw [if_pos rfl, Option.some.injEq] at here
    exact here ▸ moves.2

/-- What a payment's deliveries leave in the book: its state, and keys of its own. -/
structure Leaves (booked : Booked T) (before after : Book) (state : PaymentState) : Prop where
  payment : ∀ id, after.payment id = if booked.paymentId = id then some state else before.payment id
  entered : ∀ key ∈ after.entered, key ∈ before.entered ∨ key.1 = booked.paymentId

/-- The movements of a payment, from some state of it on. -/
theorem clears_open {queue : List (Parcel × CanonicalEvent T)} {moves : List Movement} {state final : PaymentState}
    (path : Path (Moves rt booked regular) state moves final) (carried : List.Forall₂ (Carried rt booked regular) queue moves)
    (listed : ∀ movement ∈ moves, movement ∈ movements booked) (distinct : (moves.map Movement.kind).Nodup) {book : Book}
    (opens : ∀ movement moment identity, book.Opens (eventOf rt booked regular movement moment identity) state)
    (known : moves = [] → book.payment booked.paymentId = some state)
    (fresh : ∀ movement ∈ moves, keyOf booked movement ∉ book.entered) :
    ∃ after, Clears rt book queue after ∧ Leaves booked book after final := by
  induction path generalizing queue book with
  | @nil state =>
    cases carried
    refine ⟨book, .nil, fun id => ?_, fun key member => .inl member⟩
    split
    next same => exact same ▸ known rfl
    next => rfl
  | @cons state movement updated rest final moved _ ih =>
    cases carried with
    | cons first others =>
      rw [List.forall_mem_cons] at listed fresh
      rw [List.map_cons, List.nodup_cons] at distinct
      obtain ⟨moment, identity, same⟩ := first.event
      have posts := first.posts regular funded listed.1 (same ▸ opens movement moment identity) fresh.1 moved
      have unentered : ∀ other ∈ rest, keyOf booked other ∉ (book.enter (keyOf booked movement) updated).entered := by
        intro other member entered
        rcases entered with again | before
        · have kinds : other.kind = movement.kind := congrArg (fun key : BusinessKey => key.2.1) again
          exact distinct.1 (kinds ▸ List.mem_map_of_mem member)
        · exact fresh.2 other member before
      obtain ⟨after, clears, leaves⟩ := ih others listed.2 distinct.2 (fun _ _ _ => .known (if_pos rfl)) (fun _ => if_pos rfl) unentered
      refine ⟨after, .cons posts clears, fun id => ?_, fun key member => ?_⟩
      · rw [leaves.payment]
        change (if _ then _ else if booked.paymentId = id then some updated else book.payment id) = _
        split
        next => rfl
        next => rfl
      · rcases leaves.entered key member with (rfl | before) | own
        · exact .inr rfl
        · exact .inl before
        · exact .inr own

/-- The movements of a payment that the book does not know yet. -/
theorem clears_payment {queue : List (Parcel × CanonicalEvent T)}
    (carried : List.Forall₂ (Carried rt booked regular) queue (movements booked)) {book : Book}
    (absent : book.payment booked.paymentId = none) (fresh : ∀ key ∈ book.entered, key.1 ≠ booked.paymentId) :
    ∃ after state, Clears rt book queue after ∧ Leaves booked book after state ∧
      Stands booked (capturedOf booked) (failedOf booked) booked.refunded 10 70 state := by
  obtain ⟨final, path, stands⟩ := movements_move rt regular funded
  obtain ⟨after, clears, leaves⟩ := clears_open regular funded path carried (fun _ member => member) (movements_distinct booked)
    (opens_fresh regular absent) nofun
    (fun _ _ entered => fresh _ entered rfl)
  exact ⟨after, final, clears, leaves, stands⟩

end Queue

section Books
variable (rt) (kit : Kit T G) (simulator : Simulator T)

/-- A payment that can be booked, sent and read. -/
structure Bookable (booked : Booked T) : Prop where
  regular : Regular booked
  funded : Funded booked
  told : Told rt kit simulator booked

/-- A delivery as the front door receives it. -/
def sent (delivery : Sim.Delivery) : Received := ⟨delivery.provider, delivery.identity, delivery.raw, delivery.headers⟩

variable {rt} {kit} {simulator} {config : AppConfig T}

theorem carried_of_announces {booked : Booked T} {regular : Regular booked} {deliveries : List Sim.Delivery} {moves : List Movement}
    (announce : List.Forall₂ (Announces rt simulator config booked regular) deliveries moves)
    (encodable : ∀ delivery ∈ deliveries, (posting (sent delivery)).deliveryId.encodable = true) :
    ∃ queue, queue.map Prod.fst = deliveries.map (fun delivery => posting (sent delivery)) ∧
      List.Forall₂ (Carried rt booked regular) queue moves := by
  induction announce with
  | nil => exact ⟨[], rfl, .nil⟩
  | @cons delivery movement _ _ first _ ih =>
    rw [List.forall_mem_cons] at encodable
    obtain ⟨queue, listed, carried⟩ := ih encodable.2
    obtain ⟨moment, _, decoded⟩ := first.decoded
    refine ⟨(posting (sent delivery), _) :: queue, ?_, .cons ⟨decoded, ⟨moment, _, rfl⟩, encodable.1⟩ carried⟩
    rw [List.map_cons, List.map_cons, listed]

variable (lawful : Lawful rt kit simulator) (trusts : Trusts simulator config)
include lawful trusts

/-- All that is sent of the payments announces something. -/
theorem all_announced {book : List (Booked T)} {batches : List (List Sim.Delivery)}
    (bookable : ∀ booked ∈ book, Bookable rt kit simulator booked)
    (made : book.mapM (Sim.paymentDeliveries rt kit simulator) = .ok batches) : ∀ delivery ∈ batches.flatten,
      ∃ booked regular movement, Announces rt simulator config booked regular delivery movement := by
  have each {booked : Booked T} {regular : Regular booked} {deliveries : List Sim.Delivery} {moves : List Movement}
      (announce : List.Forall₂ (Announces rt simulator config booked regular) deliveries moves) :
      ∀ delivery ∈ deliveries, ∃ movement, Announces rt simulator config booked regular delivery movement := by
    induction announce with
    | nil => exact nofun
    | cons first _ ih => exact List.forall_mem_cons.mpr ⟨⟨_, first⟩, ih⟩
  induction book generalizing batches with
  | nil =>
    obtain rfl := Except.ok.inj made
    exact nofun
  | cons booked book ih =>
    simp only [List.mapM_cons, bind_ok, pure_eq_ok, Except.ok.injEq] at made
    obtain ⟨deliveries, here, rest, further, rfl⟩ := made
    rw [List.forall_mem_cons] at bookable
    rw [List.flatten_cons, List.forall_mem_append]
    obtain ⟨⟨regular, _, told⟩, others⟩ := bookable
    refine ⟨fun delivery member => ?_, ih others further⟩
    obtain ⟨movement, announces⟩ := each (deliveries_announce regular lawful trusts told here) delivery member
    exact ⟨booked, regular, movement, announces⟩

/-- Payments of distinct ids that the book does not know are entered whole. -/
theorem book_clears {book : List (Booked T)} {batches : List (List Sim.Delivery)}
    (bookable : ∀ booked ∈ book, Bookable rt kit simulator booked)
    (made : book.mapM (Sim.paymentDeliveries rt kit simulator) = .ok batches)
    (distinct : (book.map Booked.paymentId).Nodup)
    (encodable : ∀ delivery ∈ batches.flatten, (posting (sent delivery)).deliveryId.encodable = true) {before : Book}
    (absent : ∀ booked ∈ book, before.payment booked.paymentId = none ∧ ∀ key ∈ before.entered, key.1 ≠ booked.paymentId) :
    ∃ queue after, queue.map Prod.fst = batches.flatten.map (fun delivery => posting (sent delivery)) ∧
      Clears rt before queue after ∧
      (∀ booked ∈ book, ∃ state, after.payment booked.paymentId = some state ∧
        Stands booked (capturedOf booked) (failedOf booked) booked.refunded 10 70 state) ∧
      ∀ id, id ∉ book.map Booked.paymentId → after.payment id = before.payment id := by
  induction book generalizing batches before with
  | nil =>
    obtain rfl := Except.ok.inj made
    exact ⟨[], before, rfl, .nil, nofun, fun _ _ => rfl⟩
  | cons booked book ih =>
    simp only [List.mapM_cons, bind_ok, pure_eq_ok, Except.ok.injEq] at made
    obtain ⟨deliveries, here, rest, further, rfl⟩ := made
    rw [List.forall_mem_cons] at bookable absent
    rw [List.map_cons, List.nodup_cons] at distinct
    rw [List.flatten_cons, List.forall_mem_append] at encodable
    obtain ⟨⟨regular, funded, told⟩, others⟩ := bookable
    have announce := deliveries_announce regular lawful trusts told here
    obtain ⟨queue, listed, carried⟩ := carried_of_announces announce encodable.1
    obtain ⟨middle, state, clears, leaves, stands⟩ := clears_payment regular funded carried absent.1.1 absent.1.2
    have unknown : ∀ other ∈ book, middle.payment other.paymentId = none ∧ ∀ key ∈ middle.entered, key.1 ≠ other.paymentId := by
      intro other member
      have apart : booked.paymentId ≠ other.paymentId := fun same => distinct.1 (same ▸ List.mem_map_of_mem member)
      refine ⟨?_, fun key entered => ?_⟩
      · rw [leaves.payment, if_neg apart]
        exact (absent.2 other member).1
      · rcases leaves.entered key entered with earlier | own
        · exact (absent.2 other member).2 key earlier
        · exact own ▸ apart
    obtain ⟨queue', after, listed', clears', held, kept⟩ := ih others further distinct.2 encodable.2 unknown
    refine ⟨queue ++ queue', after, ?_, clears.trans clears', ?_, fun id outside => ?_⟩
    · rw [List.map_append, List.flatten_cons, List.map_append, listed, listed']
    · refine List.forall_mem_cons.mpr ⟨⟨state, ?_, stands⟩, held⟩
      rw [kept _ distinct.1, leaves.payment, if_pos rfl]
    · rw [List.map_cons, List.mem_cons, not_or] at outside
      rw [kept id outside.2, leaves.payment, if_neg (Ne.symm outside.1)]

end Books

section Intake
variable {simulator : Simulator T} {config : AppConfig T} {interval now : T} {posted : List Parcel} {db : Db T}

theorem Queued.bump (queued : Queued now posted db) (name : Metric) : Queued now posted (db.bump name) :=
  ⟨queued.effects, queued.payments, queued.posted, queued.sorted, queued.received, queued.untouched⟩

/-- What the simulator announces is taken in as new. -/
theorem receiveDirect_announced {booked : Booked T} {regular : Regular booked} {delivery : Sim.Delivery} {movement : Movement}
    (announces : Announces rt simulator config booked regular delivery movement) (prompt : Prompt simulator config now)
    (later : now < now + interval) (queued : Queued now posted db)
    (fresh : (posting (sent delivery)).deliveryId ∉ posted.map Parcel.deliveryId)
    (encodable : (posting (sent delivery)).deliveryId.encodable = true) (tally : Tally) :
    ∃ after, receiveDirect rt config interval { tally, now, db } delivery =
        .ok { tally := { tally with new := tally.new + 1 }, now := now + interval, db := after } ∧
      Queued (now + interval) (posted ++ [posting (sent delivery)]) after := by
  have counted := queued.bump .eventsReceived
  have absent := counted.fresh fresh
  obtain ⟨after, claimed, all⟩ : ∃ after, claim rt delivery.provider delivery.identity delivery.raw delivery.headers now
        config.leaseSeconds (db.bump .eventsReceived) = (.ok ⟨(posting (sent delivery)).deliveryId, true, .new⟩, after) ∧
      Queued (now + interval) (posted ++ [posting (sent delivery)]) after := by
    have answers := claimed_self rt delivery.provider delivery.identity delivery.raw delivery.headers now config.leaseSeconds
      (db.bump .eventsReceived)
    generalize claim rt delivery.provider delivery.identity delivery.raw delivery.headers now config.leaseSeconds
      (db.bump .eventsReceived) = reached at answers ⊢
    obtain ⟨result, after⟩ := reached
    cases answers with
    | unbound unbound exc => cases unbound.symm.trans encodable
    | @new deliveries bound inserted =>
      let received := sent delivery
      have inserted : (db.bump .eventsReceived).deliveries.insert? (claimedRow rt received.provider received.identity received.raw
        received.headers now config.leaseSeconds) = some deliveries := inserted
      exact ⟨_, rfl, counted.claimed later inserted⟩
    | duplicate found | inProgress found | reclaimed found => cases absent.symm.trans found
  refine ⟨after, ?_, all⟩
  obtain ⟨body, read, named, signed⟩ := announces.verified
  have verified := signed now prompt
  have bare := announces.bare
  obtain ⟨provider, name, raw, headers⟩ := delivery
  have taken : claimVerified rt provider body raw headers now config.leaseSeconds (db.bump .eventsReceived) =
      (.ok ⟨(posting (sent ⟨provider, name, raw, headers⟩)).deliveryId, true, .new⟩, after) := by
    unfold claimVerified
    simp only at named claimed
    rw [named]
    simp only [claimed, reduceCtorEq, ↓reduceIte]
  cases provider with
  | stripe =>
    obtain ⟨t, verified⟩ := verified
    have received : receiveStripe rt raw headers config.secrets now now config.leaseSeconds config.toleranceSeconds db =
        (.ok ⟨(posting (sent ⟨.stripe, name, raw, headers⟩)).deliveryId, true, .new⟩, after) := by
      unfold receiveStripe
      simp only at verified read
      simp only [verified, read, taken]
    simp only [receiveDirect, received, Tally.count]
  | adyen =>
    obtain rfl : headers = [] := bare rfl
    have received : receiveAdyen rt raw config.adyenHmacKeyHex now config.leaseSeconds db =
        (.ok ⟨(posting (sent ⟨.adyen, name, raw, []⟩)).deliveryId, true, .new⟩, after) := by
      have verified : verifyAdyen rt body (Quidz.adyenSignature rt body) config.adyenHmacKeyHex = .ok () := verified
      unfold receiveAdyen
      simp only at read
      simp only [verified, read, taken]
    simp only [receiveDirect, received, Tally.count]

/-- The clock moves on with each of so many readings. -/
def Ticks (start interval : T) (readings : Nat) : Prop :=
  ∀ k < readings, (fun t => t + interval)^[k] start < (fun t => t + interval)^[k] start + interval

/-- So is a whole list of it, in order. -/
theorem receiveInProcess_announced {deliveries : List Sim.Delivery} (later : Ticks now interval deliveries.length)
    (announced : ∀ delivery ∈ deliveries, ∃ booked regular movement, Announces rt simulator config booked regular delivery movement)
    (encodable : ∀ delivery ∈ deliveries, (posting (sent delivery)).deliveryId.encodable = true)
    (distinct : ((posted ++ deliveries.map fun delivery => posting (sent delivery)).map Parcel.deliveryId).Nodup)
    (prompt : ∀ k < deliveries.length, Prompt simulator config ((fun t => t + interval)^[k] now)) (queued : Queued now posted db)
    (tally : Tally) : ∃ ended, receiveInProcess rt config interval deliveries { tally, now, db } = .ok ended ∧
      ended.tally = { tally with new := tally.new + deliveries.length } ∧ now ≤ ended.now ∧
      Queued ended.now (posted ++ deliveries.map fun delivery => posting (sent delivery)) ended.db := by
  induction deliveries generalizing now posted db tally with
  | nil => exact ⟨_, rfl, rfl, le_rfl, by rwa [List.map_nil, List.append_nil]⟩
  | cons delivery rest ih =>
    rw [List.forall_mem_cons] at announced encodable
    obtain ⟨⟨booked, regular, movement, announces⟩, others⟩ := announced
    have fresh : (posting (sent delivery)).deliveryId ∉ posted.map Parcel.deliveryId := by
      rw [List.map_append, List.nodup_append] at distinct
      intro listed
      exact distinct.2.2 _ listed _ List.mem_cons_self rfl
    obtain ⟨after, took, all⟩ := receiveDirect_announced announces (prompt 0 (Nat.succ_pos _)) (later 0 (Nat.succ_pos _)) queued fresh
      encodable.1 tally
    have behind : ((posted ++ [posting (sent delivery)] ++ rest.map fun delivery => posting (sent delivery)).map
        Parcel.deliveryId).Nodup := by
      rw [List.append_assoc]
      exact distinct
    obtain ⟨ended, received, counted, more, every⟩ := ih (fun k below => later (k + 1) (Nat.succ_lt_succ below)) others encodable.2
      behind (fun k below => prompt (k + 1) (Nat.succ_lt_succ below)) all { tally with new := tally.new + 1 }
    refine ⟨ended, bind_ok.mpr ⟨_, took, received⟩, ?_, (later 0 (Nat.succ_pos _)).le.trans more, ?_⟩
    · rw [counted, List.length_cons, Nat.add_assoc, Nat.add_comm 1]
    · rwa [List.append_assoc] at every

end Intake

section Whole
variable {kit : Kit T G} {simulator : Simulator T} {config : AppConfig T} {interval : T}

/-- Without breaks the simulator sends what was made of the payments. -/
theorem buildDeliveries_plain {staged : Sim.Staged T} (unbroken : staged.breaks = []) {deliveries : List Sim.Delivery}
    (made : Sim.buildDeliveries rt kit simulator staged = .ok deliveries) :
    ∃ batches, staged.book.mapM (Sim.paymentDeliveries rt kit simulator) = .ok batches ∧ deliveries = batches.flatten := by
  have plain (booked : Booked T) (index : Nat) :
      Sim.brokenDeliveries rt kit simulator staged booked index = Sim.paymentDeliveries rt kit simulator booked := by
    unfold Sim.brokenDeliveries
    simp only [unbroken, List.not_mem_nil, false_and, ↓reduceIte]
    cases Sim.paymentDeliveries rt kit simulator booked with
    | error exc => rfl
    | ok batch =>
      match batch with
      | [] => rfl
      | [_] => rfl
      | _ :: _ :: _ => rfl
  have batched : (staged.book.zipIdx.mapM fun entry => Sim.brokenDeliveries rt kit simulator staged entry.1 entry.2) =
      staged.book.mapM (Sim.paymentDeliveries rt kit simulator) := by
    simp only [plain]
    generalize (0 : Nat) = start
    induction staged.book generalizing start with
    | nil => rfl
    | cons booked book ih => simp only [List.zipIdx_cons, List.mapM_cons, ih]
  simp only [Sim.buildDeliveries, batched, unbroken, List.not_mem_nil, ↓reduceIte, bind_ok, pure_eq_ok, Except.ok.injEq] at made
  obtain ⟨batches, made, _, rfl, _, rfl, _, rfl, rfl⟩ := made
  refine ⟨batches, made, ?_⟩
  rw [List.append_nil, List.append_nil, List.append_nil]

/-- What the front door, the inbox and the ledger come to when the service takes in what the
simulator sends of a book without breaks, and drains: everything is new, everything is applied,
nothing is left over, and the payments are those of the book with the amounts that were booked. -/
theorem bookings_applied (lawful : Lawful rt kit simulator) (trusts : Trusts simulator config) {staged : Sim.Staged T}
    (unbroken : staged.breaks = []) {deliveries : List Sim.Delivery}
    (made : Sim.buildDeliveries rt kit simulator staged = .ok deliveries)
    (bookable : ∀ booked ∈ staged.book, Bookable rt kit simulator booked) (distinct : (staged.book.map Booked.paymentId).Nodup)
    (apart : (deliveries.map fun delivery => deliveryId delivery.provider delivery.identity).Nodup)
    (encodable : ∀ delivery ∈ deliveries, (deliveryId delivery.provider delivery.identity).encodable = true)
    (later : Ticks simulator.startedAt interval deliveries.length) (zero : 0 ≤ simulator.startedAt)
    (prompt : ∀ k < deliveries.length, Prompt simulator config ((fun t => t + interval)^[k] simulator.startedAt))
    (policy : RetryPolicy T) {passes : Nat} (enough : deliveries.length ≤ 100 * passes) :
    ∃ received, receiveInProcess rt config interval deliveries { now := simulator.startedAt, db := .empty } = .ok received ∧
      received.tally = { new := deliveries.length } ∧
      let idle := drainUntilIdle rt (FakeClock T) policy (fun _ => none) passes received.now received.db
      idle.total = { applied := deliveries.length } ∧ (∀ row ∈ idle.db.deliveries.rows, row.state.pending = false) ∧
        (∀ booked ∈ staged.book, ∃ state, (idle.db.payments.find? booked.paymentId).map rowToState = some state ∧
          Stands booked (capturedOf booked) (failedOf booked) booked.refunded 10 70 state) ∧
        ∀ id ∉ staged.book.map Booked.paymentId, idle.db.payments.find? id = none := by
  obtain ⟨batches, sent_, rfl⟩ := buildDeliveries_plain unbroken made
  have announced : ∀ delivery ∈ batches.flatten, ∃ booked regular movement,
      Announces rt simulator config booked regular delivery movement := all_announced lawful trusts bookable sent_
  have ids : (([] ++ batches.flatten.map fun delivery => posting (sent delivery)).map Parcel.deliveryId).Nodup := by
    rw [List.nil_append, List.map_map]
    exact apart
  obtain ⟨received, took, counted, more, queued⟩ := receiveInProcess_announced later announced encodable ids prompt
    (Queued.empty simulator.startedAt) {}
  rw [List.nil_append] at queued
  have unknown : ∀ booked ∈ staged.book, Book.empty.payment booked.paymentId = none ∧
      ∀ key ∈ Book.empty.entered, key.1 ≠ booked.paymentId := fun _ _ => ⟨rfl, nofun⟩
  obtain ⟨queue, after, listed, clears, held, kept⟩ := book_clears lawful trusts bookable sent_ distinct encodable unknown
  have length : (batches.flatten.map fun delivery => posting (sent delivery)).length ≤ 100 * passes := by
    rwa [List.length_map]
  obtain ⟨total, _, reached, settled⟩ := queued.applied rt (zero.trans more) listed clears policy length
  rw [List.length_map] at total
  refine ⟨received, took, counted.trans (by simp), total, settled, fun booked member => ?_, fun id outside => ?_⟩
  · obtain ⟨state, found, stands⟩ := held booked member
    rw [← reached] at found
    exact ⟨state, found, stands⟩
  · have absent := kept id outside
    rw [← reached] at absent
    exact Option.map_eq_none_iff.mp absent

end Whole

section Example

/-- The book with the one payment. -/
def oneBooked : Sim.Staged Int where
  scenario := str "happy"
  breaks := []
  book := [bookedCapture]

def oneSent : List Sim.Delivery := (Sim.buildDeliveries deskRuntime deskKit desk oneBooked).toOption.getD []

theorem oneSent_built : Sim.buildDeliveries deskRuntime deskKit desk oneBooked = .ok oneSent := rfl

theorem bookedCapture_funded : Funded bookedCapture where
  authorized := by decide
  captured := by decide
  refunded := by decide
  announced := by decide
  created := by
    unfold Fits
    decide
  texts := by decide

theorem desk_prompt : ∀ k < oneSent.length, Prompt desk deskConfig ((fun t => t + 1)^[k] desk.startedAt) := by
  have two : oneSent.length = 2 := rfl
  intro k below
  rw [two] at below
  refine ⟨400, rfl, ?_⟩
  interval_cases k
  · decide
  · decide

/-- A capture is taken in, drained and held. -/
theorem bookings_applied_capture : ∃ received,
    receiveInProcess deskRuntime deskConfig 1 oneSent { now := desk.startedAt, db := .empty } = .ok received ∧
      received.tally = { new := oneSent.length } ∧
      ∃ state, ((drainUntilIdle deskRuntime (FakeClock Int) .standard (fun _ => none) 8 received.now received.db).db.payments.find?
        (str "pi_1")).map rowToState = some state ∧ Stands bookedCapture 1000 0 0 10 70 state := by
  obtain ⟨received, took, counted, _, _, held, _⟩ := bookings_applied desk_lawful desk_trusts rfl oneSent_built
    (List.forall_mem_singleton.mpr ⟨bookedCapture_regular, bookedCapture_funded, desk_told⟩) (by decide) (by decide +kernel)
    (by decide +kernel) (fun _ _ => lt_add_one _) (by decide) desk_prompt .standard (by decide : oneSent.length ≤ 100 * 8)
  obtain ⟨state, found, stands⟩ := held bookedCapture List.mem_cons_self
  exact ⟨received, took, counted, state, found, stands⟩

end Example
end Quidz.Proofs
