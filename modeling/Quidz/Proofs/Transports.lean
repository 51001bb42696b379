import Quidz.Cli
import Quidz.Library.Run
import Quidz.Proofs.Erasure
import Quidz.Proofs.Fleet
import Quidz.Proofs.Headers
import Quidz.Proofs.Reconciliation
import Quidz.Proofs.Undecodable

/-! The two transports of the demo. Over HTTP the same deliveries leave the same tables, but
for the headers in them, so that everything from the receipts on is the same; of the
receipts, the answers tell the demo a little less than the calls do. -/

namespace Quidz.Proofs

open Library (Table)
open StripeBinding (under parts read_parts parse_ok isdigit_ofNat int_ofNat signing signedCall digestHex)

variable {T R : Type} [Seconds T] (rt : Runtime T R)

/-- The HTTP client and the app hand a delivery on as it is: its signature header, and the
one item of a notification in the form it was signed and stored in. -/
structure Sendable (compact : Json → Str) (http : Http) (delivery : Sim.Delivery) : Prop where
  header : delivery.provider = .stripe → header rt (http.wire delivery.raw delivery.headers) stripeSignatureHeader =
    header rt delivery.headers stripeSignatureHeader
  item : delivery.provider = .adyen → ∃ item body, rt.loads delivery.raw = .ok (.dict item) ∧
    itemBody compact item = .ok delivery.raw ∧ http.encode (envelope (.dict item)) = .ok body ∧
    rt.loads body = .ok (envelope (.dict item))

/-- What is relied on of the libraries: `json` raises no error of this package's, and the text
of an answer says what the message in it does. A message of letters and spaces has nothing
in it that is escaped. -/
structure Intelligible (http : Http) : Prop where
  loads : ∀ raw exc, rt.loads raw = .error exc → exc.isinstance .signatureError = false
  names : ∀ message, str "timestamp" <:+: message → str "timestamp" <:+: http.render [(str "error", .str message)]
  plain : ∀ message, (∀ c ∈ message, isascii c = true ∧ rt.isprintable c = true) →
    str "timestamp" <:+: http.render [(str "error", .str message)] → str "timestamp" <:+: message

section Messages

/-- No digits, or digits that are not written as the payload that is signed has them. -/
def unusable (timestamp : Str) : Bool :=
  !rt.isdigit timestamp || match rt.int timestamp with
    | .ok value => decide (timestamp ≠ Str.ofInt value)
    | .error _ => false

/-- The last timestamp of a header cannot be used. -/
def untimed (value : Str) : Bool := ((under (str "t") (parts rt value)).getLast?.map (unusable rt)).getD true

/-- Over HTTP the demo takes the refusal of these headers for that of a replay: they name no
timestamp that can be used. -/
def mistimed (headers : List (Str × Str)) : Bool :=
  match header rt headers stripeSignatureHeader with
  | none => false
  | some value => untimed rt value

def takenForReplay (delivery : Sim.Delivery) : Bool := decide (delivery.provider = .stripe) && mistimed rt delivery.headers

/-- A message that does not speak of a timestamp, and that is written as it is. -/
def Unrelated (message : Str) : Prop :=
  ¬str "timestamp" <:+: message ∧ ∀ c ∈ message, isascii c = true ∧ rt.isprintable c = true

variable {rt} {raw : Bytes} {headers : List (Str × Str)} {secrets : List Bytes} {now tolerance : T} {exc : Exc}

omit [Seconds T] in
theorem unrelated_of {message : Str} (decided : (decide (str "timestamp" <:+: message) ||
    message.any fun c => !(isascii c && (32 ≤ c.val && c.val < 127))) = false) : Unrelated rt message := by
  rw [Bool.or_eq_false_iff, decide_eq_false_iff_not, List.any_eq_false] at decided
  refine ⟨decided.1, fun c listed => ?_⟩
  have shown := decided.2 c listed
  rw [Bool.not_eq_true, Bool.not_eq_false', Bool.and_eq_true] at shown
  refine ⟨shown.1, ?_⟩
  rw [Runtime.isprintable, if_pos shown.1]
  exact shown.2

omit [Seconds T] in
theorem parsed_timed {value : Str} {timestamp : Int} {candidates : List Str}
    (parsed : parseStripeSignatureHeader rt value = .ok (timestamp, candidates)) : untimed rt value = false := by
  obtain ⟨t, _, short, last, _⟩ := (parse_ok rt).mp parsed
  simp only [untimed, last, Option.map_some, Option.getD_some, unusable, isdigit_ofNat, int_ofNat rt short]
  exact decide_eq_false (not_not.mpr rfl)

omit [Seconds T] in
/-- A header that is refused for its timestamp says so, and one that is refused for its
signatures does not. -/
theorem unparsed_names {value : Str} (refused : parseStripeSignatureHeader rt value = .error exc)
    (signature : exc.isinstance .signatureError = true) : exc.isinstance .staleTimestamp = false ∧
      if untimed rt value then str "timestamp" <:+: exc.message else Unrelated rt exc.message := by
  unfold parseStripeSignatureHeader at refused
  rw [read_parts] at refused
  simp only [bind_error, orRaise_error, orRaise_ok, raiseIf_error, raiseIf_ok, pure_eq_ok, reduceCtorEq, and_false, exists_false,
    or_false, Option.filter_eq_some_iff, Option.filter_eq_none_iff, exists_const] at refused
  rcases refused with ⟨undigited, rfl⟩ | ⟨text, ⟨last, digits⟩, refused⟩
  · refine ⟨rfl, ?_⟩
    have timeless : untimed rt value = true := by
      unfold untimed
      cases last : (under (str "t") (parts rt value)).getLast? with
      | none => rfl
      | some text => simp [unusable, undigited text last]
    rw [if_pos timeless]
    decide
  have same : untimed rt value = unusable rt text := by simp only [untimed, last, Option.map_some, Option.getD_some]
  rw [same]
  rcases refused with unread | ⟨number, int, ⟨spelled, rfl⟩ | ⟨canonical, unsigned, rfl⟩⟩
  · rcases List.mem_singleton.mp (int_raises rt text exc unread) with type
    rw [Exc.isinstance, type] at signature
    exact absurd signature (by decide)
  · refine ⟨rfl, ?_⟩
    have misspelled : unusable rt text = true := by simp [unusable, int, spelled]
    rw [if_pos misspelled]
    exact ⟨stripeSignatureHeader ++ str " ", str " " ++ Json.reprStr rt.isprintable text ++ str " is not canonical", by
      simp only [List.append_assoc]
      rfl⟩
  · refine ⟨rfl, ?_⟩
    have usable : ¬unusable rt text = true := by simpa [unusable, digits, int] using canonical
    rw [if_neg usable]
    exact unrelated_of (by decide)

/-- What a refusal says of the timestamp. -/
theorem refusal_names (refused : verifyStripe rt raw headers secrets now tolerance = .error exc)
    (signature : exc.isinstance .signatureError = true) :
    if exc.isinstance .staleTimestamp then str "timestamp" <:+: exc.message ∧ mistimed rt headers = false
    else if mistimed rt headers then str "timestamp" <:+: exc.message else Unrelated rt exc.message := by
  simp only [verifyStripe, bind_error, orRaise_error, orRaise_ok, raiseIf_error, raiseIf_ok, pure_eq_ok, reduceCtorEq,
    and_false, exists_false, or_false, Prod.exists, exists_const] at refused
  rcases refused with ⟨_, rfl⟩ | ⟨_, ⟨_, rfl⟩ | ⟨_, refused⟩⟩
  · exact absurd signature (by decide)
  · exact absurd signature (by decide)
  rcases refused with ⟨missing, rfl⟩ | ⟨value, carried, refused⟩
  · have read : ¬mistimed rt headers = true := by simp only [mistimed, missing, Bool.false_eq_true, not_false_eq_true]
    rw [if_neg (by decide), if_neg read]
    exact unrelated_of (by decide)
  have reads : mistimed rt headers = untimed rt value := by simp only [mistimed, carried]
  rcases refused with refused | ⟨timestamp, candidates, parsed, refused⟩
  · obtain ⟨fresh, names⟩ := unparsed_names refused signature
    rw [if_neg (by rw [fresh]; exact Bool.false_ne_true), reads]
    exact names
  have timed : mistimed rt headers = false := reads.trans (parsed_timed parsed)
  rcases refused with ⟨_, rfl⟩ | ⟨_, ⟨_, rfl⟩ | ⟨_, _, _, rfl⟩⟩
  · rw [if_neg (by decide), if_neg (by rw [timed]; exact Bool.false_ne_true)]
    exact unrelated_of (by decide)
  · exact absurd signature (by decide)
  · rw [if_pos (by rfl)]
    refine ⟨⟨str "signed ", ?_, ?_⟩, timed⟩
    · exact str " " ++ Str.ofInt timestamp ++ str " is older than the " ++ rt.format tolerance ++ str "s tolerance at " ++ rt.format now
    · simp only [List.append_assoc]
      rfl

theorem verified_reads {signed : Int} (verified : verifyStripe rt raw headers secrets now tolerance = .ok signed) :
    mistimed rt headers = false := by
  simp only [verifyStripe, bind_ok, orRaise_ok, Prod.exists] at verified
  obtain ⟨_, _, _, _, value, carried, timestamp, candidates, parsed, _⟩ := verified
  simp only [mistimed, carried]
  exact parsed_timed parsed

theorem verifyStripe_headers {headers' : List (Str × Str)}
    (same : header rt headers' stripeSignatureHeader = header rt headers stripeSignatureHeader) :
    verifyStripe rt raw headers' secrets now tolerance = verifyStripe rt raw headers secrets now tolerance := by
  unfold verifyStripe
  rw [same]

end Messages

section Front
variable {first second : Db T} (alike : bare first = bare second)
include alike

theorem claimVerified_bare (provider : Provider) (body : Mapping) (raw : Bytes) (headers headers' : List (Str × Str))
    (now leaseSeconds : T) :
    (claimVerified rt provider body raw headers now leaseSeconds first).1 =
        (claimVerified rt provider body raw headers' now leaseSeconds second).1 ∧
      bare (claimVerified rt provider body raw headers now leaseSeconds first).2 =
        bare (claimVerified rt provider body raw headers' now leaseSeconds second).2 := by
  unfold claimVerified
  cases identity provider body with
  | error exc => exact ⟨rfl, alike⟩
  | ok name =>
    have claims : (claim rt provider name raw headers now leaseSeconds first).1 =
          (claim rt provider name raw headers' now leaseSeconds second).1 ∧
        bare (claim rt provider name raw headers now leaseSeconds first).2 =
          bare (claim rt provider name raw headers' now leaseSeconds second).2 :=
      claim_bare alike raw leaseSeconds provider name headers headers'
    dsimp only
    generalize claim rt provider name raw headers now leaseSeconds first = answer at claims
    generalize claim rt provider name raw headers' now leaseSeconds second = answer' at claims
    obtain ⟨exc | result, after⟩ := answer
    all_goals
      obtain ⟨result', after'⟩ := answer'
      obtain ⟨rfl, kept⟩ := claims
    · exact ⟨rfl, kept⟩
    · refine ⟨rfl, ?_⟩
      dsimp only
      split
      · exact congrArg (Db.bump · .deduped) kept
      · exact kept

theorem receiveStripe_bare {headers headers' : List (Str × Str)}
    (same : header rt headers' stripeSignatureHeader = header rt headers stripeSignatureHeader) (raw : Bytes)
    (secrets : List Bytes) (received now leaseSeconds tolerance : T) :
    (receiveStripe rt raw headers secrets received now leaseSeconds tolerance first).1 =
        (receiveStripe rt raw headers' secrets received now leaseSeconds tolerance second).1 ∧
      bare (receiveStripe rt raw headers secrets received now leaseSeconds tolerance first).2 =
        bare (receiveStripe rt raw headers' secrets received now leaseSeconds tolerance second).2 := by
  have bumped (name : Metric) : bare (first.bump name) = bare (second.bump name) := congrArg (Db.bump · name) alike
  unfold receiveStripe
  rw [verifyStripe_headers same]
  cases verifyStripe rt raw headers secrets received tolerance with
  | error exc =>
    refine ⟨rfl, ?_⟩
    dsimp only
    split
    · exact congrArg (Db.bump · .replayRejected) (bumped .eventsReceived)
    · split
      · exact congrArg (Db.bump · .signatureRejected) (bumped .eventsReceived)
      · exact bumped .eventsReceived
  | ok _ =>
    cases payload rt raw with
    | error exc => exact ⟨rfl, bumped .eventsReceived⟩
    | ok body => exact claimVerified_bare rt (bumped .eventsReceived) .stripe body raw headers headers' now leaseSeconds

theorem receiveAdyen_bare (raw : Bytes) (hmacKeyHex : Str) (now leaseSeconds : T) :
    (receiveAdyen rt raw hmacKeyHex now leaseSeconds first).1 = (receiveAdyen rt raw hmacKeyHex now leaseSeconds second).1 ∧
      bare (receiveAdyen rt raw hmacKeyHex now leaseSeconds first).2 =
        bare (receiveAdyen rt raw hmacKeyHex now leaseSeconds second).2 := by
  have bumped (name : Metric) : bare (first.bump name) = bare (second.bump name) := congrArg (Db.bump · name) alike
  unfold receiveAdyen
  cases payload rt raw with
  | error exc => exact ⟨rfl, bumped .eventsReceived⟩
  | ok item =>
    dsimp only
    cases verifyAdyen rt item (adyenSignature rt item) hmacKeyHex with
    | error exc =>
      refine ⟨rfl, ?_⟩
      dsimp only
      split
      · exact congrArg (Db.bump · .signatureRejected) (bumped .eventsReceived)
      · exact bumped .eventsReceived
    | ok _ => exact claimVerified_bare rt (bumped .eventsReceived) .adyen item raw [] [] now leaseSeconds

end Front

section Refusals

theorem claim_raises (provider : Provider) (name : Str) (raw : Bytes) (headers : List (Str × Str)) (now leaseSeconds : T)
    (db : Db T) : Raises [.unicodeEncodeError, .typeError] (claim rt provider name raw headers now leaseSeconds db).1 := by
  intro exc raised
  let fresh := claimedRow rt provider name raw headers now leaseSeconds
  rw [claim_eq rt provider name raw headers now leaseSeconds (show fresh = _ from rfl)] at raised
  cases inserted : insertDelivery db fresh with
  | ok after =>
    simp only [writeTx, inserted, reduceCtorEq] at raised
  | error refused =>
    have refusals : refused.type = .unicodeEncodeError ∨ refused.type = .integrityError := by
      simp only [insertDelivery, bind_error, bindStr, raiseIf_error] at inserted
      rcases inserted with ⟨_, rfl⟩ | ⟨_, _, inserted⟩
      · exact .inl rfl
      · split at inserted <;> cases inserted
        exact .inr rfl
    replace raised := (writeTx_error.mp (Prod.ext raised rfl)).1
    simp only [inserted] at raised
    split at raised
    next =>
      unfold reclaim at raised
      split at raised
      next =>
        cases raised
        decide
      next => split at raised <;> try split at raised
              all_goals cases raised
    next other =>
      cases raised
      rcases refusals with type | type
      · simp [type]
      · rw [Exc.isinstance, type] at other
        exact absurd rfl other

variable {rt}

/-- A claim has no quarrel with the signature. -/
theorem claimVerified_unsigned {provider : Provider} {body : Mapping} {raw : Bytes} {headers : List (Str × Str)}
    {now leaseSeconds : T} {db : Db T} {exc : Exc}
    (raised : (claimVerified rt provider body raw headers now leaseSeconds db).1 = .error exc) :
    exc.isinstance .signatureError = false := by
  unfold claimVerified at raised
  cases named : identity provider body with
  | error unnamed =>
    rw [named] at raised
    cases raised
    unfold identity at named
    have type : exc.type = .malformedEvent := by
      repeat' split at named
      all_goals cases named
      all_goals rfl
    rw [Exc.isinstance, type]
    decide
  | ok name =>
    rw [named] at raised
    have raises := claim_raises rt provider name raw headers now leaseSeconds db
    rcases claimed : claim rt provider name raw headers now leaseSeconds db with ⟨refused | result, after⟩
    · rw [claimed] at raises
      simp only [claimed] at raised
      cases raised
      have types := raises exc rfl
      simp only [List.mem_cons, List.not_mem_nil, or_false] at types
      rcases types with type | type <;> rw [Exc.isinstance, type] <;> decide
    · simp only [claimed] at raised
      cases raised

omit [Seconds T] in
theorem payload_unsigned (loads : ∀ raw exc, rt.loads raw = .error exc → exc.isinstance .signatureError = false)
    {raw : Bytes} {exc : Exc} (raised : payload rt raw = .error exc) : exc.isinstance .signatureError = false := by
  rcases bind_error.mp raised with unread | ⟨value, _, unmapped⟩
  · exact loads raw exc unread
  · cases value with
    | dict entries => cases unmapped
    | _ =>
      cases unmapped
      decide

theorem stale_signature {exc : Exc} (stale : exc.isinstance .staleTimestamp = true) : exc.isinstance .signatureError = true := by
  obtain ⟨type, message⟩ := exc
  cases type
  case staleTimestamp => rfl
  all_goals cases stale

theorem unsigned_fresh {exc : Exc} (unsigned : exc.isinstance .signatureError = false) : exc.isinstance .staleTimestamp = false := by
  refine Bool.eq_false_iff.mpr fun stale => ?_
  rw [stale_signature stale] at unsigned
  cases unsigned

/-- What the front door raises of a signature, verification raised. -/
theorem receiveStripe_signature (loads : ∀ raw exc, rt.loads raw = .error exc → exc.isinstance .signatureError = false)
    {raw : Bytes} {headers : List (Str × Str)} {secrets : List Bytes} {received now leaseSeconds tolerance : T} {db : Db T} {exc : Exc}
    (raised : (receiveStripe rt raw headers secrets received now leaseSeconds tolerance db).1 = .error exc)
    (signature : exc.isinstance .signatureError = true) : verifyStripe rt raw headers secrets received tolerance = .error exc := by
  unfold receiveStripe at raised
  cases verified : verifyStripe rt raw headers secrets received tolerance with
  | error refusal =>
    simp only [verified, Except.error.injEq] at raised
    rw [raised]
  | ok _ =>
    simp only [verified] at raised
    have unsigned : exc.isinstance .signatureError = false := by
      cases parsed : payload rt raw with
      | error unread =>
        simp only [parsed] at raised
        cases raised
        exact payload_unsigned loads parsed
      | ok body =>
        simp only [parsed] at raised
        exact claimVerified_unsigned raised
    rw [unsigned] at signature
    cases signature

theorem accepted_timed {raw : Bytes} {headers : List (Str × Str)} {secrets : List Bytes} {received now leaseSeconds tolerance : T}
    {db : Db T} {result : ClaimResult}
    (accepted : (receiveStripe rt raw headers secrets received now leaseSeconds tolerance db).1 = .ok result) :
    mistimed rt headers = false := by
  unfold receiveStripe at accepted
  cases verified : verifyStripe rt raw headers secrets received tolerance with
  | error exc =>
    simp only [verified, reduceCtorEq] at accepted
  | ok signed => exact verified_reads verified

omit [Seconds T] in
theorem verifyAdyen_raises (item : Mapping) (signatureB64 hmacKeyHex : Str) :
    Raises [.valueError, .unicodeEncodeError, .badSignature] (verifyAdyen rt item signatureB64 hmacKeyHex) := by
  intro exc raised
  unfold verifyAdyen at raised
  cases keyed : rt.fromhex hmacKeyHex with
  | none =>
    rw [keyed] at raised
    cases raised
    decide
  | some key =>
    cases encoded : (adyenSigningString (adyenSigningFields rt item)).encode with
    | error _ =>
      simp only [keyed, encoded] at raised
      cases raised
      decide
    | ok message =>
      cases decoded : rt.b64decode signatureB64 with
      | none =>
        simp only [keyed, encoded, decoded] at raised
        cases raised
        decide
      | some given =>
        simp only [keyed, encoded, decoded, bind_error, reduceCtorEq, Except.ok.injEq, false_or, exists_eq_left'] at raised
        split at raised
        · cases raised
        · cases raised
          decide

theorem receiveAdyen_fresh (loads : ∀ raw exc, rt.loads raw = .error exc → exc.isinstance .signatureError = false)
    {raw : Bytes} {hmacKeyHex : Str} {now leaseSeconds : T} {db : Db T} {exc : Exc}
    (raised : (receiveAdyen rt raw hmacKeyHex now leaseSeconds db).1 = .error exc) : exc.isinstance .staleTimestamp = false := by
  unfold receiveAdyen at raised
  cases parsed : payload rt raw with
  | error unread =>
    simp only [parsed] at raised
    cases raised
    exact unsigned_fresh (payload_unsigned loads parsed)
  | ok item =>
    simp only [parsed] at raised
    cases verified : verifyAdyen rt item (adyenSignature rt item) hmacKeyHex with
    | error refusal =>
      simp only [verified] at raised
      cases raised
      have listed := verifyAdyen_raises item (adyenSignature rt item) hmacKeyHex exc verified
      simp only [List.mem_cons, List.not_mem_nil, or_false] at listed
      rcases listed with type | type | type <;> rw [Exc.isinstance, type] <;> decide
    | ok _ =>
      simp only [verified] at raised
      exact unsigned_fresh (claimVerified_unsigned raised)

end Refusals

section Receipts

/-- Nothing has been drained. -/
def Undrained (db : Db T) : Prop := ∀ row ∈ db.deliveries.rows, row.state = .claimed

theorem claimVerified_undrained {db : Db T} (undrained : Undrained db) (provider : Provider) (body : Mapping) (raw : Bytes)
    (headers : List (Str × Str)) (now leaseSeconds : T) :
    (∀ result, (claimVerified rt provider body raw headers now leaseSeconds db).1 = .ok result → result.reason ≠ .duplicate) ∧
      Undrained (claimVerified rt provider body raw headers now leaseSeconds db).2 := by
  unfold claimVerified
  cases identity provider body with
  | error _ => exact ⟨nofun, undrained⟩
  | ok name =>
    have claimed := claimed_self rt provider name raw headers now leaseSeconds db
    dsimp only
    generalize claim rt provider name raw headers now leaseSeconds db = answer at claimed ⊢
    obtain ⟨answer, after⟩ := answer
    dsimp only at claimed
    cases claimed with
    | unbound => exact ⟨nofun, undrained⟩
    | @new deliveries bound inserted =>
      refine ⟨fun result same => ?_, fun row listed => ?_⟩
      · cases same
        exact ClaimReason.noConfusion
      · change row ∈ deliveries.rows at listed
        have among : row ∈ db.deliveries.rows ++ [_] := (Table.insert?_eq_some.mp inserted).2 ▸ listed
        rcases List.mem_append.mp among with earlier | latest
        · exact undrained row earlier
        · exact congrArg Delivery.state (List.mem_singleton.mp latest)
    | duplicate found settled => exact absurd (undrained _ (Table.find?_eq_some.mp found).1) settled
    | inProgress => exact ⟨fun result same => by cases same; exact ClaimReason.noConfusion, undrained⟩
    | reclaimed found held expired =>
      refine ⟨fun result same => by cases same; exact ClaimReason.noConfusion, fun row listed => ?_⟩
      change row ∈ (db.deliveries.modify _ (refreshed _) (refreshed_deliveryId _)).rows at listed
      rcases Table.mem_modify.mp listed with ⟨stored, member, _, rfl⟩ | ⟨member, _⟩
      · exact undrained stored member
      · exact undrained row member

theorem receiveStripe_undrained {db : Db T} (undrained : Undrained db) (raw : Bytes) (headers : List (Str × Str))
    (secrets : List Bytes) (received now leaseSeconds tolerance : T) :
    (∀ result, (receiveStripe rt raw headers secrets received now leaseSeconds tolerance db).1 = .ok result →
        result.reason ≠ .duplicate) ∧
      Undrained (receiveStripe rt raw headers secrets received now leaseSeconds tolerance db).2 := by
  have bumped (name : Metric) : Undrained (db.bump name) := undrained
  unfold receiveStripe
  cases verifyStripe rt raw headers secrets received tolerance with
  | error exc =>
    refine ⟨nofun, ?_⟩
    dsimp only
    split
    · exact undrained
    · split <;> exact undrained
  | ok _ =>
    cases payload rt raw with
    | error exc => exact ⟨nofun, undrained⟩
    | ok body => exact claimVerified_undrained rt (bumped .eventsReceived) .stripe body raw headers now leaseSeconds

theorem receiveAdyen_undrained {db : Db T} (undrained : Undrained db) (raw : Bytes) (hmacKeyHex : Str) (now leaseSeconds : T) :
    (∀ result, (receiveAdyen rt raw hmacKeyHex now leaseSeconds db).1 = .ok result → result.reason ≠ .duplicate) ∧
      Undrained (receiveAdyen rt raw hmacKeyHex now leaseSeconds db).2 := by
  have bumped (name : Metric) : Undrained (db.bump name) := undrained
  unfold receiveAdyen
  cases payload rt raw with
  | error exc => exact ⟨nofun, undrained⟩
  | ok item =>
    dsimp only
    cases verifyAdyen rt item (adyenSignature rt item) hmacKeyHex with
    | error exc =>
      refine ⟨nofun, ?_⟩
      dsimp only
      split <;> exact undrained
    | ok _ => exact claimVerified_undrained rt (bumped .eventsReceived) .adyen item raw [] now leaseSeconds

/-- The two tallies of the same deliveries, `shifted` of which HTTP counts as replays where the
call counts a signature. -/
structure Receipted (shifted : Nat) (direct posted : Tally) : Prop where
  accepted : posted.new = direct.new + direct.leaseReclaimed
  reclaimed : posted.leaseReclaimed = 0
  duplicate : direct.duplicate = 0 ∧ posted.duplicate = 0
  inProgress : posted.inProgress = direct.inProgress
  signatures : posted.signatureInvalid + shifted = direct.signatureInvalid
  replays : posted.staleTimestamp = direct.staleTimestamp + shifted

namespace Receipted
variable {shifted : Nat} {direct posted : Tally} (receipted : Receipted shifted direct posted)
include receipted

theorem held : Receipted shifted (direct.count .inProgress) { posted with inProgress := posted.inProgress + 1 } :=
  { receipted with inProgress := congrArg (· + 1) receipted.inProgress }

theorem taken {reason : ClaimReason} (free : reason ≠ .inProgress) (first : reason ≠ .duplicate) :
    Receipted shifted (direct.count reason) { posted with new := posted.new + 1 } := by
  have accepted := receipted.accepted
  cases reason with
  | new => exact { receipted with accepted := by simp only [Tally.count]; omega }
  | leaseReclaimed => exact { receipted with accepted := by simp only [Tally.count]; omega }
  | duplicate => exact absurd rfl first
  | inProgress => exact absurd rfl free

theorem replayed : Receipted shifted { direct with staleTimestamp := direct.staleTimestamp + 1 }
    { posted with staleTimestamp := posted.staleTimestamp + 1 } :=
  { receipted with replays := (congrArg (· + 1) receipted.replays).trans (Nat.add_right_comm ..) }

theorem forged : Receipted shifted { direct with signatureInvalid := direct.signatureInvalid + 1 }
    { posted with signatureInvalid := posted.signatureInvalid + 1 } :=
  { receipted with signatures := (Nat.add_right_comm ..).trans (congrArg (· + 1) receipted.signatures) }

theorem mistaken : Receipted (shifted + 1) { direct with signatureInvalid := direct.signatureInvalid + 1 }
    { posted with staleTimestamp := posted.staleTimestamp + 1 } :=
  { receipted with
    signatures := congrArg (· + 1) receipted.signatures
    replays := congrArg (· + 1) receipted.replays }

end Receipted

/-- The two loops after the same deliveries. -/
structure Alongside (seen : List Sim.Delivery) (direct posted : Receiving T) : Prop where
  now : posted.now = direct.now
  tables : bare posted.db = bare direct.db
  undrained : Undrained direct.db
  receipted : Receipted (seen.countP (takenForReplay rt)) direct.tally posted.tally

variable {rt} {config : AppConfig T} {interval : T} {compact : Json → Str} {http : Http} {delivery : Sim.Delivery}
  {direct posted next : Receiving T}

omit [Seconds T] in
/-- One more delivery, told by the call and by the response. -/
theorem alongside_next {seen : List Sim.Delivery} {tally tally' : Tally} {now : T} {db db' : Db T} (tables : bare db = bare db')
    (undrained : Undrained db)
    (receipted : Receipted (seen.countP (takenForReplay rt) + if takenForReplay rt delivery then 1 else 0) tally tally') :
    Alongside rt (seen ++ [delivery]) { tally, now, db } { tally := tally', now, db := db' } where
  now := rfl
  tables := tables.symm
  undrained := undrained
  receipted := by rwa [List.countP_append, List.countP_singleton]

theorem postedStripe_follows (intelligible : Intelligible rt http) (stripe : delivery.provider = .stripe)
    (sent : header rt (http.wire delivery.raw delivery.headers) stripeSignatureHeader =
      header rt delivery.headers stripeSignatureHeader) {seen : List Sim.Delivery}
    (alongside : Alongside rt seen direct posted) (took : receiveDirect rt config interval direct delivery = .ok next) :
    ∃ after, receivePosted rt config interval compact http posted delivery = .ok after ∧
      Alongside rt (seen ++ [delivery]) next after := by
  have taken : takenForReplay rt delivery = mistimed rt delivery.headers := by simp [takenForReplay, stripe]
  obtain ⟨alike, tables⟩ := receiveStripe_bare rt alongside.tables.symm sent delivery.raw config.secrets direct.now direct.now
    config.leaseSeconds config.toleranceSeconds
  obtain ⟨first, undrained⟩ := receiveStripe_undrained rt alongside.undrained delivery.raw delivery.headers config.secrets
    direct.now direct.now config.leaseSeconds config.toleranceSeconds
  have refuses (exc : Exc) := @receiveStripe_signature T R _ rt intelligible.loads delivery.raw delivery.headers config.secrets
    direct.now direct.now config.leaseSeconds config.toleranceSeconds direct.db exc
  have timed (result : ClaimResult) := @accepted_timed T R _ rt delivery.raw delivery.headers config.secrets direct.now direct.now
    config.leaseSeconds config.toleranceSeconds direct.db result
  unfold receiveDirect at took
  unfold receivePosted post stripeWebhook
  rw [stripe] at took ⊢
  dsimp only at took ⊢
  rw [alongside.now]
  generalize receiveStripe rt delivery.raw delivery.headers config.secrets direct.now direct.now config.leaseSeconds
    config.toleranceSeconds direct.db = call at took alike tables first undrained refuses timed
  generalize receiveStripe rt delivery.raw (http.wire delivery.raw delivery.headers) config.secrets direct.now direct.now
    config.leaseSeconds config.toleranceSeconds posted.db = response at alike tables ⊢
  obtain ⟨answer, db⟩ := call
  obtain ⟨answer', db'⟩ := response
  dsimp only at took alike tables first undrained refuses timed ⊢
  subst answer'
  cases answer with
  | ok result =>
    cases took
    have shift : (if takenForReplay rt delivery then 1 else 0) = 0 := by rw [taken, timed result rfl]; rfl
    by_cases held : result.reason = .inProgress
    · simp only [stripeAnswer, held, if_true]
      refine ⟨_, rfl, alongside_next tables undrained ?_⟩
      rw [shift]
      exact alongside.receipted.held
    · simp only [stripeAnswer, held, if_false]
      refine ⟨_, rfl, alongside_next tables undrained ?_⟩
      rw [shift]
      exact alongside.receipted.taken held (first result rfl)
  | error exc =>
    have names (signature : exc.isinstance .signatureError = true) := refusal_names (refuses exc rfl signature) signature
    rw [← taken] at names
    by_cases stale : exc.isinstance .staleTimestamp = true
    · have signature : exc.isinstance .signatureError = true := stale_signature stale
      obtain ⟨timestamp, timely⟩ := (if_pos stale).mp (names signature)
      simp only [if_pos stale] at took
      cases took
      have written := intelligible.names exc.message timestamp
      simp only [stripeAnswer, errorResponse, signature, Except.map, if_true, if_pos written]
      refine ⟨_, rfl, alongside_next tables undrained ?_⟩
      rw [timely]
      exact alongside.receipted.replayed
    · simp only [if_neg stale] at took
      by_cases signature : exc.isinstance .signatureError = true
      · have names := (if_neg stale).mp (names signature)
        simp only [if_pos signature] at took
        cases took
        cases mistaken : takenForReplay rt delivery with
        | true =>
          rw [mistaken] at names
          have written := intelligible.names exc.message names
          simp only [stripeAnswer, errorResponse, signature, Except.map, if_true, if_pos written]
          refine ⟨_, rfl, alongside_next tables undrained ?_⟩
          rw [mistaken]
          exact alongside.receipted.mistaken
        | false =>
          rw [mistaken] at names
          have unwritten (written : str "timestamp" <:+: http.render [(str "error", .str exc.message)]) : False :=
            names.1 (intelligible.plain exc.message names.2 written)
          simp only [stripeAnswer, errorResponse, signature, Except.map, if_true, if_neg unwritten]
          refine ⟨_, rfl, alongside_next tables undrained ?_⟩
          rw [mistaken]
          exact alongside.receipted.forged
      · rw [if_neg signature] at took
        cases took

theorem postedAdyen_follows (intelligible : Intelligible rt http) (sendable : Sendable rt compact http delivery)
    (adyen : delivery.provider = .adyen) {seen : List Sim.Delivery}
    (alongside : Alongside rt seen direct posted) (took : receiveDirect rt config interval direct delivery = .ok next) :
    ∃ after, receivePosted rt config interval compact http posted delivery = .ok after ∧
      Alongside rt (seen ++ [delivery]) next after := by
  have kept : takenForReplay rt delivery = false := by simp [takenForReplay, adyen]
  obtain ⟨item, body, loaded, raw, encoded, enveloped⟩ := sendable.item adyen
  obtain ⟨alike, tables⟩ := receiveAdyen_bare rt alongside.tables.symm delivery.raw config.adyenHmacKeyHex direct.now
    config.leaseSeconds
  obtain ⟨first, undrained⟩ := receiveAdyen_undrained rt alongside.undrained delivery.raw config.adyenHmacKeyHex direct.now
    config.leaseSeconds
  have fresh (exc : Exc) := @receiveAdyen_fresh T R _ rt intelligible.loads delivery.raw config.adyenHmacKeyHex direct.now
    config.leaseSeconds direct.db exc
  have wrapped : (do http.encode (envelope (← rt.loads delivery.raw))) = .ok body := by
    rw [loaded]
    exact encoded
  have items : (do adyenItems (← rt.loads body)) = .ok [item] := by
    rw [enveloped]
    rfl
  unfold receiveDirect at took
  unfold receivePosted post adyenWebhook
  rw [adyen] at took ⊢
  dsimp only at took ⊢
  rw [alongside.now, wrapped]
  dsimp only
  rw [items]
  dsimp only [receiveItems]
  rw [raw]
  dsimp only
  generalize receiveAdyen rt delivery.raw config.adyenHmacKeyHex direct.now config.leaseSeconds direct.db = call
    at took alike tables first undrained fresh
  generalize receiveAdyen rt delivery.raw config.adyenHmacKeyHex direct.now config.leaseSeconds posted.db = response
    at alike tables ⊢
  obtain ⟨answer, db⟩ := call
  obtain ⟨answer', db'⟩ := response
  dsimp only at took alike tables first undrained fresh ⊢
  subst answer'
  cases answer with
  | ok result =>
    cases took
    by_cases held : result.reason = .inProgress
    · simp only [held, decide_true, Bool.or_true, if_true, Except.map]
      refine ⟨_, rfl, alongside_next tables undrained ?_⟩
      rw [kept]
      exact alongside.receipted.held
    · simp only [held, decide_false, Bool.or_false, Bool.false_eq_true, if_false, Except.map]
      refine ⟨_, rfl, alongside_next tables undrained ?_⟩
      rw [kept]
      exact alongside.receipted.taken held (first result rfl)
  | error exc =>
    dsimp only at took
    rw [fresh exc rfl, if_neg Bool.false_ne_true] at took
    by_cases signature : exc.isinstance .signatureError = true
    · simp only [if_pos signature] at took
      cases took
      simp only [if_pos signature, Except.map]
      refine ⟨_, rfl, alongside_next tables undrained ?_⟩
      rw [kept]
      exact alongside.receipted.forged
    · rw [if_neg signature] at took
      cases took

/-- The loop over the answers follows the loop over the calls. -/
theorem receiveOverHttp_follows {deliveries : List Sim.Delivery} (intelligible : Intelligible rt http)
    (sendable : ∀ delivery ∈ deliveries, Sendable rt compact http delivery) {now : T} {received : Receiving T}
    (ran : receiveInProcess rt config interval deliveries { now, db := .empty } = .ok received) :
    ∃ posted, receiveOverHttp rt config interval compact http deliveries { now, db := .empty } = .ok posted ∧
      Alongside rt deliveries received posted := by
  have begun : Alongside rt [] { now, db := .empty } { now, db := .empty } :=
    ⟨rfl, rfl, nofun, ⟨rfl, rfl, ⟨rfl, rfl⟩, rfl, rfl, rfl⟩⟩
  refine Library.Run.follows (fun seen delivery direct next posted listed alongside took => ?_) begun ran
  cases provider : delivery.provider with
  | stripe => exact postedStripe_follows intelligible provider ((sendable delivery listed).header provider) alongside took
  | adyen => exact postedAdyen_follows intelligible (sendable delivery listed) provider alongside took

end Receipts

section After
variable {rt} (db : Db T)

theorem parkedEvents_bare : parkedEvents rt (bare db) = parkedEvents rt db := by
  have sorted : ((bare db).deliveries.rows.filter fun row => row.state = .parked).insertionSort
        (fun first second => first.deliveryId ≤ second.deliveryId) =
      ((db.deliveries.rows.filter fun row => row.state = .parked).insertionSort
        (fun first second => first.deliveryId ≤ second.deliveryId)).map bareRow := by
    rw [List.map_insertionSort (r := fun first second : Delivery T => first.deliveryId ≤ second.deliveryId)
      (s := fun first second : Delivery T => first.deliveryId ≤ second.deliveryId) bareRow _ fun _ _ _ _ => Iff.rfl]
    congr 1
    exact List.filter_map
  rw [parkedEvents, parkedEvents, sorted, List.mapM_map]
  rfl

def bareDatabase (database : Database T) : Database T := { database with tables := bare database.tables }

omit [Seconds T] in
theorem storeSettlement_bare (rows : List SettlementRow) (database : Database T) :
    storeSettlement rows (bareDatabase database) = (storeSettlement rows database).map bareDatabase := by
  unfold storeSettlement
  induction rows generalizing database with
  | nil => rfl
  | cons row rest ih =>
    rw [List.foldlM_cons, List.foldlM_cons]
    cases bindSettlement row with
    | error exc => rfl
    | ok _ => exact ih { database with settlementRows := database.settlementRows.replace row }

theorem runReconcile_bare (database : Database T) (remote : List (RemotePayment T)) (now : T) (policy : GatePolicy T) :
    runReconcile rt (bareDatabase database) remote now policy = runReconcile rt database remote now policy := by
  unfold runReconcile
  have parked : parkedEvents rt (bareDatabase database).tables = parkedEvents rt database.tables := parkedEvents_bare database.tables
  rw [parked]
  rfl

/-- What is left of a run without the headers, and without the tally. -/
def bareRun (run : DemoRun T) : DemoRun T := { run with receipts := {}, database := bareDatabase run.database }

variable {settings : DemoSettings T} {simulated : Simulated T}

theorem demoAfter_bare (received : Receiving T) : (demoAfter rt settings simulated received).map bareRun =
    demoAfter rt settings simulated { now := received.now, db := bare received.db } := by
  unfold demoAfter
  dsimp only
  rw [drainUntilIdle_bare]
  dsimp only
  generalize drainUntilIdle rt (FakeClock T) settings.retry (fun _ => none) defaultPasses received.now received.db = idle
  have stored := storeSettlement_bare simulated.settlementReport ⟨idle.db, .empty⟩
  change storeSettlement simulated.settlementReport ⟨bare idle.db, .empty⟩ = _ at stored
  rw [stored]
  cases storeSettlement simulated.settlementReport ⟨idle.db, .empty⟩ with
  | error exc => rfl
  | ok database =>
    change Except.map bareRun (runReconcile rt database _ _ _ >>= _) = runReconcile rt (bareDatabase database) _ _ _ >>= _
    rw [runReconcile_bare]
    cases runReconcile rt database simulated.remotePayments (idle.clock + settings.reconcileAfter) settings.gate with
    | error exc => rfl
    | ok reconciled => rfl

theorem demoAfter_receipts {received : Receiving T} {run : DemoRun T} (ran : demoAfter rt settings simulated received = .ok run) :
    run.receipts = received.tally := by
  simp only [demoAfter, bind_ok, pure_eq_ok, Except.ok.injEq, Prod.exists] at ran
  obtain ⟨_, _, _, _, _, rfl⟩ := ran
  rfl

end After

/-- What two runs over the same deliveries have in common, `shifted` of which HTTP counted as
replays where the call counted a signature. -/
structure Agreed (shifted : Nat) (run posted : DemoRun T) : Prop where
  receipts : Receipted shifted run.receipts posted.receipts
  drained : posted.drained = run.drained
  ledger : posted.ledger = run.ledger
  report : posted.report = run.report
  decision : posted.decision = run.decision
  asOf : posted.asOf = run.asOf
  tables : bare posted.database.tables = bare run.database.tables
  settlement : posted.database.settlementRows = run.database.settlementRows

/-- A demo that runs in process runs over HTTP, each on a fresh database, and drains, settles,
reports and decides the same: the tables differ in the headers that were stored. The receipts are told alike, but
for the headers whose timestamp cannot be used. -/
theorem transports_agree {settings : DemoSettings T} {simulated : Simulated T} {compact : Json → Str} {http : Http}
    (intelligible : Intelligible rt http) (sendable : ∀ delivery ∈ simulated.deliveries, Sendable rt compact http delivery)
    {run : DemoRun T} (ran : demo rt settings simulated = .ok run) :
    ∃ posted, demoOverHttp rt settings simulated compact http = .ok posted ∧
      Agreed (simulated.deliveries.countP (takenForReplay rt)) run posted ∧
      (simulated.deliveries.countP (takenForReplay rt) = 0 → posted.receipts.printed = run.receipts.printed) := by
  obtain ⟨received, took, after⟩ := bind_ok.mp ran
  obtain ⟨received', took', alongside⟩ := receiveOverHttp_follows intelligible sendable took
  have same : (demoAfter rt settings simulated received').map bareRun = (demoAfter rt settings simulated received).map bareRun := by
    rw [demoAfter_bare, demoAfter_bare, alongside.now, alongside.tables]
  rw [after] at same
  cases ended : demoAfter rt settings simulated received' with
  | error exc =>
    rw [ended] at same
    cases same
  | ok posted =>
    rw [ended] at same
    have bared : bareRun posted = bareRun run := Except.ok.inj same
    simp only [bareRun, bareDatabase, DemoRun.mk.injEq, Database.mk.injEq, true_and] at bared
    obtain ⟨drained, ledger, report, decision, asOf, tables, settlement⟩ := bared
    have receipted := alongside.receipted
    rw [← demoAfter_receipts after, ← demoAfter_receipts ended] at receipted
    refine ⟨posted, ?_, ?_, fun none => ?_⟩
    · rw [demoOverHttp, took']
      exact ended
    · exact ⟨receipted, drained, ledger, report, decision, asOf, tables, settlement⟩
    · rw [none] at receipted
      obtain ⟨accepted, reclaimed, ⟨first, first'⟩, inProgress, signatures, replays⟩ := receipted
      rw [Nat.add_zero] at signatures replays
      simp only [Tally.printed, accepted, reclaimed, first, first', inProgress, signatures, replays, Nat.add_zero]

/-- A client that hands headers on as they are, and an app that writes a message between
quotes. -/
def plainHttp : Http where
  wire _ headers := headers
  encode value := .ok (Json.body [(str "body", value)])
  render content := match content.lookup (str "error") with
    | some (.str message) => str "\x7b\"error\":\"" ++ message ++ str "\"\x7d"
    | _ => str "\x7b\"received\":true\x7d"

theorem plainHttp_render (message : Str) : plainHttp.render [(str "error", .str message)] =
    str "\x7b\"error\":\"" ++ message ++ str "\"\x7d" := rfl

/-- What a word does not begin with can stand before a text without making the word. -/
theorem infix_behind {first : CodePoint} {word opening text : Str} (begins : word.head? = some first) (apart : first ∉ opening)
    (found : word <:+: opening ++ text) : word <:+: text := by
  obtain ⟨rest, rfl⟩ := List.head?_eq_some_iff.mp begins
  induction opening with
  | nil => exact found
  | cons c opening ih =>
    rw [List.mem_cons, not_or] at apart
    rcases List.infix_cons_iff.mp found with starts | later
    · exact absurd (List.cons_prefix_cons.mp starts).1 apart.1
    · exact ih apart.2 later

theorem plainHttp_intelligible : Intelligible signing plainHttp where
  loads raw exc raised := by
    unfold signing Runtime.recorded at raised
    dsimp only at raised
    split at raised
    · cases raised
    · cases raised
      decide
  names message named := by
    rw [plainHttp_render]
    exact named.trans (List.infix_append _ message _)
  plain message _ named := by
    rw [plainHttp_render] at named
    have backwards := List.reverse_infix.mpr named
    rw [List.reverse_append] at backwards
    have opened := infix_behind (show _ = some (codePoint 'p') from rfl) (by decide) backwards
    exact infix_behind (show _ = some (codePoint 't') from rfl) (by decide) (List.reverse_infix.mp opened)

def signedDeliveries : List Sim.Delivery :=
  [⟨.stripe, str "evt_1", signedCall.raw, signedCall.headers⟩,
    ⟨.stripe, str "evt_1", signedCall.raw, [(stripeSignatureHeader, str "t=0100,v1=" ++ digestHex)]⟩]

def signedSettings : DemoSettings Int where
  config := signedConfig
  retry := .standard
  gate := standardGate
  interval := 1
  reconcileAfter := 1200

def signedRun : Simulated Int := { startedAt := 400, deliveries := signedDeliveries, settlementReport := [], remotePayments := [] }

theorem transports_agree_signed : ∃ run posted, demo signing signedSettings signedRun = .ok run ∧
    demoOverHttp signing signedSettings signedRun Json.written plainHttp = .ok posted ∧ run.receipts.new = 1 ∧ Agreed 1 run posted := by
  have ends : (match demo signing signedSettings signedRun with
      | .ok run => decide (run.receipts.new = 1)
      | .error _ => false) = true := by decide +kernel
  split at ends
  next run ran =>
    have sendable (delivery : Sim.Delivery) (listed : delivery ∈ signedRun.deliveries) :
        Sendable signing Json.written plainHttp delivery := by
      have stripe : delivery.provider = .stripe := by
        rcases List.mem_cons.mp listed with rfl | listed
        · rfl
        · exact congrArg Sim.Delivery.provider (List.mem_singleton.mp listed)
      have adyenless : delivery.provider ≠ .adyen := by
        rw [stripe]
        decide
      exact ⟨fun _ => rfl, fun adyen => absurd adyen adyenless⟩
    obtain ⟨posted, ran', agreed, _⟩ := transports_agree signing plainHttp_intelligible sendable ran
    have shifted : signedRun.deliveries.countP (takenForReplay signing) = 1 := by decide +kernel
    rw [shifted] at agreed
    exact ⟨run, posted, ran, ran', of_decide_eq_true ends, agreed⟩
  next => cases ends

end Quidz.Proofs
