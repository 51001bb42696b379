import Mathlib.Data.List.Induction
import Quidz.Receive
import Quidz.Proofs.Decoding
import Quidz.Proofs.Transactions

/-! What a Stripe signature says about the bytes that are stored. A delivery is accepted
exactly if its header signs the bytes that arrived, at a time not longer ago than the
tolerance, and no other bytes reach the inbox. -/

namespace Quidz.Proofs.StripeBinding

open Library (Table)

variable {T R : Type} (rt : Runtime T R)

section Numerals

theorem mem_ofNat {n : Nat} {c : CodePoint} (member : c ∈ Str.ofNat n) : codePoint '0' ≤ c ∧ c ≤ codePoint '9' := by
  obtain ⟨digit, inside, rfl⟩ := List.mem_map.mp member
  have isDigit := Nat.isDigit_of_mem_toDigits (by decide) (by decide) inside
  simp only [Char.isDigit, Bool.and_eq_true, decide_eq_true_eq, UInt32.le_iff_toNat_le] at isDigit
  exact isDigit

theorem digit_isascii {c : CodePoint} (high : c ≤ codePoint '9') : isascii c = true :=
  decide_eq_true (Nat.lt_of_le_of_lt (Fin.le_def.mp high) (by decide))

theorem isdigit_ofNat (n : Nat) : rt.isdigit (Str.ofNat n) = true := by
  simp only [Runtime.isdigit, Bool.and_eq_true, List.all_eq_true, decide_eq_true_eq]
  refine ⟨Str.ofNat_ne_nil n, fun c member => ?_⟩
  obtain ⟨low, high⟩ := mem_ofNat member
  rw [if_pos (digit_isascii high)]
  simp [low, high]

/-- What is written as a decimal reads back, as long as `int` reads it at all. -/
theorem int_ofNat {n : Nat} (short : (Str.ofNat n).length ≤ intMaxStrDigits) : rt.int (Str.ofNat n) = .ok (n : Int) := by
  have values {digits : List Char} (ascii : ∀ c ∈ digits, isascii (codePoint c) = true) :
      ((digits.map codePoint).mapM fun c => if isascii c then some (c.val - (codePoint '0').val) else rt.decimal c) =
        some (digits.map fun c => c.toNat - '0'.toNat) := by
    induction digits with
    | nil => rfl
    | cons c rest ih =>
      obtain ⟨first, others⟩ := List.forall_mem_cons.mp ascii
      rw [List.map_cons, List.mapM_cons, if_pos first, ih others]
      rfl
  unfold Runtime.int
  rw [if_neg (Nat.not_lt.mpr short), Str.ofNat, values]
  · dsimp only
    rw [List.foldl_map, ← Nat.ofDigitChars_eq_foldl, Nat.ofDigitChars_ten_toDigits]
  · exact fun c member => digit_isascii (mem_ofNat (List.mem_map_of_mem member)).2

theorem int_ok {text : Str} {value : Int} (read : rt.int text = .ok value) :
    text.length ≤ intMaxStrDigits ∧ ∃ n : Nat, value = n := by
  unfold Runtime.int at read
  split at read
  next => cases read
  next short =>
    split at read
    next digits _ =>
      cases read
      exact ⟨Nat.not_lt.mp short, _, rfl⟩
    next => cases read

end Numerals

section Payload

/-- The timestamp in front of the raw bytes ends at the first full stop. -/
theorem signedPayload_injective {t t' : Nat} {raw raw' : Bytes} (same : signedPayload t raw = signedPayload t' raw') :
    t = t' ∧ raw = raw' := by
  let stop : UInt8 := .ofNat (codePoint '.').val
  let digits (n : Nat) : Bytes := (Str.ofNat n).map fun c => .ofNat c.val
  have bytes (n : Nat) (rest : Bytes) : signedPayload n rest = digits n ++ stop :: rest := by
    simp [signedPayload, Str.ofInt, str, digits, stop]
  have values (n : Nat) : (digits n).map UInt8.toNat = (Str.ofNat n).map Fin.val := by
    rw [List.map_map]
    refine List.map_congr_left fun c member => UInt8.toNat_ofNat_of_lt' ?_
    exact Nat.lt_of_le_of_lt (Fin.le_def.mp (mem_ofNat member).2) (by decide)
  have plain (n : Nat) : ∀ byte ∈ digits n, decide (byte ≠ stop) = true := by
    intro byte member
    have value := List.mem_map_of_mem (f := UInt8.toNat) member
    rw [values] at value
    obtain ⟨c, inside, equal⟩ := List.mem_map.mp value
    rw [decide_eq_true_eq]
    rintro rfl
    exact absurd (equal ▸ Fin.le_def.mp (mem_ofNat inside).1) (by decide)
  rw [bytes, bytes] at same
  have front := congrArg (List.takeWhile (· ≠ stop)) same
  have back := congrArg (List.dropWhile (· ≠ stop)) same
  rw [List.takeWhile_append_of_pos (plain t), List.takeWhile_append_of_pos (plain t'),
    List.takeWhile_cons_of_neg (by simp), List.takeWhile_cons_of_neg (by simp), List.append_nil, List.append_nil] at front
  rw [List.dropWhile_append_of_pos (plain t), List.dropWhile_append_of_pos (plain t'),
    List.dropWhile_cons_of_neg (by simp), List.dropWhile_cons_of_neg (by simp)] at back
  refine ⟨Str.ofNat_injective (List.map_injective_iff.mpr Fin.val_injective ?_), (List.cons.inj back).2⟩
  rw [← values, ← values, front]

end Payload

section Header

/-- The parts of a header that name a scheme, each with its value. -/
def parts (value : Str) : List (Str × Str) :=
  (value.split (codePoint ',')).filterMap fun part => (Str.strip rt.isspace part).partition (codePoint '=')

/-- The values of one scheme, in the order of the header. -/
def under (scheme : Str) (parts : List (Str × Str)) : List Str :=
  (parts.filter fun part => part.1 = scheme).map Prod.snd

/-- The parts under the two schemes that count. -/
def signedParts (value : Str) : List (Str × Str) :=
  (parts rt value).filter fun part => part.1 = str "t" ∨ part.1 = stripeScheme

theorem under_signedParts {scheme value : Str} (counts : scheme = str "t" ∨ scheme = stripeScheme) :
    under scheme (signedParts rt value) = under scheme (parts rt value) := by
  unfold under signedParts
  rw [List.filter_filter]
  congr 1
  refine List.filter_congr fun part _ => ?_
  by_cases same : part.1 = scheme
  · simp [same, counts]
  · simp [same]

theorem under_append (scheme : Str) (parts : List (Str × Str)) (part : Str × Str) :
    under scheme (parts ++ [part]) = under scheme parts ++ if part.1 = scheme then [part.2] else [] := by
  unfold under
  rw [List.filter_append, List.map_append, List.filter_cons, List.filter_nil]
  by_cases same : part.1 = scheme <;> simp [same]

/-- The last timestamp counts, and every signature. -/
theorem parsePart_parts (pieces : List Str) :
    let named := pieces.filterMap fun part => (Str.strip rt.isspace part).partition (codePoint '=')
    pieces.foldl (parsePart rt) (none, []) = ((under (str "t") named).getLast?, under stripeScheme named) := by
  induction pieces using List.reverseRecOn with
  | nil => rfl
  | append_singleton pieces piece ih =>
    simp only at ih ⊢
    rw [List.foldl_append, ih, List.filterMap_append, List.foldl_cons, List.foldl_nil, parsePart]
    cases read : (Str.strip rt.isspace piece).partition (codePoint '=') with
    | none => simp [read]
    | some part =>
      have last : [piece].filterMap (fun part => (Str.strip rt.isspace part).partition (codePoint '=')) = [part] := by
        simp [read]
      obtain ⟨scheme, raw⟩ := part
      rw [last, under_append, under_append]
      dsimp only
      by_cases time : scheme = str "t"
      · rw [if_pos time, if_pos time, if_neg (by rw [time]; decide), List.getLast?_concat, List.append_nil]
      · rw [if_neg time, if_neg time, List.append_nil]
        by_cases signs : scheme = stripeScheme
        · rw [if_pos signs, if_pos signs]
        · rw [if_neg signs, if_neg signs, List.append_nil]

theorem read_parts (value : Str) : (value.split (codePoint ',')).foldl (parsePart rt) (none, []) =
    ((under (str "t") (parts rt value)).getLast?, under stripeScheme (parts rt value)) := parsePart_parts rt _

theorem parse_ok {value : Str} {timestamp : Int} {candidates : List Str} :
    parseStripeSignatureHeader rt value = .ok (timestamp, candidates) ↔
      ∃ t : Nat, timestamp = t ∧ (Str.ofNat t).length ≤ intMaxStrDigits ∧
        (under (str "t") (parts rt value)).getLast? = some (Str.ofNat t) ∧
        candidates = under stripeScheme (parts rt value) ∧ candidates ≠ [] := by
  unfold parseStripeSignatureHeader
  rw [read_parts]
  simp only [bind_ok, raiseIf_ok, orRaise_ok, pure_eq_ok, exists_const, Except.ok.injEq, Prod.mk.injEq, not_not,
    Option.filter_eq_some_iff]
  constructor
  · rintro ⟨written, ⟨last, usable⟩, number, int, canonical, signed, rfl, rfl⟩
    obtain ⟨short, t, rfl⟩ := int_ok rt int
    obtain rfl : written = Str.ofNat t := canonical
    exact ⟨t, rfl, short, last, rfl, signed⟩
  · rintro ⟨t, rfl, short, last, rfl, signed⟩
    exact ⟨Str.ofNat t, ⟨last, isdigit_ofNat rt t⟩, t, int_ofNat rt short, rfl, signed, rfl, rfl⟩

end Header

/-- The `Stripe-Signature` header signs the bytes at the time `t`: `t` is its last
timestamp, written as `str` would, and one of its `v1` values decodes to the HMAC of the
two under a secret that is active. -/
def Signs (headers : List (Str × Str)) (secrets : List Bytes) (raw : Bytes) (t : Nat) : Prop :=
  ∃ value ∈ header rt headers stripeSignatureHeader,
    (under (str "t") (parts rt value)).getLast? = some (Str.ofNat t) ∧
    ∃ secret ∈ secrets, ∃ candidate ∈ under stripeScheme (parts rt value),
      rt.fromhex candidate = some (rt.hmacSha256 secret (signedPayload t raw))

section Verify
variable [Seconds T]

/-- `t` is not longer ago than the tolerance. -/
def Recent (now tolerance : T) (t : Nat) : Prop := ∃ signed ∈ (Seconds.ofInt t : Option T), now - signed ≤ tolerance

theorem verifyStripe_ok {raw : Bytes} {headers : List (Str × Str)} {secrets : List Bytes} {now tolerance : T}
    {timestamp : Int} : verifyStripe rt raw headers secrets now tolerance = .ok timestamp ↔
      0 < tolerance ∧ ∃ t : Nat, timestamp = t ∧ (Str.ofNat t).length ≤ intMaxStrDigits ∧
        Signs rt headers secrets raw t ∧ Recent now tolerance t := by
  simp only [verifyStripe, bind_ok, raiseIf_ok, orRaise_ok, pure_eq_ok, exists_const, Except.ok.injEq, Prod.exists,
    parse_ok, not_le, not_lt, Bool.not_eq_false, List.any_eq_true, decide_eq_true_eq]
  constructor
  · rintro ⟨positive, _, value, carried, read, candidates, ⟨t, rfl, short, last, rfl, _⟩, matched, signed, float, recent, rfl⟩
    obtain ⟨secret, active, candidate, listed, decodes⟩ := matched
    exact ⟨positive, t, rfl, short, ⟨value, carried, last, secret, active, candidate, listed, decodes⟩, signed, float, recent⟩
  · rintro ⟨positive, t, rfl, short, ⟨value, carried, last, secret, active, candidate, listed, decodes⟩, signed, float, recent⟩
    exact ⟨positive, List.ne_nil_of_mem active, value, carried, t, _, ⟨t, rfl, short, last, rfl, List.ne_nil_of_mem listed⟩,
      ⟨secret, active, candidate, listed, decodes⟩, signed, float, recent, rfl⟩

/-- What a header says under other schemes is not read. -/
theorem verifyStripe_ignores {headers headers' : List (Str × Str)} (raw : Bytes) (secrets : List Bytes) (now tolerance : T)
    (same : (header rt headers stripeSignatureHeader).map (signedParts rt) =
      (header rt headers' stripeSignatureHeader).map (signedParts rt)) (timestamp : Int) :
    verifyStripe rt raw headers secrets now tolerance = .ok timestamp ↔
      verifyStripe rt raw headers' secrets now tolerance = .ok timestamp := by
  have signs {first second : List (Str × Str)} {t : Nat}
      (same : (header rt first stripeSignatureHeader).map (signedParts rt) =
        (header rt second stripeSignatureHeader).map (signedParts rt)) (signed : Signs rt first secrets raw t) :
      Signs rt second secrets raw t := by
    obtain ⟨value, carried, signed⟩ := signed
    rw [Option.mem_def.mp carried, Option.map_some, eq_comm, Option.map_eq_some_iff] at same
    obtain ⟨other, carried', same⟩ := same
    rw [← under_signedParts rt (.inl rfl), ← under_signedParts rt (.inr rfl), ← same] at signed
    rw [under_signedParts rt (.inl rfl), under_signedParts rt (.inr rfl)] at signed
    exact ⟨other, carried', signed⟩
  have signed (t : Nat) : Signs rt headers secrets raw t ↔ Signs rt headers' secrets raw t := ⟨signs same, signs same.symm⟩
  simp only [verifyStripe_ok, signed]

end Verify

section Runs
variable [Seconds T]

/-- The arguments of a call of `receive_stripe`, and what the clock reads in it. -/
structure StripeCall (T : Type) where
  raw : Bytes
  headers : List (Str × Str)
  secrets : List Bytes
  received : T
  now : T
  leaseSeconds : T
  toleranceSeconds : T

def receiveCall (db : Db T) (call : StripeCall T) : Db T :=
  (receiveStripe rt call.raw call.headers call.secrets call.received call.now call.leaseSeconds call.toleranceSeconds db).2

def receiveRun (calls : List (StripeCall T)) : Db T := calls.foldl (receiveCall rt) .empty

/-- The call was accepted with these bytes. -/
def Accepts (call : StripeCall T) (raw : Bytes) : Prop :=
  call.raw = raw ∧ ∃ timestamp,
    verifyStripe rt call.raw call.headers call.secrets call.received call.toleranceSeconds = .ok timestamp

theorem claimVerified_rows {provider : Provider} {payload : Mapping} {raw : Bytes} {headers : List (Str × Str)}
    {now leaseSeconds : T} {db : Db T} {row : Delivery T}
    (member : row ∈ (claimVerified rt provider payload raw headers now leaseSeconds db).2.deliveries.rows) :
    row ∈ db.deliveries.rows ∨ row.raw = raw := by
  unfold claimVerified at member
  split at member
  next => exact .inl member
  next id _ =>
    have claimed := claimed_self rt provider id raw headers now leaseSeconds db
    have stored : row ∈ (claim rt provider id raw headers now leaseSeconds db).2.deliveries.rows := by
      split at member
      next answered => rw [answered]; exact member
      next answered =>
        rw [answered]
        split at member <;> exact member
    generalize (claim rt provider id raw headers now leaseSeconds db).1 = answer at claimed
    generalize (claim rt provider id raw headers now leaseSeconds db).2 = after at claimed stored
    cases claimed with
    | new bound inserted =>
      obtain ⟨_, rows⟩ := Table.insert?_eq_some.mp inserted
      rw [rows] at stored
      exact (List.mem_append.mp stored).imp_right fun fresh => by rw [List.mem_singleton.mp fresh]; rfl
    | reclaimed found held expired =>
      rw [Db.updateDelivery_deliveries, Table.mem_modify] at stored
      rcases stored with ⟨old, _, _, rfl⟩ | ⟨inside, _⟩
      · exact .inr rfl
      · exact .inl inside
    | _ => exact .inl stored

theorem receiveCall_rows {db : Db T} {call : StripeCall T} {row : Delivery T}
    (member : row ∈ (receiveCall rt db call).deliveries.rows) : row ∈ db.deliveries.rows ∨ Accepts rt call row.raw := by
  unfold receiveCall receiveStripe at member
  split at member
  next =>
    left
    split at member
    next => exact member
    next => split at member <;> exact member
  next timestamp verified =>
    split at member
    next => exact .inl member
    next => exact (claimVerified_rows rt member).imp_right fun same => ⟨same.symm, timestamp, verified⟩

theorem receiveRun_accepted (calls : List (StripeCall T)) {row : Delivery T}
    (member : row ∈ (receiveRun rt calls).deliveries.rows) : ∃ call ∈ calls, Accepts rt call row.raw := by
  induction calls using List.reverseRecOn with
  | nil => cases member
  | append_singleton calls call ih =>
    rw [receiveRun, List.foldl_append] at member
    rcases receiveCall_rows rt member with before | accepted
    · obtain ⟨earlier, inside, accepted⟩ := ih before
      exact ⟨earlier, List.mem_append_left _ inside, accepted⟩
    · exact ⟨call, List.mem_append_right _ List.mem_cons_self, accepted⟩

end Runs

/-- Over every run of `receive_stripe`, the bytes of every stored delivery were signed
by the header of some call, at a time its tolerance allows. All that is signed so is
accepted; what stands under other schemes changes nothing; and the signed payload tells
the time and the bytes. -/
theorem only_authentic_stripe [Seconds T] (representable : ∀ t : Nat, t < 2 ^ 63 → (Seconds.ofInt t : Option T).isSome) :
    (∀ calls : List (StripeCall T), ∀ row ∈ (receiveRun rt calls).deliveries.rows, ∃ call ∈ calls,
      call.raw = row.raw ∧ ∃ t, Signs rt call.headers call.secrets row.raw t ∧
        Recent call.received call.toleranceSeconds t) ∧
    (∀ raw headers secrets (now tolerance : T) (t : Nat), t < 2 ^ 63 → 0 < tolerance → Signs rt headers secrets raw t →
      (∀ signed ∈ (Seconds.ofInt t : Option T), now - signed ≤ tolerance) →
      verifyStripe rt raw headers secrets now tolerance = .ok t) ∧
    (∀ raw headers headers' secrets (now tolerance : T),
      (header rt headers stripeSignatureHeader).map (signedParts rt) =
        (header rt headers' stripeSignatureHeader).map (signedParts rt) →
      ∀ timestamp, verifyStripe rt raw headers secrets now tolerance = .ok timestamp ↔
        verifyStripe rt raw headers' secrets now tolerance = .ok timestamp) ∧
    ∀ (t t' : Nat) raw raw', signedPayload t raw = signedPayload t' raw' → t = t' ∧ raw = raw' := by
  refine ⟨fun calls row member => ?_, fun raw headers secrets now tolerance t low positive signs recent => ?_,
    fun raw _ _ secrets now tolerance same => verifyStripe_ignores rt raw secrets now tolerance same,
    fun _ _ _ _ same => signedPayload_injective same⟩
  · obtain ⟨call, inside, same, timestamp, verified⟩ := receiveRun_accepted rt calls member
    obtain ⟨_, t, _, _, signs, recent⟩ := (verifyStripe_ok rt).mp verified
    exact ⟨call, inside, same, t, same ▸ signs, recent⟩
  · obtain ⟨signed, float⟩ := Option.isSome_iff_exists.mp (representable t low)
    have short : (Str.ofNat t).length ≤ intMaxStrDigits := by
      rw [Str.ofNat, List.length_map, Nat.length_toDigits_le_iff (by decide) (by decide)]
      calc t < 2 ^ 63 := low
        _ ≤ 10 ^ 19 := by decide
        _ ≤ 10 ^ intMaxStrDigits := Nat.pow_le_pow_right (by decide) (by decide)
    exact (verifyStripe_ok rt).mpr ⟨positive, t, rfl, short, signs, signed, float, recent signed float⟩

/-- The HMAC of the body of an authorization, signed at 100 under `whsec`. -/
def digest : Bytes :=
  [164, 55, 126, 129, 25, 203, 188, 223, 108, 96, 171, 189, 45, 20, 240, 177,
    81, 123, 193, 18, 179, 151, 112, 226, 240, 58, 148, 92, 26, 121, 74, 213]

def digestHex : Str := str "a4377e8119cbbcdf6c60abbd2d14f0b1517bc112b39770e2f03a945c1a794ad5"

/-- A runtime that knows this one document and its signature. -/
def signing : Runtime Int Unit :=
  { Runtime.recorded [authorization 1000] [] with
    fromhex := fun text => [(digestHex, digest), (str "11", [0x11])].lookup text
    hmacSha256 := fun secret payload =>
      if secret = (str "whsec").map (fun c => .ofNat c.val) ∧ payload = signedPayload 100 (Json.body (authorization 1000))
      then digest else [] }

/-- The signature arrives behind one under another scheme and one that does not match. -/
def signedCall : StripeCall Int where
  raw := Json.body (authorization 1000)
  headers := [(str "stripe-signature", str "t=100, v0=00, v1=11, v1=" ++ digestHex)]
  secrets := [(str "whsec").map fun c => .ofNat c.val]
  received := 400
  now := 400
  leaseSeconds := 30
  toleranceSeconds := 300

theorem only_authentic_stripe_signedCall :
    (receiveRun signing [signedCall]).deliveries.rows.map Delivery.raw = [Json.body (authorization 1000)] ∧
    ∀ row ∈ (receiveRun signing [signedCall]).deliveries.rows, ∃ call ∈ [signedCall],
      call.raw = row.raw ∧ ∃ t, Signs signing call.headers call.secrets row.raw t ∧
        Recent call.received call.toleranceSeconds t :=
  ⟨by decide +kernel, (only_authentic_stripe signing fun _ _ => rfl).1 [signedCall]⟩

end Quidz.Proofs.StripeBinding
