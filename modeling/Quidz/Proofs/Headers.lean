import Quidz.Proofs.StripeBinding

/-! Headers that are refused. A timestamp that `isdigit` takes and `int` does not escapes
the exceptions that the request thread counts, as does one that no float holds. -/

namespace Quidz.Proofs

open StripeBinding (StripeCall Signs parts under read_parts parse_ok)

variable {T R : Type} (rt : Runtime T R)

section Timestamps

theorem mapM_none {α β : Type} {read : α → Option β} {items : List α} :
    items.mapM read = none ↔ ∃ item ∈ items, read item = none := by
  induction items with
  | nil => simp
  | cons item rest ih =>
    cases here : read item with
    | none => simp [List.mapM_cons, here]
    | some value =>
      simp only [List.mapM_cons, here, List.exists_mem_cons_iff, reduceCtorEq, false_or, ← ih]
      cases rest.mapM read with
      | none => simp
      | some values => simp

/-- Digits that `int` does not read: too many, or some that are no decimals. -/
def Overlooked (text : Str) : Prop :=
  intMaxStrDigits < text.length ∨ ∃ c ∈ text, isascii c = false ∧ rt.decimal c = none

theorem int_error {text : Str} : (∃ exc, rt.int text = .error exc) ↔ Overlooked rt text := by
  have undecimal (c : CodePoint) : (if isascii c then some (c.val - (codePoint '0').val) else rt.decimal c) = none ↔
      isascii c = false ∧ rt.decimal c = none := by
    cases isascii c with
    | true => simp
    | false => simp
  unfold Runtime.int Overlooked
  split
  next long => exact ⟨fun _ => .inl long, fun _ => ⟨_, rfl⟩⟩
  next short =>
    rw [or_iff_right short, ← exists_congr fun c => and_congr_right fun _ => undecimal c, ← mapM_none]
    split
    next read => simp [read]
    next unread => exact ⟨fun _ => unread, fun _ => ⟨_, rfl⟩⟩

theorem int_raises (text : Str) : Raises [.valueError] (rt.int text) := by
  unfold Runtime.int
  split
  next => exact Raises.raise (by decide) _
  next =>
    split
    next => exact Raises.ok _
    next => exact Raises.raise (by decide) _

end Timestamps

section Headers

/-- The last timestamp of the header is overlooked. -/
def Unreadable (value : Str) : Prop :=
  ∃ text ∈ (under (str "t") (parts rt value)).getLast?, rt.isdigit text = true ∧ Overlooked rt text

theorem parse_raises {value : Str} {exc : Exc} (raised : parseStripeSignatureHeader rt value = .error exc) :
    exc.type = .malformedHeader ∨ exc.type = .valueError ∧ Unreadable rt value := by
  unfold parseStripeSignatureHeader at raised
  rw [read_parts] at raised
  simp only [bind_error, orRaise_error, orRaise_ok, raiseIf_error, pure_eq_ok, reduceCtorEq, and_false, exists_false, or_false,
    Option.filter_eq_some_iff] at raised
  rcases raised with ⟨_, rfl⟩ | ⟨text, ⟨last, digits⟩, raised | ⟨_, _, ⟨_, rfl⟩ | ⟨_, _, _, rfl⟩⟩⟩
  · exact .inl rfl
  · refine .inr ⟨List.mem_singleton.mp (int_raises rt text exc raised), text, last, digits, ?_⟩
    exact (int_error rt).mp ⟨exc, raised⟩
  · exact .inl rfl
  · exact .inl rfl

theorem Unreadable.raises {value : Str} (unreadable : Unreadable rt value) :
    ∃ exc, parseStripeSignatureHeader rt value = .error exc ∧ exc.type = .valueError := by
  obtain ⟨text, last, digits, overlooked⟩ := unreadable
  obtain ⟨exc, raised⟩ := (int_error rt).mpr overlooked
  refine ⟨exc, ?_, List.mem_singleton.mp (int_raises rt text exc raised)⟩
  unfold parseStripeSignatureHeader
  rw [read_parts]
  simp only [bind_error, orRaise_ok, Option.filter_eq_some_iff]
  exact .inr ⟨text, ⟨last, digits⟩, .inl raised⟩

/-- The header is parsed for what it says, or refused as malformed. -/
def Settled (value : Str) : Prop :=
  (∃ t signatures, parseStripeSignatureHeader rt value = .ok (t, signatures) ∧
    (under (str "t") (parts rt value)).getLast? = some (Str.ofInt t) ∧
    signatures = under stripeScheme (parts rt value) ∧ signatures ≠ []) ∨
  ∃ exc, parseStripeSignatureHeader rt value = .error exc ∧ exc.type = .malformedHeader

theorem settled_iff (value : Str) : Settled rt value ↔ ¬Unreadable rt value := by
  constructor
  · rintro settled unreadable
    obtain ⟨exc, raised, type⟩ := unreadable.raises
    rcases settled with ⟨t, signatures, parsed, _⟩ | ⟨other, refused, malformed⟩
    · rw [raised] at parsed
      cases parsed
    · rw [raised] at refused
      obtain rfl := Except.error.inj refused
      rw [type] at malformed
      cases malformed
  · intro readable
    cases parsed : parseStripeSignatureHeader rt value with
    | ok read =>
      obtain ⟨timestamp, signatures⟩ := read
      obtain ⟨t, rfl, short, last, all, signed⟩ := (parse_ok rt).mp parsed
      exact .inl ⟨t, signatures, parsed, last, all, signed⟩
    | error exc =>
      rcases parse_raises rt parsed with malformed | ⟨_, unreadable⟩
      · exact .inr ⟨exc, parsed, malformed⟩
      · exact absurd unreadable readable

end Headers

section Receive

variable [Seconds T]

/-- What verification raises of a delivery. -/
def refusalTypes : List ExcType := [.malformedHeader, .badSignature, .staleTimestamp]

/-- Verification breaks off with an exception of another kind: before it looks at the
header, on a timestamp it cannot read, or on a signed one that no float holds. -/
inductive Uncounted (call : StripeCall T) : Prop where
  | misconfigured (misconfigured : call.toleranceSeconds ≤ 0 ∨ call.secrets = [])
  | unreadable {value} (carried : header rt call.headers stripeSignatureHeader = some value) (unreadable : Unreadable rt value)
  | distant {t} (signs : Signs rt call.headers call.secrets call.raw t) (short : (Str.ofNat t).length ≤ intMaxStrDigits)
      (distant : (Seconds.ofInt t : Option T) = none)

def verifyCall (call : StripeCall T) : Except Exc Int :=
  verifyStripe rt call.raw call.headers call.secrets call.received call.toleranceSeconds

theorem verify_raises {call : StripeCall T} {exc : Exc} (raised : verifyCall rt call = .error exc) :
    exc.type ∈ refusalTypes ∨ Uncounted rt call := by
  simp only [verifyCall, verifyStripe, bind_error, orRaise_error, orRaise_ok, raiseIf_error, raiseIf_ok, pure_eq_ok, reduceCtorEq,
    and_false, exists_false, or_false, Prod.exists, exists_const, not_le, Bool.not_eq_false, List.any_eq_true,
    decide_eq_true_eq] at raised
  rcases raised with ⟨narrow, _⟩ | ⟨_, ⟨empty, _⟩ | ⟨_, raised⟩⟩
  · exact .inr (.misconfigured (.inl narrow))
  · exact .inr (.misconfigured (.inr empty))
  rcases raised with ⟨_, rfl⟩ | ⟨value, carried, raised⟩
  · exact .inl (by decide)
  rcases raised with raised | ⟨timestamp, candidates, parsed, raised⟩
  · rcases parse_raises rt raised with malformed | ⟨_, unreadable⟩
    · exact .inl (by simp [refusalTypes, malformed])
    · exact .inr (.unreadable carried unreadable)
  rcases raised with ⟨_, rfl⟩ | ⟨⟨secret, active, candidate, listed, decodes⟩, ⟨distant, _⟩ | ⟨_, _, _, rfl⟩⟩
  · exact .inl (by decide)
  · obtain ⟨t, rfl, short, last, rfl, _⟩ := (parse_ok rt).mp parsed
    exact .inr (.distant ⟨value, carried, last, secret, active, candidate, listed, decodes⟩ short distant)
  · exact .inl (by simp [refusalTypes])

theorem Uncounted.raises {call : StripeCall T} (uncounted : Uncounted rt call) :
    ∃ exc, verifyCall rt call = .error exc ∧ (exc.type = .valueError ∨ exc.type = .overflowError) := by
  simp only [verifyCall, verifyStripe, bind_error, orRaise_error, orRaise_ok, raiseIf_error, raiseIf_ok, Prod.exists,
    Bool.not_eq_false, List.any_eq_true, decide_eq_true_eq]
  by_cases narrow : call.toleranceSeconds ≤ 0
  · exact ⟨_, .inl ⟨narrow, rfl⟩, .inl rfl⟩
  by_cases empty : call.secrets = []
  · exact ⟨_, .inr ⟨(), narrow, .inl ⟨empty, rfl⟩⟩, .inl rfl⟩
  cases uncounted with
  | misconfigured misconfigured => exact absurd misconfigured (not_or.mpr ⟨narrow, empty⟩)
  | @unreadable value carried unreadable =>
    obtain ⟨exc, raised, type⟩ := unreadable.raises
    exact ⟨exc, .inr ⟨(), narrow, .inr ⟨(), empty, .inr ⟨value, carried, .inl raised⟩⟩⟩, .inl type⟩
  | @distant t signs short distant =>
    obtain ⟨value, carried, last, secret, active, candidate, listed, decodes⟩ := signs
    have parsed := (parse_ok rt).mpr ⟨t, rfl, short, last, rfl, List.ne_nil_of_mem listed⟩
    refine ⟨_, .inr ⟨(), narrow, .inr ⟨(), empty, .inr ⟨value, carried, .inr ⟨t, _, parsed, .inr ⟨(), ?_,
      .inl ⟨distant, rfl⟩⟩⟩⟩⟩⟩, .inr rfl⟩
    exact ⟨secret, active, candidate, listed, decodes⟩

/-- One of the two counters of refused deliveries moves, and by one. -/
def OneCounted (db after : Db T) : Prop :=
  after.counter (.metric .signatureRejected) = db.counter (.metric .signatureRejected) + 1 ∧
      after.counter (.metric .replayRejected) = db.counter (.metric .replayRejected) ∨
    after.counter (.metric .signatureRejected) = db.counter (.metric .signatureRejected) ∧
      after.counter (.metric .replayRejected) = db.counter (.metric .replayRejected) + 1

def respond (call : StripeCall T) : Statements T ClaimResult :=
  receiveStripe rt call.raw call.headers call.secrets call.received call.now call.leaseSeconds call.toleranceSeconds

/-- A call that verification refuses raises a `SignatureError`, and is counted. -/
def Counted (call : StripeCall T) (db : Db T) : Prop :=
  ∀ refusal, verifyCall rt call = .error refusal →
    ∃ exc after, respond rt call db = (.error exc, after) ∧ exc.isinstance .signatureError = true ∧ OneCounted db after

theorem receive_refused {call : StripeCall T} {exc : Exc} (refused : verifyCall rt call = .error exc) (db : Db T) :
    respond rt call db = (.error exc,
      if exc.isinstance .staleTimestamp then (db.bump .eventsReceived).bump .replayRejected
      else if exc.isinstance .signatureError then (db.bump .eventsReceived).bump .signatureRejected
      else db.bump .eventsReceived) := by
  have refused : verifyStripe rt call.raw call.headers call.secrets call.received call.toleranceSeconds = .error exc := refused
  simp only [respond, receiveStripe, refused]

theorem refusal_counted {call : StripeCall T} {exc : Exc} (refused : verifyCall rt call = .error exc)
    (listed : exc.type ∈ refusalTypes) (db : Db T) :
    ∃ after, respond rt call db = (.error exc, after) ∧ exc.isinstance .signatureError = true ∧ OneCounted db after := by
  refine ⟨_, receive_refused rt refused db, ?_⟩
  simp only [refusalTypes, List.mem_cons, List.not_mem_nil, or_false] at listed
  rcases listed with type | type | type
  all_goals simp [Exc.isinstance, type, ExcType.bases, OneCounted]

theorem counted_iff (call : StripeCall T) (db : Db T) : Counted rt call db ↔ ¬Uncounted rt call := by
  constructor
  · intro counted uncounted
    obtain ⟨refusal, refused, type⟩ := uncounted.raises
    obtain ⟨exc, after, answered, signature, _⟩ := counted refusal refused
    rw [receive_refused rt refused] at answered
    cases answered
    rcases type with type | type
    all_goals simp [Exc.isinstance, type, ExcType.bases] at signature
  · intro sound refusal refused
    have listed := (verify_raises rt refused).resolve_right sound
    exact ⟨refusal, refusal_counted rt refused listed db⟩

end Receive

/-- A header is parsed or refused as malformed unless its last timestamp is overlooked, and
the refusal of a call is counted unless verification breaks off in another way. -/
theorem refusal_counted_iff [Seconds T] : (∀ value, Settled rt value ↔ ¬Unreadable rt value) ∧
    ∀ (call : StripeCall T) (db : Db T), Counted rt call db ↔ ¬Uncounted rt call :=
  ⟨settled_iff rt, counted_iff rt⟩

/-- A runtime whose table of digits has the superscript two, which is no decimal. -/
def superscripts : Runtime Int Unit := { Runtime.recorded [] [] with digit := fun c => c = codePoint '²' }

def superscriptCall : StripeCall Int where
  raw := []
  headers := [(str "Stripe-Signature", str "t=²,v1=aa")]
  secrets := [(str "whsec").map fun c => .ofNat c.val]
  received := 400
  now := 400
  leaseSeconds := 30
  toleranceSeconds := 300

def superscriptError : Exc := ⟨.valueError, str "invalid literal for int() with base 10: '²'"⟩

/-- The superscript escapes the parser, and neither counter sees it. -/
theorem superscript_uncounted :
    parseStripeSignatureHeader superscripts (str "t=²,v1=aa") = .error superscriptError ∧
      ¬Settled superscripts (str "t=²,v1=aa") ∧ ¬Counted superscripts superscriptCall .empty ∧
      let after := (respond superscripts superscriptCall .empty).2
      after.counter (.metric .eventsReceived) = 1 ∧ after.counter (.metric .signatureRejected) = 0 ∧
        after.counter (.metric .replayRejected) = 0 := by
  have parsed : parseStripeSignatureHeader superscripts (str "t=²,v1=aa") = .error superscriptError := by decide +kernel
  have refused : verifyCall superscripts superscriptCall = .error superscriptError := by decide +kernel
  refine ⟨parsed, ?_, ?_, by decide +kernel⟩
  · rintro (⟨_, _, accepted, _⟩ | ⟨exc, raised, malformed⟩)
    · rw [parsed] at accepted
      cases accepted
    · rw [parsed] at raised
      cases raised
      cases malformed
  · intro counted
    obtain ⟨exc, after, answered, signature, _⟩ := counted _ refused
    rw [receive_refused superscripts refused] at answered
    cases answered
    cases signature

end Quidz.Proofs
