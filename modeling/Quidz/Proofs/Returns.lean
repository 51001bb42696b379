import Quidz.Proofs.Findings
import Quidz.Proofs.Transitions

/-! When reconciliation returns a report at all: the integers that its texts name have to
be writable, and the fees in proportion to what was captured. -/

namespace Quidz.Proofs

open Library (Group.group Group.members)
open Library.Rounding (nearest roundEven Reaches)

section Interpreter

theorem writable_small {n : Int} (small : n.natAbs ≤ 10 ^ 4) : Writable n :=
  small.trans_lt (Nat.pow_lt_pow_right (by norm_num) (by norm_num [intMaxStrDigits]))

/-- From here on a quotient is nearer to `2 ** 1024` than to the largest float. -/
def floatLimit : Int := (2 ^ 54 - 1) * 2 ^ 970

theorem floatLimit_large : 10 ^ 4 ≤ floatLimit :=
  (by norm_num : (10 ^ 4 : Int) ≤ 2 ^ 54 - 1).trans (le_mul_of_one_le_right (by norm_num) (one_le_pow₀ (by norm_num)))

theorem nearest_lt_iff {n d : Int} (nonneg : 0 ≤ n) (positive : 0 < d) :
    |nearest 53 (-1074) ((n : ℚ) / d)| < 2 ^ 1024 ↔ n < floatLimit * d := by
  have below : (0 : ℚ) < d := by exact_mod_cast positive
  have quotient : 0 ≤ (n : ℚ) / d := div_nonneg (by exact_mod_cast nonneg) below.le
  have last : Library.Rounding.Last 53 (-1074) (fun y : ℚ => y < 2 ^ (971 + (53 : ℕ) : ℤ)) (2 ^ 53 - 1) 971 :=
    Library.Rounding.last_below (by norm_num) (by norm_num)
  have ceiling : (2 : ℚ) ^ (971 + (53 : ℕ) : ℤ) = 2 ^ 1024 := by norm_num
  have limit : (2 * ((2 ^ 53 - 1 : ℤ) : ℚ) + 1) * 2 ^ (971 : ℤ) = 2 * (floatLimit : ℚ) := by
    have step (e : ℕ) : (2 : ℚ) ^ (e + 1 : ℤ) = 2 * 2 ^ e := by
      rw [zpow_add_one₀ two_ne_zero, zpow_natCast, mul_comm]
    have exponent : (971 : ℤ) = (970 : ℕ) + 1 := by norm_num
    rw [exponent, step, floatLimit]
    generalize (970 : ℕ) = e
    push_cast
    ring
  rw [abs_of_nonneg (Library.Rounding.nearest_nonneg quotient), ← ceiling, last.nearest_iff quotient]
  unfold Reaches
  rw [limit]
  have odd : ¬Even (2 ^ 53 - 1 : ℤ) := by decide
  rw [or_iff_left fun ⟨_, even⟩ => odd even, mul_lt_mul_iff_right₀ (by norm_num), div_lt_iff₀ below]
  exact_mod_cast Iff.rfl

theorem trueDivide_ok {n d : Int} (nonneg : 0 ≤ n) (positive : 0 < d) {value : ℚ} :
    trueDivide n d = .ok value ↔ n < floatLimit * d ∧ nearest 53 (-1074) ((n : ℚ) / d) = value := by
  rw [← nearest_lt_iff nonneg positive]
  unfold trueDivide
  dsimp only
  split
  next large => exact iff_of_false (raise_ne_ok _ _ _) fun ⟨under, _⟩ => large.not_gt under
  next under => simp [not_le.mp under]

/-- A rounded quotient that is no overflow has few digits. -/
theorem writable_rounded {x : ℚ} (bounded : |x| < 2 ^ 1024) : Writable (roundEven x) := by
  have power : (2 : ℤ) ^ 1024 < 10 ^ intMaxStrDigits := by
    calc (2 : ℤ) ^ 1024 ≤ 10 ^ 1024 := pow_le_pow_left₀ (by norm_num) (by norm_num) _
      _ < 10 ^ 4300 := pow_lt_pow_right₀ (by norm_num) (by norm_num)
  obtain ⟨low, high⟩ := abs_lt.mp bounded
  have above : roundEven x ≤ 2 ^ 1024 := Library.Rounding.roundEven_le (by exact_mod_cast high.le)
  have below : -2 ^ 1024 ≤ roundEven x := Library.Rounding.le_roundEven (by exact_mod_cast low.le)
  have size : ((roundEven x).natAbs : ℤ) < 10 ^ intMaxStrDigits := by
    rw [Int.natCast_natAbs]
    exact (abs_le.mpr ⟨below, above⟩).trans_lt power
  exact_mod_cast size

end Interpreter

variable {T R : Type}

section Texts

theorem write_ok {finding : Finding T} : finding.write = .ok () ↔
    (finding.kind = .amountMismatch ∨ finding.kind = .unsettledPastSla → Writable (finding.deltaMinor.getD 0)) := by
  unfold Finding.write
  split
  next named => rw [formatInt_bind]; simp [named]
  next other => exact iff_of_true rfl fun named => absurd named other

theorem writeFee_ok {policy : GatePolicy T} {gross net : Int} : writeFee policy gross net = .ok () ↔
    Writable net ∧ Writable gross ∧ Writable policy.feeToleranceBps ∧
      (0 < gross → (net - gross).natAbs * 10000 < floatLimit * gross) := by
  unfold writeFee tryFeeBps
  rw [bind_ok]
  simp only [formatInt_bind, pure_eq_ok, and_true]
  by_cases captured : 0 < gross
  · have product : (0 : Int) ≤ (net - gross).natAbs * 10000 := by omega
    rw [if_neg (Int.not_le.mpr captured)]
    constructor
    · rintro ⟨bps, divided, writable, writable', _, tolerance⟩
      cases quotient : trueDivide ((net - gross).natAbs * 10000) gross with
      | error exc => rw [quotient] at divided; cases divided
      | ok value => exact ⟨writable, writable', tolerance, fun _ => ((trueDivide_ok product captured).mp quotient).1⟩
    · rintro ⟨writable, writable', tolerance, bounded⟩
      rw [(trueDivide_ok product captured).mpr ⟨bounded captured, rfl⟩]
      exact ⟨_, rfl, writable, writable', writable_rounded ((nearest_lt_iff product captured).mpr (bounded captured)), tolerance⟩
  · rw [if_pos (Int.not_lt.mp captured)]
    constructor
    · rintro ⟨_, _, writable, writable', _, tolerance⟩
      exact ⟨writable, writable', tolerance, fun positive => absurd positive captured⟩
    · rintro ⟨writable, writable', tolerance, _⟩
      exact ⟨10000, rfl, writable, writable', writable_small (by norm_num), tolerance⟩

theorem writeRow_ok {policy : GatePolicy T} {local_ : List PaymentState} {remote : List (RemotePayment T)} {row : SettlementRow} :
    writeRow policy local_ remote row = .ok () ↔ ∀ state, joined local_ remote row = some state →
      row.currency = state.currency → writeFee policy state.capturedMinor row.netMinor = .ok () := by
  unfold writeRow
  split
  next state found =>
    split
    next foreign => exact iff_of_true rfl fun other found' own => by cases found.symm.trans found'; exact absurd own foreign
    next own =>
      refine ⟨fun written other found' _ => ?_, fun written => written state found (not_not.mp own)⟩
      cases found.symm.trans found'
      exact written
  next absent => exact iff_of_true rfl fun state found => by cases absent.symm.trans found

end Texts

variable [Seconds T] {policy : GatePolicy T} {now : T}

section Pairs

variable {state : PaymentState} {record : RemotePayment T} {age grace : T}

/-- A mismatch is of one currency, past the grace window, and worth the difference. -/
theorem comparePair_mismatch {finding : Finding T} (member : finding ∈ comparePair policy state record age grace)
    (kind : finding.kind = .amountMismatch) :
    state.currency = record.currency ∧ ¬age < grace ∧ finding.deltaMinor = some (netDifference state record) := by
  cases (comparePair_cases member).1 with
  | foreign _ other => exact absurd (other.symm.trans kind) (by decide)
  | young _ other => exact absurd (other.symm.trans kind) (by decide)
  | partial_ other => exact absurd (other.symm.trans kind) (by decide)
  | mismatch currency old _ _ delta => exact ⟨currency, old, delta⟩
  | status other => exact absurd (other.symm.trans kind) (by decide)

variable (policy) in
theorem comparePair_differs_net (currency : state.currency = record.currency) (old : ¬age < grace)
    (differs : netDifference state record ≠ 0) : ∃ finding ∈ comparePair policy state record age grace,
      finding.kind = .amountMismatch ∧ finding.deltaMinor = some (netDifference state record) := by
  have nets : ¬(state.capturedMinor - state.refundedMinor = record.capturedMinor - record.refundedMinor ∧
      state.authorizedMinor = record.authorizedMinor) := fun same => differs (Int.sub_eq_zero.mpr same.1)
  have amounts : (state.authorizedMinor, state.capturedMinor, state.refundedMinor) ≠
      (record.authorizedMinor, record.capturedMinor, record.refundedMinor) := by
    intro same
    obtain ⟨authorized, captured, refunded⟩ := by simpa only [Prod.mk.injEq] using same
    exact nets ⟨by rw [captured, refunded], authorized⟩
  unfold comparePair
  rw [if_neg (not_not.mpr currency)]
  dsimp only
  rw [if_neg fun agree => amounts agree.1, if_neg old, if_pos amounts]
  refine ⟨_, List.mem_append_left _ List.mem_cons_self, ?_, ?_⟩
  · exact if_neg nets
  · exact congrArg some (if_neg nets)

theorem comparePair_written : (∀ finding ∈ comparePair policy state record age grace, finding.write = .ok ()) ↔
    (state.currency = record.currency → ¬age < grace → Writable (netDifference state record)) := by
  constructor
  · intro written currency old
    by_cases differs : netDifference state record = 0
    · rw [differs]
      exact writable_small (by norm_num)
    obtain ⟨finding, member, kind, delta⟩ := comparePair_differs_net policy currency old differs
    have writable := write_ok.mp (written finding member) (.inl kind)
    rwa [delta] at writable
  · intro writable finding member
    refine write_ok.mpr fun named => ?_
    rcases named with mismatch | absent
    · obtain ⟨currency, old, delta⟩ := comparePair_mismatch member mismatch
      rw [delta]
      exact writable currency old
    · have kind := (comparePair_ofPair member).kind
      rw [absent] at kind
      exact absurd kind (by decide)

theorem reconcileId_pair {paymentId : Str} {locals : List PaymentState} {remotes : List (RemotePayment T)} {finding : Finding T}
    (here : locals.head? = some state) (there : remotes.head? = some record)
    (member : finding ∈ comparePair policy state record (now - record.createdAt) policy.inFlightGraceSeconds) :
    finding ∈ reconcileId policy now paymentId locals remotes := by
  match locals, remotes with
  | _ :: _, _ :: _ =>
    cases here
    cases there
    exact List.mem_append_right _ member

theorem reconcileId_mismatch {paymentId : Str} {locals : List PaymentState} {remotes : List (RemotePayment T)} {finding : Finding T}
    (member : finding ∈ reconcileId policy now paymentId locals remotes) (kind : finding.kind = .amountMismatch) :
    ∃ state record, locals.head? = some state ∧ remotes.head? = some record ∧
      finding ∈ comparePair policy state record (now - record.createdAt) policy.inFlightGraceSeconds := by
  cases reconcileId_cases member with
  | duplicateLocal _ other => exact absurd (other.symm.trans kind) (by decide)
  | duplicateRemote _ other => exact absurd (other.symm.trans kind) (by decide)
  | missingRemotely _ other => exact absurd (other.symm.trans kind) (by decide)
  | missingLocally _ other => rcases other with other | other <;> exact absurd (other.symm.trans kind) (by decide)
  | pair here there compared => exact ⟨_, _, here, there, compared⟩

variable {local_ : List PaymentState} {remote : List (RemotePayment T)}

theorem reconcileEvents_written :
    (∀ finding ∈ reconcileEvents policy (localById local_) (remoteById remote) now, finding.write = .ok ()) ↔
      ∀ state record, Paired local_ remote state record → state.currency = record.currency →
        ¬now - record.createdAt < policy.inFlightGraceSeconds → Writable (netDifference state record) := by
  constructor
  · intro written state record paired
    have compared : ∀ finding ∈ comparePair policy state record (now - record.createdAt) policy.inFlightGraceSeconds,
        finding.write = .ok () := by
      intro finding member
      obtain ⟨inside, same⟩ := paired.local_mem
      refine written finding (List.mem_flatMap.mpr ⟨record.paymentId, ?_, reconcileId_pair paired.here paired.there member⟩)
      exact mem_sortedSet.mpr (List.mem_append_left _ ((Library.Group.mem_keys _ _).mpr ⟨state, inside, same⟩))
    exact comparePair_written.mp compared
  · intro writable finding member
    refine write_ok.mpr fun named => ?_
    rcases named with mismatch | absent
    · obtain ⟨paymentId, _, found⟩ := List.mem_flatMap.mp member
      obtain ⟨state, record, here, there, compared⟩ := reconcileId_mismatch found mismatch
      obtain ⟨paired, _⟩ := Paired.of_head here there
      exact write_ok.mp (comparePair_written.mpr (writable state record paired) finding compared) (.inl mismatch)
    · have kind := (reconcileEvents_kind member).1
      rw [absent] at kind
      exact absurd kind (by decide)

end Pairs

/-- Everything that the texts of the report name can be written, and no fee is out of all
proportion to what was captured. -/
structure Returns (policy : GatePolicy T) (now : T) (local_ : List PaymentState) (remote : List (RemotePayment T))
    (settlement : List SettlementRow) : Prop where
  mismatches : ∀ state record, Paired local_ remote state record → state.currency = record.currency →
    ¬now - record.createdAt < policy.inFlightGraceSeconds → Writable (netDifference state record)
  fees : ∀ row ∈ settlement, ∀ state, joined local_ remote row = some state → row.currency = state.currency →
    Writable row.netMinor ∧ Writable state.capturedMinor ∧ Writable policy.feeToleranceBps ∧
      (0 < state.capturedMinor → (row.netMinor - state.capturedMinor).natAbs * 10000 < floatLimit * state.capturedMinor)
  absences : ∀ state record, Paired local_ remote state record → 0 < state.capturedMinor →
    policy.settlementSlaSeconds < now - record.createdAt →
    (∀ row ∈ settlement, row.pspReference = record.providerRef → joined local_ remote row = none) → Writable state.capturedMinor

omit [Seconds T] in
theorem rowFindings_written {rt : Runtime T R} {local_ : List PaymentState} {remote : List (RemotePayment T)}
    {settlement : List SettlementRow} : ∀ finding ∈ rowFindings rt policy local_ remote settlement, finding.write = .ok () := by
  intro finding member
  refine write_ok.mpr fun named => ?_
  rcases (rowFindings_kind member).2 with kind | kind | kind <;> rw [kind] at named <;> simp at named

theorem absences_written {local_ : List PaymentState} {remote : List (RemotePayment T)} {settlement : List SettlementRow} :
    (∀ finding ∈ absences policy now local_ remote settlement, finding.write = .ok ()) ↔
      ∀ state record, Paired local_ remote state record → 0 < state.capturedMinor →
        policy.settlementSlaSeconds < now - record.createdAt →
        (∀ row ∈ settlement, row.pspReference = record.providerRef → joined local_ remote row = none) →
        Writable state.capturedMinor := by
  constructor
  · intro written state record paired captured late absent
    have due : absence policy now state record ∈ absences policy now local_ remote settlement :=
      mem_absences.mpr ⟨state, record, paired, captured, (not_mem_settledRefs ..).mpr absent, late, rfl⟩
    exact write_ok.mp (written _ due) (.inr rfl)
  · intro writable finding member
    obtain ⟨state, record, paired, captured, absent, late, rfl⟩ := mem_absences.mp member
    exact write_ok.mpr fun _ => writable state record paired captured late ((not_mem_settledRefs ..).mp absent)

/-- Reconciliation returns exactly the reports of inputs with nothing to raise about. -/
theorem tryReconcile_ok {rt : Runtime T R} {local_ : List PaymentState} {remote : List (RemotePayment T)}
    {settlement : List SettlementRow} {parked : List (Str × T)} {counters : List (Str × Int)} {report : ExceptionReport T} :
    tryReconcile rt policy local_ remote settlement parked now counters = .ok report ↔
      Returns policy now local_ remote settlement ∧
        reconcile rt.binary64 policy local_ remote settlement parked now counters = report := by
  unfold tryReconcile
  rw [bind_unit_ok, bind_unit_ok, bind_unit_ok, forM_ok, forM_ok, forM_ok, reconcileEvents_written, reconcileSettlement_eq,
    List.forall_mem_append, absences_written]
  simp only [List.mem_insertionSort, writeRow_ok, writeFee_ok, pure, Except.pure, Except.ok.injEq]
  constructor
  · rintro ⟨mismatches, fees, ⟨_, absences⟩, same⟩
    exact ⟨⟨mismatches, fees, absences⟩, same⟩
  · rintro ⟨returns, same⟩
    exact ⟨returns.mismatches, returns.fees, ⟨rowFindings_written, returns.absences⟩, same⟩

/-- Without severity overrides, reconciliation with the provider's list comes to an exact report
if and only if it has no integer of too many digits to write, and no fee beyond the floats. -/
theorem reconciliation_exact_iff (rt : Runtime T R) (policy : GatePolicy T) (plain : policy.severityOverrides = []) (now : T)
    (local_ : List PaymentState) (remote : List (RemotePayment T)) (settlement : List SettlementRow) (parked : List (Str × T))
    (counters : List (Str × Int)) :
    (∃ report, tryReconcile rt policy local_ remote settlement parked now counters = .ok report ∧
      Reconciles rt.binary64 policy now local_ remote settlement parked report) ↔ Returns policy now local_ remote settlement := by
  simp only [tryReconcile_ok, and_assoc, exists_and_left, exists_eq_left']
  exact and_iff_left (reconcile_reconciles rt.binary64 policy plain now local_ remote settlement parked counters)

section Captured

/-- A row of the captured payment. -/
def feeRow (gross net : Int) : SettlementRow where
  pspReference := str "ch_1"
  grossMinor := gross
  feeMinor := gross - net
  netMinor := net
  currency := str "EUR"
  payoutDate := str "2026-07-01"
  journalType := str "Settled"

theorem paired_captured {state : PaymentState} {record : RemotePayment Int}
    (paired : Paired [capturedState] [capturedRow] state record) : state = capturedState ∧ record = capturedRow :=
  ⟨List.mem_singleton.mp paired.local_mem.1, List.mem_singleton.mp paired.remote_mem.1⟩

theorem joined_captured (gross net : Int) : joined [capturedState] [capturedRow] (feeRow gross net) = some capturedState := rfl

/-- A list with the captured payment's record and none else of it lets reconciliation return. -/
theorem captured_returns {now : Int} {remote : List (RemotePayment Int)}
    (only : ∀ state record, Paired [capturedState] remote state record → state = capturedState ∧ record = capturedRow)
    (joins : joined [capturedState] remote (feeRow 1000 950) = some capturedState) :
    Returns standardGate now [capturedState] remote [feeRow 1000 950] where
  mismatches state record paired _ _ := by
    obtain ⟨rfl, rfl⟩ := only state record paired
    exact writable_small (by decide)
  fees row member state found _ := by
    obtain rfl := List.mem_singleton.mp member
    cases joins.symm.trans found
    refine ⟨writable_small (by decide), writable_small (by decide), writable_small (by decide), fun _ => ?_⟩
    change 500000 < floatLimit * 1000
    have large := floatLimit_large
    omega
  absences state record paired _ _ absent := by
    obtain ⟨_, rfl⟩ := only state record paired
    cases joins.symm.trans (absent (feeRow 1000 950) List.mem_cons_self rfl)

theorem feeRow_returns (now : Int) : Returns standardGate now [capturedState] [capturedRow] [feeRow 1000 950] :=
  captured_returns (fun _ _ => paired_captured) rfl

/-- The refund is named by a finding above the lowest severity, and where the provider has not
refunded either, nothing is. -/
theorem reconciliation_exact_iff_refunded : standardGate.severityOverrides = [] ∧
    (∃ report, tryReconcile (.recorded [] []) standardGate [capturedState] [refundedRow] [] [] 7200 [] = .ok report ∧
      ∃ finding ∈ report.findings, finding.paymentId = some (str "pi_1") ∧ finding.severity ≠ .info) ∧
    ∃ report, tryReconcile (.recorded [] []) standardGate [capturedState] [capturedRow] [] [] 7200 [] = .ok report ∧
      ∀ finding ∈ report.findings, finding.severity = .info := by
  have plain : standardGate.severityOverrides = [] := rfl
  have returns (row : RemotePayment Int) (writable : Writable (netDifference capturedState row)) (made : row.createdAt = 0) :
      Returns standardGate 7200 [capturedState] [row] [] := by
    refine ⟨fun state record paired _ _ => ?_, fun row member => absurd member List.not_mem_nil,
      fun state record paired _ late _ => ?_⟩
    · rwa [List.mem_singleton.mp paired.local_mem.1, List.mem_singleton.mp paired.remote_mem.1]
    · rw [List.mem_singleton.mp paired.remote_mem.1, made] at late
      exact absurd late (by decide)
  obtain ⟨report, returned, exact_⟩ := (reconciliation_exact_iff (.recorded [] []) standardGate plain 7200 [capturedState]
    [refundedRow] [] [] []).mpr (returns refundedRow (writable_small (by decide)) rfl)
  obtain ⟨finding, found, named, loud⟩ := exact_.complete (str "pi_1") (by decide)
    (@Disagrees.differs _ _ _ capturedState refundedRow List.mem_cons_self List.mem_cons_self
      fun agrees => absurd agrees.refunded (by decide))
  obtain ⟨quiet, returned', exact'⟩ := (reconciliation_exact_iff (.recorded [] []) standardGate plain 7200 [capturedState]
    [capturedRow] [] [] []).mpr (returns capturedRow (writable_small (by decide)) rfl)
  refine ⟨plain, ⟨report, returned, finding, found, named, loud ?_⟩, quiet, returned', (exact'.sound capturedRow_matched).1⟩
  rintro ⟨row, one, young, _⟩
  cases one
  exact absurd young (by decide)

/-- A record with the largest refund that a file can state, of a capture it does not have. -/
def vastRow : RemotePayment Int :=
  { capturedRow with capturedMinor := 0, refundedMinor := 10 ^ intMaxStrDigits - 1, status := str "refunded" }

theorem vast_unwritable : ¬Writable (netDifference capturedState vastRow) := by
  have difference : netDifference capturedState vastRow = 10 ^ intMaxStrDigits + 999 := by
    simp only [netDifference, capturedState, vastRow]
    ring
  rw [difference, Writable]
  generalize intMaxStrDigits = digits
  have whole : ((10 ^ digits + 999 : Int).natAbs : Int) = 10 ^ digits + 999 := Int.natAbs_of_nonneg (by positivity)
  intro fits
  have below : ((10 ^ digits + 999 : Int).natAbs : Int) < ((10 ^ digits : Nat) : Int) := Int.ofNat_lt.mpr fits
  rw [whole] at below
  push_cast at below
  omega

/-- The two sides disagree, and there is no report. -/
theorem vast_raises : standardGate.severityOverrides = [] ∧
    Disagrees (localsOf [capturedState] (str "pi_1")) (remotesOf [vastRow] (str "pi_1")) ∧
    ∃ exc, tryReconcile (.recorded [] []) standardGate [capturedState] [vastRow] [] [] 7200 [] = .error exc := by
  refine ⟨rfl, @Disagrees.differs _ _ _ capturedState vastRow List.mem_cons_self List.mem_cons_self
    fun agrees => absurd agrees.captured (by decide), ?_⟩
  cases answer : tryReconcile (.recorded [] []) standardGate [capturedState] [vastRow] [] [] 7200 [] with
  | error exc => exact ⟨exc, rfl⟩
  | ok report =>
    obtain ⟨returns, _⟩ := tryReconcile_ok.mp answer
    have paired : Paired [capturedState] [vastRow] capturedState vastRow := ⟨rfl, rfl⟩
    exact absurd (returns.mismatches capturedState vastRow paired rfl (by decide)) vast_unwritable

end Captured
end Quidz.Proofs
