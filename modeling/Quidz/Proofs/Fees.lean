import Quidz.Proofs.Returns

/-! The fee tolerance. The rate is divided as a float and rounded to a whole basis point
before it is compared, so that a fee a little over the tolerance passes for one inside it. -/

namespace Quidz.Proofs

open Library (Group.group Group.members)
open Library.Rounding (nearest roundEven Reaches lastSignificand lastExponent)

/-- The net is no further from what was captured than the tolerance. -/
def WithinTolerance (tolerance gross net : Int) : Prop :=
  0 < gross ∧ 10000 * ((net - gross).natAbs : Int) ≤ tolerance * gross ∨ gross ≤ 0 ∧ 10000 ≤ tolerance

instance (tolerance gross net : Int) : Decidable (WithinTolerance tolerance gross net) :=
  inferInstanceAs (Decidable (_ ∨ _))

/-- The basis points that the net is from what was captured. -/
def rate (gross net : Int) : ℚ := (((net - gross).natAbs * 10000 : Int) : ℚ) / gross

/-- The rate is not beyond the middle between the last float that rounds to at most the
tolerance and the next. -/
def Reached (tolerance : Int) (rate : ℚ) : Prop :=
  Reaches (lastSignificand 53 tolerance.toNat) (lastExponent 53 tolerance.toNat) rate

/-- The rate is between the tolerance and that middle. -/
def Misjudged (tolerance : Int) (rate : ℚ) : Prop :=
  0 ≤ tolerance ∧ (tolerance < rate ∧ Reached tolerance rate ∨ rate ≤ tolerance ∧ ¬Reached tolerance rate)

section Rates
variable {T R : Type} {rt : Runtime T R} {tolerance gross net : Int}

theorem rate_nonneg (captured : 0 < gross) : 0 ≤ rate gross net := by
  have product : (0 : Int) ≤ (net - gross).natAbs * 10000 := by omega
  exact div_nonneg (by exact_mod_cast product) (by exact_mod_cast captured.le)

theorem feeBps_le_iff (captured : 0 < gross) :
    feeBps rt.binary64 gross net ≤ tolerance ↔ 0 ≤ tolerance ∧ Reached tolerance (rate gross net) := by
  have nonneg : 0 ≤ rate gross net := rate_nonneg captured
  have rounded : feeBps rt.binary64 gross net = roundEven (nearest 53 (-1074) (rate gross net)) := by
    rw [feeBps, if_neg (Int.not_le.mpr captured)]
    rfl
  rw [rounded]
  by_cases positive : 0 ≤ tolerance
  · have last : Library.Rounding.Last 53 (-1074) (fun y : ℚ => roundEven y ≤ (tolerance.toNat : Int))
        (lastSignificand 53 tolerance.toNat) (lastExponent 53 tolerance.toNat) :=
      Library.Rounding.last_round (by norm_num) (by norm_num) tolerance.toNat
    have reached := last.nearest_iff nonneg
    rw [Int.toNat_of_nonneg positive] at reached
    rw [reached]
    exact (and_iff_right positive).symm
  · have whole : 0 ≤ roundEven (nearest 53 (-1074) (rate gross net)) :=
      Library.Rounding.le_roundEven (by rw [Int.cast_zero]; exact Library.Rounding.nearest_nonneg nonneg)
    exact iff_of_false (by omega) fun both => positive both.1

theorem rate_le_iff (captured : 0 < gross) : rate gross net ≤ tolerance ↔ WithinTolerance tolerance gross net := by
  have positive : (0 : ℚ) < gross := by exact_mod_cast captured
  unfold rate WithinTolerance
  rw [div_le_iff₀ positive, or_iff_left fun ⟨uncaptured, _⟩ => captured.not_ge uncaptured, and_iff_right captured, mul_comm]
  exact_mod_cast Iff.rfl

/-- The comparison is right about every rate that is not misjudged. -/
theorem judged_iff : (feeBps rt.binary64 gross net ≤ tolerance ↔ WithinTolerance tolerance gross net) ↔
    (0 < gross → ¬Misjudged tolerance (rate gross net)) := by
  by_cases captured : 0 < gross
  · rw [feeBps_le_iff captured, ← rate_le_iff captured]
    have bounded : rate gross net ≤ tolerance → 0 ≤ tolerance := fun within => by exact_mod_cast (rate_nonneg captured).trans within
    unfold Misjudged
    rw [forall_prop_of_true captured]
    by_cases within : rate gross net ≤ tolerance
    · simp [within, within.not_gt, bounded within]
    · simp [within, not_le.mp within]
  · have uncaptured := Int.not_lt.mp captured
    refine iff_of_true ?_ fun positive => absurd positive captured
    unfold feeBps WithinTolerance
    rw [if_pos uncaptured, or_iff_right fun ⟨positive, _⟩ => captured positive, and_iff_right uncaptured]

end Rates

variable {T R : Type} [Seconds T]

/-- The finding is the fee of the row against the payment it is joined to. -/
structure FeeOf (state : PaymentState) (row : SettlementRow) (finding : Finding T) : Prop where
  kind : finding.kind = .feeGrossNet
  providerRef : finding.providerRef = some row.pspReference
  paymentId : finding.paymentId = some state.paymentId
  delta : finding.deltaMinor = some (row.netMinor - state.capturedMinor)

/-- The report has the fee of every joined row of the payment's currency, at the lowest
severity if it is within the tolerance and among the breaks otherwise. -/
structure FeesJudged (policy : GatePolicy T) (local_ : List PaymentState) (remote : List (RemotePayment T))
    (settlement : List SettlementRow) (report : ExceptionReport T) : Prop where
  reported : ∀ row ∈ settlement, ∀ state, joined local_ remote row = some state → row.currency = state.currency →
    ∃ finding ∈ report.findings, FeeOf state row finding
  info_iff : ∀ row ∈ settlement, ∀ state, joined local_ remote row = some state → row.currency = state.currency →
    ∀ finding ∈ report.findings, FeeOf state row finding →
      (finding.severity = .info ↔ WithinTolerance policy.feeToleranceBps state.capturedMinor row.netMinor)
  break_iff : ∀ row ∈ settlement, ∀ state, joined local_ remote row = some state → row.currency = state.currency →
    ∀ finding ∈ report.findings, FeeOf state row finding →
      (finding ∈ breaks report ↔ ¬WithinTolerance policy.feeToleranceBps state.capturedMinor row.netMinor)

section Reports
variable {rt : Runtime T R} {policy : GatePolicy T} {now : T} {local_ : List PaymentState} {remote : List (RemotePayment T)}
  {settlement : List SettlementRow} {parked : List (Str × T)} {counters : List (Str × Int)}

omit [Seconds T] in
theorem settleRow_fee {row : SettlementRow} {state : PaymentState} (found : joined local_ remote row = some state)
    (currency : row.currency = state.currency) : FeeOf state row (settleRow rt policy (localById local_) (remoteById remote) row).1 := by
  obtain ⟨ref, _⟩ := settleRow_ref rt policy row (localById local_) (remoteById remote)
  have settles := settleRow_settles rt policy local_ remote row
  generalize (settleRow rt policy (localById local_) (remoteById remote) row).2 = answer at settles
  cases settles with
  | unknown absent => cases absent.symm.trans found
  | foreign found' foreign => cases found'.symm.trans found; exact absurd currency foreign
  | fee found' _ kind paymentId delta => cases found'.symm.trans found; exact ⟨kind, ref, paymentId, delta⟩

/-- A fee of the report is that of a row with the reference and the net. -/
theorem fee_severity (plain : policy.severityOverrides.lookup .feeGrossNet = none) {row : SettlementRow} {state : PaymentState}
    (found : joined local_ remote row = some state) {finding : Finding T} (fee : FeeOf state row finding)
    (member : finding ∈ (reconcile rt policy local_ remote settlement parked now counters).findings) :
    finding.severity = if feeBps rt state.capturedMinor row.netMinor ≤ policy.feeToleranceBps then .info else .break_ := by
  obtain ⟨other, _, rfl⟩ := List.mem_map.mp ((mem_report_fee fee.kind).mp member)
  obtain ⟨ref, _⟩ := settleRow_ref rt policy other (localById local_) (remoteById remote)
  have same : other.pspReference = row.pspReference := Option.some.inj (ref.symm.trans fee.providerRef)
  have joins : joined local_ remote other = joined local_ remote row := by rw [joined, joined, same]
  have settles := settleRow_settles rt policy local_ remote other
  generalize (settleRow rt policy (localById local_) (remoteById remote) other).2 = answer at settles
  cases settles with
  | unknown absent => cases (absent.symm.trans joins).trans found
  | foreign _ _ kind => exact absurd (kind.symm.trans fee.kind) (by decide)
  | fee found' _ _ _ delta severity =>
    cases (found'.symm.trans joins).trans found
    have net : other.netMinor = row.netMinor := by
      have difference := Option.some.inj (delta.symm.trans fee.delta)
      omega
    rw [severity, plain, net]
    rfl

/-- The severity of a fee tells on which side of the tolerance it is. -/
theorem feeSeverity_iff (within : Prop) [Decidable within] :
    ((if within then Severity.info else .break_) = .info ↔ within) ∧
      ((if within then Severity.info else .break_) = .break_ ↔ ¬within) := by
  by_cases inside : within <;> simp [inside]

theorem feesJudged_iff (plain : policy.severityOverrides.lookup .feeGrossNet = none) :
    FeesJudged policy local_ remote settlement (reconcile rt policy local_ remote settlement parked now counters) ↔
      ∀ row ∈ settlement, ∀ state, joined local_ remote row = some state → row.currency = state.currency →
        (feeBps rt state.capturedMinor row.netMinor ≤ policy.feeToleranceBps ↔
          WithinTolerance policy.feeToleranceBps state.capturedMinor row.netMinor) := by
  have reported (row) (member : row ∈ settlement) (state) (found : joined local_ remote row = some state)
      (currency : row.currency = state.currency) :
      ∃ finding ∈ (reconcile rt policy local_ remote settlement parked now counters).findings, FeeOf state row finding :=
    ⟨_, (mem_report ..).mpr (.inr (.inr (.inl (List.mem_map.mpr ⟨row, (List.mem_insertionSort _).mpr member, rfl⟩)))),
      settleRow_fee found currency⟩
  constructor
  · intro judged row member state found currency
    obtain ⟨finding, inside, fee⟩ := reported row member state found currency
    rw [← judged.info_iff row member state found currency finding inside fee, fee_severity plain found fee inside]
    exact (feeSeverity_iff _).1.symm
  · intro right
    refine ⟨reported, fun row member state found currency finding inside fee => ?_,
      fun row member state found currency finding inside fee => ?_⟩
    · rw [← right row member state found currency, fee_severity plain found fee inside]
      exact (feeSeverity_iff _).1
    · rw [← right row member state found currency, breaks, List.mem_filter, decide_eq_true_eq, and_iff_right inside,
        fee_severity plain found fee inside]
      exact (feeSeverity_iff _).2

end Reports

/-- Without a severity override, reconciliation judges the fees of all joined rows by
the exact comparison if and only if it returns and no rate is between the tolerance and
the middle behind the last float that rounds to at most the tolerance. -/
theorem fees_judged_iff (rt : Runtime T R) (policy : GatePolicy T) (plain : policy.severityOverrides.lookup .feeGrossNet = none)
    (local_ : List PaymentState) (remote : List (RemotePayment T)) (settlement : List SettlementRow) (parked : List (Str × T))
    (now : T) (counters : List (Str × Int)) :
    (∃ report, tryReconcile rt policy local_ remote settlement parked now counters = .ok report ∧
      FeesJudged policy local_ remote settlement report) ↔
    Returns policy now local_ remote settlement ∧
      ∀ row ∈ settlement, ∀ state, joined local_ remote row = some state → row.currency = state.currency →
        0 < state.capturedMinor → ¬Misjudged policy.feeToleranceBps (rate state.capturedMinor row.netMinor) := by
  simp only [tryReconcile_ok, and_assoc, exists_and_left, exists_eq_left', feesJudged_iff plain, judged_iff]

section Tolerance

/-- What is less than half a basis point above the standard tolerance is still reached. -/
theorem standard_reached {rate : ℚ} (half : rate < 500.5) : Reached standardGate.feeToleranceBps rate := by
  have tolerance : standardGate.feeToleranceBps.toNat = 500 := rfl
  have exponent : lastExponent 53 500 = -44 := by decide
  have significand : lastSignificand 53 500 = 1001 * 2 ^ 43 := by decide
  unfold Reached Reaches
  rw [tolerance, exponent, significand]
  left
  norm_num
  linarith

theorem not_misjudged_five_percent : ¬Misjudged standardGate.feeToleranceBps (rate 1000 950) := by
  have fivePercent : rate 1000 950 = 500 := by norm_num [rate]
  rintro ⟨_, ⟨above, _⟩ | ⟨_, beyond⟩⟩
  · exact above.ne fivePercent.symm
  · refine beyond (standard_reached ?_)
    rw [fivePercent]
    norm_num

/-- Five percent of the amount is inside a tolerance of 500 basis points. -/
theorem fees_judged_iff_five_percent : standardGate.severityOverrides.lookup .feeGrossNet = none ∧
    ∃ report, tryReconcile (.recorded [] []) standardGate [capturedState] [capturedRow] [feeRow 1000 950] [] 7200 [] = .ok report ∧
      FeesJudged standardGate [capturedState] [capturedRow] [feeRow 1000 950] report := by
  have plain : standardGate.severityOverrides.lookup .feeGrossNet = none := rfl
  refine ⟨plain, (fees_judged_iff (.recorded [] []) standardGate plain _ _ _ [] 7200 []).mpr ⟨feeRow_returns 7200, ?_⟩⟩
  intro row member state found _ _
  obtain rfl := List.mem_singleton.mp member
  cases (joined_captured 1000 950).symm.trans found
  exact not_misjudged_five_percent

def largeState : PaymentState := { capturedState with authorizedMinor := 1000000, capturedMinor := 1000000 }

def largeRow : RemotePayment Int := { capturedRow with authorizedMinor := 1000000, capturedMinor := 1000000 }

/-- A fee of 50,049 of a million is 500.49 basis points, and passes for 500. -/
theorem fee_passes_tolerance : ¬∃ report,
    tryReconcile (.recorded [] []) standardGate [largeState] [largeRow] [feeRow 1000000 949951] [] 7200 [] = .ok report ∧
      FeesJudged standardGate [largeState] [largeRow] [feeRow 1000000 949951] report := by
  rintro ⟨report, returned, judged⟩
  obtain ⟨_, rfl⟩ := tryReconcile_ok.mp returned
  have right := (feesJudged_iff rfl).mp judged (feeRow 1000000 949951) List.mem_cons_self largeState rfl rfl
  have rated : rate 1000000 949951 = 500.49 := by norm_num [rate]
  refine judged_iff.mp right (by decide) ⟨by decide, .inl ⟨?_, standard_reached ?_⟩⟩
  · rw [show rate largeState.capturedMinor (feeRow 1000000 949951).netMinor = 500.49 from rated]
    norm_num [standardGate]
  · rw [show rate largeState.capturedMinor (feeRow 1000000 949951).netMinor = 500.49 from rated]
    norm_num

end Tolerance

end Quidz.Proofs
