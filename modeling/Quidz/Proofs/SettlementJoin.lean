import Quidz.Proofs.Returns

/-! The two views of what is settled. The rows are joined through the last record that
carries their reference; whether a payment is absent from the file is read off the
reference of its first record. -/

namespace Quidz.Proofs

open Library (Group.group Group.members)

variable {T R : Type} [Seconds T]

/-- The payment was captured, the provider has records of it, and all are past the SLA. -/
structure Overdue (policy : GatePolicy T) (now : T) (remote : List (RemotePayment T)) (state : PaymentState) : Prop where
  captured : 0 < state.capturedMinor
  listed : Group.members (remoteById remote) state.paymentId ≠ []
  late : ∀ record ∈ Group.members (remoteById remote) state.paymentId, policy.settlementSlaSeconds < now - record.createdAt

/-- The finding says that the payment is absent from the settlement file. -/
def ReportedAbsent (report : ExceptionReport T) (state : PaymentState) : Prop :=
  ∃ finding ∈ report.findings, finding.kind = .unsettledPastSla ∧ finding.paymentId = some state.paymentId

/-- Every row has its one finding, and absent is exactly what no row was joined to. -/
structure JoinConsistent (policy : GatePolicy T) (now : T) (local_ : List PaymentState) (remote : List (RemotePayment T))
    (settlement : List SettlementRow) (report : ExceptionReport T) : Prop where
  rows : ∀ row ∈ settlement,
    (report.findings.filter fun finding => ofRow finding && finding.providerRef = some row.pspReference).length = 1
  absent : ∀ state ∈ local_, Overdue policy now remote state →
    (ReportedAbsent report state ↔ ∀ row ∈ settlement, joined local_ remote row ≠ some state)

/-- The reference of a payment's first record and the rows that are joined to the payment
tell different things about it. -/
inductive Crossed (local_ : List PaymentState) (remote : List (RemotePayment T)) (settlement : List SettlementRow)
    (state : PaymentState) (record : RemotePayment T) : Prop
  | stolen {row other} (filed : row ∈ settlement) (ref : row.pspReference = record.providerRef)
      (taken : joined local_ remote row = some other) (none_ : ∀ row ∈ settlement, joined local_ remote row ≠ some state)
  | overlooked {row} (filed : row ∈ settlement) (found : joined local_ remote row = some state)
      (none_ : ∀ row ∈ settlement, row.pspReference = record.providerRef → joined local_ remote row = none)

variable {rt : Runtime T R} {policy : GatePolicy T} {now : T} {local_ : List PaymentState} {remote : List (RemotePayment T)}
  {settlement : List SettlementRow} {parked : List (Str × T)} {counters : List (Str × Int)}

section Rows

omit [Seconds T] in
theorem rowFindings_filter (refs : (settlement.map SettlementRow.pspReference).Nodup) {row : SettlementRow} (filed : row ∈ settlement) :
    ((rowFindings rt policy local_ remote settlement).filter fun finding =>
      ofRow finding && finding.providerRef = some row.pspReference).length = 1 := by
  unfold rowFindings
  rw [List.filter_map, List.length_map]
  have own : ∀ other ∈ settlement.insertionSort fun first second => first.pspReference ≤ second.pspReference,
      ((fun finding => ofRow finding && decide (finding.providerRef = some row.pspReference)) ∘ fun row =>
        (settleRow rt policy (localById local_) (remoteById remote) row).1) other =
      decide (other.pspReference = row.pspReference) := by
    intro other _
    simp only [Function.comp, (settleRow_kind rt policy local_ remote other).1, (settleRow_ref rt policy other _ _).1,
      Option.some.injEq, Bool.true_and]
  rw [List.filter_congr own, ((List.perm_insertionSort _ settlement).filter _).length_eq]
  have once := List.count_eq_one_of_mem refs (List.mem_map_of_mem filed)
  rw [List.count, List.countP_map, List.countP_eq_length_filter] at once
  rw [← once]
  exact congrArg List.length (List.filter_congr fun other _ => (beq_eq_decide ..).symm)

theorem report_rows (refs : (settlement.map SettlementRow.pspReference).Nodup) {row : SettlementRow} (filed : row ∈ settlement) :
    ((reconcile rt policy local_ remote settlement parked now counters).findings.filter fun finding =>
      ofRow finding && finding.providerRef = some row.pspReference).length = 1 := by
  have none_ {findings : List (Finding T)} (other : ∀ finding ∈ findings, ofRow finding = false) :
      (findings.filter fun finding => ofRow finding && finding.providerRef = some row.pspReference) = [] :=
    List.filter_eq_nil_iff.mpr fun finding member => by simp [other finding member]
  have unjoined' := none_ fun finding (member : finding ∈ unjoined policy now remote) => (unjoined_kind member).1
  have events := none_ fun finding (member : finding ∈ reconcileEvents policy (localById local_) (remoteById remote) now) =>
    (reconcileEvents_kind member).2
  have absent := none_ fun finding (member : finding ∈ absences policy now local_ remote settlement) => (absences_kind member).1
  have parked' := none_ fun finding (member : finding ∈ parkedFindings policy now parked) => (parkedFindings_kind member).1
  rw [reconcile_findings, reconcileSettlement_eq, ((List.perm_insertionSort _ _).filter _).length_eq]
  simp only [List.filter_append, unjoined', events, absent, parked', List.append_nil, List.nil_append]
  exact rowFindings_filter refs filed

end Rows

section Absence

theorem reportedAbsent_iff {state : PaymentState} {record : RemotePayment T}
    (paired : Paired local_ remote state record) (captured : 0 < state.capturedMinor)
    (late : policy.settlementSlaSeconds < now - record.createdAt) :
    ReportedAbsent (reconcile rt policy local_ remote settlement parked now counters) state ↔
      ∀ row ∈ settlement, row.pspReference = record.providerRef → joined local_ remote row = none := by
  rw [← not_mem_settledRefs]
  constructor
  · rintro ⟨finding, member, kind, named⟩
    obtain ⟨other, first, paired', _, absent, _, rfl⟩ := mem_absences.mp ((mem_report_unsettled kind).mp member)
    have same : other.paymentId = state.paymentId := Option.some.inj named
    have key : first.paymentId = record.paymentId := by rw [← paired'.local_mem.2, same, paired.local_mem.2]
    have one := paired.there
    rw [← key] at one
    rwa [Option.some.inj (one.symm.trans paired'.there)]
  · intro absent
    have due := mem_absences.mpr ⟨state, record, paired, captured, absent, late, rfl⟩
    exact ⟨absence policy now state record, (mem_report_unsettled rfl).mpr due, rfl, rfl⟩

omit [Seconds T] in
/-- Where the payment ids differ, every payment with records is the first of its id. -/
theorem paired_of_unique (ids : (local_.map PaymentState.paymentId).Nodup) {state : PaymentState} (member : state ∈ local_)
    (listed : Group.members (remoteById remote) state.paymentId ≠ []) : ∃ record, Paired local_ remote state record := by
  obtain ⟨record, rest, records⟩ := List.exists_cons_of_ne_nil listed
  have there : (Group.members (remoteById remote) state.paymentId).head? = some record := by rw [records]; rfl
  have inside : state ∈ Group.members (localById local_) state.paymentId := mem_members_localById.mpr ⟨member, rfl⟩
  obtain ⟨first, others, states⟩ := List.exists_cons_of_ne_nil (List.ne_nil_of_mem inside)
  have here : (Group.members (localById local_) state.paymentId).head? = some first := by rw [states]; rfl
  obtain ⟨paired, own, _⟩ := Paired.of_head here there
  obtain rfl : first = state := List.inj_on_of_nodup_map ids paired.local_mem.1 member own
  exact ⟨record, paired⟩

omit [Seconds T] in
/-- What is absent by the first record is what no row was joined to, unless the two cross. -/
theorem absent_iff_uncrossed {state : PaymentState} {record : RemotePayment T} :
    ((∀ row ∈ settlement, row.pspReference = record.providerRef → joined local_ remote row = none) ↔
      ∀ row ∈ settlement, joined local_ remote row ≠ some state) ↔ ¬Crossed local_ remote settlement state record := by
  constructor
  · rintro same (⟨filed, ref, taken, none_⟩ | ⟨filed, found, none_⟩)
    · cases taken.symm.trans (same.mpr none_ _ filed ref)
    · exact same.mp none_ _ filed found
  · intro uncrossed
    constructor
    · intro absent row filed found
      exact uncrossed (.overlooked filed found absent)
    · intro unjoined row filed ref
      by_contra taken
      obtain ⟨other, taken⟩ := Option.ne_none_iff_exists'.mp taken
      exact uncrossed (.stolen filed ref taken unjoined)

end Absence

/-- With one ledger payment for each id and one row for each reference, the settlement join
is consistent if and only if reconciliation returns and, of no captured payment with late
records only, the first record's reference and the joined rows tell different things. -/
theorem settlement_join_iff (rt : Runtime T R) (policy : GatePolicy T) (now : T) (local_ : List PaymentState)
    (ids : (local_.map PaymentState.paymentId).Nodup) (remote : List (RemotePayment T)) (settlement : List SettlementRow)
    (refs : (settlement.map SettlementRow.pspReference).Nodup) (parked : List (Str × T)) (counters : List (Str × Int)) :
    (∃ report, tryReconcile rt policy local_ remote settlement parked now counters = .ok report ∧
      JoinConsistent policy now local_ remote settlement report) ↔
    Returns policy now local_ remote settlement ∧ ∀ state record, Paired local_ remote state record →
      Overdue policy now remote state → ¬Crossed local_ remote settlement state record := by
  simp only [tryReconcile_ok, and_assoc, exists_and_left, exists_eq_left']
  refine and_congr_right fun _ => ⟨fun consistent state record paired overdue => ?_, fun uncrossed => ⟨fun row => report_rows refs, ?_⟩⟩
  · have late := overdue.late record (by rw [paired.local_mem.2]; exact List.mem_of_head? paired.there)
    have absent := consistent.absent state paired.local_mem.1 overdue
    rw [reportedAbsent_iff paired overdue.captured late] at absent
    exact absent_iff_uncrossed.mp absent
  · intro state member overdue
    obtain ⟨record, paired⟩ := paired_of_unique ids member overdue.listed
    have late := overdue.late record (by rw [paired.local_mem.2]; exact List.mem_of_head? paired.there)
    rw [reportedAbsent_iff paired overdue.captured late]
    exact absent_iff_uncrossed.mpr (uncrossed state record paired overdue)

def earlierRow : RemotePayment Int := { capturedRow with providerRef := str "ch_0" }

/-- The provider holds the payment under two references, a double authorization. -/
def doubled : List (RemotePayment Int) := [earlierRow, capturedRow]

/-- The row of the second reference is joined to the payment, and the payment is absent from
the file by the first. -/
theorem doubled_both_settled_and_absent : ¬∃ report,
    tryReconcile (.recorded [] []) standardGate [capturedState] doubled [feeRow 1000 950] [] 300000 [] = .ok report ∧
      JoinConsistent standardGate 300000 [capturedState] doubled [feeRow 1000 950] report := by
  rintro ⟨report, returned, consistent⟩
  obtain ⟨_, rfl⟩ := tryReconcile_ok.mp returned
  have overdue : Overdue standardGate 300000 doubled capturedState := ⟨by decide, by decide, by decide⟩
  have paired : Paired [capturedState] doubled capturedState earlierRow := ⟨rfl, rfl⟩
  have late : standardGate.settlementSlaSeconds < 300000 - earlierRow.createdAt := by decide
  refine (consistent.absent capturedState List.mem_cons_self overdue).mp ?_ (feeRow 1000 950) List.mem_cons_self rfl
  refine (reportedAbsent_iff paired overdue.captured late).mpr fun row filed ref => ?_
  rw [List.mem_singleton.mp filed] at ref
  exact absurd ref (by decide)

/-- The other way round the first record is the one that was settled. -/
def settledFirst : List (RemotePayment Int) := [capturedRow, earlierRow]

theorem paired_settledFirst {state : PaymentState} {record : RemotePayment Int}
    (paired : Paired [capturedState] settledFirst state record) : state = capturedState ∧ record = capturedRow := by
  have there := paired.there
  rw [← paired.local_mem.2, List.mem_singleton.mp paired.local_mem.1] at there
  have first : some capturedRow = some record := there
  exact ⟨List.mem_singleton.mp paired.local_mem.1, (Option.some.inj first).symm⟩

theorem settlement_join_iff_settled : ([capturedState].map PaymentState.paymentId).Nodup ∧
    ([feeRow 1000 950].map SettlementRow.pspReference).Nodup ∧ ∃ report,
      tryReconcile (.recorded [] []) standardGate [capturedState] settledFirst [feeRow 1000 950] [] 300000 [] = .ok report ∧
        JoinConsistent standardGate 300000 [capturedState] settledFirst [feeRow 1000 950] report := by
  have ids : ([capturedState].map PaymentState.paymentId).Nodup := List.nodup_singleton _
  have refs : ([feeRow 1000 950].map SettlementRow.pspReference).Nodup := List.nodup_singleton _
  have returns : Returns standardGate 300000 [capturedState] settledFirst [feeRow 1000 950] :=
    captured_returns (fun _ _ => paired_settledFirst) rfl
  refine ⟨ids, refs, ?_⟩
  refine (settlement_join_iff (.recorded [] []) standardGate 300000 _ ids _ _ refs [] []).mpr ⟨returns, ?_⟩
  intro state record paired _ crossed
  obtain ⟨rfl, rfl⟩ := paired_settledFirst paired
  cases crossed with
  | stolen _ _ _ none_ => exact none_ (feeRow 1000 950) List.mem_cons_self rfl
  | overlooked _ _ none_ => cases none_ (feeRow 1000 950) List.mem_cons_self rfl

end Quidz.Proofs
