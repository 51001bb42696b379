import Quidz.Proofs.Fees
import Quidz.Proofs.Gate

/-! Sources that agree. Where the ledger holds what the provider records, but for what is still
on its way, and the file settles what is due, the report has nothing that weighs on the gate. -/

namespace Quidz.Proofs

open Library (Group.group Group.members)

variable {T R : Type} [Seconds T]

/-- The ledger's payments are those of the provider's list, and hold the same or are young. -/
structure InStep (policy : GatePolicy T) (now : T) (local_ : List PaymentState) (remote : List (RemotePayment T)) : Prop where
  locals : (local_.map PaymentState.paymentId).Nodup
  remotes : (remote.map RemotePayment.paymentId).Nodup
  named : ∀ record ∈ remote, record.paymentId ≠ []
  recorded : ∀ state ∈ local_, ∃ record ∈ remote, record.paymentId = state.paymentId
  held : ∀ record ∈ remote, ∃ state ∈ local_, state.paymentId = record.paymentId
  currency : ∀ state ∈ local_, ∀ record ∈ remote, state.paymentId = record.paymentId → state.currency = record.currency
  pairs : ∀ state ∈ local_, ∀ record ∈ remote, state.paymentId = record.paymentId →
    (state.authorizedMinor, state.capturedMinor, state.refundedMinor) =
        (record.authorizedMinor, record.capturedMinor, record.refundedMinor) ∧ (deriveStatus state).value = record.status ∨
      now - record.createdAt < policy.inFlightGraceSeconds

/-- The rows of the file are the fees of ledger payments, within the tolerance, and none is missing. -/
structure SettlesAll (rt : Runtime T R) (policy : GatePolicy T) (now : T) (local_ : List PaymentState)
    (remote : List (RemotePayment T)) (settlement : List SettlementRow) : Prop where
  rows : ∀ row ∈ settlement, ∃ state, joined local_ remote row = some state ∧ row.currency = state.currency ∧
    feeBps rt state.capturedMinor row.netMinor ≤ policy.feeToleranceBps
  due : ∀ state ∈ local_, ∀ record ∈ remote, state.paymentId = record.paymentId → 0 < state.capturedMinor →
    policy.settlementSlaSeconds < now - record.createdAt → ∃ row ∈ settlement, row.pspReference = record.providerRef

section Reports
variable {rt : Runtime T R} {policy : GatePolicy T} {now : T} {local_ : List PaymentState} {remote : List (RemotePayment T)}
  {settlement : List SettlementRow} {counters : List (Str × Int)}

omit [Seconds T] in
/-- The members of a key that no two rows share. -/
theorem filter_unique {α : Type} {key : α → Str} {rows : List α} (distinct : (rows.map key).Nodup) {row : α} (member : row ∈ rows) :
    rows.filter (fun other => key other = key row) = [row] := by
  induction rows with
  | nil => cases member
  | cons first rest ih =>
    rw [List.map_cons, List.nodup_cons] at distinct
    rcases List.mem_cons.mp member with rfl | inside
    · have others : rest.filter (fun other => key other = key row) = [] := by
        apply List.filter_eq_nil_iff.mpr
        intro other there
        simp only [decide_eq_true_eq]
        exact fun same => distinct.1 (same ▸ List.mem_map_of_mem there)
      rw [List.filter_cons_of_pos (by simp), others]
    · have apart : key first ≠ key row := fun same => distinct.1 (same ▸ List.mem_map_of_mem inside)
      rw [List.filter_cons_of_neg (by simpa using apart), ih distinct.2 inside]

theorem InStep.members (inStep : InStep policy now local_ remote) {state : PaymentState} {record : RemotePayment T}
    (here : state ∈ local_) (there : record ∈ remote) (same : state.paymentId = record.paymentId) :
    Group.members (localById local_) state.paymentId = [state] ∧ Group.members (remoteById remote) state.paymentId = [record] := by
  constructor
  · rw [localById, Library.Group.members_group]
    exact filter_unique inStep.locals here
  · have all : remote.filter (fun row => row.paymentId ≠ []) = remote :=
      List.filter_eq_self.mpr fun row member => decide_eq_true (inStep.named row member)
    rw [remoteById, all, Library.Group.members_group, same]
    exact filter_unique inStep.remotes there

/-- What is left of the comparison is on its way. -/
theorem InStep.events (inStep : InStep policy now local_ remote) {finding : Finding T}
    (member : finding ∈ reconcileEvents policy (localById local_) (remoteById remote) now) :
    finding.kind = .inFlight ∧ finding.severity = (policy.severityOverrides.lookup .inFlight).getD .info := by
  obtain ⟨paymentId, listed, found⟩ := List.mem_flatMap.mp member
  obtain ⟨state, here, record, there, same, rfl⟩ : ∃ state ∈ local_, ∃ record ∈ remote, state.paymentId = record.paymentId ∧
      state.paymentId = paymentId := by
    rcases List.mem_append.mp (mem_sortedSet.mp listed) with key | key
    · obtain ⟨state, here, rfl⟩ := (Library.Group.mem_keys _ _).mp key
      obtain ⟨record, there, same⟩ := inStep.recorded state here
      exact ⟨state, here, record, there, same.symm, rfl⟩
    · obtain ⟨record, there, rfl⟩ := (Library.Group.mem_keys _ _).mp key
      have there := (List.mem_filter.mp there).1
      obtain ⟨state, here, same⟩ := inStep.held record there
      exact ⟨state, here, record, there, same, same⟩
  obtain ⟨one, other⟩ := inStep.members here there same
  rw [one, other] at found
  have compared : finding ∈ comparePair policy state record (now - record.createdAt) policy.inFlightGraceSeconds := found
  unfold comparePair at compared
  rw [if_neg (not_not.mpr (inStep.currency state here record there same))] at compared
  dsimp only at compared
  rcases inStep.pairs state here record there same with equal | young
  · rw [if_pos equal] at compared
    cases compared
  · rw [if_pos young] at compared
    split at compared
    · cases compared
    · rw [List.mem_singleton.mp compared]
      exact ⟨rfl, rfl⟩

/-- The rows are fees, of the lowest severity. -/
theorem SettlesAll.fees (settles : SettlesAll rt policy now local_ remote settlement) {finding : Finding T}
    (member : finding ∈ rowFindings rt policy local_ remote settlement) :
    finding.kind = .feeGrossNet ∧ finding.severity = (policy.severityOverrides.lookup .feeGrossNet).getD .info := by
  obtain ⟨row, listed, rfl⟩ := List.mem_map.mp member
  obtain ⟨state, joins, currency, within⟩ := settles.rows row ((List.mem_insertionSort _).mp listed)
  have settled := settleRow_settles rt policy local_ remote row
  generalize (settleRow rt policy (localById local_) (remoteById remote) row).2 = answer at settled
  cases settled with
  | unknown absent => cases absent.symm.trans joins
  | foreign found foreign =>
    cases found.symm.trans joins
    exact absurd currency foreign
  | fee found _ kind _ _ severity =>
    cases found.symm.trans joins
    rw [if_pos within] at severity
    exact ⟨kind, severity⟩

theorem SettlesAll.none_absent (settles : SettlesAll rt policy now local_ remote settlement) :
    absences policy now local_ remote settlement = [] := by
  apply List.eq_nil_iff_forall_not_mem.mpr
  intro finding member
  obtain ⟨state, record, paired, captured, absent, late, _⟩ := mem_absences.mp member
  obtain ⟨row, listed, same⟩ := settles.due state paired.local_mem.1 record paired.remote_mem.1 paired.local_mem.2 captured late
  obtain ⟨_, joins, _⟩ := settles.rows row listed
  have joined_ : (joined local_ remote row).isSome := by
    rw [joins]
    rfl
  exact absent ((mem_settledRefs ..).mpr ⟨row, listed, same, joined_⟩)

variable (plain : ∀ kind ∈ [DriftKind.inFlight, .feeGrossNet], policy.severityOverrides.lookup kind = none)

include plain in
/-- A report about such sources notes fees and what is on its way, for information. -/
theorem InStep.informs (inStep : InStep policy now local_ remote) (settles : SettlesAll rt policy now local_ remote settlement)
    {finding : Finding T} (member : finding ∈ (reconcile rt policy local_ remote settlement [] now counters).findings) :
    (finding.kind = .inFlight ∨ finding.kind = .feeGrossNet) ∧ finding.severity = .info := by
  rw [List.forall_mem_cons, List.forall_mem_singleton] at plain
  rcases (mem_report ..).mp member with nameless | compared | fee | absence | parked
  · obtain ⟨record, listed, _⟩ := List.mem_map.mp nameless
    obtain ⟨inside, unnamed⟩ := List.mem_filter.mp listed
    exact absurd (of_decide_eq_true unnamed) (inStep.named record inside)
  · obtain ⟨kind, severity⟩ := inStep.events compared
    rw [plain.1] at severity
    exact ⟨.inl kind, severity⟩
  · obtain ⟨kind, severity⟩ := settles.fees fee
    rw [plain.2] at severity
    exact ⟨.inr kind, severity⟩
  · rw [settles.none_absent] at absence
    cases absence
  · cases parked

include plain in
/-- Where the sources agree the gate is open: no outbound payment is blocked. -/
theorem agreement_opens (inStep : InStep policy now local_ remote) (settles : SettlesAll rt.binary64 policy now local_ remote settlement)
    {report : ExceptionReport T} (returned : tryReconcile rt policy local_ remote settlement [] now counters = .ok report)
    (floatText : T → Str) :
    (∀ finding ∈ report.findings, (finding.kind = .inFlight ∨ finding.kind = .feeGrossNet) ∧ finding.severity = .info) ∧
      ∃ decision, tryGate policy report floatText now = .ok decision ∧ decision.outboundBlocked = false ∧ decision.blockedIds = [] := by
  obtain ⟨_, rfl⟩ := tryReconcile_ok.mp returned
  refine ⟨fun finding => inStep.informs plain settles, ?_⟩
  exact gate_informed floatText policy now fun finding member => (inStep.informs plain settles member).2

end Reports

section Captured

theorem captured_inStep (now : Int) : InStep standardGate now [capturedState] [capturedRow] where
  locals := List.nodup_singleton _
  remotes := List.nodup_singleton _
  named := by decide
  recorded := by decide
  held := by decide
  currency := by decide
  pairs state here record there _ := by
    obtain rfl := List.mem_singleton.mp here
    obtain rfl := List.mem_singleton.mp there
    exact .inl (by decide)

theorem captured_settlesAll {rt : Runtime Int R} (now : Int) :
    SettlesAll rt.binary64 standardGate now [capturedState] [capturedRow] [feeRow 1000 950] where
  rows row member := by
    obtain rfl := List.mem_singleton.mp member
    refine ⟨capturedState, joined_captured 1000 950, rfl, ?_⟩
    exact (judged_iff.mpr fun _ => not_misjudged_five_percent).mpr (.inl ⟨by decide, by decide⟩)
  due state here record there _ _ _ := by
    obtain rfl := List.mem_singleton.mp there
    exact ⟨feeRow 1000 950, List.mem_cons_self, rfl⟩

/-- The captured payment and the file that settles it, late enough to be due. -/
theorem agreement_opens_captured : InStep standardGate 300000 [capturedState] [capturedRow] ∧ ∃ report,
    tryReconcile (.recorded [] []) standardGate [capturedState] [capturedRow] [feeRow 1000 950] [] 300000 [] = .ok report ∧
      ∃ decision, tryGate standardGate report (fun _ => []) 300000 = .ok decision ∧ decision.outboundBlocked = false := by
  have plain : ∀ kind ∈ [DriftKind.inFlight, .feeGrossNet], standardGate.severityOverrides.lookup kind = none := by decide
  obtain ⟨report, returned⟩ : ∃ report, tryReconcile (.recorded [] []) standardGate [capturedState] [capturedRow] [feeRow 1000 950] []
      300000 [] = .ok report := ⟨_, tryReconcile_ok.mpr ⟨feeRow_returns 300000, rfl⟩⟩
  obtain ⟨_, decision, decided, opened, _⟩ := agreement_opens plain (captured_inStep 300000) (captured_settlesAll 300000) returned
    (fun _ => [])
  exact ⟨captured_inStep 300000, report, returned, decision, decided, opened⟩

end Captured
end Quidz.Proofs
