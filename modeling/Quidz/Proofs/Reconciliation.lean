import Quidz.Report
import Quidz.Proofs.Gate

/-! What the exception report says and what it does not. Every disagreement between the
ledger and the provider's list is named, above the lowest severity unless it may still be
in flight, and where nothing disagrees nothing holds the gate. -/

namespace Quidz.Proofs

open Library (Group.group Group.members)

variable {T R : Type}

/-- The two records say the same of the payment. -/
structure Agrees (state : PaymentState) (row : RemotePayment T) : Prop where
  currency : state.currency = row.currency
  authorized : state.authorizedMinor = row.authorizedMinor
  captured : state.capturedMinor = row.capturedMinor
  refunded : state.refundedMinor = row.refundedMinor
  status : (deriveStatus state).value = row.status

/-- The records of one payment id on the two sides disagree in some way. -/
inductive Disagrees (locals : List PaymentState) (remotes : List (RemotePayment T)) : Prop
  | missingRemotely (here : locals ≠ []) (absent : remotes = [])
  | missingLocally (absent : locals = []) (there : remotes ≠ [])
  | duplicateLocal (many : 1 < locals.length)
  | duplicateRemote (many : 1 < remotes.length)
  | differs {state row} (here : state ∈ locals) (there : row ∈ remotes) (differs : ¬Agrees state row)

variable [Seconds T] {rt : Runtime T R} {policy : GatePolicy T} {now : T}

/-- The one record of the provider is inside the grace window, and in the currency of
the ledger's. -/
def InFlight (policy : GatePolicy T) (now : T) (locals : List PaymentState) (remotes : List (RemotePayment T)) : Prop :=
  ∃ row, remotes = [row] ∧ now - row.createdAt < policy.inFlightGraceSeconds ∧ ∀ state ∈ locals, state.currency = row.currency

section Events

omit [Seconds T] in
/-- Without overrides a finding is as severe as its bucket. -/
theorem drift_severity (plain : policy.severityOverrides = []) (kind : DriftKind) (severity : Severity) :
    (policy.severityOverrides.lookup kind).getD severity = severity := by
  rw [plain]
  rfl

omit [Seconds T] in
theorem agrees_iff {state : PaymentState} {row : RemotePayment T} (currency : state.currency = row.currency) :
    Agrees state row ↔ (state.authorizedMinor, state.capturedMinor, state.refundedMinor) =
      (row.authorizedMinor, row.capturedMinor, row.refundedMinor) ∧ (deriveStatus state).value = row.status := by
  simp only [Prod.mk.injEq]
  exact ⟨fun agrees => ⟨⟨agrees.authorized, agrees.captured, agrees.refunded⟩, agrees.status⟩,
    fun ⟨⟨authorized, captured, refunded⟩, status⟩ => ⟨currency, authorized, captured, refunded, status⟩⟩

theorem comparePair_agrees {state : PaymentState} {row : RemotePayment T} (agrees : Agrees state row) (age grace : T) :
    comparePair policy state row age grace = [] := by
  unfold comparePair
  rw [if_neg (not_not.mpr agrees.currency)]
  exact if_pos ((agrees_iff agrees.currency).mp agrees)

theorem comparePair_differs (plain : policy.severityOverrides = []) {state : PaymentState} {row : RemotePayment T}
    (differs : ¬Agrees state row) (age grace : T) : ∃ finding ∈ comparePair policy state row age grace,
      finding.paymentId = some state.paymentId ∧
      (finding.severity = .info → state.currency = row.currency ∧ age < grace) := by
  unfold comparePair
  by_cases currency : state.currency = row.currency
  case neg =>
    rw [if_pos currency]
    refine ⟨_, List.mem_cons_self, rfl, fun info => ?_⟩
    cases (drift_severity plain _ _).symm.trans info
  rw [agrees_iff currency] at differs
  rw [if_neg (not_not.mpr currency)]
  dsimp only
  rw [if_neg differs]
  by_cases young : age < grace
  · rw [if_pos young]
    exact ⟨_, List.mem_cons_self, rfl, fun _ => ⟨currency, young⟩⟩
  rw [if_neg young]
  by_cases amounts : (state.authorizedMinor, state.capturedMinor, state.refundedMinor) =
      (row.authorizedMinor, row.capturedMinor, row.refundedMinor)
  · rw [if_pos fun status => differs ⟨amounts, status⟩]
    refine ⟨_, List.mem_append_right _ List.mem_cons_self, rfl, fun info => ?_⟩
    cases (drift_severity plain _ _).symm.trans info
  · rw [if_pos amounts]
    refine ⟨_, List.mem_append_left _ List.mem_cons_self, rfl, fun info => ?_⟩
    have severity := (drift_severity plain _ _).symm.trans info
    split at severity <;> cases severity

theorem reconcileId_agrees {state : PaymentState} {row : RemotePayment T} (agrees : Agrees state row) (paymentId : Str) :
    reconcileId policy now paymentId [state] [row] = [] := by
  simp [reconcileId, comparePair_agrees agrees]

variable (now) in
/-- A disagreement is named, and above the lowest severity where it is not in flight. -/
theorem reconcileId_disagrees (plain : policy.severityOverrides = []) {paymentId : Str} {locals : List PaymentState}
    {remotes : List (RemotePayment T)} (own : ∀ state ∈ locals, state.paymentId = paymentId)
    (disagrees : Disagrees locals remotes) : ∃ finding ∈ reconcileId policy now paymentId locals remotes,
      finding.paymentId = some paymentId ∧ (¬InFlight policy now locals remotes → finding.severity ≠ .info) := by
  unfold reconcileId
  by_cases many : 1 < locals.length
  · rw [if_pos many]
    refine ⟨_, List.mem_append_left _ (List.mem_append_left _ List.mem_cons_self), rfl, fun _ info => ?_⟩
    cases (drift_severity plain _ _).symm.trans info
  by_cases many' : 1 < remotes.length
  · rw [if_pos many']
    refine ⟨_, List.mem_append_left _ (List.mem_append_right _ List.mem_cons_self), rfl, fun _ info => ?_⟩
    cases (drift_severity plain _ _).symm.trans info
  rw [if_neg many, if_neg many', List.nil_append, List.nil_append]
  match locals, remotes with
  | [], [] =>
    cases disagrees with
    | missingRemotely here => exact absurd rfl here
    | missingLocally _ there => exact absurd rfl there
    | duplicateLocal many => cases many
    | duplicateRemote many => cases many
    | differs here => cases here
  | state :: _, [] =>
    refine ⟨_, List.mem_cons_self, rfl, fun _ info => ?_⟩
    cases (drift_severity plain _ _).symm.trans info
  | [], row :: rest =>
    obtain rfl : rest = [] := List.length_eq_zero_iff.mp (by simpa using many')
    refine ⟨_, List.mem_cons_self, rfl, fun settled info => ?_⟩
    have severity := (drift_severity plain _ _).symm.trans info
    by_cases young : now - row.createdAt < policy.inFlightGraceSeconds
    · exact settled ⟨row, rfl, young, fun _ member => by cases member⟩
    · rw [if_neg young] at severity
      cases severity
  | state :: others, row :: rest =>
    obtain rfl : others = [] := List.length_eq_zero_iff.mp (by simpa using many)
    obtain rfl : rest = [] := List.length_eq_zero_iff.mp (by simpa using many')
    have differs : ¬Agrees state row := by
      cases disagrees with
      | differs here there differs =>
        rw [List.mem_singleton.mp here, List.mem_singleton.mp there] at differs
        exact differs
      | missingRemotely _ absent => cases absent
      | missingLocally absent => cases absent
      | duplicateLocal many' => exact absurd many' many
      | duplicateRemote many => exact absurd many many'
    obtain ⟨finding, found, named, info⟩ := comparePair_differs plain differs (now - row.createdAt) policy.inFlightGraceSeconds
    refine ⟨finding, found, named.trans (congrArg some (own state List.mem_cons_self)), fun settled quiet => ?_⟩
    obtain ⟨currency, young⟩ := info quiet
    refine settled ⟨row, rfl, young, fun other member => ?_⟩
    rw [List.mem_singleton.mp member]
    exact currency

end Events

section Settlement

variable {local_ : List PaymentState} {remote : List (RemotePayment T)}

/-- The records the two sides hold for one payment id. -/
def localsOf (local_ : List PaymentState) (paymentId : Str) : List PaymentState :=
  local_.filter fun state => state.paymentId = paymentId

def remotesOf (remote : List (RemotePayment T)) (paymentId : Str) : List (RemotePayment T) :=
  remote.filter fun row => row.paymentId = paymentId

/-- Everything joins: each payment id stands once on either side, with the same to say;
the references tell the provider's records apart; nothing is parked; and the settlement
file has the row of every captured payment that is due, and no row that does not join to
one or is too far off. -/
structure Matched (rt : Runtime T R) (policy : GatePolicy T) (now : T) (local_ : List PaymentState)
    (remote : List (RemotePayment T)) (settlement : List SettlementRow) (parked : List (Str × T)) : Prop where
  paired : ∀ paymentId, localsOf local_ paymentId ≠ [] ∨ remotesOf remote paymentId ≠ [] → paymentId ≠ [] ∧
    ∃ state row, localsOf local_ paymentId = [state] ∧ remotesOf remote paymentId = [row] ∧ Agrees state row
  distinct : (remote.map RemotePayment.providerRef).Nodup
  referenced : ∀ row ∈ remote, row.providerRef ≠ []
  unparked : parked = []
  joined : ∀ entry ∈ settlement, ∃ row ∈ remote, row.providerRef = entry.pspReference ∧
    ∃ state ∈ local_, state.paymentId = row.paymentId ∧ 0 < state.capturedMinor ∧ state.currency = entry.currency ∧
      rt.rounded ((entry.netMinor - state.capturedMinor).natAbs * 10000) state.capturedMinor ≤ policy.feeToleranceBps
  settled : ∀ row ∈ remote, ∀ state ∈ local_, state.paymentId = row.paymentId → 0 < state.capturedMinor →
    policy.settlementSlaSeconds < now - row.createdAt → ∃ entry ∈ settlement, entry.pspReference = row.providerRef

omit [Seconds T] in
/-- A reference that one record carries finds that record. -/
theorem byRef_joined (distinct : (remote.map RemotePayment.providerRef).Nodup) {remoteById : List (Str × List (RemotePayment T))}
    (grouped : ∀ row, row ∈ remoteById.flatMap Prod.snd ↔ row ∈ remote) {row : RemotePayment T} (member : row ∈ remote)
    (referenced : row.providerRef ≠ []) : byRef remoteById row.providerRef = some row := by
  unfold byRef
  cases found : (remoteById.flatMap Prod.snd).reverse.find? fun other =>
      other.providerRef ≠ [] ∧ other.providerRef = row.providerRef with
  | none =>
    have none := List.find?_eq_none.mp found row (List.mem_reverse.mpr ((grouped row).mpr member))
    exact absurd (decide_eq_true ⟨referenced, rfl⟩) none
  | some other =>
    have holds := List.find?_some found
    rw [decide_eq_true_eq] at holds
    have inside := (grouped other).mp (List.mem_reverse.mp (List.mem_of_find?_eq_some found))
    rw [List.inj_on_of_nodup_map distinct inside member holds.2]

omit [Seconds T] in
theorem settleRow_joined (plain : policy.severityOverrides = []) {localById : List (Str × List PaymentState)}
    {remoteById : List (Str × List (RemotePayment T))} {entry : SettlementRow} (row : RemotePayment T) (state : PaymentState)
    (found : byRef remoteById entry.pspReference = some row) (paid : Group.members localById row.paymentId = [state])
    (captured : 0 < state.capturedMinor) (currency : state.currency = entry.currency)
    (within : rt.rounded ((entry.netMinor - state.capturedMinor).natAbs * 10000) state.capturedMinor ≤ policy.feeToleranceBps) :
    (settleRow rt policy localById remoteById entry).1.severity = .info ∧
      (settleRow rt policy localById remoteById entry).2 = true := by
  have bps : feeBps rt state.capturedMinor entry.netMinor ≤ policy.feeToleranceBps := by
    rw [feeBps, if_neg (Int.not_le.mpr captured)]
    exact within
  unfold settleRow
  rw [found, Option.map_some, paid]
  dsimp only
  rw [if_neg (not_not.mpr currency.symm), if_pos bps]
  exact ⟨drift_severity plain _ _, rfl⟩

end Settlement

section Reports

variable (local_ : List PaymentState) (remote : List (RemotePayment T)) (paymentId : Str)

omit [Seconds T] in
theorem members_locals : Group.members (Group.group PaymentState.paymentId local_) paymentId = localsOf local_ paymentId :=
  Library.Group.members_group _ _ _

omit [Seconds T] in
theorem members_remotes (joins : paymentId ≠ []) :
    Group.members (Group.group RemotePayment.paymentId (remote.filter fun row => row.paymentId ≠ [])) paymentId =
      remotesOf remote paymentId := by
  rw [Library.Group.members_group, List.filter_filter]
  refine List.filter_congr fun row _ => ?_
  by_cases same : row.paymentId = paymentId
  · simp [same, joins]
  · simp [same]

/-- The report holds what the reconciliation of each payment id finds. -/
theorem reconcileId_reported {finding : Finding T} (settlement : List SettlementRow) (parked : List (Str × T))
    (counters : List (Str × Int)) (joins : paymentId ≠ [])
    (known : localsOf local_ paymentId ≠ [] ∨ remotesOf remote paymentId ≠ [])
    (member : finding ∈ reconcileId policy now paymentId (localsOf local_ paymentId) (remotesOf remote paymentId)) :
    finding ∈ (reconcile rt policy local_ remote settlement parked now counters).findings := by
  unfold reconcile
  dsimp only
  rw [List.mem_insertionSort]
  refine List.mem_append_left _ (List.mem_append_left _ (List.mem_append_right _ ?_))
  rw [reconcileEvents, List.mem_flatMap]
  refine ⟨paymentId, mem_sortedSet.mpr (List.mem_append.mpr ?_), ?_⟩
  · rw [Library.Group.mem_keys, Library.Group.mem_keys]
    rcases known with here | there
    · obtain ⟨state, member⟩ := List.exists_mem_of_ne_nil _ here
      obtain ⟨among, same⟩ := List.mem_filter.mp member
      exact .inl ⟨state, among, of_decide_eq_true same⟩
    · obtain ⟨row, member⟩ := List.exists_mem_of_ne_nil _ there
      obtain ⟨among, same⟩ := List.mem_filter.mp member
      have same := of_decide_eq_true same
      exact .inr ⟨row, List.mem_filter.mpr ⟨among, decide_eq_true (same ▸ joins)⟩, same⟩
  · rw [members_locals, members_remotes _ _ joins]
    exact member

omit [Seconds T] in
theorem Disagrees.known {locals : List PaymentState} {remotes : List (RemotePayment T)} (disagrees : Disagrees locals remotes) :
    locals ≠ [] ∨ remotes ≠ [] := by
  cases disagrees with
  | missingRemotely here => exact .inl here
  | missingLocally _ there => exact .inr there
  | duplicateLocal many => exact .inl fun empty => by rw [empty] at many; cases many
  | duplicateRemote many => exact .inr fun empty => by rw [empty] at many; cases many
  | differs here => exact .inl (List.ne_nil_of_mem here)

section Quiet
variable {local_ remote} {settlement : List SettlementRow} {parked : List (Str × T)}
  (matched : Matched rt policy now local_ remote settlement parked)
include matched

theorem Matched.of_local {state : PaymentState} (member : state ∈ local_) : state.paymentId ≠ [] ∧
    localsOf local_ state.paymentId = [state] ∧ ∃ row, remotesOf remote state.paymentId = [row] ∧ Agrees state row := by
  have inside : state ∈ localsOf local_ state.paymentId := List.mem_filter.mpr ⟨member, decide_eq_true rfl⟩
  obtain ⟨joins, other, row, one, one', agrees⟩ := matched.paired state.paymentId (.inl (List.ne_nil_of_mem inside))
  rw [one, List.mem_singleton] at inside
  subst inside
  exact ⟨joins, one, row, one', agrees⟩

theorem Matched.of_remote {row : RemotePayment T} (member : row ∈ remote) : row.paymentId ≠ [] := by
  have inside : row ∈ remotesOf remote row.paymentId := List.mem_filter.mpr ⟨member, decide_eq_true rfl⟩
  exact (matched.paired row.paymentId (.inr (List.ne_nil_of_mem inside))).1

theorem Matched.settles (plain : policy.severityOverrides = []) {entry : SettlementRow} (member : entry ∈ settlement) :
    let remoteById := Group.group RemotePayment.paymentId (remote.filter fun row => row.paymentId ≠ [])
    let answer := settleRow rt policy (Group.group PaymentState.paymentId local_) remoteById entry
    answer.1.severity = .info ∧ answer.2 = true := by
  obtain ⟨row, listed, same, state, paid, own, captured, currency, within⟩ := matched.joined entry member
  obtain ⟨_, one, _⟩ := matched.of_local paid
  refine settleRow_joined plain row state ?_ ?_ captured currency within
  · rw [← same]
    refine byRef_joined matched.distinct (fun other => ?_) listed (matched.referenced row listed)
    rw [Library.Group.mem_grouped, List.mem_filter, decide_eq_true_eq]
    exact and_iff_left_of_imp matched.of_remote
  · rw [members_locals, ← own, one]

/-- A captured payment that is due has its settlement row. -/
theorem Matched.settled_due (plain : policy.severityOverrides = []) {state : PaymentState} (member : state ∈ local_) :
    let localById := Group.group PaymentState.paymentId local_
    let remoteById := Group.group RemotePayment.paymentId (remote.filter fun row => row.paymentId ≠ [])
    let rows := settlement.insertionSort fun first second => first.pspReference ≤ second.pspReference
    unsettled policy now ((rows.filter fun entry => (settleRow rt policy localById remoteById entry).2).map
      SettlementRow.pspReference) state.paymentId (localsOf local_ state.paymentId)
      (Group.members remoteById state.paymentId) = [] := by
  intro localById remoteById rows
  obtain ⟨joins, one, row, one', _⟩ := matched.of_local member
  rw [one, members_remotes _ _ joins, one', unsettled]
  dsimp only
  apply if_pos
  by_contra open_
  obtain ⟨captured, absent, due⟩ := by simpa only [not_or, not_le] using open_
  have listed : row ∈ remotesOf remote state.paymentId := by rw [one']; exact List.mem_cons_self
  obtain ⟨inside, same⟩ := List.mem_filter.mp listed
  obtain ⟨entry, filed, ref⟩ := matched.settled row inside state member (of_decide_eq_true same).symm captured due
  refine absent (List.mem_map.mpr ⟨entry, List.mem_filter.mpr ⟨?_, (matched.settles plain filed).2⟩, ref⟩)
  exact (List.mem_insertionSort _).mpr filed

/-- Where everything joins, the report is quiet. -/
theorem Matched.quiet (plain : policy.severityOverrides = []) (counters : List (Str × Int)) :
    ∀ finding ∈ (reconcile rt policy local_ remote settlement parked now counters).findings, finding.severity = .info := by
  intro finding member
  unfold reconcile at member
  dsimp only at member
  rw [List.mem_insertionSort, List.mem_append, List.mem_append, List.mem_append] at member
  rcases member with ((unjoined | event) | settled) | waiting
  case inl.inl.inl =>
    obtain ⟨row, listed, _⟩ := List.mem_map.mp unjoined
    obtain ⟨inside, absent⟩ := List.mem_filter.mp listed
    exact absurd (of_decide_eq_true absent) (matched.of_remote inside)
  case inl.inl.inr =>
    rw [reconcileEvents, List.mem_flatMap] at event
    obtain ⟨paymentId, key, found⟩ := event
    rw [mem_sortedSet, List.mem_append, Library.Group.mem_keys, Library.Group.mem_keys] at key
    have known : localsOf local_ paymentId ≠ [] ∨ remotesOf remote paymentId ≠ [] := by
      refine key.imp (fun ⟨state, inside, same⟩ => ?_) (fun ⟨row, inside, same⟩ => ?_)
      · exact List.ne_nil_of_mem (List.mem_filter.mpr ⟨inside, decide_eq_true same⟩)
      · exact List.ne_nil_of_mem (List.mem_filter.mpr ⟨List.mem_of_mem_filter inside, decide_eq_true same⟩)
    obtain ⟨joins, state, row, one, one', agrees⟩ := matched.paired paymentId known
    rw [members_locals, members_remotes _ _ joins, one, one', reconcileId_agrees agrees] at found
    cases found
  case inl.inr =>
    rw [reconcileSettlement, List.mem_append] at settled
    rcases settled with row | due
    · obtain ⟨entry, listed, rfl⟩ := List.mem_map.mp row
      exact (matched.settles plain ((List.mem_insertionSort _).mp listed)).1
    · obtain ⟨⟨paymentId, locals⟩, listed, found⟩ := List.mem_flatMap.mp due
      have listed := (List.mem_insertionSort _).mp listed
      obtain ⟨state, among, rfl⟩ := (Library.Group.mem_keys _ _).mp (List.mem_map_of_mem (f := Prod.fst) listed)
      rw [Library.Group.mem_group _ _ listed] at found
      exact absurd (matched.settled_due plain among ▸ found) List.not_mem_nil
  case inr =>
    rw [matched.unparked] at waiting
    cases waiting

end Quiet

end Reports

/-- What a report owes the sources it is about: every payment id on which the two sides disagree
is named, above the lowest severity unless it is in flight; and where everything joins no
finding is above it and the gate leaves outbound open. -/
structure Reconciles (rt : Runtime T R) (policy : GatePolicy T) (now : T) (local_ : List PaymentState) (remote : List (RemotePayment T))
    (settlement : List SettlementRow) (parked : List (Str × T)) (report : ExceptionReport T) : Prop where
  complete : ∀ paymentId ≠ [], Disagrees (localsOf local_ paymentId) (remotesOf remote paymentId) →
    ∃ finding ∈ report.findings, finding.paymentId = some paymentId ∧
      (¬InFlight policy now (localsOf local_ paymentId) (remotesOf remote paymentId) → finding.severity ≠ .info)
  sound : Matched rt policy now local_ remote settlement parked →
    (∀ finding ∈ report.findings, finding.severity = .info) ∧
      ∀ floatText at_, ∃ decision, tryGate policy report floatText at_ = .ok decision ∧ decision.outboundBlocked = false

omit [Seconds T] in
/-- Without breaks and criticals nothing is effective. -/
theorem effective_quiet {report : ExceptionReport T} (quiet : ∀ finding ∈ report.findings, finding.severity = .info) :
    breaks report = [] ∧ effective report policy = [] := by
  have loud {severity : Severity} (above : severity ≠ .info) : report.findings.filter (·.severity = severity) = [] := by
    refine List.filter_eq_nil_iff.mpr fun finding member => ?_
    rw [decide_eq_true_eq, quiet finding member]
    exact above.symm
  have broken : breaks report = [] := loud (by decide)
  refine ⟨broken, ?_⟩
  rw [effective, broken, criticals, loud (by decide), ite_self]
  rfl

/-- Nothing but information leaves the gate open. -/
theorem gate_informed (floatText : T → Str) {report : ExceptionReport T} (policy : GatePolicy T) (at_ : T)
    (quiet : ∀ finding ∈ report.findings, finding.severity = .info) : ∃ decision, tryGate policy report floatText at_ = .ok decision ∧
      decision.outboundBlocked = false ∧ decision.blockedIds = [] := by
  obtain ⟨broken, none_⟩ := @effective_quiet _ policy report quiet
  have ids : scopedIds policy.scope (effective report policy) = [] := by
    rw [none_]
    cases policy.scope <;> rfl
  have phrased : Phrased report policy at_ := by
    refine ⟨fun _ some_ => absurd broken some_, ?_⟩
    rintro ⟨id, blocked, _⟩
    rw [ids] at blocked
    cases blocked
  refine ⟨_, (tryGate_ok floatText report policy at_).mpr ⟨phrased, rfl⟩, ?_, ?_⟩
  · simp [gate, none_]
  · apply List.eq_nil_iff_forall_not_mem.mpr
    intro id blocked
    rw [gate_blockedIds, ids] at blocked
    cases blocked.1

/-- Without severity overrides, the reconciliation with the provider's list is exact. -/
theorem reconcile_reconciles (rt : Runtime T R) (policy : GatePolicy T) (plain : policy.severityOverrides = []) (now : T)
    (local_ : List PaymentState) (remote : List (RemotePayment T)) (settlement : List SettlementRow) (parked : List (Str × T))
    (counters : List (Str × Int)) : Reconciles rt policy now local_ remote settlement parked
      (reconcile rt policy local_ remote settlement parked now counters) where
  complete paymentId joins disagrees := by
    have own : ∀ state ∈ localsOf local_ paymentId, state.paymentId = paymentId :=
      fun state member => of_decide_eq_true (List.mem_filter.mp member).2
    obtain ⟨finding, found, named⟩ := reconcileId_disagrees now plain own disagrees
    exact ⟨finding, reconcileId_reported local_ remote paymentId settlement parked counters joins disagrees.known found, named⟩
  sound matched := by
    have quiet := matched.quiet plain counters
    refine ⟨quiet, fun floatText at_ => ?_⟩
    obtain ⟨decision, decided, opened, _⟩ := gate_informed floatText policy at_ quiet
    exact ⟨decision, decided, opened⟩

/-- A payment that was captured in full, as the two sides hold it. -/
def capturedState : PaymentState :=
  { paymentId := str "pi_1", currency := str "EUR", authorizedMinor := 1000, capturedMinor := 1000, rank := 50 }

def capturedRow : RemotePayment Int where
  paymentId := str "pi_1"
  providerRef := str "ch_1"
  currency := str "EUR"
  authorizedMinor := 1000
  capturedMinor := 1000
  refundedMinor := 0
  status := str "captured"
  createdAt := 0

def standardGate : GatePolicy Int := { inFlightGraceSeconds := 3600, settlementSlaSeconds := 259200, parkMaxAgeSeconds := 900 }

/-- The provider has refunded what the ledger has not. -/
def refundedRow : RemotePayment Int := { capturedRow with refundedMinor := 1000, status := str "refunded" }

theorem capturedRow_matched :
    Matched (Runtime.recorded [] []).binary64 standardGate 7200 [capturedState] [capturedRow] [] [] where
  paired paymentId known := by
    by_cases same : str "pi_1" = paymentId
    · subst same
      exact ⟨by decide, capturedState, capturedRow, rfl, rfl, by decide, rfl, rfl, rfl, by decide⟩
    · simp [localsOf, remotesOf, capturedState, capturedRow, same] at known
  distinct := by decide
  referenced := by decide
  unparked := rfl
  joined := nofun
  settled row member state _ _ _ due := by
    rw [List.mem_singleton.mp member] at due
    exact absurd due (by decide)

end Quidz.Proofs
