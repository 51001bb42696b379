import Quidz.Limits
import Quidz.Proofs.Reconciliation

/-! Where the findings of a report come from. The rows of the settlement file leave the
findings that have no age and one of three kinds, one finding a row. -/

namespace Quidz.Proofs

open Library (Group.group Group.members)

variable {T R : Type} [Seconds T] {rt : Runtime T R} {policy : GatePolicy T} {now : T}

section Parts
variable (policy : GatePolicy T) (now : T)

/-- The finding of a provider's record that names no payment. -/
def unnamedFinding (row : RemotePayment T) : Finding T :=
  { drift policy .unknownRemoteRow (str "provider row " ++ row.providerRef ++ str " carries no payment id to join on") with
    providerRef := some row.providerRef
    remote := some (vector row.authorizedMinor row.capturedMinor row.refundedMinor), currency := some row.currency
    ageSeconds := some (now - row.createdAt) }

def unjoined (remote : List (RemotePayment T)) : List (Finding T) :=
  (remote.filter fun row => row.paymentId = []).map (unnamedFinding policy now)

/-- The findings of the parked deliveries. -/
def parkedFindings (parked : List (Str × T)) : List (Finding T) :=
  (parked.insertionSort fun first second => toLex first ≤ toLex second).map fun entry =>
    let age := now - entry.2
    { drift policy (if policy.parkMaxAgeSeconds < age then .parkedStale else .inFlight)
          (str "a delivery for " ++ entry.1 ++ str " has been parked " ++ secondsText age ++
            str " waiting for its prerequisite, limit " ++ secondsText policy.parkMaxAgeSeconds) with
      paymentId := some entry.1, ageSeconds := some age }

variable (rt) in
theorem reconcile_findings (local_ : List PaymentState) (remote : List (RemotePayment T)) (settlement : List SettlementRow)
    (parked : List (Str × T)) (counters : List (Str × Int)) :
    (reconcile rt policy local_ remote settlement parked now counters).findings =
      (unjoined policy now remote ++ reconcileEvents policy (localById local_) (remoteById remote) now ++
        reconcileSettlement rt policy (localById local_) (remoteById remote) settlement now ++
        parkedFindings policy now parked).insertionSort Finding.before := rfl

end Parts

section Joins

/-- What a settlement row leaves in the report, and whether it settles a reference. -/
inductive Settles (rt : Runtime T R) (policy : GatePolicy T) (local_ : List PaymentState) (remote : List (RemotePayment T))
    (row : SettlementRow) (finding : Finding T) : Bool → Prop
  | unknown (absent : joined local_ remote row = none) (kind : finding.kind = .unknownRemoteRow) (unnamed : finding.paymentId = none) :
      Settles rt policy local_ remote row finding false
  | foreign {state} (found : joined local_ remote row = some state) (currency : row.currency ≠ state.currency)
      (kind : finding.kind = .currencyMismatch) (paymentId : finding.paymentId = some state.paymentId) :
      Settles rt policy local_ remote row finding true
  | fee {state} (found : joined local_ remote row = some state) (currency : row.currency = state.currency)
      (kind : finding.kind = .feeGrossNet) (paymentId : finding.paymentId = some state.paymentId)
      (delta : finding.deltaMinor = some (row.netMinor - state.capturedMinor))
      (severity : finding.severity = (policy.severityOverrides.lookup .feeGrossNet).getD
        (if feeBps rt state.capturedMinor row.netMinor ≤ policy.feeToleranceBps then .info else .break_)) :
      Settles rt policy local_ remote row finding true

variable (rt policy) (local_ : List PaymentState) (remote : List (RemotePayment T)) (row : SettlementRow)

omit [Seconds T] in
theorem settleRow_settles : Settles rt policy local_ remote row (settleRow rt policy (localById local_) (remoteById remote) row).1
    (settleRow rt policy (localById local_) (remoteById remote) row).2 := by
  unfold settleRow
  cases found : byRef (remoteById remote) row.pspReference with
  | none => exact .unknown (by rw [joined, found]; rfl) rfl rfl
  | some record =>
    rw [Option.map_some]
    cases members : Group.members (localById local_) record.paymentId with
    | nil => exact .unknown (by rw [joined, found, Option.bind_some, members]; rfl) rfl rfl
    | cons state rest =>
      have joins : joined local_ remote row = some state := by rw [joined, found, Option.bind_some, members]; rfl
      dsimp only
      by_cases currency : row.currency = state.currency
      · rw [if_neg (not_not.mpr currency)]
        exact .fee joins currency rfl rfl rfl rfl
      · rw [if_pos currency]
        exact .foreign joins currency rfl rfl

omit [Seconds T] in
theorem settleRow_joined_eq : (settleRow rt policy (localById local_) (remoteById remote) row).2 =
    (joined local_ remote row).isSome := by
  have settles := settleRow_settles rt policy local_ remote row
  generalize (settleRow rt policy (localById local_) (remoteById remote) row).2 = answer at settles ⊢
  cases settles with
  | unknown absent => rw [absent]; rfl
  | foreign found => rw [found]; rfl
  | fee found => rw [found]; rfl

omit [Seconds T] in
theorem settleRow_paymentId : (settleRow rt policy (localById local_) (remoteById remote) row).1.paymentId =
    (joined local_ remote row).map PaymentState.paymentId := by
  have settles := settleRow_settles rt policy local_ remote row
  generalize (settleRow rt policy (localById local_) (remoteById remote) row).2 = answer at settles
  cases settles with
  | unknown absent _ unnamed => rw [absent, unnamed]; rfl
  | foreign found _ _ named => rw [found, named]; rfl
  | fee found _ _ named => rw [found, named]; rfl

omit [Seconds T] in
theorem settleRow_ref (localById : List (Str × List PaymentState)) (remoteById : List (Str × List (RemotePayment T))) :
    (settleRow rt policy localById remoteById row).1.providerRef = some row.pspReference ∧
      (settleRow rt policy localById remoteById row).1.ageSeconds = none := by
  unfold settleRow
  split
  · exact ⟨rfl, rfl⟩
  · exact ⟨rfl, rfl⟩
  · dsimp only
    split
    · exact ⟨rfl, rfl⟩
    · exact ⟨rfl, rfl⟩

end Joins

section Kinds

/-- The finding of a settlement row. -/
def ofRow (finding : Finding T) : Bool :=
  finding.ageSeconds.isNone && [.unknownRemoteRow, .currencyMismatch, .feeGrossNet].contains finding.kind

/-- The finding of a captured payment without its row. -/
def ofAbsence (finding : Finding T) : Bool := finding.kind = .unsettledPastSla

omit [Seconds T] in
theorem ofRow_aged {finding : Finding T} (aged : finding.ageSeconds.isSome) : ofRow finding = false := by
  unfold ofRow
  rw [Option.isNone_eq_false_iff.mpr aged, Bool.false_and]

theorem unjoined_kind {remote : List (RemotePayment T)} {finding : Finding T} (member : finding ∈ unjoined policy now remote) :
    ofRow finding = false ∧ finding.kind = .unknownRemoteRow := by
  obtain ⟨row, _, rfl⟩ := List.mem_map.mp member
  exact ⟨ofRow_aged rfl, rfl⟩

theorem parkedFindings_kind {parked : List (Str × T)} {finding : Finding T} (member : finding ∈ parkedFindings policy now parked) :
    ofRow finding = false ∧ (finding.kind = .inFlight ∨ finding.kind = .parkedStale) := by
  obtain ⟨entry, _, rfl⟩ := List.mem_map.mp member
  refine ⟨ofRow_aged rfl, ?_⟩
  change (if _ then _ else _) = _ ∨ (if _ then _ else _) = _
  split
  · exact .inr rfl
  · exact .inl rfl

/-- The kinds that come of comparing a ledger payment with a record. -/
def pairKinds : List DriftKind := [.amountMismatch, .partialStateDivergence, .statusMismatch, .currencyMismatch, .inFlight]

/-- The kinds that come of comparing the ledger with the provider's list. -/
def eventKinds : List DriftKind := [.missingLocally, .missingRemotely, .duplicateLocal, .duplicateRemote] ++ pairKinds

/-- A finding of the comparison names the payment, the record and its age. -/
structure OfPair (state : PaymentState) (row : RemotePayment T) (age : T) (finding : Finding T) : Prop where
  kind : finding.kind ∈ pairKinds
  paymentId : finding.paymentId = some state.paymentId
  providerRef : finding.providerRef = some row.providerRef
  age : finding.ageSeconds = some age

/-- How far apart the two sides hold the net position. -/
def netDifference (state : PaymentState) (record : RemotePayment T) : Int :=
  state.capturedMinor - state.refundedMinor - (record.capturedMinor - record.refundedMinor)

/-- One constructor for each finding that the comparison can add. -/
inductive Compared (state : PaymentState) (record : RemotePayment T) (age grace : T) (finding : Finding T) : Prop
  | foreign (currency : state.currency ≠ record.currency) (kind : finding.kind = .currencyMismatch)
  | young (young : age < grace) (kind : finding.kind = .inFlight)
  | partial_ (kind : finding.kind = .partialStateDivergence)
      (remote : finding.remote = some (vector record.authorizedMinor record.capturedMinor record.refundedMinor))
  | mismatch (currency : state.currency = record.currency) (old : ¬age < grace) (kind : finding.kind = .amountMismatch)
      (remote : finding.remote = some (vector record.authorizedMinor record.capturedMinor record.refundedMinor))
      (delta : finding.deltaMinor = some (netDifference state record))
  | status (kind : finding.kind = .statusMismatch) (remote : finding.remote = some [(str "status", .str record.status)])

theorem comparePair_cases {state : PaymentState} {record : RemotePayment T} {age grace : T} {finding : Finding T}
    (member : finding ∈ comparePair policy state record age grace) :
    Compared state record age grace finding ∧ finding.paymentId = some state.paymentId ∧
      finding.providerRef = some record.providerRef ∧ finding.ageSeconds = some age := by
  unfold comparePair at member
  split at member
  next foreign =>
    rw [List.mem_singleton.mp member]
    exact ⟨.foreign foreign rfl, rfl, rfl, rfl⟩
  next currency =>
    dsimp only at member
    split at member
    · cases member
    split at member
    next young =>
      rw [List.mem_singleton.mp member]
      exact ⟨.young young rfl, rfl, rfl, rfl⟩
    next old =>
      rcases List.mem_append.mp member with amounts | status
      · split at amounts
        · rw [List.mem_singleton.mp amounts]
          refine ⟨?_, rfl, rfl, rfl⟩
          by_cases nets : state.capturedMinor - state.refundedMinor = record.capturedMinor - record.refundedMinor ∧
              state.authorizedMinor = record.authorizedMinor
          · exact .partial_ (if_pos nets) rfl
          · exact .mismatch (not_not.mp currency) old (if_neg nets) rfl (congrArg some (if_neg nets))
        · cases amounts
      · split at status
        · rw [List.mem_singleton.mp status]
          exact ⟨.status rfl rfl, rfl, rfl, rfl⟩
        · cases status

theorem Compared.kind {state : PaymentState} {record : RemotePayment T} {age grace : T} {finding : Finding T}
    (compared : Compared state record age grace finding) : finding.kind ∈ pairKinds := by
  cases compared with
  | foreign _ kind => rw [kind]; decide
  | young _ kind => rw [kind]; decide
  | partial_ kind => rw [kind]; decide
  | mismatch _ _ kind => rw [kind]; decide
  | status kind => rw [kind]; decide

theorem comparePair_ofPair {state : PaymentState} {row : RemotePayment T} {age grace : T} {finding : Finding T}
    (member : finding ∈ comparePair policy state row age grace) : OfPair state row age finding := by
  obtain ⟨compared, paymentId, providerRef, age⟩ := comparePair_cases member
  exact ⟨compared.kind, paymentId, providerRef, age⟩

/-- One constructor for each finding that the records of one payment id can have. -/
inductive OfId (policy : GatePolicy T) (now : T) (paymentId : Str) (locals : List PaymentState) (remotes : List (RemotePayment T))
    (finding : Finding T) : Prop
  | duplicateLocal (many : 1 < locals.length) (kind : finding.kind = .duplicateLocal) (named : finding.paymentId = some paymentId)
  | duplicateRemote (many : 1 < remotes.length) (kind : finding.kind = .duplicateRemote) (named : finding.paymentId = some paymentId)
  | missingRemotely (absent : remotes = []) (kind : finding.kind = .missingRemotely) (named : finding.paymentId = some paymentId)
  | missingLocally {record} (there : remotes.head? = some record) (kind : finding.kind = .inFlight ∨ finding.kind = .missingLocally)
      (named : finding.paymentId = some paymentId) (ref : finding.providerRef = some record.providerRef)
      (age : finding.ageSeconds = some (now - record.createdAt))
  | pair {state record} (here : locals.head? = some state) (there : remotes.head? = some record)
      (compared : finding ∈ comparePair policy state record (now - record.createdAt) policy.inFlightGraceSeconds)

theorem reconcileId_cases {paymentId : Str} {locals : List PaymentState} {remotes : List (RemotePayment T)} {finding : Finding T}
    (member : finding ∈ reconcileId policy now paymentId locals remotes) : OfId policy now paymentId locals remotes finding := by
  unfold reconcileId at member
  rcases List.mem_append.mp member with duplicates | rest
  · rcases List.mem_append.mp duplicates with local_ | remote
    · split at local_
      next many =>
        rw [List.mem_singleton.mp local_]
        exact .duplicateLocal many rfl rfl
      next => cases local_
    · split at remote
      next many =>
        rw [List.mem_singleton.mp remote]
        exact .duplicateRemote many rfl rfl
      next => cases remote
  · match remotes, locals with
    | [], [] => cases rest
    | [], _ :: _ =>
      rw [List.mem_singleton.mp rest]
      exact .missingRemotely rfl rfl rfl
    | record :: _, [] =>
      rw [List.mem_singleton.mp rest]
      refine .missingLocally rfl ?_ rfl rfl rfl
      change (if _ then _ else _) = _ ∨ (if _ then _ else _) = _
      split
      · exact .inl rfl
      · exact .inr rfl
    | record :: _, state :: _ => exact .pair rfl rfl rest

theorem reconcileId_kind {paymentId : Str} {locals : List PaymentState} {remotes : List (RemotePayment T)} {finding : Finding T}
    (member : finding ∈ reconcileId policy now paymentId locals remotes) :
    finding.kind ∈ eventKinds ∧ ofRow finding = false := by
  have unfiled (other : finding.kind ∉ [.unknownRemoteRow, .currencyMismatch, .feeGrossNet]) : ofRow finding = false := by
    simp [ofRow, other]
  cases reconcileId_cases member with
  | duplicateLocal _ kind => exact ⟨by rw [kind]; decide, unfiled (by rw [kind]; decide)⟩
  | duplicateRemote _ kind => exact ⟨by rw [kind]; decide, unfiled (by rw [kind]; decide)⟩
  | missingRemotely _ kind => exact ⟨by rw [kind]; decide, unfiled (by rw [kind]; decide)⟩
  | missingLocally _ kind => rcases kind with kind | kind <;> exact ⟨by rw [kind]; decide, unfiled (by rw [kind]; decide)⟩
  | pair _ _ compared =>
    have pair := comparePair_ofPair compared
    exact ⟨List.mem_append_right _ pair.kind, ofRow_aged (by rw [pair.age]; rfl)⟩

theorem reconcileId_paymentId {paymentId : Str} {locals : List PaymentState} {remotes : List (RemotePayment T)} {finding : Finding T}
    (own : ∀ state ∈ locals, state.paymentId = paymentId) (member : finding ∈ reconcileId policy now paymentId locals remotes) :
    finding.paymentId = some paymentId := by
  cases reconcileId_cases member with
  | duplicateLocal _ _ named => exact named
  | duplicateRemote _ _ named => exact named
  | missingRemotely _ _ named => exact named
  | missingLocally _ _ named => exact named
  | pair here _ compared => rw [(comparePair_ofPair compared).paymentId, own _ (List.mem_of_head? here)]

theorem reconcileEvents_kind {localById : List (Str × List PaymentState)} {remoteById : List (Str × List (RemotePayment T))}
    {finding : Finding T} (member : finding ∈ reconcileEvents policy localById remoteById now) :
    finding.kind ∈ eventKinds ∧ ofRow finding = false := by
  obtain ⟨paymentId, _, found⟩ := List.mem_flatMap.mp member
  exact reconcileId_kind found

omit [Seconds T] in
theorem Settles.kind {local_ : List PaymentState} {remote : List (RemotePayment T)} {row : SettlementRow} {finding : Finding T}
    {answer : Bool} (settles : Settles rt policy local_ remote row finding answer) :
    finding.kind = .unknownRemoteRow ∨ finding.kind = .currencyMismatch ∨ finding.kind = .feeGrossNet := by
  cases settles with
  | unknown _ kind => exact .inl kind
  | foreign _ _ kind => exact .inr (.inl kind)
  | fee _ _ kind => exact .inr (.inr kind)

omit [Seconds T] in
variable (rt policy) in
theorem settleRow_kind (local_ : List PaymentState) (remote : List (RemotePayment T)) (row : SettlementRow) :
    let finding := (settleRow rt policy (localById local_) (remoteById remote) row).1
    ofRow finding = true ∧ ofAbsence finding = false := by
  intro finding
  have age : finding.ageSeconds = none := (settleRow_ref rt policy row _ _).2
  unfold ofRow ofAbsence
  rw [age]
  rcases (settleRow_settles rt policy local_ remote row).kind with kind | kind | kind <;>
    exact ⟨by rw [kind]; rfl, by rw [kind]; rfl⟩

end Kinds

section Filters

variable (rt policy now) (local_ : List PaymentState) (remote : List (RemotePayment T)) (settlement : List SettlementRow)
  (parked : List (Str × T)) (counters : List (Str × Int))

/-- The references that rows of the file settle. -/
def settledRefs (local_ : List PaymentState) (remote : List (RemotePayment T)) (settlement : List SettlementRow) : List Str :=
  ((settlement.insertionSort fun first second => first.pspReference ≤ second.pspReference).filter fun row =>
    (joined local_ remote row).isSome).map SettlementRow.pspReference

omit [Seconds T] in
theorem mem_settledRefs {ref : Str} :
    ref ∈ settledRefs local_ remote settlement ↔ ∃ row ∈ settlement, row.pspReference = ref ∧ (joined local_ remote row).isSome := by
  unfold settledRefs
  rw [List.mem_map]
  constructor
  · rintro ⟨row, member, same⟩
    obtain ⟨inside, joins⟩ := List.mem_filter.mp member
    exact ⟨row, (List.mem_insertionSort _).mp inside, same, joins⟩
  · rintro ⟨row, inside, same, joins⟩
    exact ⟨row, List.mem_filter.mpr ⟨(List.mem_insertionSort _).mpr inside, joins⟩, same⟩

omit [Seconds T] in
theorem not_mem_settledRefs {ref : Str} :
    ref ∉ settledRefs local_ remote settlement ↔ ∀ row ∈ settlement, row.pspReference = ref → joined local_ remote row = none := by
  rw [mem_settledRefs]
  push Not
  simp only [Option.isSome_iff_ne_none, ne_eq, not_not]

/-- The findings of the payments that are due. -/
def absences : List (Finding T) :=
  ((localById local_).insertionSort fun first second => first.1 ≤ second.1).flatMap fun entry =>
    unsettled policy now (settledRefs local_ remote settlement) entry.1 entry.2 (Group.members (remoteById remote) entry.1)

def rowFindings : List (Finding T) :=
  (settlement.insertionSort fun first second => first.pspReference ≤ second.pspReference).map fun row =>
    (settleRow rt policy (localById local_) (remoteById remote) row).1

theorem reconcileSettlement_eq : reconcileSettlement rt policy (localById local_) (remoteById remote) settlement now =
    rowFindings rt policy local_ remote settlement ++ absences policy now local_ remote settlement := by
  unfold reconcileSettlement absences settledRefs rowFindings
  simp only [settleRow_joined_eq]

theorem mem_report {finding : Finding T} :
    finding ∈ (reconcile rt policy local_ remote settlement parked now counters).findings ↔
      finding ∈ unjoined policy now remote ∨ finding ∈ reconcileEvents policy (localById local_) (remoteById remote) now ∨
        finding ∈ rowFindings rt policy local_ remote settlement ∨ finding ∈ absences policy now local_ remote settlement ∨
        finding ∈ parkedFindings policy now parked := by
  rw [reconcile_findings, reconcileSettlement_eq, List.mem_insertionSort]
  simp only [List.mem_append, or_assoc]

end Filters

section Pairs

/-- The first ledger payment and the first record of one payment id. -/
structure Paired (local_ : List PaymentState) (remote : List (RemotePayment T)) (state : PaymentState)
    (record : RemotePayment T) : Prop where
  here : (Group.members (localById local_) record.paymentId).head? = some state
  there : (Group.members (remoteById remote) record.paymentId).head? = some record

variable {local_ : List PaymentState} {remote : List (RemotePayment T)} {state : PaymentState} {record : RemotePayment T}

omit [Seconds T] in
theorem mem_members_localById {paymentId : Str} :
    state ∈ Group.members (localById local_) paymentId ↔ state ∈ local_ ∧ state.paymentId = paymentId := by
  rw [localById, Library.Group.members_group, List.mem_filter, decide_eq_true_eq]

omit [Seconds T] in
theorem mem_members_remoteById {paymentId : Str} :
    record ∈ Group.members (remoteById remote) paymentId ↔
      record ∈ remote ∧ record.paymentId ≠ [] ∧ record.paymentId = paymentId := by
  rw [remoteById, Library.Group.members_group, List.mem_filter, List.mem_filter, decide_eq_true_eq, decide_eq_true_eq, and_assoc]

omit [Seconds T] in
theorem Paired.of_head {paymentId : Str} (here : (Group.members (localById local_) paymentId).head? = some state)
    (there : (Group.members (remoteById remote) paymentId).head? = some record) :
    Paired local_ remote state record ∧ state.paymentId = paymentId ∧ record.paymentId = paymentId := by
  obtain ⟨_, own⟩ := mem_members_localById.mp (List.mem_of_head? here)
  obtain ⟨_, _, same⟩ := mem_members_remoteById.mp (List.mem_of_head? there)
  subst same
  exact ⟨⟨here, there⟩, own, rfl⟩

omit [Seconds T] in
theorem Paired.local_mem (paired : Paired local_ remote state record) : state ∈ local_ ∧ state.paymentId = record.paymentId :=
  mem_members_localById.mp (List.mem_of_head? paired.here)

omit [Seconds T] in
theorem Paired.remote_mem (paired : Paired local_ remote state record) : record ∈ remote ∧ record.paymentId ≠ [] := by
  obtain ⟨member, joins, _⟩ := mem_members_remoteById.mp (List.mem_of_head? paired.there)
  exact ⟨member, joins⟩

/-- The finding of a captured payment that is due and has no row. -/
def absence (policy : GatePolicy T) (now : T) (state : PaymentState) (record : RemotePayment T) : Finding T :=
  let age := now - record.createdAt
  { drift policy .unsettledPastSla (state.paymentId ++ str " captured " ++ Str.ofInt state.capturedMinor ++ str " " ++
        state.currency ++ str ", " ++ secondsText age ++ str " old and absent from the settlement report") with
    paymentId := some state.paymentId, providerRef := some record.providerRef
    local_ := some [(str "captured_minor", .int state.capturedMinor)], deltaMinor := some state.capturedMinor
    currency := some state.currency, ageSeconds := some age }

theorem mem_unsettled {settled : List Str} {paymentId : Str} {locals : List PaymentState} {remotes : List (RemotePayment T)}
    {finding : Finding T} (own : ∀ state ∈ locals, state.paymentId = paymentId) :
    finding ∈ unsettled policy now settled paymentId locals remotes ↔ ∃ state record, locals.head? = some state ∧
      remotes.head? = some record ∧ 0 < state.capturedMinor ∧ record.providerRef ∉ settled ∧
      policy.settlementSlaSeconds < now - record.createdAt ∧ finding = absence policy now state record := by
  match locals, remotes with
  | [], _ => exact iff_of_false nofun fun ⟨_, _, here, _⟩ => by cases here
  | _ :: _, [] => exact iff_of_false nofun fun ⟨_, _, _, there, _⟩ => by cases there
  | state :: _, record :: _ =>
    have same : state.paymentId = paymentId := own state List.mem_cons_self
    unfold unsettled
    dsimp only
    constructor
    · intro member
      split at member
      · cases member
      next due =>
        obtain ⟨captured, absent, late⟩ := by simpa only [not_or, not_le] using due
        refine ⟨state, record, rfl, rfl, captured, absent, late, ?_⟩
        rw [List.mem_singleton.mp member, ← same]
        rfl
    · rintro ⟨_, _, here, there, captured, absent, late, rfl⟩
      cases here
      cases there
      rw [if_neg (by simpa only [not_or, not_le] using ⟨captured, absent, late⟩), ← same]
      exact List.mem_cons_self

/-- Due are the captured payments whose first record is late and whose reference no row settles. -/
theorem mem_absences {settlement : List SettlementRow} {finding : Finding T} :
    finding ∈ absences policy now local_ remote settlement ↔ ∃ state record, Paired local_ remote state record ∧
      0 < state.capturedMinor ∧ record.providerRef ∉ settledRefs local_ remote settlement ∧
      policy.settlementSlaSeconds < now - record.createdAt ∧ finding = absence policy now state record := by
  have own {paymentId : Str} {locals : List PaymentState} (listed : (paymentId, locals) ∈ localById local_) :
      locals = Group.members (localById local_) paymentId := by
    rw [Library.Group.mem_group _ _ listed, localById, Library.Group.members_group]
  unfold absences
  rw [List.mem_flatMap]
  constructor
  · rintro ⟨⟨paymentId, locals⟩, listed, member⟩
    obtain rfl := own ((List.mem_insertionSort _).mp listed)
    obtain ⟨state, record, here, there, due⟩ := (mem_unsettled fun state member => (mem_members_localById.mp member).2).mp member
    exact ⟨state, record, (Paired.of_head here there).1, due⟩
  · rintro ⟨state, record, paired, due⟩
    obtain ⟨member, same⟩ := paired.local_mem
    obtain ⟨⟨paymentId, locals⟩, listed, key⟩ := List.mem_map.mp ((Library.Group.mem_keys _ _).mpr ⟨state, member, same⟩)
    obtain rfl := own listed
    dsimp only at key
    subst key
    refine ⟨_, (List.mem_insertionSort _).mpr listed, ?_⟩
    exact (mem_unsettled fun state member => (mem_members_localById.mp member).2).mpr ⟨state, record, paired.here, paired.there, due⟩

variable {settlement : List SettlementRow} {parked : List (Str × T)} {counters : List (Str × Int)} {finding : Finding T}

theorem absences_kind (member : finding ∈ absences policy now local_ remote settlement) :
    ofRow finding = false ∧ finding.kind = .unsettledPastSla := by
  obtain ⟨_, _, _, _, _, _, rfl⟩ := mem_absences.mp member
  exact ⟨ofRow_aged rfl, rfl⟩

omit [Seconds T] in
theorem rowFindings_kind (member : finding ∈ rowFindings rt policy local_ remote settlement) :
    finding.ageSeconds = none ∧
      (finding.kind = .unknownRemoteRow ∨ finding.kind = .currencyMismatch ∨ finding.kind = .feeGrossNet) := by
  obtain ⟨row, _, rfl⟩ := List.mem_map.mp member
  exact ⟨(settleRow_ref rt policy row _ _).2, (settleRow_settles rt policy local_ remote row).kind⟩

/-- A kind that comes of no other part of the report comes of the settlement file. -/
theorem mem_report_settlement (elsewhere : finding.kind ∉ eventKinds ++ [.unknownRemoteRow, .parkedStale]) :
    finding ∈ (reconcile rt policy local_ remote settlement parked now counters).findings ↔
      finding ∈ rowFindings rt policy local_ remote settlement ∨ finding ∈ absences policy now local_ remote settlement := by
  rw [mem_report]
  constructor
  · rintro (unjoined | event | filed | absent | waiting)
    case inl => exact absurd (by rw [(unjoined_kind unjoined).2]; decide) elsewhere
    case inr.inl => exact absurd (List.mem_append_left _ (reconcileEvents_kind event).1) elsewhere
    case inr.inr.inl => exact .inl filed
    case inr.inr.inr.inl => exact .inr absent
    case inr.inr.inr.inr =>
      rcases (parkedFindings_kind waiting).2 with kind | kind <;> exact absurd (by rw [kind]; decide) elsewhere
  · rintro (filed | absent)
    · exact .inr (.inr (.inl filed))
    · exact .inr (.inr (.inr (.inl absent)))

/-- Only a payment that is due is reported as unsettled. -/
theorem mem_report_unsettled (kind : finding.kind = .unsettledPastSla) :
    finding ∈ (reconcile rt policy local_ remote settlement parked now counters).findings ↔
      finding ∈ absences policy now local_ remote settlement := by
  rw [mem_report_settlement (by rw [kind]; decide), or_iff_right]
  intro filed
  rcases (rowFindings_kind filed).2 with kind' | kind' | kind' <;> exact absurd (kind'.symm.trans kind) (by decide)

/-- Only a settlement row is reported as a fee. -/
theorem mem_report_fee (kind : finding.kind = .feeGrossNet) :
    finding ∈ (reconcile rt policy local_ remote settlement parked now counters).findings ↔
      finding ∈ rowFindings rt policy local_ remote settlement := by
  rw [mem_report_settlement (by rw [kind]; decide), or_iff_left]
  intro absent
  exact absurd ((absences_kind absent).2.symm.trans kind) (by decide)

end Pairs
end Quidz.Proofs
