import Quidz.Library.Stable
import Quidz.Proofs.Interchange
import Quidz.Proofs.Returns

/-! The order of the provider's list. It decides which record of a payment comes first and
which of several under one reference last, and the order of rows that the sort of the
findings cannot tell apart; where none of these differ, it does not show in the report. -/

namespace Quidz.Proofs

open Library (Group.group Group.members)

variable {T R : Type} [Seconds T]

/-- A record that a settlement row may be joined through. -/
def FiledUnder (row : SettlementRow) (record : RemotePayment T) : Prop :=
  record.paymentId ≠ [] ∧ record.providerRef ≠ [] ∧ record.providerRef = row.pspReference

/-- Nothing that the order of the provider's list decides makes a difference. -/
structure OrderFree (policy : GatePolicy T) (now : T) (local_ : List PaymentState) (remote : List (RemotePayment T))
    (settlement : List SettlementRow) : Prop where
  unnamed : ∀ first ∈ remote, ∀ second ∈ remote, first.paymentId = [] → second.paymentId = [] →
    first.providerRef = second.providerRef →
    amounts first = amounts second ∧ first.currency = second.currency ∧ now - first.createdAt = now - second.createdAt
  doubles : ∀ first ∈ remote, ∀ second ∈ remote, first.paymentId ≠ [] → first.paymentId = second.paymentId →
    Interchangeable policy now (localsOf local_ first.paymentId) first second
  shared : ∀ row ∈ settlement, ∀ first ∈ remote, ∀ second ∈ remote, FiledUnder row first → FiledUnder row second →
    first.paymentId = second.paymentId ∨ localsOf local_ first.paymentId = [] ∧ localsOf local_ second.paymentId = []

/-- The two lists are reported in the same way, and the gate decides the same on them. -/
def SameReport (rt : Runtime T R) (policy : GatePolicy T) (now : T) (local_ : List PaymentState) (settlement : List SettlementRow)
    (parked : List (Str × T)) (counters : List (Str × Int)) (first second : List (RemotePayment T)) : Prop :=
  ∃ report report', tryReconcile rt policy local_ first settlement parked now counters = .ok report ∧
    tryReconcile rt policy local_ second settlement parked now counters = .ok report' ∧
    report.findings = report'.findings ∧ ∀ floatText at_,
      (gate floatText report policy at_).blockedIds = (gate floatText report' policy at_).blockedIds ∧
      (gate floatText report policy at_).outboundBlocked = (gate floatText report' policy at_).outboundBlocked

variable {rt : Runtime T R} {policy : GatePolicy T} {now : T} {local_ : List PaymentState} {remote order : List (RemotePayment T)}
  {settlement : List SettlementRow} {parked : List (Str × T)} {counters : List (Str × Int)}

section References

omit [Seconds T] in
theorem byRef_some {row : SettlementRow} {record : RemotePayment T} (found : byRef (remoteById remote) row.pspReference = some record) :
    record ∈ remote ∧ FiledUnder row record := by
  have holds := List.find?_some found
  have inside := List.mem_reverse.mp (List.mem_of_find?_eq_some found)
  rw [decide_eq_true_eq] at holds
  rw [remoteById, Library.Group.mem_grouped, List.mem_filter, decide_eq_true_eq] at inside
  exact ⟨inside.1, inside.2, holds⟩

omit [Seconds T] in
theorem byRef_none {row : SettlementRow} : byRef (remoteById remote) row.pspReference = none ↔
    ∀ record ∈ remote, ¬FiledUnder row record := by
  unfold byRef
  rw [List.find?_eq_none]
  simp only [List.mem_reverse, remoteById, Library.Group.mem_grouped, List.mem_filter, decide_eq_true_eq, FiledUnder]
  constructor
  · rintro none_ record member ⟨named, holds⟩
    exact none_ record ⟨member, named⟩ holds
  · rintro none_ record ⟨member, named⟩ holds
    exact none_ record member ⟨named, holds⟩

omit [Seconds T] in
theorem head_localById_eq (paymentId : Str) : (Group.members (localById local_) paymentId).head? = (localsOf local_ paymentId).head? := by
  rw [localById, members_locals]

omit [Seconds T] in
theorem settleRow_congr {row : SettlementRow} (same : joined local_ order row = joined local_ remote row) :
    settleRow rt policy (localById local_) (remoteById order) row = settleRow rt policy (localById local_) (remoteById remote) row := by
  have heads (remote : List (RemotePayment T)) : joined local_ remote row =
      ((byRef (remoteById remote) row.pspReference).map fun record =>
        Group.members (localById local_) record.paymentId).bind List.head? := by
    rw [joined, Option.bind_map]
    rfl
  rw [heads, heads] at same
  unfold settleRow
  generalize (byRef (remoteById order) row.pspReference).map _ = left at same ⊢
  generalize (byRef (remoteById remote) row.pspReference).map _ = right at same ⊢
  rcases left with _ | _ | ⟨state, _⟩ <;> rcases right with _ | _ | ⟨state', _⟩
  case some.cons.some.cons =>
    obtain rfl : state = state' := by simpa using same
    rfl
  all_goals first | rfl | cases same

end References

section Keys

theorem sortedSet_congr {ids ids' : List Str} (same : ∀ id, id ∈ ids ↔ id ∈ ids') : sortedSet ids = sortedSet ids' := by
  have perm : ids.dedup.Perm ids'.dedup := by
    rw [List.perm_ext_iff_of_nodup (List.nodup_dedup _) (List.nodup_dedup _)]
    simpa only [List.mem_dedup] using same
  have sorted := Library.Stable.insertionSort_perm le_total (fun _ _ _ => le_trans) perm
    (fun _ _ _ _ low high => le_antisymm low high) []
  rwa [List.append_nil, List.append_nil] at sorted

omit [Seconds T] in
theorem before_total (first second : Finding T) : Finding.before first second ∨ Finding.before second first := by
  unfold Finding.before
  rcases lt_trichotomy first.severity.order second.severity.order with lower | level | higher
  · exact .inr (.inl lower)
  · exact (le_total _ _).imp (fun low => .inr ⟨level, low⟩) fun low => .inr ⟨level.symm, low⟩
  · exact .inl (.inl higher)

omit [Seconds T] in
theorem before_trans (first second third : Finding T) (ordered : Finding.before first second)
    (ordered' : Finding.before second third) : Finding.before first third := by
  unfold Finding.before at *
  rcases ordered with higher | ⟨level, low⟩ <;> rcases ordered' with higher' | ⟨level', low'⟩
  · exact .inl (higher'.trans higher)
  · exact .inl (level' ▸ higher)
  · exact .inl (level ▸ higher')
  · exact .inr ⟨level.trans level', low.trans low'⟩

omit [Seconds T] in
/-- Findings that the sort cannot tell apart have the same kind, id and reference. -/
theorem before_tied {first second : Finding T} (ordered : Finding.before first second) (back : Finding.before second first) :
    first.kind.value = second.kind.value ∧ first.paymentId.getD [] = second.paymentId.getD [] ∧
      first.providerRef.getD [] = second.providerRef.getD [] := by
  unfold Finding.before at *
  have key : [first.kind.value, first.paymentId.getD [], first.providerRef.getD []] =
      [second.kind.value, second.paymentId.getD [], second.providerRef.getD []] := by
    rcases ordered with higher | ⟨_, low⟩ <;> rcases back with higher' | ⟨_, low'⟩
    · omega
    · omega
    · omega
    · exact le_antisymm low low'
  simpa using key

end Keys

section Permuted

omit [Seconds T] in
theorem mem_localsOf {state : PaymentState} {paymentId : Str} :
    state ∈ localsOf local_ paymentId ↔ state ∈ local_ ∧ state.paymentId = paymentId := by
  rw [localsOf, List.mem_filter, decide_eq_true_eq]

omit [Seconds T] in
theorem members_perm (perm : order.Perm remote) (paymentId : Str) :
    (Group.members (remoteById order) paymentId).Perm (Group.members (remoteById remote) paymentId) := by
  rw [remoteById, remoteById, Library.Group.members_group, Library.Group.members_group]
  exact (perm.filter _).filter _

variable (perm : order.Perm remote) (free : OrderFree policy now local_ remote settlement)
include perm free

theorem OrderFree.joined_eq {row : SettlementRow} (filed : row ∈ settlement) : joined local_ order row = joined local_ remote row := by
  unfold joined
  cases found : byRef (remoteById order) row.pspReference with
  | none =>
    rw [byRef_none] at found
    rw [byRef_none.mpr fun record member => found record (perm.mem_iff.mpr member)]
  | some first =>
    obtain ⟨member, under⟩ := byRef_some found
    cases found' : byRef (remoteById remote) row.pspReference with
    | none => exact absurd under (byRef_none.mp found' first (perm.mem_iff.mp member))
    | some second =>
      obtain ⟨member', under'⟩ := byRef_some found'
      rw [Option.bind_some, Option.bind_some, head_localById_eq, head_localById_eq]
      rcases free.shared row filed first (perm.mem_iff.mp member) second member' under under' with same | ⟨none_, none_'⟩
      · rw [same]
      · rw [none_, none_']

/-- The first records of a payment in the two orders. -/
theorem OrderFree.heads (paymentId : Str) :
    Group.members (remoteById order) paymentId = [] ∧ Group.members (remoteById remote) paymentId = [] ∨
      ∃ first rest second rest', Group.members (remoteById order) paymentId = first :: rest ∧
        Group.members (remoteById remote) paymentId = second :: rest' ∧ rest.length = rest'.length ∧
        Interchangeable policy now (localsOf local_ paymentId) first second := by
  have same := members_perm perm paymentId
  cases one : Group.members (remoteById order) paymentId with
  | nil =>
    rw [one] at same
    exact .inl ⟨rfl, List.nil_perm.mp same⟩
  | cons first rest =>
    cases two : Group.members (remoteById remote) paymentId with
    | nil =>
      rw [one, two] at same
      exact absurd same.length_eq (by simp)
    | cons second rest' =>
      have long := same.length_eq
      rw [one, two] at long
      have inside : first ∈ Group.members (remoteById order) paymentId := by rw [one]; exact List.mem_cons_self
      have inside' : second ∈ Group.members (remoteById remote) paymentId := by rw [two]; exact List.mem_cons_self
      obtain ⟨member, named, rfl⟩ := mem_members_remoteById.mp inside
      obtain ⟨member', _, own⟩ := mem_members_remoteById.mp inside'
      exact .inr ⟨first, rest, second, rest', rfl, rfl, Nat.succ.inj long,
        free.doubles first (perm.mem_iff.mp member) second member' named own.symm⟩

theorem OrderFree.reconcileEvents_eq : reconcileEvents policy (localById local_) (remoteById order) now =
    reconcileEvents policy (localById local_) (remoteById remote) now := by
  unfold reconcileEvents
  have keys : sortedSet ((localById local_).map Prod.fst ++ (remoteById order).map Prod.fst) =
      sortedSet ((localById local_).map Prod.fst ++ (remoteById remote).map Prod.fst) := by
    refine sortedSet_congr fun id => ?_
    rw [List.mem_append, List.mem_append, remoteById, remoteById, Library.Group.mem_keys, Library.Group.mem_keys]
    simp only [List.mem_filter, perm.mem_iff]
  rw [keys]
  refine List.flatMap_congr fun paymentId _ => ?_
  rcases free.heads perm paymentId with ⟨none_, none_'⟩ | ⟨first, rest, second, rest', one, two, long, same⟩
  · rw [none_, none_']
  · rw [one, two, localById, members_locals]
    exact reconcileId_congr same paymentId long

theorem OrderFree.rowFindings_eq : rowFindings rt policy local_ order settlement = rowFindings rt policy local_ remote settlement := by
  unfold rowFindings
  refine List.map_congr_left fun row filed => ?_
  rw [settleRow_congr (free.joined_eq perm ((List.mem_insertionSort _).mp filed))]

theorem OrderFree.absences_eq : absences policy now local_ order settlement = absences policy now local_ remote settlement := by
  have settled : settledRefs local_ order settlement = settledRefs local_ remote settlement := by
    unfold settledRefs
    refine congrArg (List.map _) (List.filter_congr fun row filed => ?_)
    rw [free.joined_eq perm ((List.mem_insertionSort _).mp filed)]
  unfold absences
  rw [settled]
  refine List.flatMap_congr fun entry _ => ?_
  rcases free.heads perm entry.1 with ⟨none_, none_'⟩ | ⟨first, rest, second, rest', one, two, _, same⟩
  · rw [none_, none_']
  · rw [one, two]
    unfold unsettled
    cases entry.2 with
    | nil => rfl
    | cons state _ =>
      dsimp only
      rw [same.age, same.providerRef]

theorem OrderFree.returns (returns : Returns policy now local_ remote settlement) : Returns policy now local_ order settlement := by
  have paired {state : PaymentState} {record : RemotePayment T} (paired : Paired local_ order state record) :
      ∃ other, Paired local_ remote state other ∧ state ∈ localsOf local_ record.paymentId ∧
        Interchangeable policy now (localsOf local_ record.paymentId) record other := by
    rcases free.heads perm record.paymentId with ⟨none_, _⟩ | ⟨first, rest, second, rest', one, two, _, same⟩
    · have there := paired.there
      rw [none_] at there
      cases there
    · have there := paired.there
      rw [one] at there
      cases there
      obtain ⟨paired', _⟩ := Paired.of_head paired.here (congrArg List.head? two)
      exact ⟨second, paired', mem_localsOf.mpr paired.local_mem, same⟩
  refine ⟨fun state record pair currency old => ?_, fun row filed state found => ?_, fun state record pair captured late absent => ?_⟩
  · obtain ⟨other, pair', inside, same⟩ := paired pair
    obtain ⟨authorized, capture, refunded⟩ := by simpa only [amounts, Prod.mk.injEq] using (same.old state inside currency old).1
    rw [netDifference, capture, refunded]
    exact returns.mismatches state other pair' (currency.trans same.currency) (same.age ▸ old)
  · rw [free.joined_eq perm filed] at found
    exact returns.fees row filed state found
  · obtain ⟨other, pair', _, same⟩ := paired pair
    refine returns.absences state other pair' captured (same.age ▸ late) fun row filed ref => ?_
    rw [← free.joined_eq perm filed]
    exact absent row filed (ref.trans same.providerRef.symm)

/-- The report is the same in any order of the list. -/
theorem OrderFree.findings_eq : (reconcile rt policy local_ order settlement parked now counters).findings =
    (reconcile rt policy local_ remote settlement parked now counters).findings := by
  rw [reconcile_findings, reconcile_findings, reconcileSettlement_eq, reconcileSettlement_eq, free.reconcileEvents_eq perm,
    free.rowFindings_eq perm, free.absences_eq perm]
  simp only [List.append_assoc]
  refine Library.Stable.insertionSort_perm before_total before_trans ((perm.filter _).map _) (fun x inside y inside' ordered back => ?_) _
  obtain ⟨first, listed, rfl⟩ := List.mem_map.mp inside
  obtain ⟨second, listed', rfl⟩ := List.mem_map.mp inside'
  obtain ⟨member, unnamed⟩ := List.mem_filter.mp listed
  obtain ⟨member', unnamed'⟩ := List.mem_filter.mp listed'
  obtain ⟨_, _, ref⟩ := before_tied ordered back
  have ref : first.providerRef = second.providerRef := ref
  obtain ⟨amount, currency, age⟩ := free.unnamed first (perm.mem_iff.mp member) second (perm.mem_iff.mp member')
    (of_decide_eq_true unnamed) (of_decide_eq_true unnamed') ref
  obtain ⟨authorized, captured, refunded⟩ := by simpa only [amounts, Prod.mk.injEq] using amount
  unfold unnamedFinding
  rw [ref, currency, age, authorized, captured, refunded]

end Permuted

section Told

omit [Seconds T] in
theorem exists_front {record : RemotePayment T} (member : record ∈ remote) : ∃ rest, (record :: rest).Perm remote := by
  obtain ⟨front, back, rfl⟩ := List.append_of_mem member
  exact ⟨front ++ back, List.perm_middle.symm⟩

/-- The report of the event findings of one payment id. -/
theorem mem_report_event {paymentId : Str} {finding : Finding T} (event : OfEvent paymentId finding)
    (key : ∃ record ∈ remote, record.paymentId ≠ [] ∧ record.paymentId = paymentId) :
    finding ∈ (reconcile rt policy local_ remote settlement parked now counters).findings ↔
      finding ∈ reconcileId policy now paymentId (localsOf local_ paymentId) (Group.members (remoteById remote) paymentId) := by
  have own (paymentId : Str) : ∀ state ∈ localsOf local_ paymentId, state.paymentId = paymentId :=
    fun state member => (mem_localsOf.mp member).2
  rw [mem_report]
  constructor
  · rintro (unjoined | found | filed | absent | waiting)
    case inl => exact absurd ((unjoined_kind unjoined).2 ▸ event.kind) (by decide)
    case inr.inl =>
      obtain ⟨other, _, member⟩ := List.mem_flatMap.mp found
      rw [localById, members_locals] at member
      have same : paymentId = other := Option.some.inj (event.paymentId.symm.trans (reconcileId_paymentId (own other) member))
      exact same ▸ member
    case inr.inr.inl =>
      have age := event.age
      rw [(rowFindings_kind filed).1] at age
      cases age
    case inr.inr.inr.inl => exact absurd ((absences_kind absent).2 ▸ event.kind) (by decide)
    case inr.inr.inr.inr =>
      obtain ⟨_, _, rfl⟩ := List.mem_map.mp waiting
      cases event.providerRef
  · intro member
    refine .inr (.inl (List.mem_flatMap.mpr ⟨paymentId, mem_sortedSet.mpr (List.mem_append_right _ ?_), ?_⟩))
    · obtain ⟨record, listed, named, same⟩ := key
      exact (Library.Group.mem_keys _ _).mpr ⟨record, List.mem_filter.mpr ⟨listed, decide_eq_true named⟩, same⟩
    · rwa [localById, members_locals]

/-- The finding is that of a record without a payment id, under this reference. -/
def ofUnnamed (policy : GatePolicy T) (ref : Str) (finding : Finding T) : Bool :=
  decide (finding.kind = .unknownRemoteRow) && decide (finding.paymentId = none) && decide (finding.providerRef = some ref) &&
    decide (finding.severity = (policy.severityOverrides.lookup .unknownRemoteRow).getD (defaultSeverity .unknownRemoteRow)) &&
    finding.ageSeconds.isSome

omit [Seconds T] in
theorem ofUnnamed_iff {ref : Str} {finding : Finding T} : ofUnnamed policy ref finding = true ↔
    finding.kind = .unknownRemoteRow ∧ finding.paymentId = none ∧ finding.providerRef = some ref ∧
      finding.severity = (policy.severityOverrides.lookup .unknownRemoteRow).getD (defaultSeverity .unknownRemoteRow) ∧
      finding.ageSeconds.isSome := by
  simp only [ofUnnamed, Bool.and_eq_true, decide_eq_true_eq, and_assoc]

/-- The records without a payment id, under one reference, are reported in their order. -/
theorem report_unnamed (ref : Str) :
    ((reconcile rt policy local_ remote settlement parked now counters).findings.filter (ofUnnamed policy ref)) =
    (remote.filter fun row => row.paymentId = [] ∧ row.providerRef = ref).map (unnamedFinding policy now) := by
  have tied (first second : Finding T) (inside : ofUnnamed policy ref first) (inside' : ofUnnamed policy ref second) :
      Finding.before first second := by
    obtain ⟨kind, paymentId, providerRef, severity, _⟩ := ofUnnamed_iff.mp inside
    obtain ⟨kind', paymentId', providerRef', severity', _⟩ := ofUnnamed_iff.mp inside'
    exact .inr ⟨by rw [severity, severity'], le_of_eq (by rw [kind, kind', paymentId, paymentId', providerRef, providerRef'])⟩
  have none_ {findings : List (Finding T)} (other : ∀ finding ∈ findings, ofUnnamed policy ref finding ≠ true) :
      findings.filter (ofUnnamed policy ref) = [] := List.filter_eq_nil_iff.mpr other
  have events : ∀ finding ∈ reconcileEvents policy (localById local_) (remoteById remote) now, ofUnnamed policy ref finding ≠ true := by
    intro finding member inside
    exact absurd ((ofUnnamed_iff.mp inside).1 ▸ (reconcileEvents_kind member).1) (by decide)
  have rows : ∀ finding ∈ rowFindings rt policy local_ remote settlement, ofUnnamed policy ref finding ≠ true := by
    intro finding member inside
    obtain ⟨_, _, _, _, age⟩ := ofUnnamed_iff.mp inside
    rw [(rowFindings_kind member).1] at age
    cases age
  have absent : ∀ finding ∈ absences policy now local_ remote settlement, ofUnnamed policy ref finding ≠ true := by
    intro finding member inside
    exact absurd ((absences_kind member).2.symm.trans (ofUnnamed_iff.mp inside).1) (by decide)
  have waiting : ∀ finding ∈ parkedFindings policy now parked, ofUnnamed policy ref finding ≠ true := by
    intro finding member inside
    obtain ⟨_, _, rfl⟩ := List.mem_map.mp member
    cases (ofUnnamed_iff.mp inside).2.1
  have own (row : RemotePayment T) : ofUnnamed policy ref (unnamedFinding policy now row) = decide (row.providerRef = ref) := by
    rw [Bool.eq_iff_iff, ofUnnamed_iff, decide_eq_true_eq]
    exact ⟨fun ⟨_, _, same, _⟩ => Option.some.inj same, fun same => ⟨rfl, rfl, congrArg some same, rfl, rfl⟩⟩
  rw [reconcile_findings, reconcileSettlement_eq, Library.Stable.filter_insertionSort tied]
  simp only [List.filter_append, none_ events, none_ rows, none_ absent, none_ waiting, List.append_nil]
  rw [unjoined, List.filter_map, List.filter_filter]
  congr 1
  refine List.filter_congr fun row _ => ?_
  rw [Function.comp, own, ← Bool.decide_and]
  exact decide_eq_decide.mpr and_comm

omit [Seconds T] in
theorem localsOf_single (ids : (local_.map PaymentState.paymentId).Nodup) (paymentId : Str) : (localsOf local_ paymentId).length ≤ 1 := by
  have distinct : ((localsOf local_ paymentId).map PaymentState.paymentId).Nodup := ids.sublist (List.filter_sublist.map _)
  match found : localsOf local_ paymentId with
  | [] => exact Nat.zero_le _
  | [_] => exact le_rfl
  | first :: second :: rest =>
    have own : first.paymentId = paymentId := (mem_localsOf.mp (by rw [found]; exact List.mem_cons_self)).2
    have own' : second.paymentId = paymentId := (mem_localsOf.mp (by rw [found]; exact List.mem_cons_of_mem _ List.mem_cons_self)).2
    rw [found] at distinct
    simp [own, own'] at distinct

/-- The list with the records of one payment behind all others. -/
def behind (paymentId : Str) (remote : List (RemotePayment T)) : List (RemotePayment T) :=
  (remote.filter fun row => ¬row.paymentId = paymentId) ++ remotesOf remote paymentId

omit [Seconds T] in
theorem behind_perm (paymentId : Str) (remote : List (RemotePayment T)) : (behind paymentId remote).Perm remote := by
  refine List.perm_append_comm.trans ?_
  simpa only [remotesOf, decide_not] using List.filter_append_perm (fun row : RemotePayment T => decide (row.paymentId = paymentId)) remote

omit [Seconds T] in
theorem remoteById_behind {paymentId : Str} (named : paymentId ≠ []) (listed : remotesOf remote paymentId ≠ []) :
    remoteById (behind paymentId remote) =
      remoteById (remote.filter fun row => ¬row.paymentId = paymentId) ++ [(paymentId, remotesOf remote paymentId)] := by
  have own : ∀ row ∈ remotesOf remote paymentId, row.paymentId = paymentId := fun row member => by
    simpa using (List.mem_filter.mp member).2
  have all : (remotesOf remote paymentId).filter (fun row => row.paymentId ≠ []) = remotesOf remote paymentId :=
    List.filter_eq_self.mpr fun row member => decide_eq_true (own row member ▸ named)
  rw [remoteById, remoteById, behind, List.filter_append, all]
  refine Library.Group.group_append_fresh _ (fun row member => ?_) own listed
  simpa using (List.mem_filter.mp (List.mem_filter.mp member).1).2

omit [Seconds T] in
/-- With its group last, a record's reference leads to its payment. -/
theorem joined_behind {row : SettlementRow} {record : RemotePayment T} (member : record ∈ remote) (under : FiledUnder row record) :
    joined local_ (behind record.paymentId remote) row = (localsOf local_ record.paymentId).head? := by
  have inside : record ∈ remotesOf remote record.paymentId := List.mem_filter.mpr ⟨member, decide_eq_true rfl⟩
  have found : ((remotesOf remote record.paymentId).reverse.find? fun other =>
      other.providerRef ≠ [] ∧ other.providerRef = row.pspReference).isSome := by
    rw [List.find?_isSome]
    exact ⟨record, List.mem_reverse.mpr inside, decide_eq_true under.2⟩
  obtain ⟨last, found⟩ := Option.isSome_iff_exists.mp found
  have own : last.paymentId = record.paymentId := by
    simpa using (List.mem_filter.mp (List.mem_reverse.mp (List.mem_of_find?_eq_some found))).2
  unfold joined byRef
  rw [remoteById_behind under.1 (List.ne_nil_of_mem inside), List.flatMap_append, List.reverse_append, List.find?_append,
    List.flatMap_singleton, found, Option.some_or, Option.bind_some, own, head_localById_eq]

/-- A row is told of alike where the reports are alike. -/
theorem settleRow_told (refs : (settlement.map SettlementRow.pspReference).Nodup) {row : SettlementRow} (filed : row ∈ settlement)
    (same : (reconcile rt policy local_ order settlement parked now counters).findings =
      (reconcile rt policy local_ remote settlement parked now counters).findings) :
    (settleRow rt policy (localById local_) (remoteById order) row).1 =
      (settleRow rt policy (localById local_) (remoteById remote) row).1 := by
  have told : (settleRow rt policy (localById local_) (remoteById order) row).1 ∈
      (reconcile rt policy local_ remote settlement parked now counters).findings := by
    rw [← same]
    exact (mem_report ..).mpr (.inr (.inr (.inl (List.mem_map.mpr ⟨row, (List.mem_insertionSort _).mpr filed, rfl⟩))))
  have own := (settleRow_kind rt policy local_ order row).1
  rcases (mem_report ..).mp told with unjoined | event | found | absent | waiting
  case inl => rw [(unjoined_kind unjoined).1] at own; cases own
  case inr.inl => rw [(reconcileEvents_kind event).2] at own; cases own
  case inr.inr.inl =>
    obtain ⟨other, listed, same⟩ := List.mem_map.mp found
    have ref := congrArg Finding.providerRef same
    rw [(settleRow_ref rt policy other _ _).1, (settleRow_ref rt policy row _ _).1, Option.some.injEq] at ref
    rw [List.inj_on_of_nodup_map refs ((List.mem_insertionSort _).mp listed) filed ref] at same
    exact same.symm
  case inr.inr.inr.inl => rw [(absences_kind absent).1] at own; cases own
  case inr.inr.inr.inr => rw [(parkedFindings_kind waiting).1] at own; cases own

end Told

section Necessary
variable (ids : (local_.map PaymentState.paymentId).Nodup) (refs : (settlement.map SettlementRow.pspReference).Nodup)
  (same : ∀ first second, first.Perm remote → second.Perm remote →
    (reconcile rt policy local_ first settlement parked now counters).findings =
      (reconcile rt policy local_ second settlement parked now counters).findings)
include same

theorem unnamed_alike {first second : RemotePayment T} (member : first ∈ remote) (member' : second ∈ remote)
    (unnamed : first.paymentId = []) (unnamed' : second.paymentId = []) (ref : first.providerRef = second.providerRef) :
    amounts first = amounts second ∧ first.currency = second.currency ∧ now - first.createdAt = now - second.createdAt := by
  obtain ⟨rest, front⟩ := exists_front member
  obtain ⟨rest', front'⟩ := exists_front member'
  have told := congrArg (List.filter (ofUnnamed policy first.providerRef)) (same _ _ front front')
  rw [report_unnamed, report_unnamed, List.filter_cons, List.filter_cons, if_pos (decide_eq_true ⟨unnamed, rfl⟩),
    if_pos (decide_eq_true ⟨unnamed', ref.symm⟩), List.map_cons, List.map_cons] at told
  have finding := (List.cons.inj told).1
  have remote := Option.some.inj (congrArg Finding.remote finding)
  refine ⟨?_, Option.some.inj (congrArg Finding.currency finding), Option.some.inj (congrArg Finding.ageSeconds finding)⟩
  simpa [unnamedFinding, vector, amounts] using remote

include ids in
theorem doubles_alike {first second : RemotePayment T} (member : first ∈ remote) (member' : second ∈ remote)
    (named : first.paymentId ≠ []) (own : first.paymentId = second.paymentId) :
    Interchangeable policy now (localsOf local_ first.paymentId) first second := by
  by_cases alike : first = second
  · subst alike
    exact .refl _
  have front {record other : RemotePayment T} (apart : other ≠ record) (listed : other ∈ remote) {rest : List (RemotePayment T)}
      (perm : (record :: rest).Perm remote) (key : record.paymentId = first.paymentId) (key' : other.paymentId = first.paymentId) :
      ∃ several ≠ [], Group.members (remoteById (record :: rest)) first.paymentId = record :: several := by
    have inside : other ∈ rest := (List.mem_cons.mp (perm.mem_iff.mpr listed)).resolve_left apart
    refine ⟨remotesOf rest first.paymentId, List.ne_nil_of_mem (List.mem_filter.mpr ⟨inside, decide_eq_true key'⟩), ?_⟩
    rw [remoteById, members_remotes _ _ named, remotesOf, List.filter_cons, if_pos (decide_eq_true key), remotesOf]
  obtain ⟨rest, perm⟩ := exists_front member
  obtain ⟨rest', perm'⟩ := exists_front member'
  obtain ⟨several, some_, one⟩ := front (Ne.symm alike) member' perm rfl own.symm
  obtain ⟨several', some_', two⟩ := front alike member perm' own.symm rfl
  refine interchangeable_of_told (localsOf_single ids _) (fun state listed => (mem_localsOf.mp listed).2) some_ some_'
    fun finding event => ?_
  rw [← one, ← two, ← mem_report_event event ⟨first, perm.mem_iff.mpr member, named, rfl⟩,
    ← mem_report_event event ⟨first, perm'.mem_iff.mpr member, named, rfl⟩, same _ _ perm perm']

include refs in
theorem shared_alike {row : SettlementRow} (filed : row ∈ settlement) {first second : RemotePayment T} (member : first ∈ remote)
    (member' : second ∈ remote) (under : FiledUnder row first) (under' : FiledUnder row second) :
    first.paymentId = second.paymentId ∨ localsOf local_ first.paymentId = [] ∧ localsOf local_ second.paymentId = [] := by
  have told := settleRow_told refs filed (same _ _ (behind_perm first.paymentId remote) (behind_perm second.paymentId remote))
  have named := congrArg Finding.paymentId told
  rw [settleRow_paymentId, settleRow_paymentId, joined_behind member under, joined_behind member' under'] at named
  cases found : localsOf local_ first.paymentId with
  | nil =>
    cases found' : localsOf local_ second.paymentId with
    | nil => exact .inr ⟨rfl, rfl⟩
    | cons => rw [found, found'] at named; cases named
  | cons state =>
    cases found' : localsOf local_ second.paymentId with
    | nil => rw [found, found'] at named; cases named
    | cons state' =>
      rw [found, found'] at named
      have own : state.paymentId = first.paymentId := (mem_localsOf.mp (by rw [found]; exact List.mem_cons_self)).2
      have own' : state'.paymentId = second.paymentId := (mem_localsOf.mp (by rw [found']; exact List.mem_cons_self)).2
      exact .inl (own.symm.trans ((Option.some.inj named).trans own'))

end Necessary

/-- The gate looks at nothing of the report but its findings. -/
theorem gate_congr {report report' : ExceptionReport T} (same : report.findings = report'.findings) (floatText : T → Str)
    (at_ : T) : gate floatText report policy at_ = gate floatText report' policy at_ := by
  cases report
  cases report'
  cases same
  rfl

/-- With one ledger payment for each id and one row for each reference, the report and the
gate do not depend on the order of the provider's list if and only if reconciliation returns
and nothing that the order decides makes a difference. -/
theorem report_order_iff (rt : Runtime T R) (policy : GatePolicy T) (now : T) (local_ : List PaymentState)
    (ids : (local_.map PaymentState.paymentId).Nodup) (remote : List (RemotePayment T)) (settlement : List SettlementRow)
    (refs : (settlement.map SettlementRow.pspReference).Nodup) (parked : List (Str × T)) (counters : List (Str × Int)) :
    (∀ first second, first.Perm remote → second.Perm remote →
      SameReport rt policy now local_ settlement parked counters first second) ↔
    Returns policy now local_ remote settlement ∧ OrderFree policy now local_ remote settlement := by
  constructor
  · intro alike
    have same (first second : List (RemotePayment T)) (perm : first.Perm remote) (perm' : second.Perm remote) :
        (reconcile rt.binary64 policy local_ first settlement parked now counters).findings =
          (reconcile rt.binary64 policy local_ second settlement parked now counters).findings := by
      obtain ⟨report, report', returned, returned', findings, _⟩ := alike first second perm perm'
      rw [(tryReconcile_ok.mp returned).2, (tryReconcile_ok.mp returned').2, findings]
    obtain ⟨report, _, returned, _⟩ := alike remote remote (.refl _) (.refl _)
    refine ⟨(tryReconcile_ok.mp returned).1, ⟨?_, ?_, ?_⟩⟩
    · exact fun first member second member' unnamed unnamed' ref => unnamed_alike same member member' unnamed unnamed' ref
    · exact fun first member second member' named own => doubles_alike ids same member member' named own
    · exact fun row filed first member second member' under under' => shared_alike refs same filed member member' under under'
  · rintro ⟨returns, free⟩ first second perm perm'
    have findings : (reconcile rt.binary64 policy local_ first settlement parked now counters).findings =
        (reconcile rt.binary64 policy local_ second settlement parked now counters).findings :=
      (free.findings_eq perm).trans (free.findings_eq perm').symm
    refine ⟨_, _, tryReconcile_ok.mpr ⟨free.returns perm returns, rfl⟩, tryReconcile_ok.mpr ⟨free.returns perm' returns, rfl⟩,
      findings, fun floatText at_ => ?_⟩
    rw [gate_congr findings floatText at_]
    exact ⟨rfl, rfl⟩

/-- A second record of the captured payment, of less than the ledger holds. -/
def partialRow : RemotePayment Int := { capturedRow with capturedMinor := 400, status := str "partially_captured" }

/-- The payment agrees with one of its records and not with the other. -/
theorem disagreeing_records_reorder : ¬∀ first second, first.Perm [capturedRow, partialRow] → second.Perm [capturedRow, partialRow] →
    SameReport (.recorded [] []) standardGate 7200 [capturedState] [] [] [] first second := by
  intro alike
  obtain ⟨report, report', returned, returned', findings, _⟩ :=
    alike [capturedRow, partialRow] [partialRow, capturedRow] (.refl _) (.swap _ _ _)
  rw [← (tryReconcile_ok.mp returned).2, ← (tryReconcile_ok.mp returned').2] at findings
  exact absurd (congrArg List.length findings) (by decide +kernel)

/-- A record of a payment that the ledger does not hold. -/
def strangerRow : RemotePayment Int := { capturedRow with paymentId := str "pi_2", providerRef := str "ch_2" }

theorem stranger_orderFree : OrderFree standardGate 7200 [capturedState] [capturedRow, strangerRow] [feeRow 1000 950] where
  unnamed first member _ _ unnamed := by
    rcases List.mem_pair.mp member with rfl | rfl <;> exact absurd unnamed (by decide)
  doubles first member second member' _ own := by
    rcases List.mem_pair.mp member with rfl | rfl <;> rcases List.mem_pair.mp member' with rfl | rfl
    · exact .refl _
    · exact absurd own (by decide)
    · exact absurd own (by decide)
    · exact .refl _
  shared row filed first member second member' under under' := by
    obtain rfl := List.mem_singleton.mp filed
    have own {record : RemotePayment Int} (member : record ∈ [capturedRow, strangerRow]) (under : FiledUnder (feeRow 1000 950) record) :
        record = capturedRow := by
      rcases List.mem_pair.mp member with rfl | rfl
      · rfl
      · exact absurd under.2.2 (by decide)
    exact .inl (by rw [own member under, own member' under'])

theorem stranger_returns : Returns standardGate 7200 [capturedState] [capturedRow, strangerRow] [feeRow 1000 950] := by
  refine captured_returns (fun state record paired => ?_) rfl
  obtain ⟨member, own⟩ := paired.local_mem
  obtain rfl := List.mem_singleton.mp member
  refine ⟨rfl, ?_⟩
  rcases List.mem_pair.mp paired.remote_mem.1 with rfl | rfl
  · rfl
  · exact absurd own (by decide)

theorem report_order_iff_stranger : ([capturedState].map PaymentState.paymentId).Nodup ∧
    ([feeRow 1000 950].map SettlementRow.pspReference).Nodup ∧ ∀ first second,
      first.Perm [capturedRow, strangerRow] → second.Perm [capturedRow, strangerRow] →
      SameReport (.recorded [] []) standardGate 7200 [capturedState] [feeRow 1000 950] [] [] first second := by
  have ids : ([capturedState].map PaymentState.paymentId).Nodup := List.nodup_singleton _
  have refs : ([feeRow 1000 950].map SettlementRow.pspReference).Nodup := List.nodup_singleton _
  exact ⟨ids, refs, (report_order_iff (.recorded [] []) standardGate 7200 _ ids _ _ refs [] []).mpr ⟨stranger_returns, stranger_orderFree⟩⟩

end Quidz.Proofs
