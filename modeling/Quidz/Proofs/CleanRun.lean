import Quidz.Proofs.Agreement
import Quidz.Proofs.Bookings

/-! A demo without breaks, from the simulator's book to the gate. What the ledger holds, what
the provider lists and what the file settles agree, and so no outbound payment is blocked. -/

namespace Quidz.Proofs

open Library (Group.group Group.members Table)
open Sim (Booked Simulator Kit)

variable {T R G : Type} {staged : Sim.Staged T}

section Ledger
variable {db : Db T}

/-- The tables have the payments of the book as they were booked, and no others. -/
structure Holds (staged : Sim.Staged T) (db : Db T) : Prop where
  held : ∀ booked ∈ staged.book, ∃ state, (db.payments.find? booked.paymentId).map rowToState = some state ∧
    Stands booked (capturedOf booked) (failedOf booked) booked.refunded 10 70 state
  absent : ∀ id ∉ staged.book.map Booked.paymentId, db.payments.find? id = none

theorem mem_listPayments {state : PaymentState} :
    state ∈ listPayments db ↔ (db.payments.find? state.paymentId).map rowToState = some state := by
  unfold listPayments
  rw [List.mem_map, Option.map_eq_some_iff]
  constructor
  · rintro ⟨row, member, rfl⟩
    exact ⟨row, Table.find?_of_mem ((List.mem_insertionSort _).mp member), rfl⟩
  · rintro ⟨row, found, same⟩
    exact ⟨row, (List.mem_insertionSort _).mpr (Table.find?_eq_some.mp found).1, same⟩

theorem listPayments_distinct (db : Db T) : ((listPayments db).map PaymentState.paymentId).Nodup := by
  unfold listPayments
  rw [List.map_map]
  exact ((List.perm_insertionSort _ _).map _).nodup_iff.mpr db.payments.unique

theorem Holds.listed (holds : Holds staged db) {state : PaymentState} (member : state ∈ listPayments db) :
    ∃ booked ∈ staged.book, Stands booked (capturedOf booked) (failedOf booked) booked.refunded 10 70 state := by
  have found := mem_listPayments.mp member
  have inside : state.paymentId ∈ staged.book.map Booked.paymentId := by
    by_contra outside
    rw [holds.absent _ outside] at found
    cases found
  obtain ⟨booked, listed, same⟩ := List.mem_map.mp inside
  obtain ⟨own, held, stands⟩ := holds.held booked listed
  rw [same] at held
  obtain rfl := Option.some.inj (held.symm.trans found)
  exact ⟨booked, listed, stands⟩

theorem Holds.lists (holds : Holds staged db) {booked : Booked T} (listed : booked ∈ staged.book) :
    ∃ state ∈ listPayments db, Stands booked (capturedOf booked) (failedOf booked) booked.refunded 10 70 state := by
  obtain ⟨state, found, stands⟩ := holds.held booked listed
  refine ⟨state, mem_listPayments.mpr ?_, stands⟩
  rwa [stands.paymentId]

end Ledger

section Provider

/-- The provider's record of a payment, the amounts being as they were booked. -/
def remoteOf (booked : Booked T) : RemotePayment T where
  paymentId := booked.paymentId
  providerRef := if booked.captured ≠ 0 then booked.captureRef else booked.authRef
  currency := booked.currency
  authorizedMinor := booked.authorized
  capturedMinor := booked.captured
  refundedMinor := booked.refunded
  status := (deriveStatus {
    paymentId := booked.paymentId, currency := booked.currency, authorizedMinor := booked.authorized
    capturedMinor := booked.captured
    captureFailedMinor := if booked.captured ≠ 0 then 0 else if booked.captureFailed then booked.authorized else 0
    refundedMinor := booked.refunded }).value
  createdAt := booked.createdAt

/-- The row that settles a payment. -/
def rowOf (payoutDate : Str) (booked : Booked T) : SettlementRow where
  pspReference := booked.captureRef
  grossMinor := booked.captured
  feeMinor := Sim.fee booked.captured
  netMinor := booked.captured - Sim.fee booked.captured
  currency := booked.currency
  payoutDate := payoutDate
  journalType := str "Settled"

theorem remotePayments_plain (unbroken : staged.breaks = []) : Sim.remotePayments staged = staged.book.map remoteOf := by
  have plain (booked : Booked T) (index : Nat) : Sim.remotePayment staged booked index = remoteOf booked := by
    simp only [Sim.remotePayment, unbroken, List.not_mem_nil, false_and, ↓reduceIte]
    rfl
  unfold Sim.remotePayments
  simp only [plain]
  calc staged.book.zipIdx.map (fun entry => remoteOf entry.1)
      = (staged.book.zipIdx.map Prod.fst).map remoteOf := by
        rw [List.map_map]
        rfl
    _ = staged.book.map remoteOf := by rw [List.zipIdx_map_fst]

/-- The rows of the file are those of the captures whose webhooks were sent. -/
theorem mem_settlement (unadverse : staged.scenario ≠ str "adversarial") {payoutDate : Str} {row : SettlementRow} :
    row ∈ (staged.book.zipIdx.filterMap fun entry => Sim.settlementRow staged payoutDate entry.1 entry.2) ↔
      ∃ booked ∈ staged.book, 0 < booked.captured ∧ booked.captureWebhookPending = false ∧ row = rowOf payoutDate booked := by
  have settled (booked : Booked T) (index : Nat) : Sim.settlementRow staged payoutDate booked index = some row ↔
      0 < booked.captured ∧ booked.captureWebhookPending = false ∧ row = rowOf payoutDate booked := by
    unfold Sim.settlementRow
    rw [if_neg (fun both : staged.scenario = _ ∧ _ => unadverse both.1)]
    split
    next withheld =>
      refine iff_of_false nofun fun ⟨captured, sent_, _⟩ => ?_
      rcases withheld with none_ | pending
      · exact none_.not_gt captured
      · exact absurd (sent_.symm.trans pending) Bool.false_ne_true
    next paid =>
      rw [not_or, not_le, Bool.not_eq_true] at paid
      rw [and_iff_right paid.1, and_iff_right paid.2, Option.some.injEq, eq_comm]
      rfl
  simp only [List.mem_filterMap, settled]
  constructor
  · rintro ⟨entry, member, due⟩
    exact ⟨entry.1, List.fst_mem_of_mem_zipIdx member, due⟩
  · rintro ⟨booked, member, due⟩
    rw [← List.zipIdx_map_fst 0 staged.book] at member
    obtain ⟨entry, listed, rfl⟩ := List.mem_map.mp member
    exact ⟨entry, listed, due⟩

end Provider

section Stored

/-- What a settlement file leaves in the store. -/
theorem storeSettlement_ok {rows : List SettlementRow} {before after : Database T} (stored : storeSettlement rows before = .ok after) :
    after.tables = before.tables ∧ (∀ row ∈ after.settlementRows.rows, row ∈ before.settlementRows.rows ∨ row ∈ rows) ∧
      ∀ row, row ∈ before.settlementRows.rows ∨ row ∈ rows → ∃ kept ∈ after.settlementRows.rows, kept.pspReference = row.pspReference := by
  unfold storeSettlement at stored
  induction rows generalizing before with
  | nil =>
    cases stored
    exact ⟨rfl, fun _ => .inl, fun row member => ⟨row, member.resolve_right List.not_mem_nil, rfl⟩⟩
  | cons first rest ih =>
    simp only [List.foldlM_cons, bind_ok, pure_eq_ok, Except.ok.injEq] at stored
    obtain ⟨_, ⟨_, _, rfl⟩, further⟩ := stored
    obtain ⟨tables, only, kept⟩ := ih further
    have replaced (row : SettlementRow) : row ∈ (before.settlementRows.replace first).rows ↔
        (row ∈ before.settlementRows.rows ∧ row.pspReference ≠ first.pspReference) ∨ row = first := by
      simp [Table.replace]
    refine ⟨tables, fun row member => ?_, fun row member => ?_⟩
    · rcases only row member with new | later
      · rcases (replaced row).mp new with ⟨old, _⟩ | rfl
        · exact .inl old
        · exact .inr List.mem_cons_self
      · exact .inr (List.mem_cons_of_mem _ later)
    · by_cases same : row.pspReference = first.pspReference
      · rw [same]
        exact kept first (.inl ((replaced first).mpr (.inr rfl)))
      · apply kept row
        rcases member with old | listed
        · exact .inl ((replaced row).mpr (.inl ⟨old, same⟩))
        · exact .inr ((List.mem_cons.mp listed).resolve_left fun first => same (congrArg _ first))

end Stored

section Agreeing
variable [Seconds T] {rt : Runtime T R} {policy : GatePolicy T} {now : T} {db : Db T}

/-- The payments of the book are told apart, what is settled pays a small fee, and a capture
whose webhook has not arrived is young. -/
structure Settleable (rt : Runtime T R) (policy : GatePolicy T) (now : T) (staged : Sim.Staged T) : Prop where
  distinct : (staged.book.map Booked.paymentId).Nodup
  refs : (staged.book.map fun booked => (remoteOf booked).providerRef).Nodup
  failed : ∀ booked ∈ staged.book, booked.captureFailed = true → booked.provider = .adyen
  fees : ∀ booked ∈ staged.book, 0 < booked.captured →
    feeBps rt booked.captured (booked.captured - Sim.fee booked.captured) ≤ policy.feeToleranceBps
  young : ∀ booked ∈ staged.book, booked.captured ≠ 0 → booked.captureWebhookPending = true →
    now - booked.createdAt < policy.inFlightGraceSeconds

omit [Seconds T] in
/-- A payment with nothing pending stands as the provider records it. -/
theorem Stands.recorded {booked : Booked T} {low high : Int} {state : PaymentState}
    (stands : Stands booked (capturedOf booked) (failedOf booked) booked.refunded low high state)
    (adyen : booked.captureFailed = true → booked.provider = .adyen) (nonneg : 0 ≤ booked.captured)
    (arrived : booked.captured ≠ 0 → booked.captureWebhookPending = false) :
    (state.authorizedMinor, state.capturedMinor, state.refundedMinor) =
        ((remoteOf booked).authorizedMinor, (remoteOf booked).capturedMinor, (remoteOf booked).refundedMinor) ∧
      (deriveStatus state).value = (remoteOf booked).status := by
  have captured : state.capturedMinor = booked.captured := by
    rw [stands.captured, capturedOf]
    split
    next => rfl
    next silent =>
      by_contra some_
      exact silent ⟨Ne.symm some_, arrived (Ne.symm some_)⟩
  have failed : state.captureFailedMinor = if booked.captureFailed then booked.authorized else 0 := by
    rw [stands.failed, failedOf]
    by_cases failure : booked.captureFailed = true
    · rw [if_pos ⟨adyen failure, failure⟩, if_pos failure]
    · rw [if_neg (fun both => failure both.2), if_neg failure]
  refine ⟨?_, ?_⟩
  · rw [stands.authorized, captured, stands.refunded]
    rfl
  · unfold remoteOf deriveStatus
    rw [captured, stands.authorized, stands.refunded, stands.live.1, stands.live.2, failed]
    by_cases some_ : booked.captured = 0
    · simp [some_]
    · have positive : booked.captured > 0 := by omega
      simp [positive]

variable (holds : Holds staged db) (settleable : Settleable rt policy now staged)
  (regular : ∀ booked ∈ staged.book, Regular booked) (funded : ∀ booked ∈ staged.book, Funded booked)

include settleable in
/-- The record and the state of one id are those of one payment. -/
theorem Settleable.same {booked other : Booked T} (listed : booked ∈ staged.book) (member : other ∈ staged.book)
    (same : booked.paymentId = other.paymentId) : booked = other :=
  List.inj_on_of_nodup_map settleable.distinct listed member same

include holds settleable regular funded in
theorem Holds.inStep : InStep policy now (listPayments db) (staged.book.map remoteOf) where
  locals := listPayments_distinct db
  remotes := by
    rw [List.map_map]
    exact settleable.distinct
  named record member := by
    obtain ⟨booked, listed, rfl⟩ := List.mem_map.mp member
    exact (regular booked listed).paymentId
  recorded state member := by
    obtain ⟨booked, listed, stands⟩ := holds.listed member
    exact ⟨remoteOf booked, List.mem_map_of_mem listed, stands.paymentId.symm⟩
  held record member := by
    obtain ⟨booked, listed, rfl⟩ := List.mem_map.mp member
    obtain ⟨state, inside, stands⟩ := holds.lists listed
    exact ⟨state, inside, stands.paymentId⟩
  currency state here record there same := by
    obtain ⟨booked, listed, stands⟩ := holds.listed here
    obtain ⟨other, member, rfl⟩ := List.mem_map.mp there
    obtain rfl := settleable.same listed member (stands.paymentId.symm.trans same)
    exact stands.currency
  pairs state here record there same := by
    obtain ⟨booked, listed, stands⟩ := holds.listed here
    obtain ⟨other, member, rfl⟩ := List.mem_map.mp there
    obtain rfl := settleable.same listed member (stands.paymentId.symm.trans same)
    by_cases pending : booked.captured ≠ 0 ∧ booked.captureWebhookPending = true
    · exact .inr (settleable.young booked listed pending.1 pending.2)
    · refine .inl (stands.recorded (settleable.failed booked listed) (funded booked listed).captured.1 fun some_ => ?_)
      exact Bool.eq_false_iff.mpr fun waits => pending ⟨some_, waits⟩

include settleable regular in
/-- The row of a payment is joined to what the ledger holds of it. -/
theorem Holds.joins (holds : Holds staged db) {booked : Booked T} (listed : booked ∈ staged.book) (captured : 0 < booked.captured)
    (payoutDate : Str) : ∃ state, joined (listPayments db) (staged.book.map remoteOf) (rowOf payoutDate booked) = some state ∧
      Stands booked (capturedOf booked) (failedOf booked) booked.refunded 10 70 state := by
  obtain ⟨state, inside, stands⟩ := holds.lists listed
  have named (record) (member : record ∈ staged.book.map remoteOf) : record.paymentId ≠ [] := by
    obtain ⟨other, there, rfl⟩ := List.mem_map.mp member
    exact (regular other there).paymentId
  have ref : (remoteOf booked).providerRef = booked.captureRef := if_pos captured.ne'
  have found : byRef (remoteById (staged.book.map remoteOf)) (remoteOf booked).providerRef = some (remoteOf booked) := by
    refine byRef_joined ?_ (fun other => ?_) (List.mem_map_of_mem listed) ?_
    · rw [List.map_map]
      exact settleable.refs
    · rw [remoteById, Library.Group.mem_grouped, List.mem_filter, decide_eq_true_eq]
      exact and_iff_left_of_imp (named other)
    · rw [ref]
      exact (regular booked listed).captureRef
  refine ⟨state, ?_, stands⟩
  have members : Group.members (localById (listPayments db)) (remoteOf booked).paymentId = [state] := by
    rw [localById, Library.Group.members_group, show (remoteOf booked).paymentId = state.paymentId from stands.paymentId.symm]
    exact filter_unique (listPayments_distinct db) inside
  unfold joined
  rw [show (rowOf payoutDate booked).pspReference = _ from ref.symm, found, Option.bind_some, members]
  rfl

include settleable regular funded in
theorem Holds.settlesAll (holds : Holds staged db) {payoutDate : Str} {settlement : List SettlementRow}
    (only : ∀ row ∈ settlement, ∃ booked ∈ staged.book, 0 < booked.captured ∧ booked.captureWebhookPending = false ∧
      row = rowOf payoutDate booked)
    (all : ∀ booked ∈ staged.book, 0 < booked.captured → booked.captureWebhookPending = false →
      ∃ row ∈ settlement, row.pspReference = booked.captureRef) :
    SettlesAll rt policy now (listPayments db) (staged.book.map remoteOf) settlement where
  rows row member := by
    obtain ⟨booked, listed, captured, arrived, rfl⟩ := only row member
    obtain ⟨state, joins, stands⟩ := holds.joins settleable regular listed captured payoutDate
    have whole : state.capturedMinor = booked.captured := stands.captured.trans (if_pos ⟨captured.ne', arrived⟩)
    refine ⟨state, joins, stands.currency.symm, ?_⟩
    rw [whole]
    exact settleable.fees booked listed captured
  due state here record there same captured _ := by
    obtain ⟨booked, listed, stands⟩ := holds.listed here
    obtain ⟨other, member, rfl⟩ := List.mem_map.mp there
    obtain rfl := settleable.same listed member (stands.paymentId.symm.trans same)
    have announced : booked.announced := by
      by_contra silent
      rw [stands.captured, capturedOf, if_neg silent] at captured
      exact captured.false
    have nonneg := (funded booked listed).captured.1
    obtain ⟨row, inside, ref⟩ := all booked listed (lt_of_le_of_ne nonneg announced.1.symm) announced.2
    exact ⟨row, inside, ref.trans (if_pos announced.1).symm⟩

end Agreeing

section Demo
variable [Seconds T] {rt : Runtime T R} {kit : Kit T G} {simulator : Simulator T} {settings : DemoSettings T} {simulated : Simulated T}

/-- What is run is made of the book, without breaks. -/
structure Unbroken (rt : Runtime T R) (kit : Kit T G) (simulator : Simulator T) (staged : Sim.Staged T) (simulated : Simulated T) :
    Prop where
  breaks : staged.breaks = []
  scenario : staged.scenario ≠ str "adversarial"
  startedAt : simulated.startedAt = simulator.startedAt
  deliveries : Sim.buildDeliveries rt kit simulator staged = .ok simulated.deliveries
  settlement : ∃ payoutDate, simulated.settlementReport =
    staged.book.zipIdx.filterMap fun entry => Sim.settlementRow staged payoutDate entry.1 entry.2
  remote : simulated.remotePayments = Sim.remotePayments staged

theorem settlementReport_plain {settlement : List SettlementRow}
    (reported : Sim.settlementReport kit simulator staged = .ok settlement) (unadverse : staged.scenario ≠ str "adversarial") :
    ∃ payoutDate, settlement = staged.book.zipIdx.filterMap fun entry => Sim.settlementRow staged payoutDate entry.1 entry.2 := by
  unfold Sim.settlementReport at reported
  obtain ⟨date, _, same⟩ := bind_ok.mp reported
  dsimp only at same
  rw [if_neg unadverse, List.append_nil] at same
  exact ⟨date.take 10, (Except.ok.inj same).symm⟩

/-- So is what is simulated of another scenario than the adversarial one. -/
theorem simulate_unbroken {scenario : Str} (unadverse : scenario ≠ str "adversarial")
    (simulates : Sim.simulate rt kit simulator scenario [] = .ok simulated) :
    Unbroken rt kit simulator { scenario, breaks := [], book := Sim.buildBook rt kit simulator } simulated := by
  unfold Sim.simulate Sim.deliveries at simulates
  obtain ⟨⟨deliveries, other⟩, staged, made⟩ := bind_ok.mp simulates
  obtain ⟨_, _, staged⟩ := bind_ok.mp staged
  rw [if_neg unadverse, List.append_nil] at staged
  obtain ⟨_, built, same⟩ := bind_ok.mp staged
  cases same
  obtain ⟨settlement, settled, same⟩ := bind_ok.mp made
  cases same
  refine ⟨rfl, unadverse, rfl, built, settlementReport_plain settled unadverse, ?_⟩
  dsimp only

theorem parkedEvents_settled {db : Db T} (settled : ∀ row ∈ db.deliveries.rows, row.state.pending = false) :
    parkedEvents rt db = .ok [] := by
  have none_ : db.deliveries.rows.filter (fun row => row.state = .parked) = [] := by
    apply List.filter_eq_nil_iff.mpr
    intro row member
    rw [decide_eq_true_eq]
    intro parked
    have waiting := settled row member
    rw [parked] at waiting
    cases waiting
  unfold parkedEvents
  rw [none_]
  rfl

/-- The store has a row for each capture that settles, and no others. -/
theorem Unbroken.filed (unbroken : Unbroken rt kit simulator staged simulated) {tables : Db T} {database : Database T}
    (stored : storeSettlement simulated.settlementReport ⟨tables, .empty⟩ = .ok database) :
    database.tables = tables ∧ ∃ payoutDate,
      (∀ row ∈ listSettlementRows database, ∃ booked ∈ staged.book, 0 < booked.captured ∧ booked.captureWebhookPending = false ∧
        row = rowOf payoutDate booked) ∧
      ∀ booked ∈ staged.book, 0 < booked.captured → booked.captureWebhookPending = false →
        ∃ row ∈ listSettlementRows database, row.pspReference = booked.captureRef := by
  obtain ⟨same, only, all⟩ := storeSettlement_ok stored
  obtain ⟨payoutDate, filed⟩ := unbroken.settlement
  refine ⟨same, payoutDate, fun row member => ?_, fun booked listed captured arrived => ?_⟩
  · have inside := (only row ((List.mem_insertionSort _).mp member)).resolve_left List.not_mem_nil
    rw [filed] at inside
    exact (mem_settlement unbroken.scenario).mp inside
  · have inside : rowOf payoutDate booked ∈ simulated.settlementReport := by
      rw [filed]
      exact (mem_settlement unbroken.scenario).mpr ⟨booked, listed, captured, arrived, rfl⟩
    obtain ⟨kept, member, ref⟩ := all _ (.inr inside)
    exact ⟨kept, (List.mem_insertionSort _).mpr member, ref⟩

/-- A demo of a book without breaks, run to its end, takes in and applies all it was sent, and
reports fees and what is on its way, and no more. Its gate is open. -/
theorem clean_run_opens (lawful : Lawful rt kit simulator) (trusts : Trusts simulator settings.config)
    (unbroken : Unbroken rt kit simulator staged simulated) (bookable : ∀ booked ∈ staged.book, Bookable rt kit simulator booked)
    (apart : (simulated.deliveries.map fun delivery => deliveryId delivery.provider delivery.identity).Nodup)
    (encodable : ∀ delivery ∈ simulated.deliveries, (deliveryId delivery.provider delivery.identity).encodable = true)
    (later : Ticks simulator.startedAt settings.interval simulated.deliveries.length) (zero : 0 ≤ simulator.startedAt)
    (prompt : ∀ k < simulated.deliveries.length,
      Prompt simulator settings.config ((fun t => t + settings.interval)^[k] simulator.startedAt))
    (enough : simulated.deliveries.length ≤ 100 * defaultPasses)
    (plain : ∀ kind ∈ [DriftKind.inFlight, .feeGrossNet], settings.gate.severityOverrides.lookup kind = none)
    {run : DemoRun T} (ran : demo rt settings simulated = .ok run)
    (settleable : Settleable rt.binary64 settings.gate run.asOf staged) :
    run.receipts = { new := simulated.deliveries.length } ∧ run.drained = { applied := simulated.deliveries.length } ∧
      (∀ finding ∈ run.report.findings, (finding.kind = .inFlight ∨ finding.kind = .feeGrossNet) ∧ finding.severity = .info) ∧
      run.decision.outboundBlocked = false ∧ run.decision.blockedIds = [] := by
  obtain ⟨received, took, counted, applied, settled, held, absent⟩ := bookings_applied lawful trusts unbroken.breaks unbroken.deliveries
    bookable settleable.distinct apart encodable later zero prompt settings.retry enough
  unfold demo at ran
  rw [unbroken.startedAt, took] at ran
  change demoAfter rt settings simulated received = .ok run at ran
  simp only [demoAfter, bind_ok, pure_eq_ok, Except.ok.injEq, Prod.exists] at ran
  generalize drainUntilIdle rt (FakeClock T) settings.retry (fun _ => none) defaultPasses received.now received.db = idle
    at applied settled held absent ran
  obtain ⟨database, stored, report, decision, reconciled, rfl⟩ := ran
  obtain ⟨tables, payoutDate, fees, paid⟩ := unbroken.filed stored
  rw [runReconcile, tables, parkedEvents_settled settled, unbroken.remote, remotePayments_plain unbroken.breaks] at reconciled
  obtain ⟨_, parked, reconciled⟩ := bind_ok.mp reconciled
  cases parked
  simp only [bind_ok, pure_eq_ok, Except.ok.injEq, Prod.mk.injEq] at reconciled
  obtain ⟨_, returned, _, decided, rfl, rfl⟩ := reconciled
  have holds : Holds staged idle.db := ⟨held, absent⟩
  have regular (booked) (listed : booked ∈ staged.book) : Regular booked := (bookable booked listed).regular
  have funded (booked) (listed : booked ∈ staged.book) : Funded booked := (bookable booked listed).funded
  have settles := holds.settlesAll settleable regular funded fees paid
  obtain ⟨informs, decision, decided', opens, free⟩ := agreement_opens plain (holds.inStep settleable regular funded) settles
    returned rt.format
  obtain rfl := Except.ok.inj (decided'.symm.trans decided)
  exact ⟨counted, applied, informs, opens, free⟩

end Demo

section Example

def deskSettings : DemoSettings Int where
  config := deskConfig
  retry := .standard
  gate := { standardGate with feeToleranceBps := 600 }
  interval := 1
  reconcileAfter := 1200

/-- The one payment of the desk, and the row that settles it. -/
def deskRun : Simulated Int where
  startedAt := desk.startedAt
  deliveries := oneSent
  settlementReport := [rowOf (str "2026-07-01") bookedCapture]
  remotePayments := Sim.remotePayments oneBooked

theorem deskRun_unbroken : Unbroken deskRuntime deskKit desk oneBooked deskRun :=
  ⟨rfl, by decide, rfl, oneSent_built, ⟨str "2026-07-01", rfl⟩, rfl⟩

theorem desk_fee : feeBps deskRuntime.binary64 1000 946 ≤ 600 := by decide +kernel

theorem desk_settleable (now : Int) : Settleable deskRuntime.binary64 deskSettings.gate now oneBooked where
  distinct := List.nodup_singleton _
  refs := List.nodup_singleton _
  failed := by decide
  fees := List.forall_mem_singleton.mpr fun _ => desk_fee
  young := by
    refine List.forall_mem_singleton.mpr fun _ pending => ?_
    cases pending

/-- A capture and the row that settles it leave the gate open. -/
theorem clean_run_opens_capture : ∃ run, demo deskRuntime deskSettings deskRun = .ok run ∧
    run.drained = { applied := oneSent.length } ∧ run.decision.outboundBlocked = false := by
  have ends : (demo deskRuntime deskSettings deskRun).toOption.isSome = true := by decide +kernel
  cases ran : demo deskRuntime deskSettings deskRun with
  | error exc =>
    rw [ran] at ends
    cases ends
  | ok run =>
    obtain ⟨_, drained, _, opens, _⟩ := clean_run_opens desk_lawful
      (show Trusts desk deskSettings.config from desk_trusts) deskRun_unbroken
      (List.forall_mem_singleton.mpr ⟨bookedCapture_regular, bookedCapture_funded, desk_told⟩) (by decide +kernel)
      (by decide +kernel) (fun _ _ => lt_add_one _) (by decide) desk_prompt (by decide) (by decide) ran (desk_settleable _)
    exact ⟨run, rfl, drained, opens⟩

end Example
end Quidz.Proofs
