import Quidz.Proofs.Aging
import Quidz.Proofs.Logging
import Quidz.Proofs.Transports
import Quidz.Snapshot

/-! The provider's payment list is read as it was written, so that `reconcile` and the
report route come to what the demo came to, and a command that failed keeps failing while
time goes on. -/

namespace Quidz.Proofs

variable {T R : Type} [Seconds T] {rt : Runtime T R} {indented : Json → Str} {float : Json → Except Exc T}

section Written

omit [Seconds T] in
/-- A mapping reads as one with the same entries, their values sorted. -/
theorem sorted_perm (entries : Mapping) : ∃ read : Mapping, (Json.dict entries).sorted = .dict read ∧
    read.Perm (entries.map fun entry => (entry.1, entry.2.sorted)) := by
  refine ⟨_, by rw [Json.sorted], ?_⟩
  rw [← sortedEntries_eq]
  exact List.perm_insertionSort _ _

theorem sortedItems_eq (items : List Json) : Json.sortedItems items = items.map Json.sorted := by
  induction items with
  | nil => rfl
  | cons item rest ih => rw [Json.sortedItems, ih, List.map_cons]

/-- What is relied on of `json` for the list: its text reads as the value, with the keys
sorted, and its floats as themselves. -/
structure Restorable (rt : Runtime T R) (indented : Json → Str) (float : Json → Except Exc T) (record : Mapping) (moments : List T) :
    Prop where
  reads : rt.loadsText (indented (.dict record)) = .ok (Json.dict record).sorted
  floats : ∀ moment ∈ moments, float (.float (rt.format moment)) = .ok moment

/-- What is read of a written mapping under one of its keys. -/
theorem sorted_reads {entries : Mapping} (distinct : (entries.map Prod.fst).Nodup) : ∃ read : Mapping,
    (Json.dict entries).sorted = .dict read ∧ (∀ entry ∈ read, entry.1 ∈ entries.map Prod.fst) ∧
      ∀ key value, (key, value) ∈ entries → read.lookup key = some value.sorted := by
  obtain ⟨read, sorted, same⟩ := sorted_perm entries
  have keys : (read.map Prod.fst).Perm (entries.map Prod.fst) := by
    refine (same.map Prod.fst).trans ?_
    rw [List.map_map]
    exact .refl _
  refine ⟨read, sorted, fun entry member => ?_, fun key value member => ?_⟩
  · exact keys.mem_iff.mp (List.mem_map_of_mem member)
  · apply (lookup_iff (keys.nodup_iff.mpr distinct)).mpr
    exact same.mem_iff.mpr (List.mem_map_of_mem (f := fun entry => (entry.1, entry.2.sorted)) member)

omit [Seconds T] in
/-- A written payment is read, and it is the payment. -/
theorem readPayment_paymentRecord (payment : RemotePayment T)
    (created : float (.float (rt.format payment.createdAt)) = .ok payment.createdAt) :
    ∃ row, readPayment rt (Json.dict (paymentRecord rt payment)).sorted = .ok row ∧ annotated float row = some payment := by
  have named : (paymentRecord rt payment).map Prod.fst = paymentFields := rfl
  have distinct : ((paymentRecord rt payment).map Prod.fst).Nodup := by
    rw [named]
    decide
  obtain ⟨read, sorted, within, reads⟩ := sorted_reads distinct
  rw [named] at within
  have expected : read.find? (fun entry => !paymentFields.contains entry.1) = none := by
    refine List.find?_eq_none.mpr fun entry member => ?_
    simpa using within entry member
  have complete : (paymentFields.filter fun name => !read.has name) = [] := by
    refine List.filter_eq_nil_iff.mpr fun name field => ?_
    rw [← named] at field
    obtain ⟨entry, member, rfl⟩ := List.mem_map.mp field
    simp [Mapping.has, reads entry.1 entry.2 member]
  have checked : keywords rt read = .ok () := by
    unfold keywords
    rw [expected]
    dsimp only
    rw [complete]
    rfl
  have field {key : Str} {value : Json} (member : (key, value) ∈ paymentRecord rt payment) : read.get key = value.sorted := by
    rw [Mapping.get, reads key value member]
    rfl
  have all : ∀ entry ∈ paymentRecord rt payment, read.get entry.1 = entry.2.sorted := fun entry member => field member
  simp only [paymentRecord, List.forall_mem_cons, List.not_mem_nil, Json.sorted] at all
  obtain ⟨paymentId, providerRef, currency, authorized, captured, refunded, status, createdAt, _⟩ := all
  refine ⟨read, ?_, ?_⟩
  · rw [sorted]
    apply bind_ok.mpr
    exact ⟨read, rfl, bind_ok.mpr ⟨(), checked, rfl⟩⟩
  · simp only [annotated, paymentId, providerRef, currency, authorized, captured, refunded, status, createdAt, Json.text, Json.integer,
      Json.moment, created]
    rfl

omit [Seconds T] in
/-- The list that was written is the list that is read. -/
theorem parseSnapshot_writeSnapshot {seed : Int} {scenario : Str} {payments : List (RemotePayment T)} {asOf : T}
    (restorable : Restorable rt indented float (snapshotRecord rt seed scenario payments asOf)
      (asOf :: payments.map RemotePayment.createdAt)) :
    ∃ rows, parseSnapshot rt float (writeSnapshot rt indented seed scenario payments asOf) = .ok (asOf, rows) ∧
      rows.mapM (annotated float) = some payments := by
  obtain ⟨asOfReads, createdReads⟩ := List.forall_mem_cons.mp restorable.floats
  have read : ∃ rows, (payments.map fun payment => (Json.dict (paymentRecord rt payment)).sorted).mapM (readPayment rt) = .ok rows ∧
      rows.mapM (annotated float) = some payments := by
    clear restorable
    induction payments with
    | nil => exact ⟨[], rfl, rfl⟩
    | cons payment rest ih =>
      obtain ⟨created, later⟩ := List.forall_mem_cons.mp createdReads
      obtain ⟨row, first, same⟩ := readPayment_paymentRecord payment created
      obtain ⟨rows, behind, others⟩ := ih later
      refine ⟨row :: rows, ?_, ?_⟩
      · rw [List.map_cons, List.mapM_cons, first, behind]
        rfl
      · rw [List.mapM_cons, same, others]
        rfl
  obtain ⟨rows, read, same⟩ := read
  have distinct : ((snapshotRecord rt seed scenario payments asOf).map Prod.fst).Nodup := by
    change [str "as_of", str "seed", str "scenario", str "payments"].Nodup
    decide
  obtain ⟨record, sorted, _, reads⟩ := sorted_reads distinct
  have moment := reads (str "as_of") (.float (rt.format asOf)) (by simp [snapshotRecord])
  have list := reads (str "payments") (.list (payments.map fun payment => .dict (paymentRecord rt payment)))
    (by simp [snapshotRecord])
  rw [Json.sorted, sortedItems_eq, List.map_map] at list
  have loaded := restorable.reads
  rw [sorted] at loaded
  refine ⟨rows, ?_, same⟩
  unfold parseSnapshot writeSnapshot
  apply bind_ok.mpr
  refine ⟨_, loaded, bind_ok.mpr ⟨_, orRaise_ok.mpr moment, bind_ok.mpr ⟨asOf, asOfReads, ?_⟩⟩⟩
  exact bind_ok.mpr ⟨_, orRaise_ok.mpr list, bind_ok.mpr ⟨_, rfl, bind_ok.mpr ⟨rows, read, rfl⟩⟩⟩

omit [Seconds T] in
theorem readSnapshot_ok {path : Str} {file : Option (Except Exc Str)} {read : T × List Mapping}
    (found : readSnapshot rt float path file = .ok (some read)) :
    ∃ text, file = some (.ok text) ∧ parseSnapshot rt float text = .ok read := by
  unfold readSnapshot at found
  split at found
  next => cases found
  next content =>
    split at found
    next read' parsed =>
      cases found
      obtain ⟨text, rfl, parsed⟩ := bind_ok.mp parsed
      exact ⟨text, rfl, parsed⟩
    next => split at found <;> cases found

end Written

variable {Other : Type} {unchecked : Unchecked T Other}

/-- Payments of the annotated types are reconciled as they are. -/
theorem reconcileRows_annotated {policy : GatePolicy T} {database : Database T} {rows : List Mapping} {now : T}
    {remote : List (RemotePayment T)} (same : rows.mapM (annotated float) = some remote) {outcome : Outcome T Other} :
    reconcileRows rt float unchecked policy database rows now = .ok outcome ↔
      ∃ report decision, runReconcile rt database remote now policy = .ok (report, decision) ∧
        .annotated report decision = outcome := by
  simp only [reconcileRows, same, bind_ok, pure_eq_ok, Except.ok.injEq, Prod.exists]

section Readers
variable {policy : GatePolicy T} {path : Str} {database : Database T} {file : Option (Except Exc Str)} {failOn : Option FailOn}

/-- What the route answers, and what the command comes to: the same report and decision, or
that there is nothing to reconcile against, which is a usage error, or the same exception. -/
def Consistent (unchecked : Unchecked T Other) (failOn : Option FailOn) (route : Except Exc (ReportResponse T Other))
    (command : Except Exc (Reconciled T Other)) : Prop :=
  match route with
  | .ok (.report outcome) => command = .ok ⟨outcome, exitCode unchecked outcome failOn⟩
  | .ok (.unavailable response) => response.statusCode = 503 ∧ exits command = .ok 2
  | .error exc => command = .error exc

theorem report_route_agrees : Consistent unchecked failOn (reconcileReport rt float unchecked policy database file)
    (reconcileCommand rt float unchecked policy path (some database) file none failOn) := by
  unfold reconcileReport reconcileCommand
  cases file with
  | none => exact ⟨rfl, rfl⟩
  | some content =>
    unfold providerSnapshot readSnapshot
    dsimp only
    cases (do parseSnapshot rt float (← content) : Except Exc (T × List Mapping)) with
    | error exc =>
      dsimp only
      cases unreadable exc with
      | true => exact ⟨rfl, rfl⟩
      | false => exact rfl
    | ok read =>
      obtain ⟨now, rows⟩ := read
      change Consistent unchecked failOn (reconcileRows rt float unchecked policy database rows now >>= _)
        (reconcileRows rt float unchecked policy database rows now >>= _)
      cases reconcileRows rt float unchecked policy database rows now with
      | error exc => exact rfl
      | ok outcome => exact rfl

end Readers

section Reproduced
variable {settings : DemoSettings T} {simulated : Simulated T} {run : DemoRun T}

/-- A demo reports on what it leaves, at the time it names. -/
theorem demo_reconciled (ran : demo rt settings simulated = .ok run) :
    runReconcile rt run.database simulated.remotePayments run.asOf settings.gate = .ok (run.report, run.decision) := by
  obtain ⟨received, _, after⟩ := bind_ok.mp ran
  simp only [demoAfter, bind_ok, pure_eq_ok, Except.ok.injEq, Prod.exists] at after
  obtain ⟨database, _, report, decision, reconciled, rfl⟩ := after
  exact reconciled

/-- Over the database and the list that a demo leaves, `reconcile` and the report route come
to the report and the decision of the demo. On any other file too the two are consistent,
whatever the payments in it have for values. -/
theorem reconcile_reproduces (ran : demo rt settings simulated = .ok run) {seed : Int} {scenario : Str}
    (restorable : Restorable rt indented float (snapshotRecord rt seed scenario simulated.remotePayments run.asOf)
      (run.asOf :: simulated.remotePayments.map RemotePayment.createdAt)) (unchecked : Unchecked T Other) (path : Str)
    (failOn : Option FailOn) :
    let written := some (.ok (writeSnapshot rt indented seed scenario simulated.remotePayments run.asOf))
    let outcome : Outcome T Other := .annotated run.report run.decision
    reconcileCommand rt float unchecked settings.gate path (some run.database) written none failOn =
        .ok ⟨outcome, exitCode unchecked outcome failOn⟩ ∧
      reconcileReport rt float unchecked settings.gate run.database written = .ok (.report outcome) ∧
      ∀ (policy : GatePolicy T) (database : Database T) (file : Option (Except Exc Str)),
        Consistent unchecked failOn (reconcileReport rt float unchecked policy database file)
          (reconcileCommand rt float unchecked policy path (some database) file none failOn) := by
  intro written outcome
  have agrees (policy : GatePolicy T) (database : Database T) (file : Option (Except Exc Str)) :
      Consistent unchecked failOn (reconcileReport rt float unchecked policy database file)
        (reconcileCommand rt float unchecked policy path (some database) file none failOn) := report_route_agrees
  have reported : reconcileReport rt float unchecked settings.gate run.database written = .ok (.report outcome) := by
    obtain ⟨rows, parsed, same⟩ := parseSnapshot_writeSnapshot restorable
    have content : ((.ok (writeSnapshot rt indented seed scenario simulated.remotePayments run.asOf) : Except Exc Str) >>=
        parseSnapshot rt float) = .ok (run.asOf, rows) := parsed
    have read : providerSnapshot rt float written = .ok (some (run.asOf, rows)) := by
      unfold providerSnapshot
      dsimp only [written]
      rw [content]
    have reconciled : reconcileRows rt float unchecked settings.gate run.database rows run.asOf = .ok outcome :=
      (reconcileRows_annotated same).mpr ⟨_, _, demo_reconciled ran, rfl⟩
    unfold reconcileReport
    apply bind_ok.mpr
    exact ⟨_, read, bind_ok.mpr ⟨outcome, reconciled, rfl⟩⟩
  have commanded := agrees settings.gate run.database written
  rw [reported] at commanded
  exact ⟨commanded, reported, agrees⟩

end Reproduced

section
open StripeBinding

/-- The provider's list after the one payment was authorized. -/
def authorizedPayments : List (RemotePayment Int) := [{
  paymentId := str "pi_1"
  providerRef := str "pi_1"
  currency := str "EUR"
  authorizedMinor := 1000
  capturedMinor := 0
  refundedMinor := 0
  status := str "authorized"
  createdAt := 100 }]

def authorizedRecord : Mapping := snapshotRecord signing 7 (str "happy") authorizedPayments 1602

/-- A reader that knows one document. -/
def readsOnly (value : Json) (text : Str) : Except Exc Json :=
  if text = Json.written value then .ok value else raise .valueError (str "Expecting value")

theorem readsOnly_written (value : Json) : readsOnly value (Json.written value) = .ok value := if_pos rfl

/-- A runtime that reads a list back as well. -/
def restoring (record : Mapping) : Runtime Int Unit := { signing with loadsText := readsOnly (Json.dict record).sorted }

/-- A float that was written for one of a few times. -/
def floated : Json → Except Exc Int
  | .float text => orRaise ([1602, 100, 0].find? fun moment => Str.ofInt moment = text) .valueError
      (str "could not convert string to float")
  | _ => raise .typeError (str "float() argument must be a string or a real number")

theorem restoring_restorable {payments : List (RemotePayment Int)} {asOf : Int} {record : Mapping}
    (same : snapshotRecord signing 7 (str "happy") payments asOf = record)
    (floats : ∀ moment ∈ asOf :: payments.map RemotePayment.createdAt, floated (.float (Str.ofInt moment)) = .ok moment) :
    Restorable (restoring record) (fun value => Json.written value.sorted) floated
      (snapshotRecord (restoring record) 7 (str "happy") payments asOf) (asOf :: payments.map RemotePayment.createdAt) := by
  have listed : snapshotRecord (restoring record) 7 (str "happy") payments asOf = record := same
  rw [listed]
  have reads : (restoring record).loadsText = readsOnly (Json.dict record).sorted := rfl
  exact ⟨(congrFun reads _).trans (readsOnly_written _), floats⟩

/-- Payments with values of other types are refused. -/
def refusing : Unchecked Int Unit where
  runReconcile _ _ _ _ := raise .typeError (str "unsupported operand type(s) for -: 'float' and 'str'")
  outboundBlocked _ := false
  severities _ := []

theorem reconcile_reproduces_authorized : ∃ run,
    demo (restoring authorizedRecord) signedSettings { signedRun with remotePayments := authorizedPayments } = .ok run ∧
    run.receipts.new = 1 ∧
    reconcileReport (restoring authorizedRecord) floated refusing standardGate run.database
      (some (.ok (Json.written (Json.dict authorizedRecord).sorted))) = .ok (.report (.annotated run.report run.decision)) := by
  have ends : (match demo (restoring authorizedRecord) signedSettings { signedRun with remotePayments := authorizedPayments } with
      | .ok run => decide (run.receipts.new = 1 ∧ run.asOf = 1602)
      | .error _ => false) = true := by decide +kernel
  split at ends
  next run ran =>
    obtain ⟨new, asOf⟩ := of_decide_eq_true ends
    have restorable := restoring_restorable (show _ = authorizedRecord from rfl) (by decide)
    rw [← asOf] at restorable
    have reproduced := (reconcile_reproduces ran restorable refusing (str "quidz.db") none).2.1
    rw [asOf] at reproduced
    exact ⟨run, ran, new, reproduced⟩
  next => cases ends

end

section Later
variable {policy : GatePolicy T} {path : Str} {database : Option (Database T)} {file : Option (Except Exc Str)}
  {failOn : Option FailOn}

/-- A finding that `--fail-on` fails on. -/
def FailsOn (failOn : Option FailOn) (finding : Finding T) : Prop :=
  ∃ choice ∈ failOn, choice.severity.order ≤ finding.severity.order

omit [Seconds T] in
theorem exitCode_iff {report : ExceptionReport T} {decision : GateDecision T} :
    exitCode unchecked (.annotated report decision) failOn = 1 ↔
      decision.outboundBlocked = true ∨ ∃ finding ∈ report.findings, FailsOn failOn finding := by
  unfold exitCode FailsOn
  by_cases blocked : decision.outboundBlocked = true
  · exact iff_of_true (if_pos blocked) (.inl blocked)
  · have unblocked : ¬(Outcome.annotated report decision).outboundBlocked unchecked = true := blocked
    rw [if_neg unblocked, or_iff_right blocked]
    cases failOn with
    | none => simp
    | some choice =>
      dsimp only
      rw [ite_eq_left_iff]
      simp [Outcome.severities]

omit [Seconds T] in
/-- A finding the command fails on is a break or critical. -/
theorem FailsOn.heavy {finding : Finding T} (reaches : FailsOn failOn finding) :
    finding.severity = .break_ ∨ finding.severity = .critical := by
  obtain ⟨choice, _, high⟩ := reaches
  cases severity : finding.severity with
  | break_ => exact .inl rfl
  | critical => exact .inr rfl
  | info | warn =>
    rw [severity] at high
    cases choice <;> exact absurd high (by decide)

omit [Seconds T] in
theorem FailsOn.stands {before after : ExceptionReport T} (stands : (standing before.findings).Subperm (standing after.findings))
    {finding : Finding T} (listed : finding ∈ before.findings) (reaches : FailsOn failOn finding) :
    ∃ later ∈ after.findings, FailsOn failOn later := by
  have kept := subperm_severity reaches.heavy stands
  have member : timeless finding ∈ (before.findings.filter fun other => other.severity = finding.severity).map timeless :=
    List.mem_map_of_mem (List.mem_filter.mpr ⟨listed, decide_eq_true rfl⟩)
  obtain ⟨later, found, _⟩ := List.mem_map.mp (kept.subset member)
  obtain ⟨among, same⟩ := List.mem_filter.mp found
  obtain ⟨choice, chosen, high⟩ := reaches
  refine ⟨later, among, choice, chosen, ?_⟩
  rw [of_decide_eq_true same]
  exact high

/-- The payments that the file lists have values of the annotated types. -/
def Annotated (rt : Runtime T R) (float : Json → Except Exc T) (file : Option (Except Exc Str)) : Prop :=
  ∀ text read, file = some (.ok text) → parseSnapshot rt float text = .ok read → ∃ remote, read.2.mapM (annotated float) = some remote

/-- What a command reported on, at which time, and what it came to. -/
structure Reported (rt : Runtime T R) (float : Json → Except Exc T) (policy : GatePolicy T) (path : Str)
    (file : Option (Except Exc Str)) (asOf : Option T) (tables : Database T) (recorded : T) (rows : List Mapping)
    (remote : List (RemotePayment T)) (parked : List (Str × T)) (found : ExceptionReport T) (decision : GateDecision T) : Prop where
  read : readSnapshot rt float (path ++ str ".remote.json") file = .ok (some (recorded, rows))
  annotated : rows.mapM (annotated float) = some remote
  waiting : parkedEvents rt tables.tables = .ok parked
  report : tryReconcile rt policy (listPayments tables.tables) remote (listSettlementRows tables) parked (asOf.getD recorded)
    (snapshot tables.tables) = .ok found
  judged : gate rt.format found policy (asOf.getD recorded) = decision

theorem reconcileCommand_ok (typed : Annotated rt float file) {asOf : Option T} {reconciled : Reconciled T Other}
    (ran : reconcileCommand rt float unchecked policy path database file asOf failOn = .ok reconciled) :
    ∃ tables recorded rows remote parked report decision, database = some tables ∧
      Reported rt float policy path file asOf tables recorded rows remote parked report decision ∧
      reconciled.exitCode = exitCode unchecked (.annotated report decision) failOn := by
  simp only [reconcileCommand, bind_ok, orRaise_ok, pure_eq_ok, Except.ok.injEq, Prod.exists] at ran
  obtain ⟨tables, found, _, read, recorded, rows, rfl, outcome, judged, rfl⟩ := ran
  obtain ⟨remote, same⟩ : ∃ remote, rows.mapM (annotated float) = some remote := by
    obtain ⟨text, rfl, parsed⟩ := readSnapshot_ok read
    exact typed text (recorded, rows) rfl parsed
  obtain ⟨_, _, reconciled, rfl⟩ := (reconcileRows_annotated same).mp judged
  simp only [runReconcile, bind_ok, pure_eq_ok, Except.ok.injEq, Prod.mk.injEq] at reconciled
  obtain ⟨parked, parkedRead, report, reported, decision, decided, rfl, rfl⟩ := reconciled
  exact ⟨tables, recorded, rows, remote, parked, report, decision, found,
    ⟨read, same, parkedRead, reported, ((tryGate_ok _ _ _ _).mp decided).2⟩, rfl⟩

/-- A command that exits 1 exits 1 at every later time at which it returns, as long as the
files stay and no break glass is live. -/
theorem reconcile_stays_failed (plain : policy.severityOverrides = []) {now later : T}
    (waits : ∀ moment, now - moment ≤ later - moment)
    (sealed_ : ∀ glass, policy.breakGlass = some glass → glass.expiresAt ≤ later) (typed : Annotated rt float file)
    {earlier after : Reconciled T Other}
    (first : reconcileCommand rt float unchecked policy path database file (some now) failOn = .ok earlier)
    (second : reconcileCommand rt float unchecked policy path database file (some later) failOn = .ok after)
    (failed : earlier.exitCode = 1) : after.exitCode = 1 := by
  obtain ⟨tables, recorded, rows, remote, parked, report, decision, rfl, before, exited⟩ := reconcileCommand_ok typed first
  obtain ⟨tables', recorded', rows', remote', parked', report', decision', found, behind, exited'⟩ :=
    reconcileCommand_ok typed second
  obtain rfl := Option.some.inj found
  obtain ⟨rfl, rfl⟩ := Prod.mk.inj (Option.some.inj (Except.ok.inj (before.read.symm.trans behind.read)))
  obtain rfl := Option.some.inj (before.annotated.symm.trans behind.annotated)
  obtain rfl := Except.ok.inj (before.waiting.symm.trans behind.waiting)
  have stands : (standing report.findings).Subperm (standing report'.findings) := by
    rw [← (tryReconcile_ok.mp before.report).2, ← (tryReconcile_ok.mp behind.report).2]
    exact reconcile_waits rt.binary64 plain waits _ _ _ _ _ _
  rw [exited, exitCode_iff, ← before.judged] at failed
  rw [exited', exitCode_iff, ← behind.judged]
  rcases failed with blocked | ⟨finding, listed, fails⟩
  · left
    apply (blocked_iff rt.format _ sealed_).mpr
    exact effective_stands policy stands (effective_of_blocked rt.format _ blocked)
  · right
    exact fails.stands stands listed

omit [Seconds T] in
/-- What a command that exits 1 came to. -/
theorem exits_failed {command : Except Exc (Reconciled T Other)} (failed : exits command = .ok 1) :
    ∃ reconciled, command = .ok reconciled ∧ reconciled.exitCode = 1 := by
  unfold exits at failed
  split at failed
  next reconciled => exact ⟨reconciled, rfl, Except.ok.inj failed⟩
  next exc =>
    split at failed
    · cases failed
    · cases failed

end Later

section
open StripeBinding

/-- The list of a file that has the captured payment, which no table has. -/
def capturedRecord : Mapping := snapshotRecord signing 7 (str "happy") [capturedRow] 0

def capturedFile : Option (Except Exc Str) := some (.ok (Json.written (Json.dict capturedRecord).sorted))

/-- The command over empty tables, at a time. -/
def capturedCommand (now : Int) : Except Exc (Reconciled Int Unit) :=
  reconcileCommand (restoring capturedRecord) floated refusing standardGate (str "quidz.db")
    (some ⟨.empty, .empty⟩) capturedFile (some now) none

theorem capturedCommand_failed {now : Int} (exited : (exits (capturedCommand now)).toOption = some 1) :
    ∃ reconciled, capturedCommand now = .ok reconciled ∧ reconciled.exitCode = 1 := by
  apply exits_failed
  cases answer : exits (capturedCommand now) with
  | ok code =>
    rw [answer] at exited
    rw [Option.some.inj exited]
  | error exc =>
    rw [answer] at exited
    cases exited

theorem capturedFile_annotated : Annotated (restoring capturedRecord) floated capturedFile := by
  intro text read written parsed
  obtain ⟨rows, parsed', same⟩ := parseSnapshot_writeSnapshot (restoring_restorable (show _ = capturedRecord from rfl) (by decide))
  obtain rfl := Except.ok.inj (Option.some.inj written)
  obtain rfl := Except.ok.inj (parsed.symm.trans parsed')
  exact ⟨[capturedRow], same⟩

theorem reconcile_stays_failed_captured : ∃ earlier after, capturedCommand 259201 = .ok earlier ∧
    capturedCommand 864001 = .ok after ∧ earlier.exitCode = 1 ∧ after.exitCode = 1 := by
  obtain ⟨earlier, first, failed⟩ := capturedCommand_failed (show (exits (capturedCommand 259201)).toOption = some 1 by decide +kernel)
  obtain ⟨after, second, _⟩ := capturedCommand_failed (show (exits (capturedCommand 864001)).toOption = some 1 by decide +kernel)
  have waits (moment : Int) : 259201 - moment ≤ 864001 - moment := by omega
  have sealed_ (glass : BreakGlass Int) (held : standardGate.breakGlass = some glass) : glass.expiresAt ≤ 864001 := by cases held
  exact ⟨earlier, after, first, second, failed,
    reconcile_stays_failed rfl waits sealed_ capturedFile_annotated first second failed⟩

end

end Quidz.Proofs
