import Quidz.Fleet
import Quidz.Limits
import Quidz.Log

/-! The command line. The demo takes a simulator's deliveries in over one of two
transports, drains, and reconciles; `reconcile` does the last of it again, over the
database and the payment list the demo left. -/

namespace Quidz

open Library (Table)

variable {T R : Type}

section Metrics

def Metric.value : Metric → Str
  | .eventsReceived => str "events_received"
  | .signatureRejected => str "signature_rejected"
  | .replayRejected => str "replay_rejected"
  | .deduped => str "deduped"
  | .applied => str "applied"
  | .parked => str "parked"
  | .deadLettered => str "dead_lettered"
  | .driftInfo => str "drift_info"
  | .driftWarn => str "drift_warn"
  | .driftBreak => str "drift_break"
  | .driftCritical => str "drift_critical"
  | .oldestUnresolvedDriftSeconds => str "oldest_unresolved_drift_seconds"

def counterNames : List Metric :=
  [.eventsReceived, .signatureRejected, .replayRejected, .deduped, .applied, .parked, .deadLettered, .driftInfo, .driftWarn,
    .driftBreak, .driftCritical, .oldestUnresolvedDriftSeconds]

/-- Every name of the allowlist, zero where it was never bumped. -/
def snapshot (db : Db T) : List (Str × Int) := counterNames.map fun name => (name.value, db.counter (.metric name))

end Metrics

/-- The tables, with the settlement file beside those that the inbox works on. -/
structure Database (T : Type) where
  tables : Db T
  settlementRows : Table SettlementRow SettlementRow.pspReference

section Settlement

def bindSettlement (row : SettlementRow) : Except Exc Unit := do
  bindStr row.pspReference
  bindInt row.grossMinor
  bindInt row.feeMinor
  bindInt row.netMinor
  bindStr row.currency
  bindStr row.payoutDate
  bindStr row.journalType

/-- `INSERT OR REPLACE`, row by row in one transaction. -/
def storeSettlement (rows : List SettlementRow) (database : Database T) : Except Exc (Database T) :=
  rows.foldlM (fun database row => do
    bindSettlement row
    return { database with settlementRows := database.settlementRows.replace row }) database

def listSettlementRows (database : Database T) : List SettlementRow :=
  database.settlementRows.rows.insertionSort fun first second => first.pspReference ≤ second.pspReference

end Settlement

variable [Seconds T] (rt : Runtime T R)

/-- The payment id and the time of receipt of each parked delivery. One that does not decode
goes by its own id. -/
def parkedEvents (db : Db T) : Except Exc (List (Str × T)) :=
  ((db.deliveries.rows.filter fun row => row.state = .parked).insertionSort fun first second =>
    first.deliveryId ≤ second.deliveryId).mapM fun row =>
      match decode rt row.provider row.raw with
      | .ok event => .ok (event.paymentId, row.receivedAt)
      | .error exc =>
        if exc.isinstance .valueError || exc.isinstance .eventError then .ok (row.deliveryId, row.receivedAt) else .error exc

def runReconcile (database : Database T) (remote : List (RemotePayment T)) (now : T) (policy : GatePolicy T) :
    Except Exc (ExceptionReport T × GateDecision T) := do
  let parked ← parkedEvents rt database.tables
  let report ← tryReconcile rt policy (listPayments database.tables) remote (listSettlementRows database) parked now
    (snapshot database.tables)
  let decision ← tryGate policy report rt.format now
  return (report, decision)

namespace Sim

/-- A delivery of the simulator's, signed and ready to be sent. -/
structure Delivery where
  provider : Provider
  identity : Str
  raw : Bytes
  headers : List (Str × Str)

end Sim

section Receipts

structure Tally where
  new : Nat := 0
  duplicate : Nat := 0
  inProgress : Nat := 0
  leaseReclaimed : Nat := 0
  signatureInvalid : Nat := 0
  staleTimestamp : Nat := 0
  deriving DecidableEq

/-- `tally[result.reason] += 1`. -/
def Tally.count (tally : Tally) : ClaimReason → Tally
  | .new => { tally with new := tally.new + 1 }
  | .duplicate => { tally with duplicate := tally.duplicate + 1 }
  | .inProgress => { tally with inProgress := tally.inProgress + 1 }
  | .leaseReclaimed => { tally with leaseReclaimed := tally.leaseReclaimed + 1 }

/-- The loop over the deliveries, as far as it has come. -/
structure Receiving (T : Type) where
  tally : Tally := {}
  now : T
  db : Db T

variable (config : AppConfig T) (interval : T)

/-- A delivery taken in by a call of the front door. -/
def receiveDirect (receiving : Receiving T) (delivery : Sim.Delivery) : Except Exc (Receiving T) :=
  let (answer, db) := match delivery.provider with
    | .stripe => receiveStripe rt delivery.raw delivery.headers config.secrets receiving.now receiving.now config.leaseSeconds
        config.toleranceSeconds receiving.db
    | .adyen => receiveAdyen rt delivery.raw config.adyenHmacKeyHex receiving.now config.leaseSeconds receiving.db
  let took (tally : Tally) : Except Exc (Receiving T) := .ok { tally, now := receiving.now + interval, db }
  let tally := receiving.tally
  match answer with
  | .ok result => took (tally.count result.reason)
  | .error exc =>
    if exc.isinstance .staleTimestamp then took { tally with staleTimestamp := tally.staleTimestamp + 1 }
    else if exc.isinstance .signatureError then took { tally with signatureInvalid := tally.signatureInvalid + 1 }
    else .error exc

def receiveInProcess (deliveries : List Sim.Delivery) (receiving : Receiving T) : Except Exc (Receiving T) :=
  deliveries.foldlM (receiveDirect rt config interval) receiving

/-- What stands between the simulator and the app, and is not this package's. -/
structure Http where
  /-- The headers the app sees of a body that was posted with some. -/
  wire : Bytes → List (Str × Str) → List (Str × Str)
  /-- The body of `json=`. -/
  encode : Json → Except Exc Bytes
  /-- The text of a `JSONResponse`. -/
  render : Mapping → Str

/-- One item in the envelope a notification arrives in. -/
def envelope (item : Json) : Json :=
  .dict [(str "live", .str (str "false")),
    (str "notificationItems", .list [.dict [(str "NotificationRequestItem", item)]])]

variable (compact : Json → Str) (http : Http)

/-- The status and the text a delivery is answered with. -/
def post (delivery : Sim.Delivery) (now : T) : Statements T (Nat × Str) := fun db =>
  match delivery.provider with
  | .stripe =>
    let (response, after) := stripeWebhook rt delivery.raw (http.wire delivery.raw delivery.headers) config.secrets now now
      config.leaseSeconds config.toleranceSeconds db
    (response.map fun response => (response.statusCode, http.render response.content), after)
  | .adyen =>
    match (do http.encode (envelope (← rt.loads delivery.raw))) with
    | .error exc => (.error exc, db)
    | .ok body =>
      let (response, after) := adyenWebhook rt compact body config.adyenHmacKeyHex (fun _ => now) config.leaseSeconds db
      (response.map fun response => (response.statusCode, response.text), after)

def receivePosted (receiving : Receiving T) (delivery : Sim.Delivery) : Except Exc (Receiving T) :=
  let (answer, db) := post rt config compact http delivery receiving.now receiving.db
  let took (tally : Tally) : Except Exc (Receiving T) := .ok { tally, now := receiving.now + interval, db }
  let tally := receiving.tally
  match answer with
  | .error exc => .error exc
  | .ok (statusCode, text) =>
    if statusCode = 200 then took { tally with new := tally.new + 1 }
    else if statusCode = 409 then took { tally with inProgress := tally.inProgress + 1 }
    else if statusCode = 401 then took { tally with signatureInvalid := tally.signatureInvalid + 1 }
    else if str "timestamp" <:+: text then took { tally with staleTimestamp := tally.staleTimestamp + 1 }
    else took { tally with signatureInvalid := tally.signatureInvalid + 1 }

def receiveOverHttp (deliveries : List Sim.Delivery) (receiving : Receiving T) : Except Exc (Receiving T) :=
  deliveries.foldlM (receivePosted rt config interval compact http) receiving

/-- The numbers under `RECEIPT`: accepted, duplicate, in progress, rejected, and of those the
signatures and the replays. -/
def Tally.printed (tally : Tally) : List Nat :=
  [tally.new + tally.leaseReclaimed, tally.duplicate, tally.inProgress, tally.signatureInvalid + tally.staleTimestamp,
    tally.signatureInvalid, tally.staleTimestamp]

end Receipts

section Demo

/-- What a simulator has made of its seed and scenario. -/
structure Simulated (T : Type) where
  startedAt : T
  deliveries : List Sim.Delivery
  settlementReport : List SettlementRow
  remotePayments : List (RemotePayment T)

/-- The policies of a run, `_RECEIPT_INTERVAL` and `_RECONCILE_AFTER`. -/
structure DemoSettings (T : Type) where
  config : AppConfig T
  retry : RetryPolicy T
  gate : GatePolicy T
  interval : T
  reconcileAfter : T

/-- What a run prints from, and what it leaves. -/
structure DemoRun (T : Type) where
  receipts : Tally
  drained : DrainReport
  ledger : List PaymentState
  report : ExceptionReport T
  decision : GateDecision T
  asOf : T
  database : Database T

variable (settings : DemoSettings T) (simulated : Simulated T)

/-- The run from the receipts on. -/
def demoAfter (received : Receiving T) : Except Exc (DemoRun T) := do
  let idle := drainUntilIdle rt (FakeClock T) settings.retry (fun _ => none) defaultPasses received.now received.db
  let database ← storeSettlement simulated.settlementReport ⟨idle.db, .empty⟩
  let now := idle.clock + settings.reconcileAfter
  let (report, decision) ← runReconcile rt database simulated.remotePayments now settings.gate
  return { receipts := received.tally, drained := idle.total, ledger := listPayments database.tables, report, decision
           asOf := now, database }

/-- `quidz demo`, on a fresh database. -/
def demo : Except Exc (DemoRun T) := do
  demoAfter rt settings simulated
    (← receiveInProcess rt settings.config settings.interval simulated.deliveries { now := simulated.startedAt, db := .empty })

/-- `quidz demo --http`. -/
def demoOverHttp (compact : Json → Str) (http : Http) : Except Exc (DemoRun T) := do
  demoAfter rt settings simulated (← receiveOverHttp rt settings.config settings.interval compact http simulated.deliveries
    { now := simulated.startedAt, db := .empty })

end Demo
end Quidz
