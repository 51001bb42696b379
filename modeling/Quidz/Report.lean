import Mathlib.Data.Prod.Lex
import Quidz.Library.Group
import Quidz.Model
import Quidz.Reconcile
import Quidz.Runtime

/-! Reconciliation: every disagreement between the ledger, the provider's payment list
and the settlement file, put into a bucket. The list is joined on the payment id, the
file on the psp reference. -/

namespace Quidz

open Library (Group.group Group.members)

def Status.value : Status → Str
  | .pending => str "pending"
  | .authorized => str "authorized"
  | .captureFailed => str "capture_failed"
  | .voided => str "voided"
  | .expired => str "expired"
  | .partiallyCaptured => str "partially_captured"
  | .captured => str "captured"
  | .partiallyRefunded => str "partially_refunded"
  | .refunded => str "refunded"

def statuses : List Status :=
  [.pending, .authorized, .captureFailed, .voided, .expired, .partiallyCaptured, .captured, .partiallyRefunded, .refunded]

def DriftKind.value : DriftKind → Str
  | .missingLocally => str "missing_locally"
  | .missingRemotely => str "missing_remotely"
  | .duplicateLocal => str "duplicate_local"
  | .duplicateRemote => str "duplicate_remote"
  | .amountMismatch => str "amount_mismatch"
  | .partialStateDivergence => str "partial_state_divergence"
  | .statusMismatch => str "status_mismatch"
  | .currencyMismatch => str "currency_mismatch"
  | .inFlight => str "in_flight"
  | .unknownRemoteRow => str "unknown_remote_row"
  | .feeGrossNet => str "fee_gross_net"
  | .unsettledPastSla => str "unsettled_past_sla"
  | .parkedStale => str "parked_stale"

/-- `DEFAULT_SEVERITIES`. -/
def defaultSeverity : DriftKind → Severity
  | .missingLocally => .critical
  | .missingRemotely => .break_
  | .duplicateLocal => .break_
  | .duplicateRemote => .critical
  | .amountMismatch => .break_
  | .partialStateDivergence => .warn
  | .statusMismatch => .break_
  | .currencyMismatch => .critical
  | .inFlight => .info
  | .unknownRemoteRow => .warn
  | .feeGrossNet => .info
  | .unsettledPastSla => .break_
  | .parkedStale => .break_

def severityFeeWithinTolerance : Severity := .info

def severityFeeOutsideTolerance : Severity := .break_

def Severity.order : Severity → Nat
  | .info => 0
  | .warn => 1
  | .break_ => 2
  | .critical => 3

structure RemotePayment (T : Type) where
  paymentId : Str
  providerRef : Str
  currency : Str
  authorizedMinor : Int
  capturedMinor : Int
  refundedMinor : Int
  status : Str
  createdAt : T

structure SettlementRow where
  pspReference : Str
  grossMinor : Int
  feeMinor : Int
  netMinor : Int
  currency : Str
  payoutDate : Str
  journalType : Str

def vector (authorized captured refunded : Int) : Mapping :=
  [(str "authorized_minor", .int authorized), (str "captured_minor", .int captured), (str "refunded_minor", .int refunded)]

/-- `state_rank` of a text that may be no status of the ledger's. -/
def rankOrNone (status : Str) : Option Int := (statuses.find? fun known => known.value = status).map stateRank

def direction (localStatus remoteStatus : Str) : Direction :=
  match rankOrNone localStatus, rankOrNone remoteStatus with
  | some localRank, some remoteRank =>
    if localRank = remoteRank then .none else if localRank > remoteRank then .localAhead else .remoteAhead
  | _, _ => .none

variable {T R : Type} (rt : Runtime T R) (policy : GatePolicy T)

/-- A finding as the collector adds it, with nothing but its detail filled in. -/
def drift (kind : DriftKind) (detail : Str) (severity : Severity := defaultSeverity kind) : Finding T where
  kind := kind
  severity := (policy.severityOverrides.lookup kind).getD severity
  detail := detail

section Events
variable [Seconds T]

/-- `f"{int(age)}s"`. -/
def secondsText (age : T) : Str := Str.ofInt (Seconds.toInt age) ++ str "s"

def comparePair (local_ : PaymentState) (remote : RemotePayment T) (age grace : T) : List (Finding T) :=
  if local_.currency ≠ remote.currency then
    [{ drift policy .currencyMismatch (str "ledger holds " ++ local_.paymentId ++ str " in " ++ local_.currency ++
          str ", the provider reports " ++ remote.currency ++ str "; amounts in different currencies are not comparable") with
      paymentId := some local_.paymentId, providerRef := some remote.providerRef, currency := some local_.currency
      ageSeconds := some age }]
  else
    let localVector := (local_.authorizedMinor, local_.capturedMinor, local_.refundedMinor)
    let remoteVector := (remote.authorizedMinor, remote.capturedMinor, remote.refundedMinor)
    let localStatus := (deriveStatus local_).value
    if localVector = remoteVector ∧ localStatus = remote.status then []
    else if age < grace then
      [{ drift policy .inFlight (local_.paymentId ++ str " diverges but is " ++ secondsText age ++
            str " old, inside the " ++ secondsText grace ++ str " grace window") with
        paymentId := some local_.paymentId, providerRef := some remote.providerRef, currency := some local_.currency
        ageSeconds := some age }]
    else
      let localNet := local_.capturedMinor - local_.refundedMinor
      let remoteNet := remote.capturedMinor - remote.refundedMinor
      -- The same money, split otherwise.
      let partial_ := localNet = remoteNet ∧ local_.authorizedMinor = remote.authorizedMinor
      let kind : DriftKind := if partial_ then .partialStateDivergence else .amountMismatch
      let detail :=
        if partial_ then local_.paymentId ++ str " capture and refund split disagrees at an equal net position"
        else local_.paymentId ++ str " net position differs by " ++ Str.ofInt (localNet - remoteNet) ++ str " " ++
          local_.currency ++ str " minor units"
      (if localVector ≠ remoteVector then
        [{ drift policy kind detail with
          paymentId := some local_.paymentId, providerRef := some remote.providerRef
          local_ := some (vector local_.authorizedMinor local_.capturedMinor local_.refundedMinor)
          remote := some (vector remote.authorizedMinor remote.capturedMinor remote.refundedMinor)
          deltaMinor := some (if partial_ then 0 else localNet - remoteNet), currency := some local_.currency
          ageSeconds := some age }]
      else []) ++
      if localStatus ≠ remote.status then
        [{ drift policy .statusMismatch (local_.paymentId ++ str " is " ++ localStatus ++ str " in the ledger and " ++
              remote.status ++ str " at the provider") with
          direction := direction localStatus remote.status, paymentId := some local_.paymentId
          providerRef := some remote.providerRef, local_ := some [(str "status", .str localStatus)]
          remote := some [(str "status", .str remote.status)], currency := some local_.currency, ageSeconds := some age }]
      else []

/-- The findings of one payment id, from its records on either side. -/
def reconcileId (now : T) (paymentId : Str) (locals : List PaymentState) (remotes : List (RemotePayment T)) :
    List (Finding T) :=
  (if 1 < locals.length then
    [{ drift policy .duplicateLocal (Str.ofNat locals.length ++ str " local aggregates carry the payment id " ++ paymentId) with
      paymentId := some paymentId, providerRef := remotes.head?.map RemotePayment.providerRef
      currency := locals.head?.map PaymentState.currency }]
  else []) ++
  (if 1 < remotes.length then
    [{ drift policy .duplicateRemote (Str.ofNat remotes.length ++ str " provider records carry the payment id " ++
          paymentId ++ str ", which is a double authorization") with
      paymentId := some paymentId, providerRef := remotes.head?.map RemotePayment.providerRef
      currency := remotes.head?.map RemotePayment.currency
      ageSeconds := remotes.head?.map fun remote => now - remote.createdAt }]
  else []) ++
  match remotes, locals with
  | [], [] => []
  | [], local_ :: _ =>
    [{ drift policy .missingRemotely (paymentId ++ str " exists in the ledger and not in the provider payment list") with
      paymentId := some paymentId
      local_ := some (vector local_.authorizedMinor local_.capturedMinor local_.refundedMinor)
      deltaMinor := some (local_.capturedMinor - local_.refundedMinor), currency := some local_.currency }]
  | remote :: _, [] =>
    let age := now - remote.createdAt
    [{ drift policy (if age < policy.inFlightGraceSeconds then .inFlight else .missingLocally)
          (paymentId ++ str " is at the provider and not in the ledger, " ++ secondsText age ++ str " old") with
      paymentId := some paymentId, providerRef := some remote.providerRef
      remote := some (vector remote.authorizedMinor remote.capturedMinor remote.refundedMinor)
      deltaMinor := some (remote.capturedMinor - remote.refundedMinor), currency := some remote.currency
      ageSeconds := some age }]
  | remote :: _, local_ :: _ => comparePair policy local_ remote (now - remote.createdAt) policy.inFlightGraceSeconds

def reconcileEvents (localById : List (Str × List PaymentState)) (remoteById : List (Str × List (RemotePayment T)))
    (now : T) : List (Finding T) :=
  (sortedSet (localById.map Prod.fst ++ remoteById.map Prod.fst)).flatMap fun paymentId =>
    reconcileId policy now paymentId (Group.members localById paymentId) (Group.members remoteById paymentId)

end Events

section Settlement

/-- `by_ref`: where two records carry one reference, the last of them stays. -/
def byRef (remoteById : List (Str × List (RemotePayment T))) (ref : Str) : Option (RemotePayment T) :=
  (remoteById.flatMap Prod.snd).reverse.find? fun remote => remote.providerRef ≠ [] ∧ remote.providerRef = ref

/-- How far the net is from the gross, in basis points. -/
def feeBps (gross net : Int) : Int :=
  if gross ≤ 0 then 10000 else rt.rounded ((net - gross).natAbs * 10000) gross

/-- The finding of one settlement row, and whether it joins to a ledger payment. -/
def settleRow (localById : List (Str × List PaymentState)) (remoteById : List (Str × List (RemotePayment T)))
    (row : SettlementRow) : Finding T × Bool :=
  match (byRef remoteById row.pspReference).map fun remote => Group.members localById remote.paymentId with
  | none | some [] =>
    ({ drift policy .unknownRemoteRow (str "settlement row " ++ row.pspReference ++ str " joins to no ledger payment") with
        providerRef := some row.pspReference
        remote := some [(str "net_minor", .int row.netMinor), (str "journal_type", .str row.journalType)]
        currency := some row.currency }, false)
  | some (local_ :: _) =>
    if row.currency ≠ local_.currency then
      ({ drift policy .currencyMismatch (str "settlement row " ++ row.pspReference ++ str " is in " ++ row.currency ++
            str " and the ledger holds " ++ local_.paymentId ++ str " in " ++ local_.currency) with
          paymentId := some local_.paymentId, providerRef := some row.pspReference, currency := some local_.currency }, true)
    else
      let gross := local_.capturedMinor
      let delta := row.netMinor - gross
      let bps := feeBps rt gross row.netMinor
      ({ drift policy .feeGrossNet (str "settlement net " ++ Str.ofInt row.netMinor ++ str " against capture gross " ++
            Str.ofInt gross ++ str " on " ++ local_.paymentId ++ str " is " ++ Str.ofInt bps ++ str " bps, tolerance " ++
            Str.ofInt policy.feeToleranceBps ++ str " bps")
            (if bps ≤ policy.feeToleranceBps then severityFeeWithinTolerance else severityFeeOutsideTolerance) with
          paymentId := some local_.paymentId, providerRef := some row.pspReference
          local_ := some [(str "captured_minor", .int gross)]
          remote := some [(str "net_minor", .int row.netMinor), (str "fee_minor", .int row.feeMinor)]
          deltaMinor := some delta, currency := some local_.currency }, true)

variable [Seconds T]

/-- The finding of a captured payment that is past the SLA without its settlement row. -/
def unsettled (now : T) (settled : List Str) (paymentId : Str) (locals : List PaymentState)
    (remotes : List (RemotePayment T)) : List (Finding T) :=
  match locals, remotes with
  | local_ :: _, remote :: _ =>
    let age := now - remote.createdAt
    if local_.capturedMinor ≤ 0 ∨ remote.providerRef ∈ settled ∨ age ≤ policy.settlementSlaSeconds then []
    else
      [{ drift policy .unsettledPastSla (paymentId ++ str " captured " ++ Str.ofInt local_.capturedMinor ++ str " " ++
            local_.currency ++ str ", " ++ secondsText age ++ str " old and absent from the settlement report") with
        paymentId := some paymentId, providerRef := some remote.providerRef
        local_ := some [(str "captured_minor", .int local_.capturedMinor)], deltaMinor := some local_.capturedMinor
        currency := some local_.currency, ageSeconds := some age }]
  | _, _ => []

def reconcileSettlement (localById : List (Str × List PaymentState)) (remoteById : List (Str × List (RemotePayment T)))
    (settlement : List SettlementRow) (now : T) : List (Finding T) :=
  let rows := settlement.insertionSort fun first second => first.pspReference ≤ second.pspReference
  let settled := (rows.filter fun row => (settleRow rt policy localById remoteById row).2).map SettlementRow.pspReference
  rows.map (fun row => (settleRow rt policy localById remoteById row).1) ++
    (localById.insertionSort fun first second => first.1 ≤ second.1).flatMap fun entry =>
      unsettled policy now settled entry.1 entry.2 (Group.members remoteById entry.1)

end Settlement

/-- The key of the report's order: the severe first, then by kind, id and reference. -/
def Finding.before (first second : Finding T) : Prop :=
  second.severity.order < first.severity.order ∨ first.severity.order = second.severity.order ∧
    [first.kind.value, first.paymentId.getD [], first.providerRef.getD []] ≤
      [second.kind.value, second.paymentId.getD [], second.providerRef.getD []]

instance : DecidableRel (Finding.before (T := T)) := fun _ _ => inferInstanceAs (Decidable (_ ∨ _))

/-- `dict.update` with one item. -/
def setCounter : List (Str × Int) → Str × Int → List (Str × Int)
  | [], item => [item]
  | (name, value) :: rest, item => if name = item.1 then item :: rest else (name, value) :: setCounter rest item

variable [Seconds T]

/-- The report, where each text and quotient in it has a value; `tryReconcile` is the call, with
what it raises where one has none. `parked` holds the payment id and the time of receipt of
each parked delivery. -/
def reconcile (local_ : List PaymentState) (remote : List (RemotePayment T)) (settlement : List SettlementRow)
    (parked : List (Str × T)) (now : T) (counters : List (Str × Int)) : ExceptionReport T :=
  let localById := Group.group PaymentState.paymentId local_
  let remoteById := Group.group RemotePayment.paymentId (remote.filter fun row => row.paymentId ≠ [])
  let unjoined := (remote.filter fun row => row.paymentId = []).map fun row =>
    { drift policy .unknownRemoteRow (str "provider row " ++ row.providerRef ++ str " carries no payment id to join on") with
      providerRef := some row.providerRef
      remote := some (vector row.authorizedMinor row.capturedMinor row.refundedMinor), currency := some row.currency
      ageSeconds := some (now - row.createdAt) }
  let waiting := (parked.insertionSort fun first second => toLex first ≤ toLex second).map fun entry =>
    let age := now - entry.2
    { drift policy (if policy.parkMaxAgeSeconds < age then .parkedStale else .inFlight)
          (str "a delivery for " ++ entry.1 ++ str " has been parked " ++ secondsText age ++
            str " waiting for its prerequisite, limit " ++ secondsText policy.parkMaxAgeSeconds) with
      paymentId := some entry.1, ageSeconds := some age }
  let findings := (unjoined ++ reconcileEvents policy localById remoteById now ++
    reconcileSettlement rt policy localById remoteById settlement now ++ waiting).insertionSort Finding.before
  let counts := [Severity.info, .warn, .break_, .critical].map fun severity =>
    (severity, findings.countP fun finding => finding.severity = severity)
  let count (severity : Severity) : Int := ((counts.lookup severity).getD 0 : Nat)
  let unresolved := (findings.filter fun finding => finding.severity ≠ .info).map fun finding => finding.ageSeconds.getD 0
  { generatedAt := now, findings, countsBySeverity := counts
    counters := [(str "drift_info", count .info), (str "drift_warn", count .warn), (str "drift_break", count .break_),
      (str "drift_critical", count .critical),
      (str "oldest_unresolved_drift_seconds", Seconds.toInt (unresolved.max?.getD 0))].foldl setCounter counters }

end Quidz
