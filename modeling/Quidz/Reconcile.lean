import Mathlib.Data.List.Dedup
import Mathlib.Data.List.Lex
import Mathlib.Data.List.Sort
import Quidz.Clock
import Quidz.Json

/-! The exception report and the gate it feeds. The gate blocks outbound money
movement for the ids the findings name, and never blocks ingest. -/

namespace Quidz

inductive Severity where
  | info | warn | break_ | critical
  deriving DecidableEq, Repr

inductive Direction where
  | none | localAhead | remoteAhead
  deriving DecidableEq, Repr

inductive DriftKind where
  | missingLocally | missingRemotely | duplicateLocal | duplicateRemote | amountMismatch
  | partialStateDivergence | statusMismatch | currencyMismatch | inFlight | unknownRemoteRow
  | feeGrossNet | unsettledPastSla | parkedStale
  deriving DecidableEq, Repr

structure Finding (T : Type) where
  kind : DriftKind
  severity : Severity
  direction : Direction := .none
  paymentId : Option Str := none
  providerRef : Option Str := none
  local_ : Option Mapping := none
  remote : Option Mapping := none
  deltaMinor : Option Int := none
  currency : Option Str := none
  ageSeconds : Option T := none
  detail : Str

structure ExceptionReport (T : Type) where
  generatedAt : T
  findings : List (Finding T)
  countsBySeverity : List (Severity × Nat)
  counters : List (Str × Int)

structure BreakGlass (T : Type) where
  approver : Str
  reason : Str
  expiresAt : T
  scopeIds : List Str
  deriving DecidableEq

inductive Scope where
  | payment | currency | batch
  deriving DecidableEq, Repr

def Scope.value : Scope → Str
  | .payment => str "payment"
  | .currency => str "currency"
  | .batch => str "batch"

structure GatePolicy (T : Type) where
  inFlightGraceSeconds : T
  settlementSlaSeconds : T
  parkMaxAgeSeconds : T
  feeToleranceBps : Int := 500
  materialityCount : Int := 5
  materialityValueMinor : Int := 10000
  scope : Scope := .payment
  breakGlass : Option (BreakGlass T) := none
  severityOverrides : List (DriftKind × Severity) := []

structure GateDecision (T : Type) where
  outboundBlocked : Bool
  ingestBlocked : Bool
  blockedIds : List Str
  suppressedBy : Option (BreakGlass T)
  rationale : Str
  deriving DecidableEq

variable {T : Type}

/-- Drift per currency, in the order the currencies are met. -/
def addExposure : List (Str × Int) → Str → Int → List (Str × Int)
  | [], currency, delta => [(currency, delta)]
  | (other, total) :: rest, currency, delta =>
    if other = currency then (other, total + delta) :: rest else (other, total) :: addExposure rest currency delta

def exposureByCurrency (breaks : List (Finding T)) : List (Str × Int) :=
  breaks.foldl (fun totals finding =>
    match finding.deltaMinor, finding.currency with
    | some delta, some currency =>
      if delta ≠ 0 ∧ currency ≠ [] then addExposure totals currency delta.natAbs else totals
    | _, _ => totals) []

/-- Largest first, so the rationale opens on the number that decided it. -/
def exposureText (exposure : List (Str × Int)) : Str :=
  if exposure = [] then str "no measured exposure"
  else
    let ordered := exposure.insertionSort fun first second =>
      second.2 < first.2 ∨ first.2 = second.2 ∧ first.1 ≤ second.1
    Str.join (str ", ") (ordered.map fun entry => Str.ofInt entry.2 ++ str " " ++ entry.1)

/-- `sorted` of a set of strings. -/
def sortedSet (ids : List Str) : List Str := ids.dedup.insertionSort (· ≤ ·)

/-- A key that is there and is not the empty string. -/
def present (key : Option Str) : Option Str := key.filter (· ≠ [])

/-- The key of a finding that a scope blocks by; a batch has none. -/
def Finding.scopeKey (finding : Finding T) : Scope → Option Str
  | .payment => present finding.paymentId
  | .currency => present finding.currency
  | .batch => none

def criticals (report : ExceptionReport T) : List (Finding T) := report.findings.filter (·.severity = .critical)

def breaks (report : ExceptionReport T) : List (Finding T) := report.findings.filter (·.severity = .break_)

/-- The breaks are many, or worth a lot in some one currency. -/
def material (report : ExceptionReport T) (policy : GatePolicy T) : Bool :=
  policy.materialityCount ≤ (breaks report).length ||
    (exposureByCurrency (breaks report)).any fun entry => policy.materialityValueMinor ≤ entry.2

def effective (report : ExceptionReport T) (policy : GatePolicy T) : List (Finding T) :=
  criticals report ++ if material report policy then breaks report else []

/-- The ids to block before any break glass. -/
def scopedIds (scope : Scope) (effective : List (Finding T)) : List Str :=
  let ids := match scope with
    | .batch => if effective ≠ [] then [str "*"] else []
    | scope => sortedSet (effective.filterMap fun finding => finding.scopeKey scope)
  if effective ≠ [] ∧ ids = [] then
    let refs := sortedSet (effective.filterMap fun finding => present finding.providerRef)
    if refs = [] then [str "*"] else refs
  else ids

variable [Seconds T]

/-- The break glass that suppresses some of the ids, and the ids it leaves. -/
def suppress (glass : Option (BreakGlass T)) (now : T) (ids : List Str) : Option (BreakGlass T) × List Str :=
  match glass with
  | some glass =>
    if now < glass.expiresAt ∧ ids ≠ [] then
      let remaining := ids.filter fun id => id ∉ glass.scopeIds
      if remaining ≠ ids then (some glass, remaining) else (none, ids)
    else (none, ids)
  | none => (none, ids)

/-- The decision, where its rationale has a text; `tryGate` is the call, with what it raises
where there is none. -/
def gate (floatText : T → Str) (report : ExceptionReport T) (policy : GatePolicy T) (now : T) : GateDecision T :=
  let findings := effective report policy
  let (suppressed, ids) := suppress policy.breakGlass now (scopedIds policy.scope findings)
  let blocked := decide (findings.length ≠ 0) && decide (ids ≠ [])
  let count (findings : List (Finding T)) : Str := Str.ofNat findings.length
  let rationale :=
    if findings.length = 0 then
      if (breaks report).length ≠ 0 then
        count (breaks report) ++ str " break findings below the materiality thresholds (count " ++
          Str.ofInt policy.materialityCount ++ str ", value " ++ Str.ofInt policy.materialityValueMinor ++ str ")"
      else str "no findings at or above break"
    else if blocked then
      count (criticals report) ++ str " critical and " ++
        count (if material report policy then breaks report else []) ++ str " break findings, exposure " ++
        exposureText (exposureByCurrency (breaks report)) ++ str "; outbound blocked for " ++ Str.ofNat ids.length ++
        str " id(s) under scope=" ++ policy.scope.value
    else
      count findings ++ str " blocking findings suppressed by break glass from " ++
        (match suppressed with | some glass => glass.approver | none => str "unknown") ++ str " until " ++
        (match suppressed with | some glass => floatText glass.expiresAt | none => str "0")
  { outboundBlocked := blocked, ingestBlocked := false, blockedIds := ids, suppressedBy := suppressed, rationale }

end Quidz
