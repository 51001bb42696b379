import Quidz.Cli

/-! The provider's payment list beside the database: a demo writes it, and `reconcile` and
the report route of the app read it back to reconcile against the tables the demo left. A
file is its text here, or what reading it raises. -/

namespace Quidz

variable {T R : Type} [Seconds T] (rt : Runtime T R)

section Write

/-- `asdict` of a payment of the list. -/
def paymentRecord (payment : RemotePayment T) : Mapping := [
  (str "payment_id", .str payment.paymentId),
  (str "provider_ref", .str payment.providerRef),
  (str "currency", .str payment.currency),
  (str "authorized_minor", .int payment.authorizedMinor),
  (str "captured_minor", .int payment.capturedMinor),
  (str "refunded_minor", .int payment.refundedMinor),
  (str "status", .str payment.status),
  (str "created_at", .float (rt.format payment.createdAt))]

def snapshotRecord (seed : Int) (scenario : Str) (payments : List (RemotePayment T)) (asOf : T) : Mapping := [
  (str "as_of", .float (rt.format asOf)),
  (str "seed", .int seed),
  (str "scenario", .str scenario),
  (str "payments", .list (payments.map fun payment => .dict (paymentRecord rt payment)))]

-- `json.dumps(value, indent=2, sort_keys=True)`.
variable (indented : Json → Str)

def writeSnapshot (seed : Int) (scenario : Str) (payments : List (RemotePayment T)) (asOf : T) : Str :=
  indented (.dict (snapshotRecord rt seed scenario payments asOf))

end Write

section Read

/-- The parameters of `RemotePayment`. -/
def paymentFields : List Str :=
  [str "payment_id", str "provider_ref", str "currency", str "authorized_minor", str "captured_minor", str "refunded_minor",
    str "status", str "created_at"]

/-- The names a call misses, as the interpreter lists them. -/
def enumerated : List Str → Str
  | [] => []
  | [name] => Json.reprStr rt.isprintable name
  | [name, last] => Json.reprStr rt.isprintable name ++ str " and " ++ Json.reprStr rt.isprintable last
  | names => Str.join (str ", ") (names.dropLast.map (Json.reprStr rt.isprintable)) ++ str ", and " ++
      Json.reprStr rt.isprintable (names.getLastD [])

/-- The keywords of a call, which have to be the parameters. -/
def keywords (row : Mapping) : Except Exc Unit := do
  match row.find? fun entry => !paymentFields.contains entry.1 with
  | some entry => raise .typeError (str "RemotePayment.__init__() got an unexpected keyword argument " ++
      Json.reprStr rt.isprintable entry.1)
  | none =>
    let missing := paymentFields.filter fun name => !row.has name
    raiseIf (missing ≠ []) .typeError (str "RemotePayment.__init__() missing " ++ Str.ofNat missing.length ++
      str " required positional argument" ++ (if missing.length = 1 then [] else str "s") ++ str ": " ++ enumerated rt missing)

/-- `type(value).__name__`. -/
def typeName : Json → Str
  | .null => str "NoneType"
  | .bool _ => str "bool"
  | .int _ => str "int"
  | .float _ => str "float"
  | .str _ => str "str"
  | .list _ => str "list"
  | .dict _ => str "dict"

/-- `RemotePayment(**row)`. The names are checked, and the values are taken as they come. -/
def readPayment (row : Json) : Except Exc Mapping := do
  let payment ← orRaise row.mapping .typeError
    (str "quidz.reconcile.RemotePayment() argument after ** must be a mapping, not " ++ typeName row)
  keywords rt payment
  return payment

/-- The rows a loop over the value meets. -/
def iterated (value : Json) : Except Exc (List Json) :=
  match value with
  | .list rows => .ok rows
  | .dict entries => .ok (entries.map fun entry => .str entry.1)
  | .str text => .ok (text.map fun c => .str [c])
  | scalar => raise .typeError (str "'" ++ typeName scalar ++ str "' object is not iterable")

-- `float(value)`.
variable (float : Json → Except Exc T)

def parseSnapshot (text : Str) : Except Exc (T × List Mapping) := do
  let payload ← rt.loadsText text
  let asOf ← float (← subscript rt payload (str "as_of"))
  let payments ← (← iterated (← subscript rt payload (str "payments"))).mapM (readPayment rt)
  return (asOf, payments)

/-- `except (OSError, ValueError, KeyError, TypeError)`. -/
def unreadable (exc : Exc) : Bool :=
  exc.isinstance .osError || exc.isinstance .valueError || exc.isinstance .keyError || exc.isinstance .typeError

/-- The command line's reading of the file, if there is one. -/
def readSnapshot (path : Str) (file : Option (Except Exc Str)) : Except Exc (Option (T × List Mapping)) :=
  match file with
  | none => .ok none
  | some content =>
    match (do parseSnapshot rt float (← content)) with
    | .ok read => .ok (some read)
    | .error exc =>
      if unreadable exc then
        raise .cliError (str "provider snapshot " ++ path ++ str " is not readable: " ++ exc.message)
      else .error exc

/-- The app's, for which a file that cannot be read is one that is not there. -/
def providerSnapshot (file : Option (Except Exc Str)) : Except Exc (Option (T × List Mapping)) :=
  match file with
  | none => .ok none
  | some content =>
    match (do parseSnapshot rt float (← content)) with
    | .ok read => .ok (some read)
    | .error exc => if unreadable exc then .ok none else .error exc

end Read

section Reconcile

/-- The choices of `--fail-on`. -/
inductive FailOn where
  | break_ | critical

def FailOn.severity : FailOn → Severity
  | .break_ => .break_
  | .critical => .critical

-- `float(value)`.
variable (float : Json → Except Exc T)

namespace Json

def integer : Json → Option Int
  | .int n => some n
  | _ => none

def text : Json → Option Str
  | .str value => some value
  | _ => none

def moment : Json → Option T
  | .int n => (float (.int n)).toOption
  | .float value => (float (.float value)).toOption
  | _ => none

end Json

/-- The payment of a row whose values are of the types that `RemotePayment` is annotated
with. -/
def annotated (row : Mapping) : Option (RemotePayment T) := do
  return {
    paymentId := ← (row.get (str "payment_id")).text
    providerRef := ← (row.get (str "provider_ref")).text
    currency := ← (row.get (str "currency")).text
    authorizedMinor := ← (row.get (str "authorized_minor")).integer
    capturedMinor := ← (row.get (str "captured_minor")).integer
    refundedMinor := ← (row.get (str "refunded_minor")).integer
    status := ← (row.get (str "status")).text
    createdAt := ← (row.get (str "created_at")).moment float }

/-- `_run_reconcile` on payments with a value of another type, which nothing refuses before
it gets there. What comes of that is left open: it may raise, or report with such a value
in the findings. -/
structure Unchecked (T Other : Type) where
  runReconcile : Database T → List Mapping → T → GatePolicy T → Except Exc Other
  outboundBlocked : Other → Bool
  severities : Other → List Severity

/-- The report and the decision on it. -/
inductive Outcome (T Other : Type) where
  | annotated (report : ExceptionReport T) (decision : GateDecision T)
  | other (value : Other)

variable {Other : Type} (unchecked : Unchecked T Other) (policy : GatePolicy T)

namespace Outcome

def outboundBlocked : Outcome T Other → Bool
  | .annotated _ decision => decision.outboundBlocked
  | .other value => unchecked.outboundBlocked value

def severities : Outcome T Other → List Severity
  | .annotated report _ => report.findings.map Finding.severity
  | .other value => unchecked.severities value

end Outcome

/-- `_run_reconcile` over the payments of a file. -/
def reconcileRows (database : Database T) (rows : List Mapping) (now : T) : Except Exc (Outcome T Other) :=
  match rows.mapM (annotated float) with
  | some remote => do
    let (report, decision) ← runReconcile rt database remote now policy
    return .annotated report decision
  | none => do return .other (← unchecked.runReconcile database rows now policy)

/-- What a command goes on to print, and what it exits with. -/
structure Reconciled (T Other : Type) where
  outcome : Outcome T Other
  exitCode : Nat

def exitCode (outcome : Outcome T Other) (failOn : Option FailOn) : Nat :=
  if outcome.outboundBlocked unchecked then 1
  else match failOn with
    | some failOn => if (outcome.severities unchecked).any fun severity => failOn.severity.order ≤ severity.order then 1 else 0
    | none => 0

/-- `quidz reconcile --db`, with the database if the path has one. -/
def reconcileCommand (path : Str) (database : Option (Database T)) (file : Option (Except Exc Str)) (asOf : Option T)
    (failOn : Option FailOn) : Except Exc (Reconciled T Other) := do
  let database ← orRaise database .cliError (str "no database at " ++ path)
  let snapshot ← readSnapshot rt float (path ++ str ".remote.json") file
  let (recorded, remote) ← orRaise snapshot .cliError (str "no provider snapshot beside " ++ path ++ str "; run `quidz demo --db " ++
    path ++ str "` first so the reconciliation has a payment list to compare against")
  let outcome ← reconcileRows rt float unchecked policy database remote (asOf.getD recorded)
  return { outcome, exitCode := exitCode unchecked outcome failOn }

/-- `main` around the command. -/
def exits (command : Except Exc (Reconciled T Other)) : Except Exc Nat :=
  match command with
  | .ok reconciled => .ok reconciled.exitCode
  | .error exc => if exc.isinstance .cliError then .ok 2 else .error exc

/-- What `/reconcile/report` answers: the report and the decision, or that it has no list to
reconcile against. -/
inductive ReportResponse (T Other : Type) where
  | report (outcome : Outcome T Other)
  | unavailable (response : JsonResponse)

def reconcileReport (database : Database T) (file : Option (Except Exc Str)) : Except Exc (ReportResponse T Other) := do
  match ← providerSnapshot rt float file with
  | none => return .unavailable (errorResponse 503 (str "no readable provider payment list beside the database"))
  | some (now, remote) => return .report (← reconcileRows rt float unchecked policy database remote now)

end Reconcile
end Quidz
