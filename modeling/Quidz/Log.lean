import Quidz.Inbox
import Quidz.Report

/-! The delivery log: what a run accepted, in order of receipt, with the terminal state it
came to, and the replay of it against a fresh store. A file is its text here. -/

namespace Quidz

variable {T R : Type} [Seconds T] (rt : Runtime T R)

def listPayments (db : Db T) : List PaymentState :=
  (db.payments.rows.insertionSort fun first second => first.paymentId ≤ second.paymentId).map rowToState

/-- `_terminal`, with its entries in the order they are listed in. -/
def terminal (db : Db T) : List (Str × Status) := (listPayments db).map fun state => (state.paymentId, deriveStatus state)

def payments (terminal : List (Str × Status)) : Mapping := terminal.map fun entry => (entry.1, .str entry.2.value)

section Write

/-- The record of one stored delivery, its identity being what follows the first colon. -/
def deliveryRecord (row : Delivery T) : Except Exc Json := do
  let (_, identity) ← orRaise (row.deliveryId.partition (codePoint ':')) .indexError (str "list index out of range")
  let headers ← rt.loadsText row.headers
  return .dict [
    (str "kind", .str (str "delivery")),
    (str "provider", .str row.provider.value),
    (str "identity", .str identity),
    (str "headers", headers),
    (str "raw_b64", .str (rt.b64encode row.raw))]

def terminalRecord (terminal : List (Str × Status)) : Json :=
  .dict [(str "kind", .str (str "terminal")), (str "payments", .dict (payments terminal))]

def writeLog (db : Db T) (terminal : List (Str × Status)) : Except Exc Str := do
  let records ← (db.deliveries.rows.insertionSort receivedBefore).mapM (deliveryRecord rt)
  let lines := (records ++ [terminalRecord terminal]).map rt.dumps
  return Str.join (str "\n") lines ++ str "\n"

end Write

section Read

/-- A delivery as it was received. -/
structure Received where
  provider : Provider
  identity : Str
  raw : Bytes
  headers : List (Str × Str)

inductive LogRecord where
  | delivery (received : Received)
  | terminal (payments : Mapping)

/-- `value[key]`. -/
def subscript (value : Json) (key : Str) : Except Exc Json :=
  match value with
  | .dict entries => orRaise (entries.lookup key) .keyError (Json.reprStr rt.isprintable key)
  | .list _ => raise .typeError (str "list indices must be integers or slices, not str")
  | .str _ => raise .typeError (str "string indices must be integers, not 'str'")
  | .null => raise .typeError (str "'NoneType' object is not subscriptable")
  | .bool _ => raise .typeError (str "'bool' object is not subscriptable")
  | .int _ => raise .typeError (str "'int' object is not subscriptable")
  | .float _ => raise .typeError (str "'float' object is not subscriptable")

/-- `Provider(value)`. -/
def Provider.of (value : Json) : Except Exc Provider :=
  match value with
  | .str text =>
    if text = Provider.stripe.value then .ok .stripe
    else if text = Provider.adyen.value then .ok .adyen
    else raise .valueError (value.repr rt.isprintable ++ str " is not a valid Provider")
  | _ => raise .valueError (value.repr rt.isprintable ++ str " is not a valid Provider")

/-- `dict(value)` of a mapping. A sequence of pairs, which `dict` takes too, is refused
like any other value. -/
def asDict (value : Json) : Except Exc Mapping :=
  orRaise value.mapping .typeError (value.repr rt.isprintable ++ str " is no mapping")

/-- A value where the annotations have a `str`. -/
def asText (value : Json) : Except Exc Str :=
  match value with
  | .str text => .ok text
  | _ => raise .typeError (value.repr rt.isprintable ++ str " is no text")

def decodeBase64 (text : Str) : Except Exc Bytes := orRaise (rt.b64decode text) .valueError (rt.b64refusal text)

def readDelivery (record : Json) : Except Exc Received := do
  let provider ← Provider.of rt (← subscript rt record (str "provider"))
  let identity ← asText rt (← subscript rt record (str "identity"))
  let raw ← decodeBase64 rt (← asText rt (← subscript rt record (str "raw_b64")))
  let headers ← asDict rt (← subscript rt record (str "headers"))
  let headers ← headers.mapM fun header => return (header.1, ← asText rt header.2)
  return { provider, identity, raw, headers }

def readRecord (line : Str) : Except Exc LogRecord := do
  let record ← rt.loadsText line
  match ← subscript rt record (str "kind") with
  | .str kind =>
    if kind = str "terminal" then return .terminal (← asDict rt (← subscript rt record (str "payments")))
    else return .delivery (← readDelivery rt record)
  | _ => return .delivery (← readDelivery rt record)

/-- One line, and the deliveries and the terminal state read before it. -/
def readLine (path : Str) (read : List Received × Option Mapping) (line : Str × Nat) :
    Except Exc (List Received × Option Mapping) :=
  if Str.strip rt.isspace line.1 = [] then .ok read
  else
    match readRecord rt line.1 with
    | .ok (.delivery received) => .ok (read.1 ++ [received], read.2)
    | .ok (.terminal payments) => .ok (read.1, some payments)
    | .error exc =>
      if exc.isinstance .valueError || exc.isinstance .keyError || exc.isinstance .typeError then
        raise .cliError (path ++ str " line " ++ Str.ofNat line.2 ++ str " is not a valid delivery record: " ++ exc.message)
      else .error exc

def readLog (path file : Str) : Except Exc (List Received × Option Mapping) := do
  let (deliveries, expected) ← (file.splitlines.zipIdx 1).foldlM (readLine rt path) ([], none)
  raiseIf (deliveries.isEmpty) .cliError (path ++ str " carries no delivery records")
  return (deliveries, expected)

end Read

section Replay
variable (policy : RetryPolicy T) (interval leaseSeconds : T)

/-- Deliveries claimed one after the other, the clock going on by `_RECEIPT_INTERVAL` after
each. -/
def claimAll : List Received → T → Db T → Except Exc (T × Db T)
  | [], now, db => .ok (now, db)
  | received :: rest, now, db =>
    match claim rt received.provider received.identity received.raw received.headers now leaseSeconds db with
    | (.ok _, after) => claimAll rest (now + interval) after
    | (.error exc, _) => .error exc

/-- Deliveries claimed into an empty store, and one `drain_until_idle`. -/
def runAll (deliveries : List Received) (start : T) : Except Exc (Db T) := do
  let (now, db) ← claimAll rt interval leaseSeconds deliveries start .empty
  return (drainUntilIdle rt (FakeClock T) policy (fun _ => none) defaultPasses now db).db

/-- `==` of two mappings, the second with statuses for values. -/
def sameTerminal (expected : Mapping) (terminal : List (Str × Status)) : Bool :=
  expected.length = terminal.length && terminal.all fun entry =>
    match expected.lookup entry.1 with
    | some (.str text) => text = entry.2.value
    | _ => false

/-- The terminal state a replay comes to, and whether it is the one in the log. -/
def replay (path file : Str) (start : T := 0) : Except Exc (List (Str × Status) × Bool) := do
  let (deliveries, expected) ← readLog rt path file
  let db ← runAll rt policy interval leaseSeconds deliveries start
  return (terminal db, expected.all fun payments => sameTerminal payments (terminal db))

end Replay
end Quidz
