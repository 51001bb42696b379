import Quidz.App
import Quidz.Library.Process

/-! The service as it is deployed: requests of both webhooks and any number of drain
workers over one database. Every statement is one of a connection of its own, so the others
come between any two of them, and a process can end at any. -/

namespace Quidz

open Library (Process)

variable {T R α : Type} [Seconds T] (rt : Runtime T R)

section Receive

/-- A counter is bumped in a statement of its own. -/
def bumping (name : Metric) (next : Process (Db T) α) : Process (Db T) α :=
  .call (fun db => ((), db.bump name)) fun _ => next

def claimProcess (provider : Provider) (payload : Mapping) (raw : Bytes) (headers : List (Str × Str))
    (now leaseSeconds : T) : Process (Db T) (Except Exc ClaimResult) :=
  match identity provider payload with
  | .error exc => .done (.error exc)
  | .ok identity => .call (claim rt provider identity raw headers now leaseSeconds) fun
    | .error exc => .done (.error exc)
    | .ok result =>
      if result.reason = .duplicate then bumping .deduped (.done (.ok result)) else .done (.ok result)

def receiveStripeProcess (raw : Bytes) (headers : List (Str × Str)) (secrets : List Bytes)
    (received now leaseSeconds toleranceSeconds : T) : Process (Db T) (Except Exc ClaimResult) :=
  bumping .eventsReceived <|
    match verifyStripe rt raw headers secrets received toleranceSeconds with
    | .error exc =>
      if exc.isinstance .staleTimestamp then bumping .replayRejected (.done (.error exc))
      else if exc.isinstance .signatureError then bumping .signatureRejected (.done (.error exc))
      else .done (.error exc)
    | .ok _ =>
      match payload rt raw with
      | .error exc => .done (.error exc)
      | .ok body => claimProcess rt .stripe body raw headers now leaseSeconds

def receiveAdyenProcess (raw : Bytes) (hmacKeyHex : Str) (now leaseSeconds : T) :
    Process (Db T) (Except Exc ClaimResult) :=
  bumping .eventsReceived <|
    match payload rt raw with
    | .error exc => .done (.error exc)
    | .ok item =>
      match verifyAdyen rt item (adyenSignature rt item) hmacKeyHex with
      | .error exc =>
        if exc.isinstance .signatureError then bumping .signatureRejected (.done (.error exc)) else .done (.error exc)
      | .ok _ => claimProcess rt .adyen item raw [] now leaseSeconds

variable (compact : Json → Str)

def receiveItemsProcess (hmacKeyHex : Str) (now : Nat → T) (leaseSeconds : T) :
    List Mapping → Nat → Bool → Process (Db T) (Except Exc Response)
  | [], _, inProgress =>
    .done (.ok (if inProgress then ⟨409, str "delivery is still being processed"⟩ else ⟨200, str "[accepted]"⟩))
  | item :: rest, turn, inProgress =>
    match itemBody compact item with
    | .error exc => .done (.error exc)
    | .ok body => (receiveAdyenProcess rt body hmacKeyHex (now turn) leaseSeconds).bind fun
      | .error exc => .done <|
        if exc.isinstance .signatureError then .ok ⟨401, exc.message⟩
        else if exc.isinstance .eventError then .ok ⟨400, exc.message⟩
        else .error exc
      | .ok result => receiveItemsProcess hmacKeyHex now leaseSeconds rest (turn + 1) (inProgress || result.reason = .inProgress)

end Receive

section Drain
variable (policy : RetryPolicy T) (now : T) (faults : Str → Option Exc)

def drainRowsProcess : List Selected → Int → R → DrainReport → Process (Db T) DrainReport
  | [], _, _, report => .done report
  | row :: rest, budgetUsed, rng, report => .call (attempt rt policy now (faults row.deliveryId) row) fun
    | .ok settled => drainRowsProcess rest budgetUsed rng (report.merge settled)
    | .error exc =>
      .call (fun db =>
        let handled := handle rt policy now row exc { db, budgetUsed, rng, report }
        (handled, handled.db)) fun handled => drainRowsProcess rest handled.budgetUsed handled.rng handled.report

/-- A pass, whose budget is read before the rows are selected. -/
def drainProcess (limit : Int) (rng : Option R) : Process (Db T) DrainReport :=
  .call (fun db => (budgetUsed db now, db)) fun used =>
    .call (fun db => (selectDue db now limit, db)) fun rows =>
      drainRowsProcess rt policy now faults rows used (rng.getD (jitterSource rt policy)) {}

end Drain

/-- What `create_app` is given, and the defaults the front door has. -/
structure AppConfig (T : Type) where
  secrets : List Bytes
  adyenHmacKeyHex : Str
  leaseSeconds : T
  toleranceSeconds : T

/-- A request of the Stripe route, with the clock as it is verified and as it is claimed. -/
structure StripeRequest (T : Type) where
  raw : Bytes
  headers : List (Str × Str)
  received : T
  now : T

structure AdyenRequest (T : Type) where
  raw : Bytes
  now : Nat → T

structure DrainCall (T R : Type) where
  policy : RetryPolicy T
  now : T
  limit : Int
  rng : Option R
  faults : Str → Option Exc

inductive Party (T R : Type) where
  | stripe (request : StripeRequest T)
  | adyen (request : AdyenRequest T)
  | drain (call : DrainCall T R)

inductive Reply where
  | stripe (response : Except Exc JsonResponse)
  | adyen (response : Except Exc Response)
  | drain (report : DrainReport)

variable (compact : Json → Str) (config : AppConfig T)

def stripeProcess (request : StripeRequest T) : Process (Db T) (Except Exc JsonResponse) :=
  (receiveStripeProcess rt request.raw request.headers config.secrets request.received request.now config.leaseSeconds
    config.toleranceSeconds).bind fun result => .done (stripeAnswer result)

def adyenProcess (request : AdyenRequest T) : Process (Db T) (Except Exc Response) :=
  match (do adyenItems (← rt.loads request.raw)) with
  | .error exc =>
    .done (if exc.isinstance .valueError || exc.isinstance .eventError then .ok ⟨400, exc.message⟩ else .error exc)
  | .ok items => receiveItemsProcess rt compact config.adyenHmacKeyHex request.now config.leaseSeconds items 0 false

def Party.program : Party T R → Process (Db T) Reply
  | .stripe request => (stripeProcess rt config request).bind fun response => .done (.stripe response)
  | .adyen request => (adyenProcess rt compact config request).bind fun response => .done (.adyen response)
  | .drain call =>
    (drainProcess rt call.policy call.now call.faults call.limit call.rng).bind fun report => .done (.drain report)

/-- A party with nobody else at work: the routes of the app, and `drain`. -/
def Party.serve (party : Party T R) (db : Db T) : Reply × Db T :=
  match party with
  | .stripe request =>
    let (response, after) := stripeWebhook rt request.raw request.headers config.secrets request.received request.now
      config.leaseSeconds config.toleranceSeconds db
    (.stripe response, after)
  | .adyen request =>
    let (response, after) := adyenWebhook rt compact request.raw config.adyenHmacKeyHex request.now config.leaseSeconds db
    (.adyen response, after)
  | .drain call =>
    let pass := Quidz.drain rt call.policy call.now call.limit call.rng call.faults db
    (.drain pass.report, pass.db)

/-- The parties at work on the database. -/
abbrev Fleet (T R : Type) := Library.Pool (Db T) (Party T R) Reply

/-- The service from the schema on, under a schedule of its parties. -/
def Fleet.run (turns : List (Library.Move (Party T R))) : Fleet T R :=
  Library.Pool.run (Party.program rt compact config) { state := Db.empty } turns

end Quidz
