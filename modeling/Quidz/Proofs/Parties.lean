import Quidz.Fleet
import Quidz.Proofs.Passes
import Quidz.Proofs.Sources

/-! What the parties of the service may count on from one another. Undisturbed, each is the
function it was taken apart from; among the others, each of its statements keeps to the
sources of what is stored and enters at most one effect in the book. -/

namespace Quidz.Proofs

open Library (Pool Process Move)

variable {T R : Type} [Seconds T] (rt : Runtime T R)

section Alone
variable (compact : Json → Str) (config : AppConfig T) (db : Db T)

theorem claimProcess_alone (provider : Provider) (payload : Mapping) (raw : Bytes) (headers : List (Str × Str))
    (now leaseSeconds : T) : (claimProcess rt provider payload raw headers now leaseSeconds).alone db =
      claimVerified rt provider payload raw headers now leaseSeconds db := by
  unfold claimProcess claimVerified
  cases identity provider payload with
  | error exc => rfl
  | ok id =>
    simp only [Process.alone_call]
    rcases claim rt provider id raw headers now leaseSeconds db with ⟨exc | result, after⟩
    · rfl
    · dsimp only
      split <;> rfl

theorem receiveStripeProcess_alone (raw : Bytes) (headers : List (Str × Str)) (secrets : List Bytes)
    (received now leaseSeconds toleranceSeconds : T) :
    (receiveStripeProcess rt raw headers secrets received now leaseSeconds toleranceSeconds).alone db =
      receiveStripe rt raw headers secrets received now leaseSeconds toleranceSeconds db := by
  unfold receiveStripeProcess receiveStripe bumping
  rw [Process.alone_call]
  cases verifyStripe rt raw headers secrets received toleranceSeconds with
  | error exc =>
    dsimp only
    split
    next => rfl
    next => split <;> rfl
  | ok _ =>
    cases payload rt raw with
    | error exc => rfl
    | ok body => exact claimProcess_alone rt _ _ _ _ _ _ _

theorem receiveAdyenProcess_alone (raw : Bytes) (hmacKeyHex : Str) (now leaseSeconds : T) :
    (receiveAdyenProcess rt raw hmacKeyHex now leaseSeconds).alone db = receiveAdyen rt raw hmacKeyHex now leaseSeconds db := by
  unfold receiveAdyenProcess receiveAdyen bumping
  rw [Process.alone_call]
  cases payload rt raw with
  | error exc => rfl
  | ok item =>
    dsimp only
    cases verifyAdyen rt item (adyenSignature rt item) hmacKeyHex with
    | error exc => dsimp only; split <;> rfl
    | ok _ => exact claimProcess_alone rt _ _ _ _ _ _ _

theorem receiveItemsProcess_alone (hmacKeyHex : Str) (now : Nat → T) (leaseSeconds : T) (items : List Mapping) (turn : Nat)
    (inProgress : Bool) : (receiveItemsProcess rt compact hmacKeyHex now leaseSeconds items turn inProgress).alone db =
      receiveItems rt compact hmacKeyHex now leaseSeconds items turn inProgress db := by
  induction items generalizing turn inProgress db with
  | nil => rfl
  | cons item rest ih =>
    unfold receiveItemsProcess receiveItems
    cases itemBody compact item with
    | error exc => rfl
    | ok body =>
      simp only [Process.alone_bind, receiveAdyenProcess_alone]
      rcases receiveAdyen rt body hmacKeyHex (now turn) leaseSeconds db with ⟨exc | result, after⟩
      · dsimp only
        split
        next => rfl
        next => split <;> rfl
      · exact ih after (turn + 1) (inProgress || result.reason = .inProgress)

theorem drainRowsProcess_alone (policy : RetryPolicy T) (now : T) (faults : Str → Option Exc) (rows : List Selected)
    (pass : Pass T R) :
    (drainRowsProcess rt policy now faults rows pass.budgetUsed pass.rng pass.report).alone pass.db =
      ((rows.foldl (drainRow rt policy now faults) pass).report, (rows.foldl (drainRow rt policy now faults) pass).db) := by
  induction rows generalizing pass with
  | nil => rfl
  | cons row rest ih =>
    rw [List.foldl_cons, drainRowsProcess, Process.alone_call]
    cases attempted : attempt rt policy now (faults row.deliveryId) row pass.db with
    | mk result after =>
      cases result with
      | ok settled =>
        have settles : drainRow rt policy now faults pass row =
            { pass with db := after, report := pass.report.merge settled } := by simp only [drainRow, attempted]
        rw [settles]
        exact ih { pass with db := after, report := pass.report.merge settled }
      | error exc =>
        have handles : drainRow rt policy now faults pass row = handle rt policy now row exc { pass with db := after } := by
          simp only [drainRow, attempted]
        rw [handles]
        exact ih (handle rt policy now row exc { pass with db := after })

theorem stripeProcess_alone (request : StripeRequest T) : (stripeProcess rt config request).alone db =
    stripeWebhook rt request.raw request.headers config.secrets request.received request.now config.leaseSeconds
      config.toleranceSeconds db := by
  rw [stripeProcess, Process.alone_bind, receiveStripeProcess_alone]
  rfl

theorem adyenProcess_alone (request : AdyenRequest T) : (adyenProcess rt compact config request).alone db =
    adyenWebhook rt compact request.raw config.adyenHmacKeyHex request.now config.leaseSeconds db := by
  unfold adyenProcess adyenWebhook
  cases (do adyenItems (← rt.loads request.raw) : Except Exc (List Mapping)) with
  | error exc => dsimp only; split <;> rfl
  | ok items => exact receiveItemsProcess_alone rt compact db _ _ _ _ _ _

theorem drainProcess_alone (call : DrainCall T R) :
    (drainProcess rt call.policy call.now call.faults call.limit call.rng).alone db =
      ((drain rt call.policy call.now call.limit call.rng call.faults db).report,
        (drain rt call.policy call.now call.limit call.rng call.faults db).db) :=
  drainRowsProcess_alone rt call.policy call.now call.faults (selectDue db call.now call.limit)
    { db, budgetUsed := budgetUsed db call.now, rng := call.rng.getD (jitterSource rt call.policy) }

theorem program_alone (party : Party T R) :
    (party.program rt compact config).alone db = party.serve rt compact config db := by
  cases party with
  | stripe request => rw [Party.program, Process.alone_bind, stripeProcess_alone]; rfl
  | adyen request => rw [Party.program, Process.alone_bind, adyenProcess_alone]; rfl
  | drain call => rw [Party.program, Process.alone_bind, drainProcess_alone]; rfl

/-- One party served after the other, with the answers so far. -/
def serveInTurn (parties : List (Party T R)) (answers : List (Party T R × Reply)) (db : Db T) :
    List (Party T R × Reply) × Db T :=
  match parties with
  | [] => (answers, db)
  | party :: rest => serveInTurn rest (answers ++ [(party, (party.serve rt compact config db).1)]) (party.serve rt compact config db).2

/-- Requests and passes that never meet are one of the schedules. -/
theorem served_in_turn (parties : List (Party T R)) : ∃ turns : List (Move (Party T R)),
    Fleet.run rt compact config turns =
      { state := (serveInTurn rt compact config parties [] .empty).2
        answers := (serveInTurn rt compact config parties [] .empty).1 } := by
  have serves (parties : List (Party T R)) (state : Db T) (answers : List (Party T R × Reply)) :
      ∃ turns : List (Move (Party T R)), Pool.run (Party.program rt compact config) { state, answers } turns =
        { state := (serveInTurn rt compact config parties answers state).2
          answers := (serveInTurn rt compact config parties answers state).1 } := by
    induction parties generalizing state answers with
    | nil => exact ⟨[], rfl⟩
    | cons party rest ih =>
      obtain ⟨steps, ran⟩ := Pool.run_alone (Party.program rt compact config)
        (show (Pool.mk state [] answers).working = [] from rfl) party
      obtain ⟨turns, further⟩ := ih (party.serve rt compact config state).2
        (answers ++ [(party, (party.serve rt compact config state).1)])
      refine ⟨(.start party :: List.replicate steps (.step 0)) ++ turns, ?_⟩
      rw [Pool.run_append, ran, program_alone]
      exact further
  exact serves parties .empty []

end Alone
end Quidz.Proofs
