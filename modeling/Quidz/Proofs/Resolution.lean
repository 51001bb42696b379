import Quidz.Proofs.Attempts
import Quidz.Proofs.Fleet

/-! What becomes of a delivery that was acknowledged. Each pass that takes it up while it
waits costs it an attempt, parks it or settles it, so that it is not taken up for ever. -/

namespace Quidz.Proofs

open Library (Table Move)

variable {T R : Type} [Seconds T] (rt : Runtime T R)

/-- The most attempts that any reason code allows. -/
def attemptLimit : Nat := 5

omit [Seconds T] in
theorem retried_below {policy : RetryPolicy T} {exc : Exc} {attempt : Nat} {used : Int}
    (retried : shouldRetry policy (classify exc) attempt used = true) : attempt < attemptLimit := by
  have capped := shouldRetry_bound retried
  unfold attemptCap at capped
  unfold attemptLimit
  omega

/-- A pass that is not cut short takes the delivery up while it waits to be tried. -/
def takesUp (id : Str) (db : Db T) : InboxOp T R → Bool
  | .drain _ now limit _ _ => (selectDue db now limit).any fun row => row.deliveryId = id ∧ row.state = .claimed
  | _ => false

/-- How often the delivery is taken up in a run. -/
def takenUp (id : Str) : Db T → List (InboxOp T R) → Nat
  | _, [] => 0
  | db, op :: rest => (if takesUp id db op then 1 else 0) + takenUp id (inboxStep rt db op) rest

/-- Where a delivery stands that was taken up so often. -/
def Spends (count : Nat) (row : Delivery T) : Prop :=
  match row.state with
  | .claimed => count ≤ row.attempts ∧ (0 < count → row.attempts < attemptLimit)
  | .parked => count ≤ row.attempts + 1
  | _ => True

/-- So does the delivery under the id, if there is one. -/
structure Spending (id : Str) (count : Nat) (db : Db T) : Prop where
  stored : ∀ row, db.deliveries.find? id = some row → Spends count row
  unknown : db.deliveries.find? id = none → count = 0
  bounded : count ≤ attemptLimit

variable {rt} {id : Str} {count : Nat} {db after : Db T}

namespace Spending

omit [Seconds T] in
theorem congr (spending : Spending id count db) (same : after.deliveries.find? id = db.deliveries.find? id) :
    Spending id count after :=
  ⟨fun row found => spending.stored row (same ▸ found), fun none => spending.unknown (same ▸ none), spending.bounded⟩

section Change
omit [Seconds T]
variable {other : Str} {row : Delivery T} {change : Delivery T → Delivery T} {keeps}

/-- A delivery is written to, this one or another. -/
theorem changed (spending : Spending id count db) (found : db.deliveries.find? other = some row)
    (deliveries : after.deliveries = db.deliveries.modify other change keeps)
    (spends : Spends count row → Spends count (change row)) : Spending id count after := by
  refine ⟨fun later located => ?_, fun none => ?_, spending.bounded⟩
  · rw [deliveries, Table.find?_modify] at located
    split at located
    next same =>
      subst same
      rw [found, Option.map_some, Option.some.injEq] at located
      exact located ▸ spends (spending.stored row found)
    next => exact spending.stored later located
  · rw [deliveries, Table.find?_modify] at none
    split at none
    next same =>
      subst same
      rw [found] at none
      cases none
    next => exact spending.unknown none

end Change

theorem claimed {fresh : Delivery T} {now : T} {answer : Except Exc ClaimResult} (spending : Spending id count db)
    (state : fresh.state = .claimed) (answered : Claimed db fresh now answer after) : Spending id count after := by
  cases answered with
  | @new deliveries bound inserted =>
    refine ⟨fun row located => ?_, fun none => ?_, spending.bounded⟩
    · rw [Table.find?_insert inserted] at located
      split at located
      next same =>
        subst same
        obtain rfl := Option.some.inj located
        have never := spending.unknown (Table.insert?_eq_some.mp inserted).1
        subst never
        simp [Spends, state]
      next => exact spending.stored row located
    · rw [Table.find?_insert inserted] at none
      split at none
      next => cases none
      next => exact spending.unknown none
  | reclaimed found held => exact spending.changed found (Db.updateDelivery_deliveries _ _ _ _) fun spends => spends
  | _ => exact spending

variable {policy : RetryPolicy T} {now : T} {row : Selected}

theorem settledRow_spends (outcome : ApplyOutcome) {held : Delivery T} (pending : held.state.pending = true)
    (spends : Spends count held) : Spends count (settledRow policy now outcome held) := by
  cases outcome with
  | parked =>
    unfold Spends at spends
    cases state : held.state with
    | claimed => rw [state] at spends; exact spends.1.trans (Nat.le_succ _)
    | parked => rw [state] at spends; exact spends
    | _ => rw [state] at pending; cases pending
  | _ => trivial

theorem handledRow_spends (exc : Exc) (used : Int) (rng : R) {held : Delivery T} (attempts : held.attempts = row.attempts)
    (pending : held.state.pending = true) (spends : Spends count held) :
    Spends count (handledRow now (row.attempts + 1) (classify exc) (retryDelay rt policy row exc used rng) held) := by
  unfold retryDelay
  split
  next retried =>
    unfold Spends at spends
    rw [attempts] at spends
    refine ⟨?_, fun _ => retried_below retried⟩
    cases state : held.state with
    | claimed => rw [state] at spends; exact spends.1.trans (Nat.le_succ _)
    | parked => rw [state] at spends; exact spends
    | _ => rw [state] at pending; cases pending
  next => trivial

theorem attempted {fault : Option Exc} (spending : Spending id count db) (stored : Stored Held db row) :
    Spending id count (attempt rt policy now fault row db).2 := by
  have attempted := attempted_self rt policy now fault row db
  generalize (attempt rt policy now fault row db).1 = answer at attempted
  generalize (attempt rt policy now fault row db).2 = after at attempted ⊢
  obtain ⟨held, found, _, _, _, pending⟩ := stored
  cases attempted with
  | @delivered event outcome reached sound decoded delivered =>
    have deliveries := settle_deliveries policy now row.deliveryId row.state outcome reached
    rw [delivered.deliveries] at deliveries
    exact spending.changed found deliveries (settledRow_spends outcome pending)
  | _ => exact spending

theorem handled {exc : Exc} {pass : Pass T R} (spending : Spending id count pass.db) (stored : Stored Held pass.db row) :
    Spending id count (handle rt policy now row exc pass).db := by
  obtain ⟨held, found, _, attempts, _, pending⟩ := stored
  exact spending.changed found (handle_deliveries rt policy now row exc pass) (handledRow_spends exc _ _ attempts pending)

variable (rt policy now) in
/-- A row of a pass costs the delivery it is about, if that was waiting. -/
theorem drainRow_spends (faults : Str → Option Exc) {pass : Pass T R} {held : Delivery T}
    (found : pass.db.deliveries.find? row.deliveryId = some held) (attempts : held.attempts = row.attempts)
    (waiting : held.state = .claimed) (spends : Spends count held) : ∃ later,
      (drainRow rt policy now faults pass row).db.deliveries.find? row.deliveryId = some later ∧ Spends (count + 1) later := by
  unfold Spends at spends
  rw [waiting] at spends
  have attempted := attempted_self rt policy now (faults row.deliveryId) row pass.db
  unfold drainRow
  rcases answered : attempt rt policy now (faults row.deliveryId) row pass.db with ⟨exc | report, reached⟩
  · dsimp only
    obtain rfl := attempt_error rt policy now answered
    refine ⟨_, by rw [handle_deliveries, Table.find?_modify, if_pos rfl, found, Option.map_some], ?_⟩
    unfold retryDelay
    split
    next retried => exact ⟨Nat.succ_le_succ (attempts ▸ spends.1), fun _ => retried_below retried⟩
    next => trivial
  · rw [answered] at attempted
    dsimp only at attempted ⊢
    generalize result : (Except.ok report : Except Exc DrainReport) = answer at attempted
    cases attempted with
    | @delivered event outcome middle sound decoded delivered =>
      have deliveries := settle_deliveries policy now row.deliveryId row.state outcome middle
      rw [delivered.deliveries] at deliveries
      refine ⟨_, by rw [deliveries, Table.find?_modify, if_pos rfl, found, Option.map_some], ?_⟩
      cases outcome with
      | parked => exact Nat.succ_le_succ spends.1
      | _ => trivial
    | _ => cases result

theorem cut (limit : Int) (rng : Option R) (faults : Str → Option Exc) (transactions : Nat) (spending : Spending id count db) :
    Spending id count ((select rt policy now limit rng faults db).cut rt transactions db).2 :=
  cut_keeps (fun _ _ _ _ _ kept stored => kept.attempted stored.held) (fun _ _ _ _ _ kept stored => kept.handled stored.held)
    transactions (select_synced rt policy now limit rng faults db) spending

/-- The count goes with the operations. -/
theorem step (spending : Spending id count db) (op : InboxOp T R) :
    Spending id (count + if takesUp id db op then 1 else 0) (inboxStep rt db op) := by
  cases op with
  | claim provider identity raw headers now leaseSeconds =>
    exact spending.claimed rfl (claimed_self rt provider identity raw headers now leaseSeconds db)
  | crash policy now limit rng faults transactions => exact spending.cut limit rng faults transactions
  | drain policy now limit rng faults =>
    by_cases taken : takesUp id db (.drain policy now limit rng faults : InboxOp T R) = true
    · rw [if_pos taken]
      obtain ⟨row, selected, both⟩ := List.any_eq_true.mp taken
      obtain ⟨rfl, waiting⟩ := of_decide_eq_true both
      obtain ⟨stored, inside, _, rfl⟩ := mem_selectDue selected
      have found : db.deliveries.find? stored.deliveryId = some stored := Table.find?_eq_some.mpr ⟨inside, rfl⟩
      have spends := spending.stored stored found
      obtain ⟨pass, same, settles⟩ := drain_row rt policy now limit rng faults db selected
      obtain ⟨later, located, spent⟩ := drainRow_spends rt policy now faults (same.trans found) rfl waiting spends
      have reached := settles.trans located
      refine ⟨fun row other => ?_, fun none => ?_, ?_⟩
      · obtain rfl := Option.some.inj (reached.symm.trans other)
        exact spent
      · cases reached.symm.trans none
      · unfold Spends at spends
        rw [show stored.state = .claimed from waiting] at spends
        rcases Nat.eq_zero_or_pos count with rfl | positive
        · decide
        · exact spends.1.trans_lt (spends.2 positive)
    · rw [if_neg taken]
      obtain ⟨transactions, whole⟩ := drain_eq_cut rt policy now limit rng faults db
      change Spending id count (drain rt policy now limit rng faults db).db
      rw [← whole]
      exact spending.cut limit rng faults transactions

theorem run (spending : Spending id count db) (ops : List (InboxOp T R)) :
    Spending id (count + takenUp rt id db ops) (inboxRun rt db ops) := by
  induction ops generalizing count db with
  | nil => exact spending
  | cons op rest ih =>
    rw [takenUp, ← Nat.add_assoc]
    exact ih (spending.step op)

omit [Seconds T] in
theorem start (id : Str) (db : Db T) : Spending id 0 db := by
  refine ⟨fun row _ => ?_, fun _ => rfl, Nat.zero_le _⟩
  unfold Spends
  split <;> simp

end Spending

variable (rt) in
theorem inboxRun_climbs (db : Db T) (ops : List (InboxOp T R)) : Climbs db (inboxRun rt db ops) := by
  have cut (db : Db T) (policy : RetryPolicy T) (now : T) (limit : Int) (rng : Option R) (faults : Str → Option Exc)
      (transactions : Nat) : Climbs db ((select rt policy now limit rng faults db).cut rt transactions db).2 :=
    cut_keeps (fun _ _ _ _ _ climbs stored => climbs.trans (.attempted stored.held))
      (fun _ _ _ _ _ climbs stored => climbs.trans (.handled stored.held)) transactions
      (select_synced rt policy now limit rng faults db) (.refl db)
  refine List.foldlRecOn ops (inboxStep rt) (.refl db) fun reached climbs op _ => climbs.trans ?_
  cases op with
  | claim provider identity raw headers now leaseSeconds =>
    exact .claimed (claimed_self rt provider identity raw headers now leaseSeconds reached)
  | crash policy now limit rng faults transactions => exact cut reached policy now limit rng faults transactions
  | drain policy now limit rng faults =>
    obtain ⟨transactions, whole⟩ := drain_eq_cut rt policy now limit rng faults reached
    have climbs := cut reached policy now limit rng faults transactions
    rw [whole] at climbs
    exact climbs

variable (rt) (compact : Json → Str) (config : AppConfig T)

/-- What was acknowledged under any schedule comes to an end. Whatever is then claimed,
drained or cut short, no delivery is taken up more than five times while it waits, and one
that was waits no more: it was settled, buried or parked. -/
theorem acknowledged_resolved (turns : List (Move (Party T R))) {party : Party T R} {answer : Reply}
    (answered : (party, answer) ∈ (Fleet.run rt compact config turns).answers) (ops : List (InboxOp T R)) :
    let before := (Fleet.run rt compact config turns).state
    let after := inboxRun rt before ops
    Acknowledged rt compact after party answer ∧ ∀ id, takenUp rt id before ops ≤ attemptLimit ∧
      (takenUp rt id before ops = attemptLimit →
        ∀ row, after.deliveries.find? id = some row → row.state ≠ .claimed) := by
  intro before after
  refine ⟨?_, fun id => ?_⟩
  · have acknowledged := (acknowledged_stored rt compact config turns [] answered).2
    rw [List.append_nil] at acknowledged
    refine acknowledged.later fun id known => ?_
    obtain ⟨row, found⟩ := Option.isSome_iff_exists.mp (known_find?.mp known)
    obtain ⟨later, located, _⟩ := inboxRun_climbs rt before ops id row found
    exact known_find?.mpr (Option.isSome_iff_exists.mpr ⟨later, located⟩)
  · have spending : Spending id (0 + takenUp rt id before ops) after := (Spending.start id before).run ops
    rw [Nat.zero_add] at spending
    refine ⟨spending.bounded, fun all row found waiting => ?_⟩
    have spends := spending.stored row found
    unfold Spends at spends
    rw [waiting, all] at spends
    exact (spends.2 (by decide)).not_ge spends.1

open StripeBinding (signing)

/-- Five passes in which the store fails every delivery. -/
def failingPasses : List (InboxOp Int Unit) :=
  [1000, 2000, 3000, 4000, 5000].map fun now => .drain .standard now defaultLimit none fun _ =>
    some ⟨.operationalError, str "database is locked"⟩

/-- The fifth of them buries the delivery that was acknowledged. -/
theorem acknowledged_resolved_signed : ∃ steps response, response.statusCode = 200 ∧
    let after := inboxRun signing (Fleet.run signing Json.written signedConfig
      (.start (.stripe signedRequest) :: List.replicate steps (.step 0))).state failingPasses
    Acknowledged signing Json.written after (.stripe signedRequest : Party Int Unit) (.stripe (.ok response)) ∧
      ∀ row, after.deliveries.find? (str "stripe:evt_1") = some row → row.state ≠ .claimed := by
  obtain ⟨steps, response, accepted, ran⟩ := signed_answered
  have answered : (.stripe signedRequest, .stripe (.ok response)) ∈ (Fleet.run signing Json.written signedConfig
      (.start (.stripe signedRequest) :: List.replicate steps (.step 0))).answers := by
    rw [ran]
    exact List.mem_singleton.mpr rfl
  have resolved := acknowledged_resolved signing Json.written signedConfig _ answered failingPasses
  have taken : takenUp signing (str "stripe:evt_1") (Party.serve signing Json.written signedConfig
      (.stripe signedRequest : Party Int Unit) Db.empty).2 failingPasses = attemptLimit := by decide +kernel
  refine ⟨steps, response, accepted, resolved.1, (resolved.2 (str "stripe:evt_1")).2 ?_⟩
  simpa only [ran] using taken

end Quidz.Proofs
