import Quidz.Proofs.Refresh
import Quidz.Proofs.Retries

/-! The attempts of a delivery over whole runs. They only grow, stay below the cap
while the delivery is pending, and bound how often it was rescheduled. -/

namespace Quidz.Proofs

open Library (Table)

variable {T R : Type}

/-- No reason code is retried more often than this, whatever the policy allows. -/
def attemptCap (policy : RetryPolicy T) : Int := min policy.maxAttempts 5

theorem attemptCap_pos {policy : RetryPolicy T} (positive : 1 ≤ policy.maxAttempts) : 0 < attemptCap policy :=
  Int.lt_min.mpr ⟨positive, by decide⟩

theorem classify_listed (exc : Exc) : classify exc ∈ ReasonCode.unknown :: classifiers.map Prod.snd := by
  unfold classify
  split
  next entry found => exact List.mem_cons_of_mem _ (List.mem_map_of_mem (List.mem_of_find?_eq_some found))
  next => exact List.mem_cons_self

theorem shouldRetry_bound {policy : RetryPolicy T} {exc : Exc} {attempt : Nat} {used : Int}
    (retried : shouldRetry policy (classify exc) attempt used = true) : (attempt : Int) < attemptCap policy := by
  have capped : ∀ reason ∈ .unknown :: classifiers.map Prod.snd, reason.retryable = true → ∃ cap ∈ reason.maxAttempts, cap ≤ 5 := by
    decide
  unfold shouldRetry at retried
  split at retried
  next => cases retried
  next retryable =>
    obtain ⟨cap, own, low⟩ := capped _ (classify_listed exc) (by simpa using retryable)
    split at retried
    next => cases retried
    next =>
      rw [Option.mem_def.mp own, decide_eq_true_eq] at retried
      exact Int.lt_of_lt_of_le retried (Int.le_min.mpr ⟨Int.min_le_left _ _, (Int.min_le_right _ _).trans low⟩)

/-- How often a delivery was rescheduled. -/
def reschedulings (id : Str) (retries : List (Retry T)) : Nat := (retries.filter fun retry => retry.deliveryId = id).length

theorem reschedulings_cons (id : Str) (retry : Retry T) (retries : List (Retry T)) :
    reschedulings id (retry :: retries) = (if retry.deliveryId = id then 1 else 0) + reschedulings id retries := by
  unfold reschedulings
  rw [List.filter_cons]
  by_cases same : retry.deliveryId = id
  · simp [same, Nat.add_comm]
  · simp [same]

/-- No delivery loses an attempt. -/
def Climbs (before after : Db T) : Prop :=
  ∀ id row, before.deliveries.find? id = some row →
    ∃ later, after.deliveries.find? id = some later ∧ row.attempts ≤ later.attempts

/-- A delivery within the cap. While it is pending, every rescheduling has cost it an
attempt. -/
structure Capped (policy : RetryPolicy T) (count : Nat) (row : Delivery T) : Prop where
  below : (count : Int) < attemptCap policy
  spent : row.state.pending = true → count ≤ row.attempts ∧ (row.attempts : Int) < attemptCap policy

structure Bounded (policy : RetryPolicy T) (logged : Logged T R) : Prop where
  rows : ∀ row ∈ logged.db.deliveries.rows, Capped policy (reschedulings row.deliveryId logged.retries) row
  known : ∀ retry ∈ logged.retries, (logged.db.deliveries.find? retry.deliveryId).isSome
  worker : ∀ worker, logged.worker = some worker → worker.policy = policy

section Steps
variable {policy : RetryPolicy T} {logged : Logged T R}

/-- A step that writes to one delivery leaves the others within the cap. -/
theorem Bounded.changed (bounded : Bounded policy logged) {after : Logged T R} {id : Str} {row : Delivery T}
    {change : Delivery T → Delivery T} {keeps} (found : logged.db.deliveries.find? id = some row)
    (deliveries : after.db.deliveries = logged.db.deliveries.modify id change keeps)
    (capped : Capped policy (reschedulings id after.retries) (change row))
    (others : ∀ other ≠ id, reschedulings other after.retries = reschedulings other logged.retries)
    (known : ∀ retry ∈ after.retries, retry.deliveryId = id ∨ retry ∈ logged.retries)
    (worker : ∀ worker, after.worker = some worker → worker.policy = policy) : Bounded policy after := by
  obtain ⟨inside, own⟩ := Table.find?_eq_some.mp found
  refine ⟨fun other member => ?_, fun retry member => ?_, worker⟩
  · rw [deliveries] at member
    rcases Table.mem_modify.mp member with ⟨old, among, same, rfl⟩ | ⟨among, different⟩
    · rw [keeps, same, logged.db.deliveries.key_inj among inside (same.trans own.symm)]
      exact capped
    · rw [others _ different]
      exact bounded.rows other among
  · rw [deliveries, Table.find?_modify]
    split
    next => rw [found]; rfl
    next different => exact bounded.known retry ((known retry member).resolve_left (Ne.symm different))

theorem Climbs.refl (db : Db T) : Climbs db db := fun _ row found => ⟨row, found, Nat.le_refl _⟩

theorem Climbs.changed {db after : Db T} {id : Str} {row : Delivery T} {change : Delivery T → Delivery T} {keeps}
    (found : db.deliveries.find? id = some row) (deliveries : after.deliveries = db.deliveries.modify id change keeps)
    (climbs : row.attempts ≤ (change row).attempts) : Climbs db after := by
  intro other old located
  rw [deliveries, Table.find?_modify]
  split
  next same =>
    subst same
    obtain rfl := Option.some.inj (found.symm.trans located)
    exact ⟨change row, by rw [found, Option.map_some], climbs⟩
  next => exact ⟨old, located, Nat.le_refl _⟩

variable [Seconds T] {rt : Runtime T R}

theorem Climbs.claimed {db after : Db T} {fresh : Delivery T} {now : T} {result : Except Exc ClaimResult}
    (answered : Claimed db fresh now result after) : Climbs db after := by
  cases answered with
  | new bound inserted =>
    intro id row found
    refine ⟨row, ?_, Nat.le_refl _⟩
    rw [Table.find?_insert inserted]
    split
    next same =>
      rw [← same, (Table.insert?_eq_some.mp inserted).1] at found
      cases found
    next => exact found
  | reclaimed found => exact .changed found (Db.updateDelivery_deliveries _ _ _ _) (Nat.le_refl _)
  | _ => exact .refl db

theorem Climbs.attempted {db : Db T} {now : T} {fault : Option Exc} {row : Selected} (stored : Stored Held db row) :
    Climbs db (attempt rt policy now fault row db).2 := by
  have attempted := attempted_self rt policy now fault row db
  generalize (attempt rt policy now fault row db).1 = answer at attempted
  generalize (attempt rt policy now fault row db).2 = after at attempted ⊢
  obtain ⟨held, found, _⟩ := stored
  cases attempted with
  | @delivered event outcome reached sound decoded delivered =>
    have deliveries := settle_deliveries policy now row.deliveryId row.state outcome reached
    rw [delivered.deliveries] at deliveries
    exact .changed found deliveries (by cases outcome <;> exact Nat.le_refl _)
  | _ => exact .refl db

theorem Climbs.handled {now : T} {row : Selected} {exc : Exc} {pass : Pass T R} (stored : Stored Held pass.db row) :
    Climbs pass.db (handle rt policy now row exc pass).db := by
  obtain ⟨held, found, _, attempts, _⟩ := stored
  refine .changed found (handle_deliveries rt policy now row exc pass) ?_
  rw [attempts]
  cases retryDelay rt policy row exc pass.budgetUsed pass.rng <;> exact Nat.le_succ _

omit [Seconds T] in
theorem Bounded.unscheduled (bounded : Bounded policy logged) {id : Str}
    (absent : logged.db.deliveries.find? id = none) : reschedulings id logged.retries = 0 := by
  rw [reschedulings, List.length_eq_zero_iff, List.filter_eq_nil_iff]
  intro retry member
  rw [decide_eq_true_eq]
  intro same
  have known := bounded.known retry member
  rw [same, absent] at known
  cases known

omit [Seconds T] in
theorem Bounded.inserted (bounded : Bounded policy logged) (positive : 1 ≤ policy.maxAttempts) {after : Logged T R}
    {fresh : Delivery T} (inserted : logged.db.deliveries.insert? fresh = some after.db.deliveries)
    (unattempted : fresh.attempts = 0) (retries : after.retries = logged.retries)
    (worker : after.worker = logged.worker) : Bounded policy after := by
  obtain ⟨absent, rows⟩ := Table.insert?_eq_some.mp inserted
  have never := bounded.unscheduled absent
  have room := attemptCap_pos positive
  refine ⟨fun row member => ?_, fun retry member => ?_, fun other same => bounded.worker other (worker ▸ same)⟩
  · rw [rows] at member
    rw [retries]
    rcases List.mem_append.mp member with old | new
    · exact bounded.rows row old
    · rw [List.mem_singleton.mp new, never]
      exact ⟨room, fun _ => by rw [unattempted]; exact ⟨Nat.le_refl _, room⟩⟩
  · rw [Table.find?_insert inserted]
    split
    · rfl
    · exact bounded.known retry (retries ▸ member)

theorem Bounded.claimed (bounded : Bounded policy logged) (positive : 1 ≤ policy.maxAttempts) {after : Logged T R}
    {fresh : Delivery T} {now : T} {result : Except Exc ClaimResult} (unattempted : fresh.attempts = 0)
    (answered : Claimed logged.db fresh now result after.db) (retries : after.retries = logged.retries)
    (worker : after.worker = logged.worker) : Bounded policy after := by
  generalize reached : after.db = db at answered
  cases answered with
  | new bound inserted => exact bounded.inserted positive (by rw [reached]; exact inserted) unattempted retries worker
  | @reclaimed row found held expired =>
    have inside := Table.find?_eq_some.mp found
    have capped := bounded.rows row inside.1
    rw [inside.2] at capped
    refine bounded.changed found (by rw [reached]; exact Db.updateDelivery_deliveries _ _ _ _) ?_ ?_ ?_ ?_
    · rw [retries]
      exact ⟨capped.below, capped.spent⟩
    · exact fun _ _ => by rw [retries]
    · exact fun retry member => .inr (retries ▸ member)
    · exact fun other same => bounded.worker other (worker ▸ same)
  | _ =>
    refine ⟨?_, ?_, fun other same => bounded.worker other (worker ▸ same)⟩
    · rw [reached, retries]
      exact bounded.rows
    · rw [reached, retries]
      exact bounded.known

section Transactions
variable {worker : Worker T R} {row : Selected} (bounded : Bounded policy logged) (open_ : logged.worker = some worker)
  (stored : Stored Held logged.db row)
include bounded open_ stored

/-- A failure costs its delivery an attempt, whether it is scheduled again or buried. -/
theorem Bounded.handled {exc : Exc} (failed : worker.failed = some (row, exc)) :
    Bounded policy (logged.step rt .transact) := by
  have own := bounded.worker worker open_
  obtain ⟨policy', now, faults, rows, _, used, rng, report⟩ := worker
  obtain rfl := failed
  obtain rfl : policy' = policy := own
  obtain ⟨held, found, _, attempts, _, pending⟩ := stored
  have capped := bounded.rows held (Table.find?_eq_some.mp found).1
  rw [(Table.find?_eq_some.mp found).2] at capped
  have kept : ∀ worker, (logged.step rt .transact).worker = some worker → worker.policy = policy' := by
    intro after same
    simp only [Logged.step, Shared.step, open_, Worker.transact] at same
    cases same
    rfl
  have deliveries : (logged.step rt .transact).db.deliveries = logged.db.deliveries.modify row.deliveryId
      (handledRow now (row.attempts + 1) (classify exc) (retryDelay rt policy' row exc used rng))
      (handledRow_deliveryId now _ _ _) := by
    simp only [Logged.step, Shared.step, open_, Worker.transact, handle_deliveries, Worker.pass]
  cases retried : shouldRetry policy' (classify exc) (row.attempts + 1) used with
  | true =>
    have log : (logged.step rt .transact).retries = ⟨now, row.deliveryId⟩ :: logged.retries := by
      simp only [Logged.step, open_, Option.bind_some, scheduling, retried, ↓reduceIte, Option.toList_some, List.singleton_append]
    have below := shouldRetry_bound retried
    have spent := (capped.spent pending).1
    refine bounded.changed found deliveries ?_ (fun other different => ?_) (fun retry member => ?_) kept
    · have count : reschedulings row.deliveryId (logged.step rt .transact).retries =
          reschedulings row.deliveryId logged.retries + 1 := by
        rw [log, reschedulings_cons, if_pos rfl, Nat.add_comm]
      rw [count]
      simp only [retryDelay, retried, ↓reduceIte, handledRow]
      exact ⟨by omega, fun _ => ⟨Nat.succ_le_succ (attempts ▸ spent), below⟩⟩
    · rw [log, reschedulings_cons, if_neg (Ne.symm different), Nat.zero_add]
    · rw [log] at member
      exact (List.mem_cons.mp member).imp_left fun same => by rw [same]
  | false =>
    have log : (logged.step rt .transact).retries = logged.retries := by
      simp only [Logged.step, open_, Option.bind_some, scheduling, retried, Bool.false_eq_true, ↓reduceIte,
        Option.toList_none, List.nil_append]
    refine bounded.changed found deliveries ?_ (fun other _ => by rw [log]) (fun retry member => .inr (log ▸ member)) kept
    rw [log]
    simp only [retryDelay, retried, Bool.false_eq_true, ↓reduceIte, handledRow]
    exact ⟨capped.below, fun impossible => by cases impossible⟩

theorem Bounded.attempted {rest : List Selected} (failed : worker.failed = none) (rows : worker.rows = row :: rest) :
    Bounded policy (logged.step rt .transact) := by
  have own := bounded.worker worker open_
  obtain ⟨policy', now, faults, _, _, used, rng, report⟩ := worker
  obtain rfl := failed
  obtain rfl := rows
  obtain rfl : policy' = policy := own
  obtain ⟨held, found, _, attempts, _, pending⟩ := stored
  have capped := bounded.rows held (Table.find?_eq_some.mp found).1
  rw [(Table.find?_eq_some.mp found).2] at capped
  have attempted := attempted_self rt policy' now (faults row.deliveryId) row logged.db
  have log : (logged.step rt .transact).retries = logged.retries := by
    simp only [Logged.step, open_, Option.bind_some, scheduling, Option.toList_none, List.nil_append]
  have reached : (logged.step rt .transact).db = (attempt rt policy' now (faults row.deliveryId) row logged.db).2 := by
    simp only [Logged.step, Shared.step, open_, Worker.transact]
    rcases attempt rt policy' now (faults row.deliveryId) row logged.db with ⟨_ | _, _⟩ <;> rfl
  have kept : ∀ worker, (logged.step rt .transact).worker = some worker → worker.policy = policy' := by
    intro after same
    simp only [Logged.step, Shared.step, open_, Worker.transact] at same
    rcases answered : attempt rt policy' now (faults row.deliveryId) row logged.db with ⟨_ | _, _⟩
    all_goals
      simp only [answered] at same
      cases same
      rfl
  generalize (attempt rt policy' now (faults row.deliveryId) row logged.db).1 = answer at attempted
  generalize (attempt rt policy' now (faults row.deliveryId) row logged.db).2 = after at attempted reached
  cases attempted with
  | @delivered event outcome settled sound decoded delivered =>
    have deliveries := settle_deliveries policy' now row.deliveryId row.state outcome settled
    rw [delivered.deliveries, ← reached] at deliveries
    refine bounded.changed found deliveries ?_ (fun other _ => by rw [log]) (fun retry member => .inr (log ▸ member)) kept
    rw [log]
    refine ⟨capped.below, fun still => ?_⟩
    cases outcome with
    | parked => exact capped.spent pending
    | _ => cases still
  | _ =>
    refine ⟨?_, ?_, kept⟩
    · rw [reached, log]
      exact bounded.rows
    · rw [reached, log]
      exact bounded.known

end Transactions

/-- The reschedulings of every delivery stay below its attempts, and these below the
cap. -/
theorem Bounded.step (bounded : Bounded policy logged) (positive : 1 ≤ policy.maxAttempts)
    (coherent : Coherent logged.toShared) (op : SharedOp T R) (under : Under policy op) :
    Bounded policy (logged.step rt op) := by
  cases op with
  | claim provider identity raw headers now leaseSeconds =>
    obtain ⟨db, worker, retries⟩ := step_claim rt logged provider identity raw headers now leaseSeconds
    have answered := claimed_self rt provider identity raw headers now leaseSeconds logged.db
    rw [← db] at answered
    exact bounded.claimed positive rfl answered retries worker
  | select other now limit rng faults =>
    exact ⟨bounded.rows, bounded.known, fun worker same => by cases same; exact under⟩
  | crash => exact ⟨bounded.rows, bounded.known, fun _ open_ => by cases open_⟩
  | transact =>
    rcases open_ : logged.worker with _ | worker
    · simpa only [Logged.step, Shared.step, open_, Option.bind_none, Option.toList_none, List.nil_append] using bounded
    have stored := (coherent.synced worker open_).stored
    cases failed : worker.failed with
    | some entry =>
      exact bounded.handled open_ (stored entry.1 (by simp [Worker.pending, failed])) failed
    | none =>
      cases rows : worker.rows with
      | cons row rest => exact bounded.attempted open_ (stored row (by simp [Worker.pending, failed, rows])) failed rows
      | nil =>
        obtain ⟨policy, now, faults, _, _, used, rng, report⟩ := worker
        obtain rfl := failed
        obtain rfl := rows
        have same : logged.step rt .transact = logged := by
          obtain ⟨⟨db, _, accepted⟩, retries⟩ := logged
          obtain rfl := open_
          rfl
        rw [same]
        exact bounded

omit [Seconds T] in
theorem Climbs.trans {first second third : Db T} (here : Climbs first second) (there : Climbs second third) :
    Climbs first third := by
  intro id row found
  obtain ⟨later, located, climbed⟩ := here id row found
  obtain ⟨last, settled, further⟩ := there id later located
  exact ⟨last, settled, climbed.trans further⟩

theorem Climbs.step (coherent : Coherent logged.toShared) (op : SharedOp T R) :
    Climbs logged.db (logged.step rt op).db := by
  cases op with
  | claim provider identity raw headers now leaseSeconds =>
    rw [(step_claim rt logged provider identity raw headers now leaseSeconds).1]
    exact .claimed (claimed_self rt provider identity raw headers now leaseSeconds logged.db)
  | select => exact .refl logged.db
  | crash => exact .refl logged.db
  | transact =>
    rcases open_ : logged.worker with _ | worker
    · simp only [Logged.step, Shared.step, open_]
      exact .refl logged.db
    have climbs : Climbs logged.db (worker.transact rt logged.db).2 := (transact_keeps (motive := Climbs logged.db)
      (fun _ _ _ _ _ climbed stored => climbed.trans (.attempted stored))
      (fun _ _ _ _ _ climbed stored => climbed.trans (.handled stored))
      (coherent.synced worker open_) (.refl logged.db)).2
    simpa only [Logged.step, Shared.step, open_] using climbs

end Steps

section Runs
variable [Seconds T] (rt : Runtime T R)

theorem run_toShared (ops : List (SharedOp T R)) :
    (Logged.run rt ops).toShared = Shared.run rt { db := .empty } ops := by
  induction ops using List.reverseRecOn with
  | nil => rfl
  | append_singleton ops op ih =>
    rw [run_append, Shared.run, List.foldl_append, List.foldl_cons, List.foldl_nil, ← Shared.run, ← ih]
    rfl

theorem run_bounded {policy : RetryPolicy T} (positive : 1 ≤ policy.maxAttempts) (ops : List (SharedOp T R))
    (under : ∀ op ∈ ops, Under policy op) : Bounded policy (Logged.run rt ops) := by
  induction ops using List.reverseRecOn with
  | nil =>
    refine ⟨fun row member => ?_, fun retry member => ?_, fun worker open_ => ?_⟩
    · cases member
    · cases member
    · cases open_
  | append_singleton ops op ih =>
    have bounded := ih fun other member => under other (List.mem_append_left _ member)
    rw [run_append]
    exact bounded.step positive (run_toShared rt ops ▸ run_coherent ops) op (under op (by simp))

theorem run_climbs (ops later : List (SharedOp T R)) :
    Climbs (Logged.run rt ops).db (Logged.run rt (ops ++ later)).db := by
  induction later using List.reverseRecOn with
  | nil =>
    rw [List.append_nil]
    exact .refl _
  | append_singleton later op ih =>
    rw [← List.append_assoc, run_append]
    exact ih.trans (.step (run_toShared rt _ ▸ run_coherent _) op)

theorem run_cut (shared : Shared T R) {worker : Worker T R} (open_ : shared.worker = some worker) (transactions : Nat) :
    (shared.run rt (List.replicate transactions .transact)).db = (worker.cut rt transactions shared.db).2 := by
  induction transactions generalizing shared worker with
  | zero => rfl
  | succ transactions ih =>
    rw [List.replicate_succ, Shared.run, List.foldl_cons, ← Shared.run]
    have next : shared.step rt .transact =
        { shared with worker := some (worker.transact rt shared.db).1, db := (worker.transact rt shared.db).2 } := by
      simp only [Shared.step, open_]
    rw [next]
    exact ih _ rfl

/-- A pass that nothing disturbs is such a run. -/
theorem drain_run (ops : List (SharedOp T R)) (policy : RetryPolicy T) (now : T) (limit : Int) (rng : Option R)
    (faults : Str → Option Exc) : ∃ pass : List (SharedOp T R), (∀ op ∈ pass, Under policy op) ∧
      (Logged.run rt (ops ++ pass)).db = (drain rt policy now limit rng faults (Logged.run rt ops).db).db := by
  obtain ⟨transactions, whole⟩ := drain_eq_cut rt policy now limit rng faults (Logged.run rt ops).db
  refine ⟨.select policy now limit rng faults :: List.replicate transactions .transact, fun op member => ?_, ?_⟩
  · rcases List.mem_cons.mp member with rfl | transaction
    · rfl
    · rw [List.eq_of_mem_replicate transaction]
      trivial
  · rw [run_toShared, Shared.run, List.foldl_append, List.foldl_cons, ← Shared.run, ← Shared.run, ← run_toShared]
    exact (run_cut rt _ rfl transactions).trans whole

theorem idlePass_db {C : Type} (clock : Clock T C) (policy : RetryPolicy T) (faults : Str → Option Exc)
    (idling : Idling T R C) : (idlePass rt clock policy faults idling).db = idling.db ∨
      ∃ now, (idlePass rt clock policy faults idling).db =
        (drain rt policy now defaultLimit (some idling.rng) faults idling.db).db := by
  unfold idlePass
  split
  next =>
    right
    refine ⟨(clock.now idling.clock).1, ?_⟩
    dsimp only
    split
    · rfl
    · split <;> rfl
  next => exact .inl rfl

/-- So is a call of `drain_until_idle`. -/
theorem drainUntilIdle_run {C : Type} (clock : Clock T C) (ops : List (SharedOp T R)) (policy : RetryPolicy T)
    (faults : Str → Option Exc) (maxPasses : Nat) (start : C) :
    ∃ passes : List (SharedOp T R), (∀ op ∈ passes, Under policy op) ∧ (Logged.run rt (ops ++ passes)).db =
      (drainUntilIdle rt clock policy faults maxPasses start (Logged.run rt ops).db).db := by
  unfold drainUntilIdle
  induction maxPasses with
  | zero => exact ⟨[], by simp, by rw [List.append_nil, Function.iterate_zero_apply]⟩
  | succ maxPasses ih =>
    obtain ⟨passes, under, reached⟩ := ih
    rw [Function.iterate_succ_apply']
    generalize (idlePass rt clock policy faults)^[maxPasses] _ = idling at reached ⊢
    rcases idlePass_db rt clock policy faults idling with stayed | ⟨now, drained⟩
    · exact ⟨passes, under, by rw [stayed, reached]⟩
    · obtain ⟨pass, under', drains⟩ := drain_run rt (ops ++ passes) policy now defaultLimit (some idling.rng) faults
      refine ⟨passes ++ pass, fun op member => ?_, ?_⟩
      · rcases List.mem_append.mp member with before | after
        · exact under op before
        · exact under' op after
      · rw [← List.append_assoc, drains, reached, drained]

/-- Over every run under one policy: no delivery ever loses an attempt, none that is
claimed or parked has used up its attempts, and each is rescheduled fewer times than
that. -/
theorem retries_bounded (policy : RetryPolicy T) (positive : 1 ≤ policy.maxAttempts) (ops : List (SharedOp T R))
    (under : ∀ op ∈ ops, Under policy op) :
    (∀ before later, ops = before ++ later → Climbs (Logged.run rt before).db (Logged.run rt ops).db) ∧
    (∀ row ∈ (Logged.run rt ops).db.deliveries.rows, row.state.pending = true →
      (row.attempts : Int) < min policy.maxAttempts 5) ∧
    ∀ id, (reschedulings id (Logged.run rt ops).retries : Int) ≤ min policy.maxAttempts 5 - 1 := by
  have bounded := run_bounded rt positive ops under
  refine ⟨fun before later split => ?_, fun row member pending => ?_, fun id => ?_⟩
  · rw [split]
    exact run_climbs rt before later
  · exact ((bounded.rows row member).spent pending).2
  · rw [← attemptCap]
    cases found : (Logged.run rt ops).db.deliveries.find? id with
    | some row =>
      obtain ⟨inside, rfl⟩ := Table.find?_eq_some.mp found
      exact Int.le_sub_one_of_lt (bounded.rows row inside).below
    | none =>
      rw [bounded.unscheduled found]
      exact Int.le_sub_one_of_lt (attemptCap_pos positive)

end Runs

theorem retries_bounded_twoPasses :
    reschedulings (str "stripe:evt_1") (Logged.run unmodelledRuntime (twoPasses .standard)).retries = 2 ∧
    (∀ row ∈ (Logged.run unmodelledRuntime (twoPasses .standard)).db.deliveries.rows, row.state.pending = true →
      (row.attempts : Int) < 5) ∧
    ∀ id, (reschedulings id (Logged.run unmodelledRuntime (twoPasses .standard)).retries : Int) ≤ 4 := by
  obtain ⟨_, pending, rescheduled⟩ :=
    retries_bounded unmodelledRuntime .standard (by decide) (twoPasses .standard) (by simp [twoPasses, Under])
  exact ⟨by decide +kernel, pending, rescheduled⟩

end Quidz.Proofs
