import Mathlib.Order.ConditionallyCompleteLattice.Indexed
import Quidz.Proofs.Decoding
import Quidz.Proofs.Passes

/-! Retries over whole runs of one worker. Each is logged when its failure handler
commits, and what is logged is bounded twice: by the attempts of the delivery, and in
every minute by the budget. -/

namespace Quidz.Proofs

open Library (Table)

variable {T R : Type} [Seconds T] (rt : Runtime T R)

section Log

/-- A retry that was scheduled, with the reading of its pass. -/
structure Retry (T : Type) where
  now : T
  deliveryId : Str

/-- The retry the worker is about to schedule. -/
def scheduling (worker : Worker T R) : Option (Retry T) :=
  match worker.failed with
  | some (row, exc) =>
    if shouldRetry worker.policy (classify exc) (row.attempts + 1) worker.budgetUsed then
      some ⟨worker.now, row.deliveryId⟩
    else none
  | none => none

/-- The store and the pass under way, with every retry scheduled so far, the latest
first. -/
structure Logged (T R : Type) extends Shared T R where
  retries : List (Retry T) := []

def Logged.step (logged : Logged T R) (op : SharedOp T R) : Logged T R where
  toShared := logged.toShared.step rt op
  retries := match op with
    | .transact => (logged.worker.bind scheduling).toList ++ logged.retries
    | _ => logged.retries

def Logged.run (ops : List (SharedOp T R)) : Logged T R := ops.foldl (Logged.step rt) { db := .empty }

/-- The passes run under this policy. -/
def Under (policy : RetryPolicy T) : SharedOp T R → Prop
  | .select other _ _ _ _ => other = policy
  | _ => True

/-- The clock readings of the passes. -/
def readings (ops : List (SharedOp T R)) : List T :=
  ops.filterMap fun
    | .select _ now _ _ _ => some now
    | _ => none

theorem step_claim (logged : Logged T R) (provider : Provider) (identity : Str) (raw : Bytes) (headers : List (Str × Str))
    (now leaseSeconds : T) :
    (logged.step rt (.claim provider identity raw headers now leaseSeconds)).db =
      (claim rt provider identity raw headers now leaseSeconds logged.db).2 ∧
    (logged.step rt (.claim provider identity raw headers now leaseSeconds)).worker = logged.worker ∧
    (logged.step rt (.claim provider identity raw headers now leaseSeconds)).retries = logged.retries := by
  rcases answered : claim rt provider identity raw headers now leaseSeconds logged.db with ⟨exc | result, after⟩
  all_goals simp only [Logged.step, Shared.step, answered, and_self]

theorem run_append (ops : List (SharedOp T R)) (op : SharedOp T R) :
    Logged.run rt (ops ++ [op]) = (Logged.run rt ops).step rt op := by
  rw [Logged.run, List.foldl_append]
  rfl

end Log

section Budget

/-- The retries that were scheduled in a minute. -/
def scheduledIn (minute : Int) (retries : List (Retry T)) : Int :=
  (retries.filter fun retry => Seconds.minute retry.now = minute).length

omit [Seconds T] in
/-- A counter as it is stored, if it is. -/
def persisted (db : Db T) (name : CounterName) : Option Int := (db.counters.find? name).map Counter.value

/-- What is persisted is the minute of the last retry, and how many there were in it. -/
def Persists (db : Db T) : List (Retry T) → Prop
  | [] => persisted db .budgetMinute = none ∧ persisted db .budgetUsed = none
  | last :: retries => persisted db .budgetMinute = some (Seconds.minute last.now) ∧
      persisted db .budgetUsed = some (scheduledIn (Seconds.minute last.now) (last :: retries))

structure Budgeted (policy : RetryPolicy T) (seen : List T) (logged : Logged T R) : Prop where
  within : ∀ minute, scheduledIn minute logged.retries ≤ max 0 policy.budgetPerMinute
  persists : Persists logged.db logged.retries
  past : ∀ retry ∈ logged.retries, retry.now ∈ seen
  ordered : logged.retries.Pairwise fun later earlier => earlier.now ≤ later.now
  worker : ∀ worker, logged.worker = some worker → worker.policy = policy ∧ worker.now ∈ seen ∧
    (∀ reading ∈ seen, reading ≤ worker.now) ∧
    worker.budgetUsed = scheduledIn (Seconds.minute worker.now) logged.retries

section Counters
variable (db : Db T) (name : Metric) (counter other : CounterName) (value : Int)

omit [Seconds T]

theorem persisted_congr {first second : Db T} (same : first.counters = second.counters) (name : CounterName) :
    persisted first name = persisted second name := by
  rw [persisted, same, persisted]

theorem persisted_bump (apart : counter ≠ .metric name) : persisted (db.bump name) counter = persisted db counter := by
  simp only [persisted, Db.bump, Table.upsert_find?]
  rw [if_neg (Ne.symm apart)]

theorem persisted_setCounter : persisted (db.setCounter other value) counter =
    if counter = other then some value else persisted db counter := by
  simp only [persisted, Db.setCounter, Table.upsert_find?]
  by_cases same : other = counter
  · subst same
    cases db.counters.find? other <;> simp
  · simp [same, Ne.symm same]

end Counters

theorem persisted_recordBudget (db : Db T) (now : T) (used : Int) :
    persisted (recordBudget db now used) .budgetMinute = some (Seconds.minute now) ∧
    persisted (recordBudget db now used) .budgetUsed = some used := by
  simp only [recordBudget, persisted_setCounter, ↓reduceIte, reduceCtorEq, and_self]

/-- Only the failure handler writes the two counters of the budget. -/
theorem attempt_persisted (policy : RetryPolicy T) (now : T) (fault : Option Exc) (row : Selected) (db : Db T)
    (counter : CounterName) (budget : ∀ name, counter ≠ .metric name) :
    persisted (attempt rt policy now fault row db).2 counter = persisted db counter := by
  have attempted := attempted_self rt policy now fault row db
  generalize (attempt rt policy now fault row db).1 = answer at attempted
  generalize (attempt rt policy now fault row db).2 = after at attempted ⊢
  cases attempted with
  | @delivered event outcome reached sound decoded delivered =>
    rw [← persisted_congr delivered.counters counter]
    cases outcome with
    | parked =>
      simp only [settle]
      split
      · rfl
      · exact persisted_bump _ _ _ (budget _)
    | _ => exact persisted_bump _ _ _ (budget _)
  | _ => rfl

theorem Claimed.counters {db after : Db T} {fresh : Delivery T} {now : T} {result : Except Exc ClaimResult}
    (answered : Claimed db fresh now result after) : after.counters = db.counters := by
  cases answered <;> rfl

/-- What a pass reads back when it starts is what was scheduled in its minute. -/
theorem Persists.budgetUsed (monotone : Monotone (Seconds.minute : T → Int)) {db : Db T} {retries : List (Retry T)}
    (persists : Persists db retries) (ordered : retries.Pairwise fun later earlier => earlier.now ≤ later.now) {now : T}
    (past : ∀ retry ∈ retries, retry.now ≤ now) : Quidz.budgetUsed db now = scheduledIn (Seconds.minute now) retries := by
  unfold Quidz.budgetUsed Db.counter
  cases retries with
  | nil =>
    rw [if_neg]
    · rfl
    · rw [← persisted, persists.1]
      nofun
  | cons last retries =>
    obtain ⟨minute, used⟩ := persists
    rw [← persisted, ← persisted, minute, used]
    by_cases same : Seconds.minute last.now = Seconds.minute now
    · rw [same, if_pos rfl, Option.getD_some]
    · -- Every retry lies in an earlier minute.
      rw [if_neg fun equal => same (Option.some.inj equal)]
      have ahead : Seconds.minute last.now < Seconds.minute now :=
        lt_of_le_of_ne (monotone (past last List.mem_cons_self)) same
      have none : (last :: retries).filter (fun retry => Seconds.minute retry.now = Seconds.minute now) = [] := by
        rw [List.filter_eq_nil_iff]
        intro retry member
        rw [decide_eq_true_eq]
        apply Int.ne_of_lt
        apply Int.lt_of_le_of_lt _ ahead
        rcases List.mem_cons.mp member with rfl | earlier
        · exact Int.le_refl _
        · exact monotone ((List.pairwise_cons.mp ordered).1 retry earlier)
      rw [scheduledIn, none]
      rfl

theorem scheduledIn_cons (minute : Int) (retry : Retry T) (retries : List (Retry T)) : scheduledIn minute (retry :: retries) =
    (if Seconds.minute retry.now = minute then 1 else 0) + scheduledIn minute retries := by
  unfold scheduledIn
  rw [List.filter_cons]
  by_cases same : Seconds.minute retry.now = minute
  · simp [same, Int.add_comm]
  · simp [same]

variable {rt}

/-- A retry is scheduled within the budget, and counted in the transaction that
schedules it. -/
structure Spent (worker : Worker T R) (after : Worker T R) (db : Db T) (retry : Retry T) : Prop where
  now : retry.now = worker.now
  affordable : worker.budgetUsed < worker.policy.budgetPerMinute
  used : after.budgetUsed = worker.budgetUsed + 1
  minute : persisted db .budgetMinute = some (Seconds.minute worker.now)
  persisted : persisted db .budgetUsed = some (worker.budgetUsed + 1)

variable (rt) in
/-- What one transaction of a pass does to the budget. -/
theorem transact_budget (worker : Worker T R) (db : Db T) :
    let after := worker.transact rt db
    after.1.policy = worker.policy ∧ after.1.now = worker.now ∧
    match scheduling worker with
    | some retry => Spent worker after.1 after.2 retry
    | none => after.1.budgetUsed = worker.budgetUsed ∧
        ∀ name, (∀ metric, name ≠ .metric metric) → persisted after.2 name = persisted db name := by
  obtain ⟨policy, now, faults, rows, failed, used, rng, report⟩ := worker
  cases failed with
  | some entry =>
    obtain ⟨row, exc⟩ := entry
    refine ⟨rfl, rfl, ?_⟩
    cases retried : shouldRetry policy (classify exc) (row.attempts + 1) used with
    | true =>
      have affordable : used < policy.budgetPerMinute := by
        by_contra spent
        simp [shouldRetry, Int.not_lt.mp spent] at retried
      simp only [scheduling, Worker.transact, Worker.pass, handle, retried, ↓reduceIte]
      obtain ⟨minute, counted⟩ := persisted_recordBudget (db.updateDelivery row.deliveryId _ (handledRow_deliveryId now
        (row.attempts + 1) (classify exc) (some (nextDelay rt policy (row.attempts + 1) rng).1))) now (used + 1)
      exact ⟨rfl, affordable, rfl, minute, counted⟩
    | false =>
      simp only [scheduling, Worker.transact, Worker.pass, handle, retried, Bool.false_eq_true, ↓reduceIte]
      exact ⟨trivial, fun name budget => persisted_bump _ _ _ (budget _)⟩
  | none =>
    cases rows with
    | nil => exact ⟨rfl, rfl, rfl, fun _ _ => rfl⟩
    | cons row rest =>
      have kept := attempt_persisted rt policy now (faults row.deliveryId) row db
      rcases answered : attempt rt policy now (faults row.deliveryId) row db with ⟨exc | report', after⟩
      all_goals
        rw [answered] at kept
        simp only [scheduling, Worker.transact, answered]
        exact ⟨trivial, trivial, trivial, kept⟩

theorem Persists.congr {db after : Db T} {retries : List (Retry T)} (persists : Persists db retries)
    (same : ∀ name, (∀ metric, name ≠ .metric metric) → persisted after name = persisted db name) :
    Persists after retries := by
  have minute := same .budgetMinute nofun
  have used := same .budgetUsed nofun
  cases retries with
  | nil => exact ⟨minute.trans persists.1, used.trans persists.2⟩
  | cons last retries => exact ⟨minute.trans persists.1, used.trans persists.2⟩

variable {policy : RetryPolicy T} {seen : List T} {logged : Logged T R}

theorem Budgeted.transact (budgeted : Budgeted policy seen logged) : Budgeted policy seen (logged.step rt .transact) := by
  rcases open_ : logged.worker with _ | worker
  · simpa only [Logged.step, Shared.step, open_, Option.bind_none, Option.toList_none, List.nil_append] using budgeted
  obtain ⟨under, among, latest, used⟩ := budgeted.worker worker open_
  obtain ⟨samePolicy, sameNow, spent⟩ := transact_budget rt worker logged.db
  cases scheduled : scheduling worker with
  | none =>
    simp only [scheduled] at spent
    simp only [Logged.step, Shared.step, open_, Option.bind_some, scheduled, Option.toList_none, List.nil_append]
    refine ⟨budgeted.within, budgeted.persists.congr spent.2, budgeted.past, budgeted.ordered, ?_⟩
    rintro after same
    cases same
    rw [samePolicy, sameNow, spent.1]
    exact ⟨under, among, latest, used⟩
  | some retry =>
    simp only [scheduled] at spent
    simp only [Logged.step, Shared.step, open_, Option.bind_some, scheduled, Option.toList_some, List.singleton_append]
    have here : scheduledIn (Seconds.minute retry.now) (retry :: logged.retries) = worker.budgetUsed + 1 := by
      rw [scheduledIn_cons, if_pos rfl, spent.now, used, Int.add_comm]
    constructor
    case within =>
      intro minute
      by_cases own : Seconds.minute retry.now = minute
      · rw [← own, here, ← under]
        exact (Int.add_one_le_of_lt spent.affordable).trans (le_max_right _ _)
      · rw [scheduledIn_cons, if_neg own, Int.zero_add]
        exact budgeted.within minute
    case persists =>
      refine ⟨?_, ?_⟩
      · rw [spent.now]
        exact spent.minute
      · rw [here]
        exact spent.persisted
    case past => exact List.forall_mem_cons.mpr ⟨spent.now ▸ among, budgeted.past⟩
    case ordered =>
      refine List.pairwise_cons.mpr ⟨fun earlier member => ?_, budgeted.ordered⟩
      rw [spent.now]
      exact latest earlier.now (budgeted.past earlier member)
    case worker =>
      rintro after same
      cases same
      rw [samePolicy, sameNow, spent.used, ← here, spent.now]
      exact ⟨under, among, latest, rfl⟩

theorem Budgeted.step (monotone : Monotone (Seconds.minute : T → Int)) (budgeted : Budgeted policy seen logged)
    (op : SharedOp T R) (under : Under policy op) (later : ∀ now ∈ readings [op], ∀ reading ∈ seen, reading ≤ now) :
    Budgeted policy (seen ++ readings [op]) (logged.step rt op) := by
  have quiet (none : readings [op] = []) (kept : Budgeted policy seen (logged.step rt op)) :
      Budgeted policy (seen ++ readings [op]) (logged.step rt op) := by
    rw [none, List.append_nil]
    exact kept
  cases op with
  | claim provider identity raw headers now leaseSeconds =>
    obtain ⟨db, worker, retries⟩ := step_claim rt logged provider identity raw headers now leaseSeconds
    have counters := (claimed_self rt provider identity raw headers now leaseSeconds logged.db).counters
    apply quiet rfl
    constructor
    case worker =>
      rw [worker, retries]
      exact budgeted.worker
    all_goals rw [retries]
    case within => exact budgeted.within
    case past => exact budgeted.past
    case ordered => exact budgeted.ordered
    case persists =>
      rw [db]
      exact budgeted.persists.congr fun name _ => persisted_congr counters name
  | select other now limit rng faults =>
    have ahead : ∀ reading ∈ seen, reading ≤ now := later now List.mem_cons_self
    refine ⟨budgeted.within, budgeted.persists, fun retry member => List.mem_append_left _ (budgeted.past retry member),
      budgeted.ordered, ?_⟩
    rintro worker same
    cases same
    refine ⟨under, List.mem_append_right _ List.mem_cons_self, ?_, ?_⟩
    · intro reading member
      rcases List.mem_append.mp member with earlier | own
      · exact ahead reading earlier
      · exact (List.mem_singleton.mp own).le
    · exact budgeted.persists.budgetUsed monotone budgeted.ordered fun retry member =>
        ahead retry.now (budgeted.past retry member)
  | transact =>
    exact quiet rfl budgeted.transact
  | crash =>
    exact quiet rfl ⟨budgeted.within, budgeted.persists, budgeted.past, budgeted.ordered, fun _ open_ => by cases open_⟩

variable (rt) in
theorem run_budgeted (monotone : Monotone (Seconds.minute : T → Int)) (ops : List (SharedOp T R))
    (under : ∀ op ∈ ops, Under policy op) (steady : (readings ops).Pairwise (· ≤ ·)) :
    Budgeted policy (readings ops) (Logged.run rt ops) := by
  induction ops using List.reverseRecOn with
  | nil => exact ⟨fun _ => le_max_left _ _, ⟨rfl, rfl⟩, nofun, .nil, fun _ open_ => by cases open_⟩
  | append_singleton ops op ih =>
    rw [readings, List.filterMap_append, ← readings, ← readings] at steady ⊢
    obtain ⟨before, _, across⟩ := List.pairwise_append.mp steady
    have budgeted := ih (fun other member => under other (List.mem_append_left _ member)) before
    rw [run_append]
    exact budgeted.step monotone op (under op (by simp)) fun now own reading member => across reading member now own

/-- Over every interleaving of passes with claims and crashes, as long as the readings
of the passes do not go back: the retries of any minute stay within the budget, and the
two counters are the minute of the last retry and how many that minute has seen. -/
theorem retry_budget_kept (monotone : Monotone (Seconds.minute : T → Int)) (policy : RetryPolicy T)
    (ops : List (SharedOp T R)) (under : ∀ op ∈ ops, Under policy op) (steady : (readings ops).Pairwise (· ≤ ·)) :
    (∀ minute, scheduledIn minute (Logged.run rt ops).retries ≤ max 0 policy.budgetPerMinute) ∧
    Persists (Logged.run rt ops).db (Logged.run rt ops).retries := by
  have budgeted := run_budgeted rt monotone ops under steady
  exact ⟨budgeted.within, budgeted.persists⟩

end Budget

def unmodelledRuntime : Runtime Int Unit := .recorded [unmodelled] []

/-- A delivery that fails in two passes of one minute. -/
def twoPasses (policy : RetryPolicy Int) : List (SharedOp Int Unit) :=
  [.claim .stripe (str "evt_1") (Json.body unmodelled) [] 0 30, .select policy 60 100 none (fun _ => none), .transact,
    .transact, .select policy 70 100 none (fun _ => none), .transact, .transact]

theorem retry_budget_kept_twoPasses :
    scheduledIn 1 (Logged.run unmodelledRuntime (twoPasses .standard)).retries = 2 ∧
    (∀ minute, scheduledIn minute (Logged.run unmodelledRuntime (twoPasses .standard)).retries ≤ 100) ∧
    Persists (Logged.run unmodelledRuntime (twoPasses .standard)).db
      (Logged.run unmodelledRuntime (twoPasses .standard)).retries := by
  refine ⟨by decide +kernel, retry_budget_kept (fun _ _ later => Int.ediv_le_ediv (by decide) later) .standard _ ?_ ?_⟩
  · simp [twoPasses, Under]
  · simp [twoPasses, readings]

/-- No number of retries is within a negative budget, not even none. -/
theorem negative_budget_exceeded : ¬∀ minute,
    scheduledIn minute (Logged.run unmodelledRuntime []).retries ≤
      ({ RetryPolicy.standard with budgetPerMinute := -1 } : RetryPolicy Int).budgetPerMinute := by
  intro within
  exact absurd (within 0) (by decide)

end Quidz.Proofs
