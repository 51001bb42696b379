import Quidz.Proofs.Decoding
import Quidz.Proofs.Twins

/-! When the loop of passes gives up. It stops in front of due work exactly if that
work was not selected, whether the batch limit cut it off or it fell due while the
pass ran. -/

namespace Quidz.Proofs

open Library (Table)

variable {T R C : Type} [Seconds T] (rt : Runtime T R)

/-- The delivery would be parked, its payment being not ready for it. -/
def Premature (faults : Str → Option Exc) (db : Db T) (row : Selected) : Prop :=
  faults row.deliveryId = none ∧ ∃ event, decode rt row.provider row.raw = .ok event ∧
    (applyDelivery row.deliveryId event db).1 = .ok .parked

/-- How many deliveries a pass settled or scheduled again. -/
def moved (report : DrainReport) : Nat :=
  report.applied + report.noopDuplicate + report.deadLettered + report.retried

section Rows

variable {rt} {faults : Str → Option Exc} {policy : RetryPolicy T} {now : T} {row : Selected}

/-- Being premature depends on the ledger. -/
theorem Premature.congr {db rest : Db T} (effects : rest.effects = db.effects) (payments : rest.payments = db.payments)
    (known : (rest.deliveries.find? row.deliveryId).isNone = (db.deliveries.find? row.deliveryId).isNone) :
    Premature rt faults rest row ↔ Premature rt faults db row := by
  have answers (event : CanonicalEvent T) : (applyDelivery row.deliveryId event rest).1 =
      (applyDelivery row.deliveryId event db).1 :=
    ((ledger_congruent row.deliveryId event).applyDelivery ⟨effects, payments, known⟩).1
  simp only [Premature, answers]

/-- What a pass does with a premature delivery. -/
structure Parks (policy : RetryPolicy T) (now : T) (row : Selected) (pass after : Pass T R) : Prop where
  deliveries : after.db.deliveries = pass.db.deliveries.modify row.deliveryId (settledRow policy now .parked)
    (settledRow_deliveryId policy now .parked)
  effects : after.db.effects = pass.db.effects
  payments : after.db.payments = pass.db.payments
  moved : moved after.report = moved pass.report

theorem drainRow_parks {pass : Pass T R} (premature : Premature rt faults pass.db row) :
    Parks policy now row pass (drainRow rt policy now faults pass row) := by
  obtain ⟨sound, event, decoded, answer⟩ := premature
  rcases answered : applyDelivery row.deliveryId event pass.db with ⟨result, after⟩
  rw [answered] at answer
  cases answer
  obtain rfl := (applyDelivery_ok.mp answered).unapplied (by simp)
  have attempted : attempt rt policy now (faults row.deliveryId) row pass.db =
      (.ok (settle policy row.deliveryId row.state .parked now pass.db).1,
        (settle policy row.deliveryId row.state .parked now pass.db).2) := by
    simp [attempt, writeTx, sound, decoded, answered]
  unfold drainRow
  simp only [attempted]
  refine ⟨settle_deliveries _ _ _ _ _ _, settle_effects _ _ _ _ _ _, settle_payments _ _ _ _ _ _, ?_⟩
  simp only [settle]
  split <;> simp [moved, DrainReport.merge]

variable (policy now) in
theorem drainRow_moves {pass : Pass T R} (timely : ¬Premature rt faults pass.db row) :
    moved (drainRow rt policy now faults pass row).report = moved pass.report + 1 := by
  have handled (exc : Exc) (pass : Pass T R) : moved (handle rt policy now row exc pass).report = moved pass.report + 1 := by
    unfold handle
    simp only
    split <;> simp only [moved, DrainReport.merge] <;> omega
  rcases answered : attempt rt policy now (faults row.deliveryId) row pass.db with ⟨result, after⟩
  unfold drainRow
  rw [answered]
  cases attempt_attempted rt policy now answered with
  | faulted | undecodable | refused => exact handled _ _
  | @delivered event outcome reached sound decoded delivered =>
    cases outcome with
    | parked => exact absurd ⟨sound, event, decoded, congrArg Prod.fst (applyDelivery_ok.mpr delivered)⟩ timely
    | _ =>
      simp only [settle, moved, DrainReport.merge]
      omega

end Rows

section Passes

variable {policy : RetryPolicy T} {now : T}

variable (policy now) in
/-- The deliveries after each of the given ones was parked. -/
def reparked (rows : List Selected) (deliveries : Table (Delivery T) Delivery.deliveryId) :
    Table (Delivery T) Delivery.deliveryId :=
  rows.foldl (fun deliveries row => deliveries.modify row.deliveryId (settledRow policy now .parked)
    (settledRow_deliveryId policy now .parked)) deliveries

theorem reparked_find? (rows : List Selected) (deliveries : Table (Delivery T) Delivery.deliveryId) (id : Str) :
    (reparked policy now rows deliveries).find? id =
      if id ∈ rows.map Selected.deliveryId then (deliveries.find? id).map (settledRow policy now .parked)
      else deliveries.find? id := by
  induction rows generalizing deliveries with
  | nil => rfl
  | cons row rows ih =>
    have again (row : Delivery T) : settledRow policy now .parked (settledRow policy now .parked row) =
        settledRow policy now .parked row := rfl
    have step : reparked policy now (row :: rows) deliveries = reparked policy now rows
        (deliveries.modify row.deliveryId (settledRow policy now .parked) (settledRow_deliveryId policy now .parked)) := rfl
    rw [step, ih, Table.find?_modify]
    simp only [List.map_cons, List.mem_cons]
    by_cases here : row.deliveryId = id
    · subst here
      by_cases later : row.deliveryId ∈ rows.map Selected.deliveryId
      · simp only [later, ↓reduceIte, or_true, Option.map_map, Function.comp_def, again]
      · simp only [later, ↓reduceIte, or_false]
    · simp only [here, Ne.symm here, ↓reduceIte, false_or]

theorem reparked_known (rows : List Selected) (deliveries : Table (Delivery T) Delivery.deliveryId) (id : Str) :
    ((reparked policy now rows deliveries).find? id).isNone = (deliveries.find? id).isNone := by
  rw [reparked_find?]
  split
  · exact Option.isNone_map
  · rfl

variable {rt} {faults : Str → Option Exc}

variable (rt policy now faults) in
/-- Whatever a pass has done so far it does not take back. -/
theorem moved_mono (rows : List Selected) (pass : Pass T R) :
    moved pass.report ≤ moved (rows.foldl (drainRow rt policy now faults) pass).report := by
  induction rows generalizing pass with
  | nil => exact le_rfl
  | cons row rows ih =>
    refine le_trans ?_ (ih (drainRow rt policy now faults pass row))
    by_cases premature : Premature rt faults pass.db row
    · exact (drainRow_parks premature).moved.ge
    · rw [drainRow_moves policy now premature]
      exact Nat.le_succ _

/-- A pass moves nothing exactly if all it selected is premature on the ledger it
began with, and then it parks all of that. -/
theorem moved_eq_iff (rows : List Selected) (pass : Pass T R) :
    moved (rows.foldl (drainRow rt policy now faults) pass).report = moved pass.report ↔
      ∀ row ∈ rows, Premature rt faults pass.db row := by
  induction rows generalizing pass with
  | nil => simp
  | cons row rows ih =>
    rw [List.foldl_cons, List.forall_mem_cons]
    by_cases premature : Premature rt faults pass.db row
    · have parks : Parks policy now row pass _ := drainRow_parks premature
      rw [← parks.moved, ih]
      have same (other : Selected) : Premature rt faults (drainRow rt policy now faults pass row).db other ↔
          Premature rt faults pass.db other := by
        apply Premature.congr parks.effects parks.payments
        rw [parks.deliveries]
        exact reparked_known [row] pass.db.deliveries other.deliveryId
      simp only [same, premature, true_and]
    · have moves := drainRow_moves policy now premature
      have later := moved_mono rt policy now faults rows
        (drainRow rt policy now faults pass row)
      simp only [premature, false_and, iff_false]
      omega

variable (policy now) in
theorem foldl_parks {rows : List Selected} (pass : Pass T R) (premature : ∀ row ∈ rows, Premature rt faults pass.db row) :
    let after := (rows.foldl (drainRow rt policy now faults) pass).db
    after.deliveries = reparked policy now rows pass.db.deliveries ∧ after.effects = pass.db.effects ∧
      after.payments = pass.db.payments := by
  induction rows generalizing pass with
  | nil => exact ⟨rfl, rfl, rfl⟩
  | cons row rows ih =>
    have parks : Parks policy now row pass _ := drainRow_parks (premature row List.mem_cons_self)
    have later : ∀ other ∈ rows, Premature rt faults (drainRow rt policy now faults pass row).db other := by
      intro other member
      refine (Premature.congr parks.effects parks.payments ?_).mpr (premature other (List.mem_cons_of_mem _ member))
      rw [parks.deliveries]
      exact reparked_known [row] pass.db.deliveries other.deliveryId
    obtain ⟨deliveries, effects, payments⟩ := ih _ later
    refine ⟨?_, effects.trans parks.effects, payments.trans parks.payments⟩
    rw [List.foldl_cons, deliveries, parks.deliveries]
    rfl

end Passes

section Stops

/-- The pass settles no delivery and schedules no retry. -/
def Quiet (report : DrainReport) : Prop :=
  report.applied = 0 ∧ report.noopDuplicate = 0 ∧ report.deadLettered = 0 ∧ report.retried = 0

theorem quiet_iff {report : DrainReport} : Quiet report ↔ moved report = 0 := by
  unfold Quiet moved
  omega

variable {rt} {policy : RetryPolicy T} {faults : Str → Option Exc}

theorem drain_quiet_iff (now : T) (limit : Int) (rng : Option R) (db : Db T) :
    Quiet (drain rt policy now limit rng faults db).report ↔
      ∀ row ∈ selectDue db now limit, Premature rt faults db row :=
  quiet_iff.trans (moved_eq_iff (selectDue db now limit) _)

/-- What the selection at `reading` would bring up, beside the deliveries that the one
at `now` did, were these parked again. -/
def unreached (policy : RetryPolicy T) (now reading : T) (db : Db T) : List Selected :=
  let picked := selectDue db now defaultLimit
  (selectDue { db with deliveries := reparked policy now picked db.deliveries } reading defaultLimit).filter
    fun row => row.deliveryId ∉ picked.map Selected.deliveryId

theorem mem_unreached {now reading : T} {db : Db T} {row : Selected} (member : row ∈ unreached policy now reading db) :
    row.deliveryId ∉ (selectDue db now defaultLimit).map Selected.deliveryId ∧
      ∃ stored, db.deliveries.find? row.deliveryId = some stored ∧ stored.state.pending = true := by
  obtain ⟨selected, other⟩ := List.mem_filter.mp member
  rw [decide_eq_true_eq] at other
  obtain ⟨stored, inside, isDue, rfl⟩ := mem_selectDue selected
  refine ⟨other, stored, ?_, ?_⟩
  · have found : (reparked policy now (selectDue db now defaultLimit) db.deliveries).find? stored.selected.deliveryId =
        some stored := Table.find?_of_mem inside
    rwa [reparked_find?, if_neg other] at found
  · simp only [due, Bool.and_eq_true] at isDue
    exact isDue.1.1

/-- Parking a delivery leaves what makes it premature. -/
theorem Premature.again {now reading : T} {db : Db T} {row : Selected}
    (premature : ∀ row ∈ selectDue db now defaultLimit, Premature rt faults db row)
    (again : row ∈ selectDue { db with deliveries := reparked policy now (selectDue db now defaultLimit) db.deliveries }
      reading defaultLimit)
    (picked : row.deliveryId ∈ (selectDue db now defaultLimit).map Selected.deliveryId) : Premature rt faults db row := by
  obtain ⟨first, member, same⟩ := List.mem_map.mp picked
  obtain ⟨stored, inside, _, rfl⟩ := mem_selectDue member
  obtain ⟨parked, inside', _, rfl⟩ := mem_selectDue again
  have found : (reparked policy now (selectDue db now defaultLimit) db.deliveries).find? parked.selected.deliveryId =
      some parked := Table.find?_of_mem inside'
  have located : db.deliveries.find? parked.selected.deliveryId = some stored := same ▸ Table.find?_of_mem inside
  rw [reparked_find?, if_pos picked, located, Option.map_some, Option.some.injEq] at found
  have here := premature _ member
  rw [← found]
  exact here

variable (rt policy faults) in
/-- After a pass that did nothing, another one does nothing exactly if what it reaches
in addition is premature. -/
theorem quiet_again_iff (now reading : T) (rng rng' : Option R) (db : Db T)
    (quiet : Quiet (drain rt policy now defaultLimit rng faults db).report) :
    Quiet (drain rt policy reading defaultLimit rng' faults (drain rt policy now defaultLimit rng faults db).db).report ↔
      ∀ row ∈ unreached policy now reading db, Premature rt faults db row := by
  have premature := (drain_quiet_iff now defaultLimit rng db).mp quiet
  have parks := foldl_parks policy now { db, budgetUsed := budgetUsed db now, rng := rng.getD (jitterSource rt policy) } premature
  rw [drain_quiet_iff]
  unfold drain
  generalize ((selectDue db now defaultLimit).foldl (drainRow rt policy now faults) _).db = after at parks ⊢
  obtain ⟨deliveries, effects, payments⟩ := parks
  have selection : selectDue after reading defaultLimit =
      selectDue { db with deliveries := reparked policy now (selectDue db now defaultLimit) db.deliveries } reading
        defaultLimit := by
    simp only [selectDue, deliveries]
  have same (row : Selected) : Premature rt faults after row ↔ Premature rt faults db row := by
    apply Premature.congr effects payments
    rw [deliveries, reparked_known]
  simp only [same, selection, unreached, List.mem_filter, decide_eq_true_eq]
  constructor
  · rintro all row ⟨member, _⟩
    exact all row member
  · intro others row member
    by_cases picked : row.deliveryId ∈ (selectDue db now defaultLimit).map Selected.deliveryId
    · exact Premature.again premature member picked
    · exact others row ⟨member, picked⟩

variable {clock : Clock T C}

variable (clock) in
/-- The last clock reading of a turn of the loop, which takes no second one where it
finds nothing pending. -/
def finalReading (before after : Idling T R C) : T :=
  if (pendingTimes after.db).isEmpty then (clock.now before.clock).1
  else (clock.now (clock.now before.clock).2).1

theorem idlePass_stops {before : Idling T R C} (running : before.running = true)
    (stops : (idlePass rt clock policy faults before).running = false) :
    let pass := drain rt policy (clock.now before.clock).1 defaultLimit (some before.rng) faults before.db
    (idlePass rt clock policy faults before).db = pass.db ∧ (pendingTimes pass.db = [] ∨ Quiet pass.report) := by
  intro pass
  unfold idlePass at stops ⊢
  rw [running] at stops ⊢
  simp only [↓reduceIte] at stops ⊢
  cases due : (pendingTimes pass.db).min? with
  | none => exact ⟨rfl, .inl (List.min?_eq_none_iff.mp due)⟩
  | some t =>
    rw [due] at stops
    simp only at stops ⊢
    split at stops
    · cases stops
    next ready =>
      simp only [ready, ↓reduceIte]
      refine ⟨rfl, .inr ?_⟩
      have nothing : pass.report.total = 0 := by simpa using stops
      unfold DrainReport.total at nothing
      unfold Quiet
      omega

theorem pendingTimes_nil {db : Db T} (empty : pendingTimes db = []) {row : Delivery T} (member : row ∈ db.deliveries.rows) :
    ¬row.state.pending = true := by
  unfold pendingTimes at empty
  exact List.filter_eq_nil_iff.mp (List.map_eq_nil_iff.mp empty) row member

theorem drained_quiet {db : Db T} (empty : pendingTimes db = []) (reading : T) (rng : Option R) :
    Quiet (drain rt policy reading defaultLimit rng faults db).report := by
  rw [drain_quiet_iff]
  intro row member
  obtain ⟨stored, inside, isDue, _⟩ := mem_selectDue member
  simp only [due, Bool.and_eq_true] at isDue
  exact absurd isDue.1.1 (pendingTimes_nil empty inside)

/-- A loop that broke off stays as it is. -/
theorem drainUntilIdle_stopped {start : C} {db : Db T} {passes maxPasses : Nat} (early : passes ≤ maxPasses)
    (stopped : (drainUntilIdle rt clock policy faults passes start db).running = false) :
    drainUntilIdle rt clock policy faults maxPasses start db = drainUntilIdle rt clock policy faults passes start db := by
  obtain ⟨more, rfl⟩ := Nat.exists_eq_add_of_le' early
  have fixed : idlePass rt clock policy faults (drainUntilIdle rt clock policy faults passes start db) =
      drainUntilIdle rt clock policy faults passes start db := by
    rw [idlePass, stopped]
    rfl
  unfold drainUntilIdle at fixed ⊢
  rw [Function.iterate_add_apply, Function.iterate_fixed fixed]

/-- When the loop breaks off, another pass at its last clock reading settles nothing and
schedules no retry exactly if every delivery that such a pass would reach, and that
the loop's last pass did not, is premature on the ledger that pass began with. -/
theorem idle_quiet_iff (clock : Clock T C) (policy : RetryPolicy T) (faults : Str → Option Exc) (start : C) (db : Db T)
    (passes maxPasses : Nat) (rng : Option R) :
    let before := drainUntilIdle rt clock policy faults passes start db
    let after := drainUntilIdle rt clock policy faults maxPasses start db
    let now := (clock.now before.clock).1
    let reading := (clock.now (clock.now before.clock).2).1
    passes < maxPasses → before.running = true →
    (drainUntilIdle rt clock policy faults (passes + 1) start db).running = false →
    (Quiet (drain rt policy (finalReading clock before after) defaultLimit rng faults after.db).report ↔
      ∀ row ∈ unreached policy now reading before.db, Premature rt faults before.db row) := by
  intro before after now reading early running stops
  have step : drainUntilIdle rt clock policy faults (passes + 1) start db = idlePass rt clock policy faults before :=
    Function.iterate_succ_apply' _ _ _
  have last : after = idlePass rt clock policy faults before := (drainUntilIdle_stopped early stops).trans step
  rw [step] at stops
  obtain ⟨left, ended⟩ := idlePass_stops running stops
  rw [← last] at left
  have alike := quiet_again_iff rt policy faults now reading (some before.rng) rng before.db
  rw [finalReading, left]
  generalize passed : drain rt policy (clock.now before.clock).1 defaultLimit (some before.rng) faults before.db = pass at ended alike ⊢
  by_cases empty : pendingTimes pass.db = []
  · refine iff_of_true (drained_quiet empty _ rng) fun row member => ?_
    obtain ⟨other, stored, found, pending⟩ := mem_unreached member
    have kept := drain_frame rt policy now defaultLimit (some before.rng) faults before.db other
    rw [passed, found] at kept
    exact absurd pending (pendingTimes_nil empty (Table.find?_eq_some.mp kept).1)
  · rw [if_neg (by simpa using empty)]
    exact alike (ended.resolve_left empty)

end Stops

/-- Two captures whose authorizations never come. -/
def orphanDocuments : List Mapping := [captureBody "evt_1" "ch_1" "pi_1" 100 1000, captureBody "evt_2" "ch_2" "pi_2" 100 1000]

def orphanRuntime : Runtime Int Unit := .recorded orphanDocuments []

/-- The second came in later than the first. -/
def orphans : Db Int :=
  (claim orphanRuntime .stripe (str "evt_2") (Json.body (captureBody "evt_2" "ch_2" "pi_2" 100 1000)) [] 11 30
    (claim orphanRuntime .stripe (str "evt_1") (Json.body (captureBody "evt_1" "ch_1" "pi_1" 100 1000)) [] 0 30 .empty).2).2

/-- Parked for no time at all. -/
def impatient : RetryPolicy Int := { baseSeconds := 0, maxSeconds := 300 }

/-- Every reading of the clock takes a second. -/
def ticking : Clock Int Int where
  now t := (t, t + 1)
  sleep t seconds := t + seconds

/-- The second capture falls due between the last readings, and is as premature as the first. -/
theorem idle_quiet_iff_orphans :
    let before := drainUntilIdle orphanRuntime ticking impatient (fun _ => none) 1 8 orphans
    let after := drainUntilIdle orphanRuntime ticking impatient (fun _ => none) 8 8 orphans
    let now := (ticking.now before.clock).1
    let reading := (ticking.now (ticking.now before.clock).2).1
    (unreached impatient now reading before.db).length = 1 ∧
      (Quiet (drain orphanRuntime impatient (finalReading ticking before after) defaultLimit none (fun _ => none) after.db).report ↔
        ∀ row ∈ unreached impatient now reading before.db, Premature orphanRuntime (fun _ => none) before.db row) := by
  have running : (drainUntilIdle orphanRuntime ticking impatient (fun _ => none) 1 8 orphans).running = true := by
    decide +kernel
  have stops : (drainUntilIdle orphanRuntime ticking impatient (fun _ => none) 2 8 orphans).running = false := by
    decide +kernel
  intro before after now reading
  refine ⟨?_, idle_quiet_iff ticking impatient (fun _ => none) 8 orphans 1 8 none (by decide) running stops⟩
  decide +kernel

section Backlog

/-- The tens and the units of a number up to a hundred, ten tens written as `:`. -/
def digits (n : Nat) : Str := [n / 10, n % 10].map fun d => Fin.ofNat _ (48 + d)

/-- A hundred cancellations of a payment that was never authorized, and the
authorization of another one. -/
def backlogDocument (n : Nat) : Mapping :=
  let (eventType, object) := if n < 100
    then ("payment_intent.canceled", [(str "id", Json.str (str "pi_1"))])
    else ("payment_intent.amount_capturable_updated",
      [(str "id", .str (str "pi_2")), (str "amount", .int 1000), (str "currency", .str (str "eur"))])
  [(str "id", .str (digits n)), (str "type", .str (str eventType)), (str "created", .int 100),
    (str "data", .dict [(str "object", .dict object)])]

/-- The reader of these documents, each of which is found by its number. -/
def backlogRuntime : Runtime Int Unit :=
  { Runtime.recorded [] [] with
    loads := fun raw =>
      let number := ((raw.drop 8).take 2).foldl (fun n digit => n * 10 + (digit.toNat - 48)) 0
      if Json.body (backlogDocument number) = raw then .ok (.dict (backlogDocument number))
      else raise .jsonDecodeError (str "Expecting value: line 1 column 1 (char 0)") }

def receive (n : Nat) (now : Int) (db : Db Int) : Db Int :=
  (claim backlogRuntime .stripe (digits n) (Json.body (backlogDocument n)) [] now 30 db).2

/-- The cancellations came and were parked before the authorization came. -/
def backlog : Db Int :=
  receive 100 5 (drain backlogRuntime .standard 0 defaultLimit none (fun _ => none)
    ((List.range 100).foldl (fun db n => receive n 0 db) .empty)).db

def backlogIdle (maxPasses : Nat) : Idling Int Unit Int :=
  drainUntilIdle backlogRuntime (FakeClock Int) .standard (fun _ => none) maxPasses 10 backlog

/-- The loop gives up after its first pass, and one more pass at the time on the clock
applies the authorization. -/
theorem backlog_strands :
    ((backlogIdle 1).running, (backlogIdle 8).clock, (backlogIdle 8).total,
      (drain backlogRuntime .standard 10 defaultLimit none (fun _ => none) (backlogIdle 8).db).report) =
    (false, 10, {}, { applied := 1 }) := by
  decide +kernel

end Backlog
end Quidz.Proofs
