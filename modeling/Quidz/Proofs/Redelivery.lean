import Quidz.Proofs.Decoding
import Quidz.Proofs.Twins

/-! Redeliveries. A claim that brings the stored bytes again leaves an inbox that the
worker cannot tell from the one it met, so a run with redeliveries is served as the
run without them. -/

namespace Quidz.Proofs

open Library (Table)

variable {T R C : Type} [Seconds T] (rt : Runtime T R)

section Claims

variable {seen now : T} {first second : Db T} {fresh : Delivery T}

theorem Ready.congr {row other : Delivery T} (same : shown seen row = shown seen other) (ready : Ready seen row) :
    Ready seen other := by
  intro claimed fresh
  have state : (shown seen row).state = (shown seen other).state := congrArg Delivery.state same
  have attempts : (shown seen row).attempts = (shown seen other).attempts := congrArg Delivery.attempts same
  have next : row.nextAttemptAt.map (max seen) = other.nextAttemptAt.map (max seen) := congrArg Delivery.nextAttemptAt same
  rw [← next]
  exact ready (state.trans claimed) (attempts.trans fresh)

theorem Twins.symm (twins : Twins seen first second) : Twins seen second first := by
  refine ⟨twins.deliveries.symm, twins.effects.symm, twins.payments.symm, twins.counters.symm, fun row member => ?_⟩
  have inside : shown seen row ∈ first.deliveries.rows.map (shown seen) := by
    rw [← twins.deliveries]
    exact List.mem_map_of_mem member
  obtain ⟨other, member', same⟩ := List.mem_map.mp inside
  exact Ready.congr same (twins.ready other member')

/-- A redelivery of the stored bytes changes nothing that is shown. -/
theorem Twins.redelivered (twins : Twins seen first second) (later : seen ≤ now) (dueNow : fresh.nextAttemptAt = some now)
    {row : Delivery T} (found : second.deliveries.find? fresh.deliveryId = some row) (same : row.raw = fresh.raw)
    {result : Except Exc ClaimResult} {after : Db T} (answered : Claimed second fresh now result after) :
    Twins now first after := by
  have grown := twins.mono later
  cases answered with
  | new bound inserted =>
    rw [(Table.insert?_eq_some.mp inserted).1] at found
    cases found
  | @reclaimed other located held expired =>
    obtain rfl : other = row := Option.some.inj (located.symm.trans found)
    have unseen : shown now (refreshed fresh other) = shown now other := by
      have ready := grown.symm.ready other (Table.find?_eq_some.mp found).1 held
      simp only [shown, refreshed, ← same, dueNow, Delivery.mk.injEq, true_and, and_true]
      split
      next untried => simp [ready untried]
      next => rfl
    refine ⟨?_, grown.effects, grown.payments, grown.counters, grown.ready⟩
    rw [← grown.deliveries, Db.updateDelivery_deliveries, Table.rows_modify, List.map_map]
    refine List.map_congr_left fun old member => ?_
    simp only [Function.comp]
    split
    next here =>
      rw [second.deliveries.key_inj member (Table.find?_eq_some.mp found).1
        (here.trans (Table.find?_eq_some.mp found).2.symm)]
      exact unseen
    next => rfl
  | _ => exact grown

/-- A claim of both runs that brings other bytes than are stored has to be answered
alike. -/
theorem Twins.claimed (twins : Twins seen first second) (later : seen ≤ now)
    (dueNow : fresh.nextAttemptAt = some now) {result result' : Except Exc ClaimResult} {after after' : Db T}
    (answered : Claimed first fresh now result after) (answered' : Claimed second fresh now result' after')
    (alike : ∀ row, first.deliveries.find? fresh.deliveryId = some row → row.raw ≠ fresh.raw → result' = result) :
    Twins now after after' := by
  have grown := twins.mono later
  have both := grown.find? fresh.deliveryId
  cases found : first.deliveries.find? fresh.deliveryId with
  | none =>
    rw [found, Option.map_none, Option.map_eq_none_iff] at both
    cases answered with
    | unbound unbound exc =>
      cases answered' with
      | unbound => exact grown
      | new bound inserted =>
        rw [unbound] at bound
        cases bound
      | duplicate found' | inProgress found' | reclaimed found' =>
        rw [both] at found'
        cases found'
    | @new deliveries bound inserted =>
      cases answered' with
      | unbound unbound exc =>
        rw [unbound] at bound
        cases bound
      | @new deliveries' _ inserted' =>
        have rows := (Table.insert?_eq_some.mp inserted).2
        have rows' := (Table.insert?_eq_some.mp inserted').2
        refine ⟨?_, grown.effects, grown.payments, grown.counters, fun row member => ?_⟩
        · simp only [rows, rows', List.map_append, grown.deliveries]
        · rw [rows] at member
          rcases List.mem_append.mp member with inside | new
          · exact grown.ready row inside
          · rw [List.mem_singleton.mp new]
            intro _ _
            simp [dueNow]
      | duplicate found' | inProgress found' | reclaimed found' =>
        rw [both] at found'
        cases found'
    | duplicate found' | inProgress found' | reclaimed found' =>
      rw [found] at found'
      cases found'
  | some row =>
    rw [found] at both
    obtain ⟨row', found', shows⟩ := Option.map_eq_some_iff.mp both
    have raw : (shown now row').raw = (shown now row).raw := congrArg Delivery.raw shows
    by_cases same : row.raw = fresh.raw
    · have redelivered := grown.redelivered le_rfl dueNow found' (raw.trans same) answered'
      exact (redelivered.symm.redelivered le_rfl dueNow found same answered).symm
    · have answers := alike row found same
      cases answered with
      | @reclaimed other located held expired =>
        cases answered' with
        | @reclaimed other' located' held' expired' =>
          refine grown.modify (Db.updateDelivery_deliveries _ _ _ _) (Db.updateDelivery_deliveries _ _ _ _)
            grown.effects grown.payments grown.counters (fun stored => ?_) fun stored ready _ untried => ?_
          · by_cases untried : stored.attempts = 0
            · simp [shown, refreshed, untried]
            · simp [shown, refreshed, untried, Function.comp_def]
          · have fresh : stored.attempts = 0 := untried
            simp [refreshed, fresh, dueNow]
        | _ => cases answers
      | new bound inserted =>
        rw [(Table.insert?_eq_some.mp inserted).1] at found
        cases found
      | _ =>
        cases answered' with
        | new bound inserted =>
          rw [(Table.insert?_eq_some.mp inserted).1] at found'
          cases found'
        | reclaimed => cases answers
        | _ => exact grown

end Claims

section Runs

/-- What comes to an inbox: a provider, or the worker for one pass or until nothing is
due. -/
inductive Request (T R C : Type) where
  | claim (provider : Provider) (identity : Str) (raw : Bytes) (headers : List (Str × Str)) (now leaseSeconds : T)
  | drain (policy : RetryPolicy T) (now : T) (limit : Int) (rng : Option R) (faults : Str → Option Exc)
  | drainUntilIdle (policy : RetryPolicy T) (faults : Str → Option Exc) (maxPasses : Nat) (start : C)

/-- What the worker is left with: a report, a generator, and the clock it waited on. -/
inductive Answer (R C : Type) where
  | drained (report : DrainReport) (rng : R)
  | idled (total : DrainReport) (rng : R) (clock : C)

/-- An inbox, the latest clock reading, and the worker's answers, the latest first. -/
structure Served (T R C : Type) where
  db : Db T := .empty
  seen : T
  answers : List (Answer R C) := []

variable (clock : Clock T C) (reached : C → T)

def serve (served : Served T R C) : Request T R C → Served T R C
  | .claim provider identity raw headers now leaseSeconds =>
    { served with db := (claim rt provider identity raw headers now leaseSeconds served.db).2, seen := now }
  | .drain policy now limit rng faults =>
    let pass := drain rt policy now limit rng faults served.db
    { db := pass.db, seen := now, answers := .drained pass.report pass.rng :: served.answers }
  | .drainUntilIdle policy faults maxPasses start =>
    let idling := drainUntilIdle rt clock policy faults maxPasses start served.db
    { db := idling.db, seen := reached idling.clock
      answers := .idled idling.total idling.rng idling.clock :: served.answers }

/-- A request both runs have, or a claim that comes again in the second only. -/
inductive Entry (T R C : Type) where
  | shared (request : Request T R C)
  | redelivery (provider : Provider) (identity : Str) (raw : Bytes) (headers : List (Str × Str)) (now leaseSeconds : T)

/-- Both runs after an entry. -/
def serveBoth (first second : Served T R C) : Entry T R C → Served T R C × Served T R C
  | .shared request => (serve rt clock reached first request, serve rt clock reached second request)
  | .redelivery provider identity raw headers now leaseSeconds =>
    (first, serve rt clock reached second (.claim provider identity raw headers now leaseSeconds))

/-- No reading lies before an earlier one, and a redelivery brings the bytes that are
stored. -/
def Stated (_ second : Served T R C) : Entry T R C → Prop
  | .shared (.claim _ _ _ _ now _) => second.seen ≤ now
  | .shared (.drain _ now _ _ _) => second.seen ≤ now
  | .shared (.drainUntilIdle _ _ _ start) => second.seen ≤ reached start
  | .redelivery provider identity raw _ now _ =>
    second.seen ≤ now ∧ ∃ row ∈ second.db.deliveries.find? (deliveryId provider identity), row.raw = raw

/-- A claim of both runs that brings other bytes than are stored is answered alike in
both. -/
def Answered (first second : Served T R C) : Entry T R C → Prop
  | .shared (.claim provider identity raw headers now leaseSeconds) =>
    ∀ row ∈ first.db.deliveries.find? (deliveryId provider identity), row.raw ≠ raw →
      (claim rt provider identity raw headers now leaseSeconds second.db).1 =
        (claim rt provider identity raw headers now leaseSeconds first.db).1
  | _ => True

def serveAll (script : List (Entry T R C)) (runs : Served T R C × Served T R C) : Served T R C × Served T R C :=
  script.foldl (fun runs entry => serveBoth rt clock reached runs.1 runs.2 entry) runs

/-- What holds of both runs before each entry of a script. -/
def Throughout (holds : Served T R C → Served T R C → Entry T R C → Prop) :
    List (Entry T R C) → Served T R C × Served T R C → Prop
  | [], _ => True
  | entry :: script, runs =>
    holds runs.1 runs.2 entry ∧ Throughout holds script (serveBoth rt clock reached runs.1 runs.2 entry)

/-- What the two runs have in common. -/
structure Indistinct (first second : Served T R C) : Prop where
  twins : Twins second.seen first.db second.db
  answers : second.answers = first.answers

variable {rt clock reached}

theorem Indistinct.serve (steady : Steady clock reached) {first second : Served T R C} (both : Indistinct first second)
    {entry : Entry T R C} (stated : Stated reached first second entry) (answered : Answered rt first second entry) :
    Indistinct (serveBoth rt clock reached first second entry).1 (serveBoth rt clock reached first second entry).2 := by
  cases entry with
  | redelivery provider identity raw headers now leaseSeconds =>
    obtain ⟨later, row, found, same⟩ := stated
    have answered := claimed_self rt provider identity raw headers now leaseSeconds second.db
    exact ⟨both.twins.redelivered later rfl found same answered, both.answers⟩
  | shared request =>
    cases request with
    | claim provider identity raw headers now leaseSeconds =>
      refine ⟨both.twins.claimed stated rfl (claimed_self rt provider identity raw headers now leaseSeconds first.db)
        (claimed_self rt provider identity raw headers now leaseSeconds second.db) answered, both.answers⟩
    | drain policy now limit rng faults =>
      have abreast := both.twins.drain rt policy stated limit rng faults
      refine ⟨abreast.db, ?_⟩
      simp only [serveBoth, Quidz.Proofs.serve, abreast.report, abreast.rng, both.answers]
    | drainUntilIdle policy faults maxPasses start =>
      have paced := both.twins.drainUntilIdle rt steady policy faults stated maxPasses
      refine ⟨?_, ?_⟩
      · simpa only [serveBoth, Quidz.Proofs.serve, paced.clock] using paced.db
      · simp only [serveBoth, Quidz.Proofs.serve, paced.total, paced.rng, paced.clock, both.answers]

theorem Indistinct.serveAll (steady : Steady clock reached) {script : List (Entry T R C)}
    {runs : Served T R C × Served T R C} (both : Indistinct runs.1 runs.2)
    (stated : Throughout rt clock reached (Stated reached) script runs)
    (answered : Throughout rt clock reached (Answered rt) script runs) :
    Indistinct (serveAll rt clock reached script runs).1 (serveAll rt clock reached script runs).2 := by
  induction script generalizing runs with
  | nil => exact both
  | cons entry script ih => exact ih (both.serve steady stated.1 answered.1) stated.2 answered.2

/-- The columns of a delivery that say how it fares. -/
def fate (row : Delivery T) : Str × DeliveryState × Nat × Option Str × Option T :=
  (row.deliveryId, row.state, row.attempts, row.reasonCode, row.parkedUntil)

end Runs

section Decidable
variable (first second : Served Int Unit Int)

instance Stated.decidable : ∀ entry, Decidable (Stated id first second entry)
  | .shared (.claim ..) => inferInstanceAs (Decidable (_ ≤ _))
  | .shared (.drain ..) => inferInstanceAs (Decidable (_ ≤ _))
  | .shared (.drainUntilIdle ..) => inferInstanceAs (Decidable (_ ≤ _))
  | .redelivery .. => inferInstanceAs (Decidable (_ ∧ ∃ row, row ∈ _ ∧ _))

instance Answered.decidable (rt : Runtime Int Unit) : ∀ entry, Decidable (Answered rt first second entry)
  | .shared (.claim ..) => inferInstanceAs (Decidable (∀ row, row ∈ _ → _ → _))
  | .shared (.drain ..) => inferInstanceAs (Decidable True)
  | .shared (.drainUntilIdle ..) => inferInstanceAs (Decidable True)
  | .redelivery .. => inferInstanceAs (Decidable True)

instance Throughout.decidable (rt : Runtime Int Unit) (clock : Clock Int Int)
    (holds : Served Int Unit Int → Served Int Unit Int → Entry Int Unit Int → Prop)
    [∀ first second entry, Decidable (holds first second entry)] :
    ∀ script runs, Decidable (Throughout rt clock id holds script runs)
  | [], _ => inferInstanceAs (Decidable True)
  | _ :: script, _ =>
    have := Throughout.decidable rt clock holds script
    inferInstanceAs (Decidable (_ ∧ _))

end Decidable

theorem fakeClock_steady : Steady (FakeClock Int) id := by
  refine ⟨fun c => ⟨le_rfl, le_rfl⟩, fun c wait positive => ?_⟩
  show c ≤ c + wait
  omega

variable {rt} {clock : Clock T C} {reached : C → T}

/-- After every script of claims, passes and loops: the run with redeliveries has the
same effects, payments, counters, fates and answers as the run without, and selects
the same deliveries in the same order from then on. -/
theorem redelivery_invisible (steady : Steady clock reached) (start : T) (script : List (Entry T R C))
    (stated : Throughout rt clock reached (Stated reached) script ({ seen := start }, { seen := start }))
    (answered : Throughout rt clock reached (Answered rt) script ({ seen := start }, { seen := start })) :
    let (first, second) := serveAll rt clock reached script ({ seen := start }, { seen := start })
    second.db.effects = first.db.effects ∧ second.db.payments = first.db.payments ∧
    second.db.counters = first.db.counters ∧
    second.db.deliveries.rows.map fate = first.db.deliveries.rows.map fate ∧
    second.answers = first.answers ∧
    ∀ now limit, second.seen ≤ now → selectDue second.db now limit = selectDue first.db now limit := by
  have started : Indistinct (T := T) (R := R) (C := C) { seen := start } { seen := start } :=
    ⟨⟨rfl, rfl, rfl, rfl, fun _ member => by cases member⟩, rfl⟩
  obtain ⟨twins, answers⟩ := started.serveAll steady stated answered
  refine ⟨twins.effects, twins.payments, twins.counters, ?_, answers, fun now limit later => twins.selectDue later limit⟩
  have fates (db : Db T) (seen : T) : db.deliveries.rows.map fate = (db.deliveries.rows.map (shown seen)).map fate := by
    rw [List.map_map]
    rfl
  have same := congrArg (List.map fate) twins.deliveries
  rwa [← fates, ← fates] at same

/-- The delivery is tried again after a delay, and a redelivery comes before the delay
is over. -/
def backingOff : List (Entry Int Unit Int) :=
  [.shared (.claim .stripe (str "evt_1") (Json.body unmodelled) [] 0 30),
    .shared (.drain .standard 1 defaultLimit none fun _ => none),
    .redelivery .stripe (str "evt_1") (Json.body unmodelled) [] 2 30,
    .shared (.drainUntilIdle .standard (fun _ => none) 8 2)]

theorem redelivery_invisible_backingOff :
    let (first, second) := serveAll (.recorded [unmodelled] []) (FakeClock Int) id backingOff ({ seen := 0 }, { seen := 0 })
    second.db.effects = first.db.effects ∧ second.db.payments = first.db.payments ∧
    second.db.counters = first.db.counters ∧
    second.db.deliveries.rows.map fate = first.db.deliveries.rows.map fate ∧
    second.answers = first.answers ∧
    ∀ now limit, second.seen ≤ now → selectDue second.db now limit = selectDue first.db now limit :=
  redelivery_invisible fakeClock_steady 0 backingOff (by decide +kernel) (by decide +kernel)

/-- The refresh of a payload meets a lease that a redelivery of the older one took. -/
def refreshedLate : List (Entry Int Unit Int) :=
  [.shared (.claim .stripe (str "evt_1") (Json.body (authorization 1000)) [] 0 30),
    .redelivery .stripe (str "evt_1") (Json.body (authorization 1000)) [] 35 30,
    .shared (.claim .stripe (str "evt_1") (Json.body (authorization 2500)) [] 40 30),
    .shared (.drain .standard 41 defaultLimit none fun _ => none)]

def refreshedLateRuns : Served Int Unit Int × Served Int Unit Int :=
  serveAll authorizations (FakeClock Int) id refreshedLate ({ seen := 0 }, { seen := 0 })

/-- The redelivery keeps the refresh out, and the older hold is applied. -/
theorem refreshedLate_seen :
    Throughout authorizations (FakeClock Int) id (Stated id) refreshedLate ({ seen := 0 }, { seen := 0 }) ∧
    refreshedLateRuns.1.db.effects.rows.map EffectRow.amountMinor = [some 2500] ∧
    refreshedLateRuns.2.db.effects.rows.map EffectRow.amountMinor = [some 1000] := by
  refine ⟨?_, ?_, ?_⟩
  all_goals decide +kernel

end Quidz.Proofs
