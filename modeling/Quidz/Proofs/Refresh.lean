import Mathlib.Data.List.Induction
import Quidz.Proofs.Decoding
import Quidz.Proofs.Lifecycle

/-! Claims that come inside a pass. The pass applies a row from the bytes it
selected, so the effect is that of the stored bytes exactly as long as no refresh
accepted since the selection decodes to another one. -/

namespace Quidz.Proofs

open Library (Table)

variable {T R : Type} [Seconds T] (rt : Runtime T R)

/-- The effect of an applied delivery is the one its stored bytes decode to. -/
def Genuine (db : Db T) : Prop :=
  ∀ row ∈ db.deliveries.rows, row.state = .applied →
    ∃ event, decode rt row.provider row.raw = .ok event ∧ effectRow row.deliveryId event ∈ db.effects.rows

/-- The stored bytes of a delivery are the last that were accepted for it. -/
def Latest (accepted : List (Str × Bytes)) (db : Db T) : Prop :=
  ∀ row ∈ db.deliveries.rows, accepted.lookup row.deliveryId = some row.raw

/-- The next transaction of the pass is about to apply this event of this row. -/
structure Applying (shared : Shared T R) (row : Selected) (event : CanonicalEvent T) : Prop where
  next : ∃ worker rest, shared.worker = some worker ∧ worker.failed = none ∧ worker.rows = row :: rest ∧
    worker.faults row.deliveryId = none
  decoded : decode rt row.provider row.raw = .ok event
  applied : (applyDelivery row.deliveryId event shared.db).1 = .ok .applied

/-- A transaction that applies a row finds bytes stored that mean the same effect as
the bytes that were selected. -/
def Current (shared : Shared T R) : SharedOp T R → Prop
  | .transact => ∀ row event stored, Applying rt shared row event →
      shared.db.deliveries.find? row.deliveryId = some stored →
      ∃ now, decode rt stored.provider stored.raw = .ok now ∧
        effectRow row.deliveryId now = effectRow row.deliveryId event
  | _ => True

/-- What every interleaving keeps. -/
structure Coherent (shared : Shared T R) : Prop where
  accounted : Accounted shared.db
  synced : ∀ worker, shared.worker = some worker → Worker.Synced Held worker shared.db
  latest : Latest shared.accepted shared.db

section Claims

variable {rt} {db after : Db T} {fresh : Delivery T} {now : T} {result : Except Exc ClaimResult}

/-- A claim leaves every pending row pending, with at most another payload. -/
theorem Stored.claimed {row : Selected} (stored : Stored Held db row) (answered : Claimed db fresh now result after) :
    Stored Held after row := by
  obtain ⟨held, found, provider, attempts, state, pending⟩ := stored
  cases answered with
  | new bound inserted =>
    refine ⟨held, ?_, provider, attempts, state, pending⟩
    rw [Table.find?_insert inserted]
    split
    next same =>
      rw [← same, (Table.insert?_eq_some.mp inserted).1] at found
      cases found
    next => exact found
  | @reclaimed other located claimed expired =>
    by_cases same : fresh.deliveryId = row.deliveryId
    · exact ⟨refreshed fresh held, by simp [same, found], provider, attempts, state, pending⟩
    · exact ⟨held, by simp [same, found], provider, attempts, state, pending⟩
  | _ => exact ⟨held, found, provider, attempts, state, pending⟩

theorem Genuine.claimed (genuine : Genuine rt db) (claimed : fresh.state = .claimed)
    (answered : Claimed db fresh now result after) : Genuine rt after := by
  cases answered with
  | new bound inserted =>
    intro row member applied
    exact genuine row (mem_of_inserted claimed inserted member (by simp [applied])) applied
  | @reclaimed row found held expired =>
    intro other member applied
    rcases mem_of_changed found (Db.updateDelivery_deliveries _ _ _ _) member with rfl | inside
    · have still : (refreshed fresh row).state = .claimed := held
      rw [still] at applied
      cases applied
    · exact genuine other inside applied
  | _ => exact genuine

end Claims

omit [Seconds T] in
/-- No transaction of a pass writes to the payload. -/
theorem Latest.changed {accepted : List (Str × Bytes)} {db after : Db T} (latest : Latest accepted db) {id : Str}
    {row : Delivery T} {change : Delivery T → Delivery T} {keeps} (found : db.deliveries.find? id = some row)
    (deliveries : after.deliveries = db.deliveries.modify id change keeps) (same : (change row).raw = row.raw) :
    Latest accepted after := by
  intro other member
  rcases mem_of_changed found deliveries member with rfl | inside
  · rw [keeps row, same]
    exact latest row (Table.find?_eq_some.mp found).1
  · exact latest other inside

theorem Genuine.changed {db after : Db T} (genuine : Genuine rt db) {id : Str} {row : Delivery T}
    {change : Delivery T → Delivery T} {keeps} (found : db.deliveries.find? id = some row)
    (deliveries : after.deliveries = db.deliveries.modify id change keeps)
    (effects : ∀ effect ∈ db.effects.rows, effect ∈ after.effects.rows)
    (settles : (change row).state = .applied → ∃ event, decode rt (change row).provider (change row).raw = .ok event ∧
      effectRow (change row).deliveryId event ∈ after.effects.rows) : Genuine rt after := by
  intro other member applied
  rcases mem_of_changed found deliveries member with rfl | inside
  · exact settles applied
  · obtain ⟨event, decoded, holds⟩ := genuine other inside applied
    exact ⟨event, decoded, effects _ holds⟩

section Steps

variable {rt} {policy : RetryPolicy T} {now : T}

theorem Genuine.handled {pass : Pass T R} (genuine : Genuine rt pass.db) {row : Selected}
    (stored : Stored Held pass.db row) (exc : Exc) : Genuine rt (handle rt policy now row exc pass).db := by
  obtain ⟨held, found, _, _, _, pending⟩ := stored
  refine genuine.changed rt found (handle_deliveries rt policy now row exc pass)
    (fun _ inside => handle_effects rt policy now row exc pass ▸ inside) ?_
  cases retryDelay rt policy row exc pass.budgetUsed pass.rng
  all_goals exact fun applied => by cases applied

/-- After an attempt the effects are genuine exactly if the bytes stored for an
applied row mean the effect that was recorded. -/
theorem Genuine.attempted {db after : Db T} (genuine : Genuine rt db) (valid : Accounted after) {fault : Option Exc}
    {row : Selected} {stored : Delivery T} (found : db.deliveries.find? row.deliveryId = some stored) {result : Except Exc DrainReport}
    (answered : Attempted rt policy now fault row db result after) : Genuine rt after ↔
      ∀ event, fault = none → decode rt row.provider row.raw = .ok event →
        (applyDelivery row.deliveryId event db).1 = .ok .applied →
        ∃ now, decode rt stored.provider stored.raw = .ok now ∧
          effectRow row.deliveryId now = effectRow row.deliveryId event := by
  cases answered with
  | faulted raised =>
    refine ⟨fun _ event sound => ?_, fun _ => genuine⟩
    rw [sound] at raised
    cases raised
  | undecodable sound undecodable =>
    refine ⟨fun _ event _ decoded => ?_, fun _ => genuine⟩
    rw [undecodable] at decoded
    cases decoded
  | refused sound decoded refused =>
    refine ⟨fun _ event _ decoded' applied => ?_, fun _ => genuine⟩
    rw [decoded] at decoded'
    cases decoded'
    rw [refused] at applied
    cases applied
  | @delivered event outcome reached sound decoded delivered =>
    have deliveries := settle_deliveries policy now row.deliveryId row.state outcome reached
    have effects := settle_effects policy now row.deliveryId row.state outcome reached
    have answer : (applyDelivery row.deliveryId event db).1 = .ok outcome :=
      congrArg Prod.fst (applyDelivery_ok.mpr delivered)
    rw [delivered.deliveries] at deliveries
    by_cases applies : outcome = .applied
    · subst applies
      have rows := (Table.insert?_eq_some.mp delivered.extended.inserted).2
      have recorded : effectRow row.deliveryId event ∈
          (settle policy row.deliveryId row.state .applied now reached).2.effects.rows := by simp [rows]
      have id : stored.deliveryId = row.deliveryId := (Table.find?_eq_some.mp found).2
      constructor
      · intro kept event' _ decoded' _
        rw [decoded] at decoded'
        cases decoded'
        have settled : settledRow policy now .applied stored ∈
            (settle policy row.deliveryId row.state .applied now reached).2.deliveries.rows := by
          rw [deliveries]
          exact Table.mem_modify.mpr (.inl ⟨stored, (Table.find?_eq_some.mp found).1, id, rfl⟩)
        obtain ⟨meant, current, holds⟩ := kept _ settled rfl
        refine ⟨meant, current, ?_⟩
        have owner : (settledRow policy now .applied stored).deliveryId = row.deliveryId := id
        rw [owner] at holds
        exact (valid.owned settled rfl).unique ⟨holds, owner.symm⟩ ⟨recorded, owner.symm⟩
      · intro current
        refine genuine.changed rt found deliveries (fun effect inside => ?_) fun _ => ?_
        · simp [rows, inside]
        · obtain ⟨meant, decoded', same⟩ := current event sound decoded answer
          refine ⟨meant, decoded', ?_⟩
          have owner : (settledRow policy now .applied stored).deliveryId = row.deliveryId := id
          rw [owner, same]
          exact recorded
    · obtain rfl := delivered.unapplied applies
      refine ⟨fun _ event' _ decoded' applied => ?_, fun _ => ?_⟩
      · rw [decoded] at decoded'
        cases decoded'
        rw [answer] at applied
        cases applied
        exact absurd rfl applies
      · refine genuine.changed rt found deliveries (fun _ inside => effects ▸ inside) fun settled => ?_
        cases outcome with
        | applied => exact absurd rfl applies
        | parked | noopDuplicate => cases settled
        | rejected => cases delivered

variable {shared : Shared T R}

theorem Latest.attempted {accepted : List (Str × Bytes)} {db after : Db T} (latest : Latest accepted db)
    {fault : Option Exc} {row : Selected} (stored : Stored Held db row) {result : Except Exc DrainReport}
    (answered : Attempted rt policy now fault row db result after) : Latest accepted after := by
  obtain ⟨held, found, _⟩ := stored
  cases answered with
  | @delivered event outcome reached sound decoded delivered =>
    have deliveries := settle_deliveries policy now row.deliveryId row.state outcome reached
    rw [delivered.deliveries] at deliveries
    exact latest.changed found deliveries (by cases outcome <;> rfl)
  | _ => exact latest

theorem Latest.handled {accepted : List (Str × Bytes)} {pass : Pass T R} (latest : Latest accepted pass.db)
    {row : Selected} (stored : Stored Held pass.db row) (exc : Exc) :
    Latest accepted (handle rt policy now row exc pass).db := by
  obtain ⟨held, found, _⟩ := stored
  refine latest.changed found (handle_deliveries rt policy now row exc pass) ?_
  cases retryDelay rt policy row exc pass.budgetUsed pass.rng <;> rfl

theorem Latest.claimed {accepted : List (Str × Bytes)} {db after : Db T} (latest : Latest accepted db) {fresh : Delivery T}
    {answer : ClaimResult} (answered : Claimed db fresh now (.ok answer) after) :
    Latest (if answer.accepted then (answer.deliveryId, fresh.raw) :: accepted else accepted) after := by
  have pushed {other : Delivery T} (different : other.deliveryId ≠ fresh.deliveryId) (inside : other ∈ db.deliveries.rows) :
      ((fresh.deliveryId, fresh.raw) :: accepted).lookup other.deliveryId = some other.raw := by
    simp only [List.lookup_cons, beq_eq_false_iff_ne.mpr different]
    exact latest other inside
  cases answered with
  | new bound inserted =>
    intro row member
    obtain ⟨absent, rows⟩ := Table.insert?_eq_some.mp inserted
    rw [rows] at member
    rcases List.mem_append.mp member with inside | new
    · exact pushed (Table.find?_eq_none.mp absent row inside) inside
    · rw [List.mem_singleton.mp new]
      simp
  | @reclaimed row found held expired =>
    intro other member
    rw [Db.updateDelivery_deliveries] at member
    rcases Table.mem_modify.mp member with ⟨old, inside, same, rfl⟩ | ⟨inside, different⟩
    · simp [refreshed, same]
    · exact pushed different inside
  | _ => exact latest

theorem Coherent.step (coherent : Coherent shared) (op : SharedOp T R) : Coherent (shared.step rt op) := by
  cases op with
  | claim provider identity raw headers now leaseSeconds =>
    rcases answer : claim rt provider identity raw headers now leaseSeconds shared.db with ⟨exc | result, after⟩
    · have answered := claim_claimed rt answer
      simp only [Shared.step, answer]
      refine ⟨coherent.accounted.claimed rfl answered, fun worker open_ => ?_, ?_⟩
      · obtain ⟨distinct, stored⟩ := coherent.synced worker open_
        exact ⟨distinct, fun row member => (stored row member).claimed answered⟩
      · cases answered
        exact coherent.latest
    · have answered := claim_claimed rt answer
      simp only [Shared.step, answer]
      refine ⟨coherent.accounted.claimed rfl answered, fun worker open_ => ?_, coherent.latest.claimed answered⟩
      obtain ⟨distinct, stored⟩ := coherent.synced worker open_
      exact ⟨distinct, fun row member => (stored row member).claimed answered⟩
  | select policy now limit rng faults =>
    refine ⟨coherent.accounted, fun worker open_ => ?_, coherent.latest⟩
    obtain ⟨distinct, stored⟩ := select_synced rt policy now limit rng faults shared.db
    cases open_
    exact ⟨distinct, fun row member => (stored row member).held⟩
  | transact =>
    cases open_ : shared.worker with
    | none => simpa only [Shared.step, open_] using coherent
    | some worker =>
      have kept := transact_keeps (motive := fun db => Accounted db ∧ Latest shared.accepted db)
        (fun policy now fault row db ⟨valid, latest⟩ stored =>
          ⟨valid.attempted stored (attempted_self rt policy now fault row db),
            latest.attempted stored (attempted_self rt policy now fault row db)⟩)
        (fun policy now row exc pass ⟨valid, latest⟩ stored => ⟨valid.handled stored exc, latest.handled stored exc⟩)
        (coherent.synced worker open_) ⟨coherent.accounted, coherent.latest⟩
      simp only [Shared.step, open_]
      refine ⟨kept.2.1, fun other same => ?_, kept.2.2⟩
      cases same
      exact kept.1
  | crash =>
    refine ⟨coherent.accounted, fun worker open_ => ?_, coherent.latest⟩
    cases open_

theorem Genuine.step (genuine : Genuine rt shared.db) (coherent : Coherent shared) (op : SharedOp T R) :
    Genuine rt (shared.step rt op).db ↔ Current rt shared op := by
  cases op with
  | claim provider identity raw headers now leaseSeconds =>
    have kept := genuine.claimed rfl (claimed_self rt provider identity raw headers now leaseSeconds shared.db)
    refine ⟨fun _ => trivial, fun _ => ?_⟩
    rcases answer : claim rt provider identity raw headers now leaseSeconds shared.db with ⟨exc | result, after⟩
    all_goals
      rw [answer] at kept
      simpa only [Shared.step, answer] using kept
  | select policy now limit rng faults => exact ⟨fun _ => trivial, fun _ => genuine⟩
  | crash => exact ⟨fun _ => trivial, fun _ => genuine⟩
  | transact =>
    have valid : Accounted (shared.step rt .transact).db := (coherent.step .transact).accounted
    rcases open_ : shared.worker with _ | ⟨policy, now, faults, rows, failed, used, rng, report⟩
    · refine ⟨fun _ row event stored applying => ?_, fun _ => ?_⟩
      · obtain ⟨worker, _, started, _⟩ := applying.next
        rw [open_] at started
        cases started
      · simpa only [Shared.step, open_] using genuine
    have reading := (coherent.synced _ open_).stored
    simp only [Shared.step, open_, Worker.transact] at valid ⊢
    cases failed with
    | some entry =>
      obtain ⟨row, exc⟩ := entry
      refine ⟨fun _ row event stored applying => ?_, fun _ => ?_⟩
      · obtain ⟨worker, _, started, clear, _⟩ := applying.next
        rw [open_] at started
        cases started
        cases clear
      · exact Genuine.handled genuine (reading row List.mem_cons_self) exc
    | none =>
      cases rows with
      | nil =>
        refine ⟨fun _ row event stored applying => ?_, fun _ => genuine⟩
        obtain ⟨worker, _, started, _, nonempty, _⟩ := applying.next
        rw [open_] at started
        cases started
        cases nonempty
      | cons row rest =>
        obtain ⟨stored, found, _⟩ := reading row List.mem_cons_self
        rcases answered : attempt rt policy now (faults row.deliveryId) row shared.db with ⟨result, after⟩
        have current (valid : Accounted after) : Genuine rt after ↔ Current rt shared .transact := by
          rw [genuine.attempted valid found (attempt_attempted rt policy now answered)]
          constructor
          · intro meant row' event stored' applying found'
            obtain ⟨worker, rest', started, _, next, sound⟩ := applying.next
            rw [open_] at started
            cases started
            cases next
            rw [found] at found'
            cases found'
            exact meant event sound applying.decoded applying.applied
          · intro current event sound decoded applied
            exact current row event stored ⟨⟨_, rest, open_, rfl, rfl, sound⟩, decoded, applied⟩ found
        cases result with
        | error exc =>
          simp only [answered] at valid ⊢
          exact current valid
        | ok report =>
          simp only [answered] at valid ⊢
          exact current valid

theorem run_coherent (ops : List (SharedOp T R)) : Coherent (Shared.run rt { db := .empty } ops) := by
  apply List.foldlRecOn ops (Shared.step rt)
  · refine ⟨.empty, fun worker open_ => ?_, fun row member => ?_⟩
    · cases open_
    · cases member
  · exact fun _ coherent op _ => coherent.step op

end Steps

/-- Over every interleaving of claims with the steps of a pass: every applied
delivery has the effect its stored bytes decode to, and holds the bytes last accepted
for it, exactly if no transaction applies a row from bytes whose effect a later
refresh has changed. -/
theorem refresh_kept (ops : List (SharedOp T R)) :
    (∀ before later, ops = before ++ later →
      let shared := Shared.run rt { db := .empty } before
      Genuine rt shared.db ∧ Latest shared.accepted shared.db) ↔
    ∀ before op later, ops = before ++ op :: later → Current rt (Shared.run rt { db := .empty } before) op := by
  have next (before : List (SharedOp T R)) (op : SharedOp T R) : Shared.run rt { db := .empty } (before ++ [op]) =
      (Shared.run rt { db := .empty } before).step rt op := by simp [Shared.run]
  constructor
  · intro kept before op later split
    have here := (kept before (op :: later) split).1
    have there := (kept (before ++ [op]) later (by simp [split])).1
    rw [next] at there
    exact (here.step (run_coherent before) op).mp there
  · intro current before
    induction before using List.reverseRec with
    | nil =>
      refine fun later split => ⟨fun row member => ?_, fun row member => ?_⟩
      · cases member
      · cases member
    | append_singleton before op ih =>
      intro later split
      have splits : ops = before ++ op :: later := by simpa using split
      have coherent : Coherent (Shared.run rt { db := .empty } (before ++ [op])) := run_coherent _
      refine ⟨?_, coherent.latest⟩
      rw [next]
      exact ((ih (op :: later) splits).1.step (run_coherent before) op).mpr (current before op later splits)

/-- A second delivery whose lease ran out is claimed between the selection and the
row's own transaction. -/
def overtaken : List (SharedOp Int Unit) :=
  [.claim .stripe (str "evt_1") (Json.body (authorization 1000)) [] 0 30,
    .select .standard 40 defaultLimit none fun _ => none,
    .claim .stripe (str "evt_1") (Json.body (authorization 2500)) [] 41 30,
    .transact]

def lost : Shared Int Unit := Shared.run authorizations { db := .empty } overtaken

/-- The refresh was accepted and is stored, and the older bytes were applied. -/
theorem overtaken_lost :
    lost.accepted.map Prod.snd = [Json.body (authorization 2500), Json.body (authorization 1000)] ∧
    lost.db.deliveries.rows.map (fun row => (row.provider, row.state, row.raw)) =
      [(.stripe, .applied, Json.body (authorization 2500))] ∧
    lost.db.effects.rows.map EffectRow.amountMinor = [some 1000] ∧
    ¬Genuine authorizations lost.db := by
  have stored : lost.db.deliveries.rows.map (fun row => (row.provider, row.state, row.raw)) =
      [(.stripe, .applied, Json.body (authorization 2500))] := by decide +kernel
  have recorded : lost.db.effects.rows.map EffectRow.amountMinor = [some 1000] := by decide +kernel
  have meant : (decode authorizations .stripe (Json.body (authorization 2500))).toOption.map
      (fun event : CanonicalEvent Int => event.amount.map Money.minor) = some (some 2500) := by decide +kernel
  refine ⟨by decide +kernel, stored, recorded, ?_⟩
  intro genuine
  obtain ⟨row, rows, same⟩ := List.map_eq_singleton_iff.mp stored
  simp only [Prod.mk.injEq] at same
  obtain ⟨provider, applied, raw⟩ := same
  obtain ⟨event, decoded, holds⟩ := genuine row (by simp [rows]) applied
  rw [provider, raw] at decoded
  rw [decoded] at meant
  have listed := List.mem_map_of_mem (f := EffectRow.amountMinor) holds
  rw [recorded, List.mem_singleton] at listed
  have amount : event.amount.map Money.minor = some 2500 := Option.some.inj meant
  have same : (effectRow row.deliveryId event).amountMinor = event.amount.map Money.minor := rfl
  rw [same, amount] at listed
  cases listed

end Quidz.Proofs
