import Quidz.Proofs.Passes

/-! The life of a delivery over whole runs of the inbox: claims, passes of one
worker, and the end of the process between any two transactions. Applied
deliveries and effect rows stay in one to one correspondence throughout. -/

namespace Quidz.Proofs

open Library (Table)

variable {T R : Type} [Seconds T] (rt : Runtime T R)

/-- The deliveries in one state, by their ids. -/
def idsIn (state : DeliveryState) (db : Db T) : List Str :=
  (db.deliveries.rows.filter fun row => row.state = state).map Delivery.deliveryId

/-- What holds of the store between any two transactions, claims inside a pass
included. -/
structure Accounted (db : Db T) : Prop where
  applied : (db.effects.rows.map EffectRow.deliveryId).Perm (idsIn .applied db)
  reasons : ∀ row ∈ db.deliveries.rows, row.state = .deadLettered → row.reasonCode.isSome = true
  appliedCounter : db.counter (.metric .applied) = db.effects.rows.length
  deadCounter : db.counter (.metric .deadLettered) = (idsIn .deadLettered db).length

/-- The stored bytes of a duplicate decode to a business key the ledger has. -/
def Duplicates (db : Db T) : Prop :=
  ∀ row ∈ db.deliveries.rows, row.state = .duplicate →
    ∃ event, decode rt row.provider row.raw = .ok event ∧
      ∃ effect ∈ db.effects.rows, effect.key = (effectRow row.deliveryId event).key

section Ids

omit [Seconds T]
variable {db after : Db T} {id : Str} {row : Delivery T} {change : Delivery T → Delivery T} {keeps}
  {state : DeliveryState}

theorem idsIn_keep (found : db.deliveries.find? id = some row)
    (changed : after.deliveries = db.deliveries.modify id change keeps) (was : row.state ≠ state)
    (becomes : (change row).state ≠ state) : idsIn state after = idsIn state db := by
  obtain ⟨earlier, later, before, rows⟩ := Table.modify_split found change keeps
  simp only [idsIn, changed, before, rows]
  simp [was, becomes]

theorem idsIn_enter (found : db.deliveries.find? id = some row)
    (changed : after.deliveries = db.deliveries.modify id change keeps) (was : row.state ≠ state)
    (becomes : (change row).state = state) : (idsIn state after).Perm (id :: idsIn state db) := by
  obtain ⟨earlier, later, before, rows⟩ := Table.modify_split found change keeps
  have same : (change row).deliveryId = id := (keeps row).trans (Table.find?_eq_some.mp found).2
  simp only [idsIn, changed, before, rows]
  simp [was, becomes, same]

theorem unsettled_of_pending {state : DeliveryState} (pending : row.state.pending = true)
    (final : state.pending = false) : row.state ≠ state := by
  intro same
  rw [same, final] at pending
  cases pending

theorem mem_of_changed (found : db.deliveries.find? id = some row)
    (deliveries : after.deliveries = db.deliveries.modify id change keeps) {other : Delivery T}
    (member : other ∈ after.deliveries.rows) : other = change row ∨ other ∈ db.deliveries.rows := by
  rw [deliveries] at member
  rcases Table.mem_modify.mp member with ⟨old, inside, selected, rfl⟩ | ⟨inside, _⟩
  · obtain ⟨member, same⟩ := Table.find?_eq_some.mp found
    exact .inl (by rw [db.deliveries.key_inj inside member (selected.trans same.symm)])
  · exact .inr inside

theorem mem_of_inserted {fresh : Delivery T} {deliveries} (claimed : fresh.state = .claimed)
    (inserted : db.deliveries.insert? fresh = some deliveries) {other : Delivery T} (member : other ∈ deliveries.rows)
    (settled : other.state ≠ .claimed) : other ∈ db.deliveries.rows := by
  rw [(Table.insert?_eq_some.mp inserted).2] at member
  rcases List.mem_append.mp member with inside | new
  · exact inside
  · rw [List.mem_singleton.mp new] at settled
    exact absurd claimed settled

end Ids

namespace Accounted

variable {rt} {db after : Db T}

omit [Seconds T] in
theorem empty : Accounted (Db.empty : Db T) := ⟨.refl _, nofun, rfl, rfl⟩

omit [Seconds T] in
theorem stored (valid : Accounted db) {fresh : Delivery T} {deliveries} (claimed : fresh.state = .claimed)
    (inserted : db.deliveries.insert? fresh = some deliveries) : Accounted { db with deliveries } := by
  obtain ⟨_, rows⟩ := Table.insert?_eq_some.mp inserted
  have same {state : DeliveryState} (other : state ≠ .claimed) : idsIn state { db with deliveries } = idsIn state db := by
    simp [idsIn, rows, claimed, other.symm]
  constructor
  · rw [same (by decide)]
    exact valid.applied
  · intro row member buried
    exact valid.reasons row (mem_of_inserted claimed inserted member (by simp [buried])) buried
  · exact valid.appliedCounter
  · rw [same (by decide)]
    exact valid.deadCounter

section Change

omit [Seconds T]
variable {id : Str} {row : Delivery T} {change : Delivery T → Delivery T} {keeps}

/-- A pending delivery is written to while the ledger stays as it is. -/
theorem changed (valid : Accounted db) (found : db.deliveries.find? id = some row) (pending : row.state.pending = true)
    (deliveries : after.deliveries = db.deliveries.modify id change keeps) (effects : after.effects = db.effects)
    (open_ : (change row).state ≠ .applied)
    (reason : (change row).state = .deadLettered → (change row).reasonCode.isSome = true)
    (appliedCounter : after.counter (.metric .applied) = db.counter (.metric .applied))
    (deadCounter : after.counter (.metric .deadLettered) =
      db.counter (.metric .deadLettered) + if (change row).state = .deadLettered then 1 else 0) :
    Accounted after := by
  have unsettled {state : DeliveryState} (final : state.pending = false) := unsettled_of_pending pending final
  constructor
  · rw [effects, idsIn_keep found deliveries (unsettled rfl) open_]
    exact valid.applied
  · intro other member settled
    rcases mem_of_changed found deliveries member with rfl | inside
    · exact reason settled
    · exact valid.reasons other inside settled
  · rw [appliedCounter, effects]
    exact valid.appliedCounter
  · rw [deadCounter, valid.deadCounter]
    by_cases buried : (change row).state = .deadLettered
    · rw [(idsIn_enter found deliveries (unsettled rfl) buried).length_eq, if_pos buried]
      simp
    · rw [idsIn_keep found deliveries (unsettled rfl) buried, if_neg buried, Int.add_zero]

/-- A pending delivery is applied: one effect row more, and one applied delivery. -/
theorem recorded (valid : Accounted db) (found : db.deliveries.find? id = some row) (pending : row.state.pending = true)
    (deliveries : after.deliveries = db.deliveries.modify id change keeps) {effect : EffectRow T}
    (effects : db.effects.insert? effect = some after.effects) (owner : effect.deliveryId = id)
    (applied : (change row).state = .applied)
    (appliedCounter : after.counter (.metric .applied) = db.counter (.metric .applied) + 1)
    (deadCounter : after.counter (.metric .deadLettered) = db.counter (.metric .deadLettered)) :
    Accounted after := by
  have unsettled {state : DeliveryState} (final : state.pending = false) := unsettled_of_pending pending final
  have other : (change row).state ≠ .deadLettered := by simp [applied]
  obtain ⟨_, rows⟩ := Table.insert?_eq_some.mp effects
  constructor
  · have entered := idsIn_enter found deliveries (unsettled rfl) applied
    rw [rows, List.map_append, List.map_singleton, owner]
    exact (List.perm_append_singleton id _).trans ((valid.applied.cons id).trans entered.symm)
  · intro row' member settled
    rcases mem_of_changed found deliveries member with rfl | inside
    · exact absurd settled other
    · exact valid.reasons row' inside settled
  · rw [appliedCounter, valid.appliedCounter, rows]
    simp
  · rw [deadCounter, valid.deadCounter, idsIn_keep found deliveries (unsettled rfl) other]

end Change

variable {policy : RetryPolicy T} {now : T}

theorem claimed (valid : Accounted db) {fresh : Delivery T} {result : Except Exc ClaimResult}
    (claimed : fresh.state = .claimed) (answered : Claimed db fresh now result after) : Accounted after := by
  cases answered with
  | new bound inserted => exact valid.stored claimed inserted
  | @reclaimed row found held expired =>
    have open_ : (refreshed fresh row).state = .claimed := held
    refine valid.changed found (by simp [held]) (Db.updateDelivery_deliveries _ _ _ _) rfl ?_ ?_ rfl ?_
    · simp [open_]
    · simp [open_]
    · rw [open_]
      exact (Int.add_zero _).symm
  | _ => exact valid

theorem attempted (valid : Accounted db) {fault : Option Exc} {row : Selected} {result : Except Exc DrainReport}
    (stored : Stored Held db row) (answered : Attempted rt policy now fault row db result after) : Accounted after := by
  obtain ⟨held, found, _, _, _, pending⟩ := stored
  cases answered with
  | @delivered event outcome reached sound decoded delivered =>
    have deliveries := settle_deliveries policy now row.deliveryId row.state outcome reached
    have effects := settle_effects policy now row.deliveryId row.state outcome reached
    have counter := settle_counter policy now row.deliveryId row.state outcome reached
    simp only [delivered.counter] at counter
    rw [delivered.deliveries] at deliveries
    cases outcome with
    | parked =>
      obtain rfl := delivered.unapplied (by decide)
      refine valid.changed found pending deliveries effects ?_ ?_ ?_ ?_
      · simp [settledRow]
      · simp [settledRow]
      · simp [counter]
      · simp [counter, settledRow]
    | noopDuplicate =>
      obtain rfl := delivered.unapplied (by decide)
      refine valid.changed found pending deliveries effects ?_ ?_ ?_ ?_
      · simp [settledRow]
      · simp [settledRow]
      · simp [counter]
      · simp [counter, settledRow]
    | applied =>
      have inserted := delivered.extended.inserted
      rw [← effects] at inserted
      refine valid.recorded found pending deliveries inserted rfl ?_ ?_ ?_
      · simp [settledRow]
      · simp [counter]
      · simp [counter]
    | rejected => cases delivered
  | _ => exact valid

theorem handled {pass : Pass T R} (valid : Accounted pass.db) {row : Selected} (stored : Stored Held pass.db row)
    (exc : Exc) : Accounted (handle rt policy now row exc pass).db := by
  obtain ⟨held, found, _, _, _, pending⟩ := stored
  have counter := handle_counter rt policy now row exc pass
  refine valid.changed found pending (handle_deliveries rt policy now row exc pass)
    (handle_effects rt policy now row exc pass) ?_ ?_ ?_ ?_
  all_goals cases delay : retryDelay rt policy row exc pass.budgetUsed pass.rng
  all_goals simp [handledRow, counter, delay]

end Accounted

namespace Duplicates

variable {rt} {db after : Db T} {policy : RetryPolicy T} {now : T}

/-- A delivery that is not settled as a duplicate changes nothing of the others. -/
theorem changed (valid : Duplicates rt db) {id : Str} {row : Delivery T} {change : Delivery T → Delivery T} {keeps}
    (found : db.deliveries.find? id = some row)
    (deliveries : after.deliveries = db.deliveries.modify id change keeps)
    (effects : ∀ effect ∈ db.effects.rows, effect ∈ after.effects.rows)
    (other : (change row).state ≠ .duplicate) : Duplicates rt after := by
  intro row' member duplicate
  rcases mem_of_changed found deliveries member with rfl | inside
  · exact absurd duplicate other
  · obtain ⟨event, decoded, effect, holds, same⟩ := valid row' inside duplicate
    exact ⟨event, decoded, effect, effects effect holds, same⟩

theorem claimed (valid : Duplicates rt db) {fresh : Delivery T} {result : Except Exc ClaimResult}
    (claimed : fresh.state = .claimed) (answered : Claimed db fresh now result after) : Duplicates rt after := by
  cases answered with
  | new bound inserted =>
    intro row member duplicate
    exact valid row (mem_of_inserted claimed inserted member (by simp [duplicate])) duplicate
  | @reclaimed row found held expired =>
    have open_ : (refreshed fresh row).state = .claimed := held
    exact valid.changed found (Db.updateDelivery_deliveries _ _ _ _) (fun _ inside => inside) (by simp [open_])
  | _ => exact valid

/-- The stored bytes are the ones that were decoded: they were selected as they are
stored. -/
theorem attempted (valid : Duplicates rt db) {fault : Option Exc} {row : Selected} {result : Except Exc DrainReport}
    (stored : Stored Exact db row) (answered : Attempted rt policy now fault row db result after) :
    Duplicates rt after := by
  obtain ⟨held, found, rfl, pending⟩ := stored
  cases answered with
  | @delivered event outcome reached sound decoded delivered =>
    have deliveries := settle_deliveries policy now held.deliveryId held.state outcome reached
    have effects := settle_effects policy now held.deliveryId held.state outcome reached
    rw [delivered.deliveries] at deliveries
    cases outcome with
    | parked =>
      obtain rfl := delivered.unapplied (by decide)
      exact valid.changed found deliveries (fun _ inside => effects ▸ inside) (by simp [settledRow])
    | noopDuplicate =>
      obtain ⟨rfl, holder, inside, key⟩ := delivered.taken (by rw [found]; rfl)
      intro row' member duplicate
      change row' ∈ (settle policy held.deliveryId held.state .noopDuplicate now reached).2.deliveries.rows at member
      rcases mem_of_changed found deliveries member with rfl | kept
      · exact ⟨event, decoded, holder, effects ▸ inside, key⟩
      · obtain ⟨event', decoded', effect, holds, same⟩ := valid row' kept duplicate
        exact ⟨event', decoded', effect, effects ▸ holds, same⟩
    | applied =>
      have rows := (Table.insert?_eq_some.mp delivered.extended.inserted).2
      refine valid.changed found deliveries (fun effect inside => ?_) (by simp [settledRow])
      change effect ∈ (settle policy held.deliveryId held.state .applied now reached).2.effects.rows
      rw [effects, rows]
      exact List.mem_append_left _ inside
    | rejected => cases delivered
  | _ => exact valid

theorem handled {pass : Pass T R} (valid : Duplicates rt pass.db) {row : Selected} (stored : Stored Exact pass.db row)
    (exc : Exc) : Duplicates rt (handle rt policy now row exc pass).db := by
  obtain ⟨held, found, rfl, pending⟩ := stored
  refine valid.changed found (handle_deliveries rt policy now held.selected exc pass)
    (fun _ inside => handle_effects rt policy now held.selected exc pass ▸ inside) ?_
  cases retryDelay rt policy held.selected exc pass.budgetUsed pass.rng <;> simp [handledRow]

end Duplicates

section Growth

omit [Seconds T]

/-- A store never forgets a delivery, and settles it once. -/
structure Grows (before after : Db T) : Prop where
  known : ∀ id, (before.deliveries.find? id).isSome → (after.deliveries.find? id).isSome
  settled : ∀ row ∈ before.deliveries.rows, row.state.pending = false →
    ∃ later ∈ after.deliveries.rows, later.deliveryId = row.deliveryId ∧ later.state = row.state

theorem Grows.refl (db : Db T) : Grows db db := ⟨fun _ known => known, fun row member _ => ⟨row, member, rfl, rfl⟩⟩

theorem Grows.trans {before middle after : Db T} (first : Grows before middle) (last : Grows middle after) :
    Grows before after := by
  refine ⟨fun id known => last.known id (first.known id known), fun row member settled => ?_⟩
  obtain ⟨second, inside, sameId, sameState⟩ := first.settled row member settled
  obtain ⟨third, found, laterId, laterState⟩ := last.settled second inside (sameState ▸ settled)
  exact ⟨third, found, laterId.trans sameId, laterState.trans sameState⟩

theorem Grows.changed {db after : Db T} {id : Str} {row : Delivery T} {change : Delivery T → Delivery T} {keeps}
    (found : db.deliveries.find? id = some row) (pending : row.state.pending = true)
    (deliveries : after.deliveries = db.deliveries.modify id change keeps) : Grows db after := by
  constructor
  · intro other known
    rw [deliveries, Table.find?_modify]
    split
    next same => subst same; simp [found]
    next => exact known
  · intro old member settled
    refine ⟨old, ?_, rfl, rfl⟩
    rw [deliveries]
    refine Table.mem_modify.mpr (.inr ⟨member, fun same => ?_⟩)
    obtain ⟨inside, key⟩ := Table.find?_eq_some.mp found
    rw [db.deliveries.key_inj member inside (same.trans key.symm), pending] at settled
    cases settled

end Growth

/-- What a run of the inbox is made of. A crash ends a pass after some of its
transactions. -/
inductive InboxOp (T R : Type) where
  | claim (provider : Provider) (identity : Str) (raw : Bytes) (headers : List (Str × Str)) (now leaseSeconds : T)
  | drain (policy : RetryPolicy T) (now : T) (limit : Int) (rng : Option R) (faults : Str → Option Exc)
  | crash (policy : RetryPolicy T) (now : T) (limit : Int) (rng : Option R) (faults : Str → Option Exc)
      (transactions : Nat)

def inboxStep (db : Db T) : InboxOp T R → Db T
  | .claim provider identity raw headers now leaseSeconds => (claim rt provider identity raw headers now leaseSeconds db).2
  | .drain policy now limit rng faults => (drain rt policy now limit rng faults db).db
  | .crash policy now limit rng faults transactions =>
    ((select rt policy now limit rng faults db).cut rt transactions db).2

def inboxRun (db : Db T) (ops : List (InboxOp T R)) : Db T := ops.foldl (inboxStep rt) db

variable {rt} {db : Db T} {policy : RetryPolicy T} {now : T}

theorem Grows.claimed {after : Db T} {fresh : Delivery T} {result : Except Exc ClaimResult}
    (answered : Claimed db fresh now result after) : Grows db after := by
  cases answered with
  | @new deliveries bound inserted =>
    obtain ⟨_, rows⟩ := Table.insert?_eq_some.mp inserted
    constructor
    · intro id known
      simp only [Table.find?_insert inserted]
      split
      · rfl
      · exact known
    · intro row member _
      exact ⟨row, by simp [rows, member], rfl, rfl⟩
  | reclaimed found held expired => exact .changed found (by simp [held]) (Db.updateDelivery_deliveries _ _ _ _)
  | _ => exact .refl db

theorem Grows.attempted {after : Db T} {fault : Option Exc} {row : Selected} {result : Except Exc DrainReport}
    (stored : Stored Held db row) (answered : Attempted rt policy now fault row db result after) : Grows db after := by
  obtain ⟨held, found, _, _, _, pending⟩ := stored
  cases answered with
  | @delivered event outcome reached sound decoded delivered =>
    have deliveries := settle_deliveries policy now row.deliveryId row.state outcome reached
    rw [delivered.deliveries] at deliveries
    exact .changed found pending deliveries
  | _ => exact .refl db

theorem Grows.handled {pass : Pass T R} {row : Selected} (stored : Stored Held pass.db row) (exc : Exc) :
    Grows pass.db (handle rt policy now row exc pass).db := by
  obtain ⟨held, found, _, _, _, pending⟩ := stored
  exact .changed found pending (handle_deliveries rt policy now row exc pass)

variable (rt) in
/-- What holds of the store while no claim comes inside a pass. -/
structure Lifecycle (db : Db T) : Prop extends Accounted db where
  duplicates : Duplicates rt db

theorem Lifecycle.empty : Lifecycle rt (Db.empty : Db T) := ⟨.empty, nofun⟩

/-- A pass, cut short anywhere, keeps the store valid and only grows it. -/
theorem cut_grows (policy : RetryPolicy T) (now : T) (limit : Int) (rng : Option R) (faults : Str → Option Exc)
    (transactions : Nat) (valid : Lifecycle rt db) :
    let after := ((select rt policy now limit rng faults db).cut rt transactions db).2
    Lifecycle rt after ∧ Grows db after := by
  refine cut_keeps (motive := fun reached => Lifecycle rt reached ∧ Grows db reached) ?_ ?_ transactions
    (select_synced rt policy now limit rng faults db) ⟨valid, .refl db⟩
  · intro policy now fault row reached ⟨valid, grown⟩ stored
    have answered := attempted_self rt policy now fault row reached
    exact ⟨⟨valid.attempted stored.held answered, valid.duplicates.attempted stored answered⟩,
      grown.trans (.attempted stored.held answered)⟩
  · intro policy now row exc pass ⟨valid, grown⟩ stored
    exact ⟨⟨valid.handled stored.held exc, valid.duplicates.handled stored exc⟩,
      grown.trans (.handled stored.held exc)⟩

theorem inboxStep_grows (op : InboxOp T R) (valid : Lifecycle rt db) :
    Lifecycle rt (inboxStep rt db op) ∧ Grows db (inboxStep rt db op) := by
  cases op with
  | claim provider identity raw headers now leaseSeconds =>
    have answered := claimed_self rt provider identity raw headers now leaseSeconds db
    exact ⟨⟨valid.claimed rfl answered, valid.duplicates.claimed rfl answered⟩, .claimed answered⟩
  | drain policy now limit rng faults =>
    obtain ⟨transactions, whole⟩ := drain_eq_cut rt policy now limit rng faults db
    have kept := cut_grows policy now limit rng faults transactions valid
    simp only [whole] at kept
    exact kept
  | crash policy now limit rng faults transactions => exact cut_grows policy now limit rng faults transactions valid

theorem inboxRun_grows (ops : List (InboxOp T R)) (valid : Lifecycle rt db) :
    Lifecycle rt (inboxRun rt db ops) ∧ Grows db (inboxRun rt db ops) :=
  List.foldlRecOn ops (inboxStep rt) (motive := fun reached => Lifecycle rt reached ∧ Grows db reached)
    ⟨valid, .refl db⟩ fun _ ⟨valid, grown⟩ op _ =>
      ⟨(inboxStep_grows op valid).1, grown.trans (inboxStep_grows op valid).2⟩

omit [Seconds T] in
/-- An effect row belongs to an applied delivery, and to that one only. -/
theorem Accounted.owner (valid : Accounted db) {effect : EffectRow T} (member : effect ∈ db.effects.rows) :
    ∃ row ∈ db.deliveries.rows, row.deliveryId = effect.deliveryId ∧ row.state = .applied := by
  have listed := valid.applied.mem_iff.mp (List.mem_map_of_mem member)
  obtain ⟨row, inside, same⟩ := List.mem_map.mp listed
  exact ⟨row, List.mem_of_mem_filter inside, same, by simpa using (List.mem_filter.mp inside).2⟩

omit [Seconds T] in
theorem Accounted.unowned (valid : Accounted db) {row : Delivery T} (member : row ∈ db.deliveries.rows)
    (other : row.state ≠ .applied) : ∀ effect ∈ db.effects.rows, effect.deliveryId ≠ row.deliveryId := by
  intro effect inside same
  obtain ⟨holder, held, id, applied⟩ := valid.owner inside
  rw [db.deliveries.key_inj held member (id.trans same)] at applied
  exact other applied

omit [Seconds T] in
theorem Accounted.owned (valid : Accounted db) {row : Delivery T} (member : row ∈ db.deliveries.rows)
    (applied : row.state = .applied) : ∃! effect, effect ∈ db.effects.rows ∧ effect.deliveryId = row.deliveryId := by
  have listed : row.deliveryId ∈ db.effects.rows.map EffectRow.deliveryId :=
    valid.applied.mem_iff.mpr (List.mem_map_of_mem (List.mem_filter.mpr ⟨member, by simpa using applied⟩))
  obtain ⟨effect, inside, same⟩ := List.mem_map.mp listed
  have distinct : (db.effects.rows.map EffectRow.deliveryId).Nodup :=
    valid.applied.nodup_iff.mpr ((List.filter_sublist.map _).nodup db.deliveries.unique)
  exact ⟨effect, ⟨inside, same⟩, fun other ⟨found, id⟩ =>
    List.inj_on_of_nodup_map distinct found inside (id.trans same.symm)⟩

theorem claim_new {after : Db T} {fresh : Delivery T} {id : Str} {accepted : Bool}
    (answered : Claimed db fresh now (.ok ⟨id, accepted, .new⟩) after) :
    db.deliveries.find? id = none ∧ (after.deliveries.find? id).isSome := by
  cases answered with
  | new bound inserted =>
    refine ⟨(Table.insert?_eq_some.mp inserted).1, ?_⟩
    simp [Table.find?_insert inserted]

/-- Exactly once, over every run from an empty inbox: applied deliveries are in
bijection with effect rows, duplicates have their effect elsewhere, the dead have a
reason, nothing settled is ever left, no id is new twice, and the counters count. -/
theorem delivery_lifecycle (ops : List (InboxOp T R)) :
    let db := inboxRun rt .empty ops
    (∀ row ∈ db.deliveries.rows, row.state = .applied → ∃! effect, effect ∈ db.effects.rows ∧ effect.deliveryId = row.deliveryId) ∧
    (∀ effect ∈ db.effects.rows, ∃! row, row ∈ db.deliveries.rows ∧ row.state = .applied ∧
      row.deliveryId = effect.deliveryId) ∧
    (∀ row ∈ db.deliveries.rows, row.state = .duplicate →
      ∃ event, decode rt row.provider row.raw = .ok event ∧ ∃ effect ∈ db.effects.rows,
        effect.key = (event.paymentId, event.kind, event.providerRef) ∧ effect.deliveryId ≠ row.deliveryId) ∧
    (∀ row ∈ db.deliveries.rows, row.state = .deadLettered → row.reasonCode.isSome = true ∧
      ∀ effect ∈ db.effects.rows, effect.deliveryId ≠ row.deliveryId) ∧
    (∀ row ∈ db.deliveries.rows, row.state.pending = true →
      ∀ effect ∈ db.effects.rows, effect.deliveryId ≠ row.deliveryId) ∧
    (∀ provider identity raw headers now leaseSeconds id after,
      claim rt provider identity raw headers now leaseSeconds db = (.ok ⟨id, true, .new⟩, after) →
      ∀ more : List (InboxOp T R), ((inboxRun rt after more).deliveries.find? id).isSome ∧
        ∀ provider identity raw headers now leaseSeconds accepted,
          (claim rt provider identity raw headers now leaseSeconds (inboxRun rt after more)).1 ≠
            .ok ⟨id, accepted, .new⟩) ∧
    (∀ row ∈ db.deliveries.rows, row.state.pending = false → ∀ more : List (InboxOp T R),
      ∃ later ∈ (inboxRun rt db more).deliveries.rows, later.deliveryId = row.deliveryId ∧ later.state = row.state) ∧
    db.counter (.metric .applied) = db.effects.rows.length ∧
    db.counter (.metric .deadLettered) = (db.deliveries.rows.filter fun row => row.state = .deadLettered).length := by
  intro db
  have valid : Lifecycle rt db := (inboxRun_grows ops .empty).1
  refine ⟨?_, ?_, ?_, ?_, ?_, ?_, ?_, valid.appliedCounter, ?_⟩
  · exact fun row member applied => valid.owned member applied
  · intro effect member
    obtain ⟨row, inside, same, applied⟩ := valid.owner member
    exact ⟨row, ⟨inside, applied, same⟩, fun other ⟨found, _, id⟩ => db.deliveries.key_inj found inside (id.trans same.symm)⟩
  · intro row member duplicate
    obtain ⟨event, decoded, effect, inside, key⟩ := valid.duplicates row member duplicate
    exact ⟨event, decoded, effect, inside, key, valid.unowned member (by simp [duplicate]) effect inside⟩
  · intro row member buried
    exact ⟨valid.reasons row member buried, valid.unowned member (by simp [buried])⟩
  · intro row member pending
    exact valid.unowned member fun applied => by simp [applied] at pending
  · intro provider identity raw headers now leaseSeconds id after answered more
    have reached := inboxStep_grows (.claim provider identity raw headers now leaseSeconds) valid
    simp only [inboxStep, answered] at reached
    have known := (inboxRun_grows more reached.1).2.known id (claim_new (claim_claimed rt answered)).2
    refine ⟨known, fun _ _ _ _ _ _ accepted again => ?_⟩
    have absent := (claim_new (claim_claimed rt (Prod.ext again rfl))).1
    rw [absent] at known
    cases known
  · intro row member settled more
    exact (inboxRun_grows more valid).2.settled row member settled
  · rw [valid.deadCounter, idsIn, List.length_map]

end Quidz.Proofs
