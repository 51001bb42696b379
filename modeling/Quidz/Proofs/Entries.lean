import Quidz.Proofs.Accounts
import Quidz.Proofs.Book
import Quidz.Proofs.Idle
import Quidz.Proofs.Replay

/-! The other direction of the book. What it can enter the tables apply, so a queue of
deliveries that are entries of the book, in order of receipt, is applied as a whole, and the
loop of passes ends with nothing left. -/

namespace Quidz.Proofs

open Library (Path Table)

variable {T R : Type}

section Converse
variable {book after : Book} {event : CanonicalEvent T} {db : Db T} {deliveryId : Str}

theorem Book.Opens.unique {state other : PaymentState} (opens : book.Opens event state) (opens' : book.Opens event other) :
    state = other := by
  cases opens with
  | known known =>
    cases opens' with
    | known known' => exact Option.some.inj (known.symm.trans known')
    | fresh absent => cases absent.symm.trans known
  | fresh absent carried =>
    cases opens' with
    | known known => cases absent.symm.trans known
    | fresh _ carried' =>
      obtain rfl := Option.some.inj (carried.symm.trans carried')
      rfl

/-- There is one way only to enter an event. -/
theorem Book.Enters.unique {other : Book} (enters : book.Enters event after) (enters' : book.Enters event other) :
    after = other := by
  obtain ⟨state, updated, opens, accepted, payments⟩ := enters.folded
  obtain ⟨state', updated', opens', accepted', payments'⟩ := enters'.folded
  obtain rfl := opens.unique opens'
  obtain rfl := Except.ok.inj (accepted.symm.trans accepted')
  have entered : after.entered = other.entered := enters.entered.trans enters'.entered.symm
  have payment : after.payment = other.payment := funext fun paymentId => (payments paymentId).trans (payments' paymentId).symm
  obtain ⟨_, _⟩ := after
  obtain ⟨_, _⟩ := other
  dsimp only at entered payment
  rw [entered, payment]

/-- The store has values for what the entry writes. -/
structure Holdable (deliveryId : Str) (event : CanonicalEvent T) (after : Book) : Prop where
  row : bindEffect (effectRow deliveryId event) = .ok ()
  payment : ∀ state, after.payment event.paymentId = some state → bindPayment state = .ok ()

/-- What the book enters the tables apply, and they are the book after it. -/
theorem delivered_of_enters [Seconds T] (enters : (view db).Enters event after) (known : (db.deliveries.find? deliveryId).isSome)
    (fits : Holdable deliveryId event after) : ∃ reached, Delivered db deliveryId event .applied reached ∧ view reached = after := by
  obtain ⟨state, updated, opens, accepted, payments⟩ := enters.folded
  have opened : openPayment db event = .ok (some state) := by
    refine openPayment_some.mpr ⟨bindEffect_paymentId fits.row, ?_⟩
    cases opens with
    | known known => exact .inl known
    | @fresh amount absent carried => exact .inr ⟨Option.map_eq_none_iff.mp absent, amount, carried, rfl⟩
  obtain ⟨effects, inserted⟩ : ∃ effects, db.effects.insert? (effectRow deliveryId event) = some effects := by
    apply Option.ne_none_iff_exists'.mp
    intro taken
    obtain ⟨other, member, same⟩ := Table.insert?_eq_none.mp taken
    exact enters.fresh ⟨other, member, same⟩
  have recorded : recordEffect db deliveryId state event = .ok ({ db with effects }, updated) :=
    recordEffect_ok.mpr ⟨insertEffect_ok.mpr ⟨fits.row, known, effects, inserted, rfl⟩, accepted⟩
  have bound : bindPayment updated = .ok () := by
    apply fits.payment
    rw [payments, if_pos rfl]
  obtain ⟨reached, written⟩ : ∃ reached, upsertPayment { db with effects } updated event.occurredAt = .ok reached := by
    unfold upsertPayment
    rw [bound]
    exact ⟨_, rfl⟩
  have delivered := Delivered.applied opened recorded written
  exact ⟨reached, delivered, delivered.extended.enters.unique enters⟩

end Converse

variable [Seconds T] (rt : Runtime T R)

/-- A delivery that is an entry of the book. -/
structure Posts (before : Book) (item : Parcel) (event : CanonicalEvent T) (after : Book) : Prop where
  decoded : decode rt item.provider item.raw = .ok event
  enters : before.Enters event after
  fits : Holdable item.deliveryId event after

/-- The books that a queue of such deliveries leads through. -/
abbrev Clears (before : Book) (queue : List (Parcel × CanonicalEvent T)) (after : Book) : Prop :=
  Path (fun before (item : Parcel × CanonicalEvent T) after => Posts rt before item.1 item.2 after) before queue after

section Rows
variable {rt} (policy : RetryPolicy T) (now : T) {faults : Str → Option Exc}

theorem drainRow_posts {pass : Pass T R} {row : Selected} {event : CanonicalEvent T} {after : Book}
    (sound : faults row.deliveryId = none) (posts : Posts rt (view pass.db) (parcel row) event after)
    (known : (pass.db.deliveries.find? row.deliveryId).isSome) :
    let reached := drainRow rt policy now faults pass row
    reached.report = pass.report.merge { applied := 1 } ∧ view reached.db = after ∧
      reached.db.deliveries = pass.db.deliveries.modify row.deliveryId (settledRow policy now .applied)
        (settledRow_deliveryId policy now .applied) := by
  obtain ⟨ledger, delivered, same⟩ := delivered_of_enters posts.enters known posts.fits
  have decoded : decode rt row.provider row.raw = .ok event := posts.decoded
  have attempted : attempt rt policy now none row pass.db =
      (.ok { applied := 1 }, (settle policy row.deliveryId row.state .applied now ledger).2) := by
    simp only [attempt, writeTx, decoded, applyDelivery_ok.mpr delivered]
    rfl
  simp only [drainRow, sound, attempted]
  refine ⟨trivial, ?_, ?_⟩
  · rw [← same]
    exact view_congr (settle_effects ..) (settle_payments ..)
  · rw [settle_deliveries, delivered.extended.deliveries]

/-- Rows that the book enters one after the other are all applied. -/
theorem rows_post {rows : List Selected} {queue : List (Parcel × CanonicalEvent T)} (pass : Pass T R) {after : Book}
    (sound : ∀ id, faults id = none) (listed : queue.map Prod.fst = rows.map parcel)
    (clears : Clears rt (view pass.db) queue after) (known : ∀ row ∈ rows, (pass.db.deliveries.find? row.deliveryId).isSome) :
    let reached := rows.foldl (drainRow rt policy now faults) pass
    reached.report = pass.report.merge { applied := rows.length } ∧ view reached.db = after ∧
      reached.db.deliveries.rows = pass.db.deliveries.rows.map fun stored =>
        if stored.deliveryId ∈ rows.map Selected.deliveryId then settledRow policy now .applied stored else stored := by
  induction rows generalizing pass queue with
  | nil =>
    obtain rfl : queue = [] := List.map_eq_nil_iff.mp listed
    cases clears
    refine ⟨(Accounts.merge_empty _).1.symm, rfl, ?_⟩
    simp
  | cons row rows ih =>
    obtain ⟨⟨item, event⟩, queue, rfl, rfl, rest⟩ := List.map_eq_cons_iff.mp listed
    cases clears with
    | cons first further =>
      rw [List.forall_mem_cons] at known
      obtain ⟨merged, viewed, deliveries⟩ := drainRow_posts policy now (sound row.deliveryId) first known.1
      rw [List.foldl_cons]
      generalize drainRow rt policy now faults pass row = reached at merged viewed deliveries ⊢
      have known' : ∀ other ∈ rows, (reached.db.deliveries.find? other.deliveryId).isSome := by
        intro other member
        rw [deliveries, Table.find?_modify]
        have held := known.2 other member
        split
        next => exact Option.isSome_map.trans known.1
        next => exact held
      obtain ⟨merged', viewed', rows'⟩ := ih reached rest (viewed ▸ further) known'
      refine ⟨?_, viewed', ?_⟩
      · rw [merged', merged, Accounts.merge_assoc]
        have sum : DrainReport.merge { applied := 1 } { applied := rows.length } = { applied := (row :: rows).length } := by
          simp only [DrainReport.merge, List.length_cons, Nat.add_comm]
        rw [sum]
      · rw [rows', deliveries, Table.rows_modify, List.map_map]
        refine List.map_congr_left fun stored _ => ?_
        have twice : settledRow policy now .applied (settledRow policy now .applied stored) = settledRow policy now .applied stored := rfl
        have kept : (settledRow policy now .applied stored).deliveryId = stored.deliveryId := settledRow_deliveryId ..
        simp only [Function.comp, List.map_cons, List.mem_cons]
        by_cases here : stored.deliveryId = row.deliveryId
        · rw [if_pos here, twice, ite_self, if_pos (Or.inl here)]
        · rw [if_neg here]
          exact if_congr (or_iff_right here).symm rfl rfl

end Rows

/-- Deliveries that wait, all of them due, in this order of receipt. -/
structure Awaiting (now : T) (todo : List Parcel) (db : Db T) : Prop where
  sorted : db.deliveries.rows.Pairwise receivedBefore
  waiting : parcels (db.deliveries.rows.filter fun row => row.state.pending) = todo
  ready : ∀ row ∈ db.deliveries.rows, row.state.pending = true → due now row = true

theorem Queued.awaiting {now : T} {posted : List Parcel} {db : Db T} (queued : Queued now posted db) : Awaiting now posted db := by
  have pending (row : Delivery T) (member : row ∈ db.deliveries.rows) : row.state.pending = true := by
    have untouched := (queued.untouched row member).1
    simp only [untried, Bool.and_eq_true] at untouched
    exact untouched.1
  refine ⟨queued.sorted, ?_, fun row member _ => ?_⟩
  · rw [List.filter_eq_self.mpr pending]
    exact queued.posted
  · obtain ⟨_, scheduled, unparked⟩ := queued.untouched row member
    simp only [due, pending row member, scheduled, unparked, Option.all_some, Option.all_none, Bool.true_and, Bool.and_true,
      decide_eq_true_eq]
    exact (queued.received row member).le

section Loop
variable {rt} {now : T} {faults : Str → Option Exc} {todo : List Parcel}
  {queue : List (Parcel × CanonicalEvent T)} {db : Db T} {after : Book} (sound : ∀ id, faults id = none)
  (listed : queue.map Prod.fst = todo)

/-- The rows of a pass. -/
def batch (db : Db T) : List (Delivery T) := (db.deliveries.rows.filter fun row => row.state.pending).take 100

theorem Awaiting.selects (awaiting : Awaiting now todo db) :
    selectDue db now defaultLimit = (batch db).map Delivery.selected := by
  have same : db.deliveries.rows.filter (due now) = db.deliveries.rows.filter fun row => row.state.pending := by
    refine List.filter_congr fun row member => ?_
    cases pending : row.state.pending with
    | true => exact awaiting.ready row member pending
    | false => simp only [due, pending, Bool.false_and]
  rw [selectDue_eq, dueRows, same, (awaiting.sorted.filter _).insertionSort_eq]
  rfl

omit [Seconds T] in
/-- What is not in the batch stays behind it. -/
theorem batch_rest (db : Db T) : (db.deliveries.rows.filter fun row => row.state.pending).filter
      (fun row => row.deliveryId ∉ (batch db).map Delivery.deliveryId) =
    (db.deliveries.rows.filter fun row => row.state.pending).drop 100 := by
  have distinct : ((db.deliveries.rows.filter fun row => row.state.pending).map Delivery.deliveryId).Nodup :=
    (List.filter_sublist.map _).nodup db.deliveries.unique
  unfold batch
  generalize db.deliveries.rows.filter (fun row => row.state.pending) = rows at distinct ⊢
  rw [← List.take_append_drop 100 rows, List.map_append, List.nodup_append] at distinct
  have split (ids : List Str) (inside : ∀ row ∈ rows.take 100, row.deliveryId ∈ ids)
      (outside : ∀ row ∈ rows.drop 100, row.deliveryId ∉ ids) : rows.filter (fun row => row.deliveryId ∉ ids) = rows.drop 100 := by
    have front : (rows.take 100).filter (fun row => row.deliveryId ∉ ids) = [] :=
      List.filter_eq_nil_iff.mpr fun row member => by simpa using inside row member
    have back : (rows.drop 100).filter (fun row => row.deliveryId ∉ ids) = rows.drop 100 :=
      List.filter_eq_self.mpr fun row member => decide_eq_true (outside row member)
    conv_lhs => rw [← List.take_append_drop 100 rows]
    rw [List.filter_append, front, back, List.nil_append]
  refine split _ (fun row member => List.mem_map_of_mem member) fun row member taken => ?_
  exact distinct.2.2 _ taken _ (List.mem_map_of_mem member) rfl

variable (policy : RetryPolicy T)
include sound listed

/-- A pass applies the first hundred. -/
theorem Awaiting.drain (awaiting : Awaiting now todo db) (clears : Clears rt (view db) queue after) (rng : Option R) :
    let pass := drain rt policy now defaultLimit rng faults db
    pass.report = { applied := (todo.take 100).length } ∧ Awaiting now (todo.drop 100) pass.db ∧
      Clears rt (view pass.db) (queue.drop 100) after := by
  have rows : ((batch db).map Delivery.selected).map parcel = todo.take 100 := by
    rw [batch, List.map_map, ← awaiting.waiting, List.map_take]
    rfl
  rw [← List.take_append_drop 100 queue] at clears
  obtain ⟨middle, first, further⟩ := clears.of_append
  have front : (queue.take 100).map Prod.fst = ((batch db).map Delivery.selected).map parcel := by
    rw [rows, List.map_take, listed]
  have stored : ∀ row ∈ (batch db).map Delivery.selected, (db.deliveries.find? row.deliveryId).isSome := by
    intro row member
    obtain ⟨held, inside, rfl⟩ := List.mem_map.mp member
    have listed : held ∈ db.deliveries.rows := (List.mem_filter.mp (List.mem_of_mem_take inside)).1
    exact Option.isSome_iff_exists.mpr ⟨held, Table.find?_of_mem listed⟩
  intro pass
  obtain ⟨report, viewed, reached⟩ := rows_post policy now
    { db, budgetUsed := budgetUsed db now, rng := rng.getD (jitterSource rt policy) } sound front first stored
  have drained : pass = ((batch db).map Delivery.selected).foldl (drainRow rt policy now faults)
      { db, budgetUsed := budgetUsed db now, rng := rng.getD (jitterSource rt policy) } := by
    rw [← awaiting.selects]
    rfl
  rw [← drained] at report viewed reached
  refine ⟨?_, ?_, viewed ▸ further⟩
  · have count := congrArg List.length rows
    rw [List.length_map] at count
    rw [report, (Accounts.merge_empty _).2, count]
  · obtain ⟨sorted, waiting, ready⟩ := awaiting
    have ids : ((batch db).map Delivery.selected).map Selected.deliveryId = (batch db).map Delivery.deliveryId := by
      rw [List.map_map]
      rfl
    rw [ids] at reached
    have left : pass.db.deliveries.rows.filter (fun row => row.state.pending) =
        (db.deliveries.rows.filter fun row => row.state.pending).drop 100 := by
      rw [← batch_rest, reached, List.filter_map, List.filter_filter]
      have same : db.deliveries.rows.filter ((fun row : Delivery T => row.state.pending) ∘ fun stored =>
            if stored.deliveryId ∈ (batch db).map Delivery.deliveryId then settledRow policy now .applied stored else stored) =
          db.deliveries.rows.filter fun row => decide (row.deliveryId ∉ (batch db).map Delivery.deliveryId) && row.state.pending := by
        refine List.filter_congr fun row _ => ?_
        by_cases taken : row.deliveryId ∈ (batch db).map Delivery.deliveryId
        · simp only [Function.comp, taken, if_true, not_true, decide_false, Bool.false_and]
          rfl
        · simp only [Function.comp, taken, if_false, not_false_eq_true, decide_true, Bool.true_and]
      rw [same]
      refine (List.map_congr_left fun row member => ?_).trans (List.map_id _)
      have outside := (List.mem_filter.mp member).2
      simp only [Bool.and_eq_true, decide_eq_true_eq] at outside
      exact if_neg outside.1
    refine ⟨?_, ?_, ?_⟩
    · rw [reached, List.pairwise_map]
      refine sorted.imp fun {first second} before => ?_
      have same (row : Delivery T) : (if row.deliveryId ∈ (batch db).map Delivery.deliveryId then settledRow policy now .applied row
            else row).receivedAt = row.receivedAt ∧
          (if row.deliveryId ∈ (batch db).map Delivery.deliveryId then settledRow policy now .applied row
            else row).deliveryId = row.deliveryId := by
        split
        next => exact ⟨rfl, rfl⟩
        next => exact ⟨rfl, rfl⟩
      simp only [receivedBefore, same] at before ⊢
      exact before
    · rw [left, ← waiting]
      exact List.map_drop
    · intro row member pending
      have kept : row ∈ (db.deliveries.rows.filter fun row => row.state.pending).drop 100 :=
        left ▸ List.mem_filter.mpr ⟨member, pending⟩
      exact ready row (List.mem_filter.mp (List.mem_of_mem_drop kept)).1 pending

/-- A turn of the loop goes on at the same time, or finds nothing left. -/
theorem Awaiting.idlePass {idling : Idling T R T} (awaiting : Awaiting idling.clock todo idling.db)
    (clears : Clears rt (view idling.db) queue after) (zero : 0 ≤ idling.clock) (running : idling.running = true) :
    let turned := idlePass rt (FakeClock T) policy faults idling
    turned.total = idling.total.merge { applied := (todo.take 100).length } ∧ turned.clock = idling.clock ∧
      Awaiting idling.clock (todo.drop 100) turned.db ∧ Clears rt (view turned.db) (queue.drop 100) after ∧
      (turned.running = true ↔ todo.drop 100 ≠ []) := by
  intro turned
  obtain ⟨report, left, further⟩ := awaiting.drain sound listed policy clears (some idling.rng)
  have unfolded : turned = Quidz.idlePass rt (FakeClock T) policy faults idling := rfl
  clear_value turned
  unfold Quidz.idlePass at unfolded
  have reading : (FakeClock T).now idling.clock = (idling.clock, idling.clock) := rfl
  simp only [running, ↓reduceIte, reading] at unfolded
  generalize Quidz.drain rt policy idling.clock defaultLimit (some idling.rng) faults idling.db = pass at report left further unfolded
  have none_left : pendingTimes pass.db = [] ↔ todo.drop 100 = [] := by
    rw [← left.waiting, pendingTimes, parcels, List.map_eq_nil_iff, List.map_eq_nil_iff]
  split at unfolded
  next nothing =>
    have empty : todo.drop 100 = [] := none_left.mp (List.min?_eq_none_iff.mp nothing)
    subst unfolded
    exact ⟨congrArg idling.total.merge report, rfl, left, further, iff_of_false Bool.false_ne_true (not_not_intro empty)⟩
  next due least =>
    have some_ : todo.drop 100 ≠ [] := fun none => by
      rw [none_left.mpr none] at least
      cases least
    have ready : due ≤ idling.clock := by
      obtain ⟨row, member, rfl⟩ := List.mem_map.mp (List.min?_mem least)
      obtain ⟨inside, pending⟩ := List.mem_filter.mp member
      have isDue := left.ready row inside pending
      simp only [Quidz.due, Bool.and_eq_true, Option.all_eq_true, decide_eq_true_eq] at isDue
      refine max_le ?_ ?_
      · cases scheduled : row.nextAttemptAt with
        | none => exact zero
        | some t => exact isDue.1.2 t scheduled
      · cases parked : row.parkedUntil with
        | none => exact zero
        | some t => exact isDue.2 t parked
    have waits : ¬0 < due - idling.clock := fun wait => absurd ((Seconds.sub_pos _ _).mp wait) ready.not_gt
    rw [if_neg waits] at unfolded
    have moved : pass.report.total ≠ 0 := by
      have long : 100 < todo.length := by
        by_contra short
        exact some_ (List.drop_eq_nil_iff.mpr (not_lt.mp short))
      simp only [report, DrainReport.total, List.length_take]
      omega
    subst unfolded
    exact ⟨congrArg idling.total.merge report, rfl, left, further, iff_of_true (decide_eq_true moved) some_⟩

omit listed in
/-- With enough passes the loop applies every delivery of the queue and ends with nothing
left. -/
theorem Awaiting.loop (passes : Nat) {idling : Idling T R T} (zero : 0 ≤ idling.clock) (running : idling.running = true)
    (awaiting : Awaiting idling.clock todo idling.db) (listed : queue.map Prod.fst = todo)
    (clears : Clears rt (view idling.db) queue after) (enough : todo.length ≤ 100 * passes) :
    let ended := (Quidz.idlePass rt (FakeClock T) policy faults)^[passes] idling
    ended.total = idling.total.merge { applied := todo.length } ∧ ended.clock = idling.clock ∧
      Awaiting idling.clock [] ended.db ∧ view ended.db = after := by
  induction passes generalizing idling todo queue with
  | zero =>
    obtain rfl : todo = [] := List.length_eq_zero_iff.mp (by omega)
    obtain rfl : queue = [] := List.map_eq_nil_iff.mp listed
    cases clears
    exact ⟨(Accounts.merge_empty _).1.symm, rfl, awaiting, rfl⟩
  | succ passes ih =>
    intro ended
    obtain ⟨total, clock, left, further, again⟩ := awaiting.idlePass sound listed policy clears zero running
    have unrolled : ended = (Quidz.idlePass rt (FakeClock T) policy faults)^[passes]
        (Quidz.idlePass rt (FakeClock T) policy faults idling) := Function.iterate_succ_apply _ _ _
    generalize Quidz.idlePass rt (FakeClock T) policy faults idling = turned at total clock left further again unrolled
    have split : (todo.take 100).length + (todo.drop 100).length = todo.length := by
      rw [← List.length_append, List.take_append_drop]
    by_cases more : todo.drop 100 = []
    · have stopped : turned.running = false := by
        rw [← Bool.not_eq_true]
        exact fun still => again.mp still more
      have fixed : Quidz.idlePass rt (FakeClock T) policy faults turned = turned := by
        rw [Quidz.idlePass, stopped]
        rfl
      have empty : queue.drop 100 = [] := by
        apply List.map_eq_nil_iff.mp
        rw [List.map_drop, listed, more]
      rw [unrolled, Function.iterate_fixed fixed]
      rw [more] at left split
      rw [empty] at further
      cases further
      rw [List.length_nil, Nat.add_zero] at split
      exact ⟨split ▸ total, clock, left, rfl⟩
    · have shorter : (todo.drop 100).length ≤ 100 * passes := by
        rw [List.length_drop]
        omega
      obtain ⟨total', clock', rest, reached⟩ := ih (clock ▸ zero) (again.mpr more) (clock ▸ left)
        (by rw [List.map_drop, listed]) further shorter
      rw [unrolled]
      refine ⟨?_, clock'.trans clock, clock ▸ rest, reached⟩
      rw [total', total, Accounts.merge_assoc]
      have sum : DrainReport.merge { applied := (todo.take 100).length } { applied := (todo.drop 100).length } =
          { applied := todo.length } := by
        rw [← split]
        rfl
      rw [sum]

end Loop

theorem Queued.view {now : T} {posted : List Parcel} {db : Db T} (queued : Queued now posted db) : view db = Book.empty :=
  (view_congr queued.effects queued.payments).trans view_empty

/-- A queue of entries of the book, in order of receipt, is applied whole. -/
theorem Queued.applied {now : T} {posted : List Parcel} {db : Db T} (queued : Queued now posted db) (zero : 0 ≤ now)
    {queue : List (Parcel × CanonicalEvent T)} {after : Book} (listed : queue.map Prod.fst = posted)
    (clears : Clears rt Book.empty queue after) (policy : RetryPolicy T) {passes : Nat} (enough : posted.length ≤ 100 * passes) :
    let idle := drainUntilIdle rt (FakeClock T) policy (fun _ => none) passes now db
    idle.total = { applied := posted.length } ∧ idle.clock = now ∧ Proofs.view idle.db = after ∧
      ∀ row ∈ idle.db.deliveries.rows, row.state.pending = false := by
  have sound (id : Str) : (fun _ => none : Str → Option Exc) id = none := rfl
  let idling : Idling T R T := { db, clock := now, rng := jitterSource rt policy }
  have clears' : Clears rt (Proofs.view idling.db) queue after := queued.view.symm ▸ clears
  obtain ⟨total, clock, left, reached⟩ := Awaiting.loop sound policy passes zero rfl queued.awaiting listed clears' enough
  refine ⟨total.trans (Accounts.merge_empty _).2, clock, reached, fun row member => ?_⟩
  have none_left := List.filter_eq_nil_iff.mp (List.map_eq_nil_iff.mp left.waiting) row member
  rwa [Bool.not_eq_true] at none_left

end Quidz.Proofs
