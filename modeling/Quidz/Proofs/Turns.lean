import Quidz.Library.Rounds
import Quidz.Proofs.Futile

/-! The loop of passes as rounds over a queue. Deliveries that were never tried, and those that
were only ever parked, come up in order of receipt, round after round; retries come up
in between and never matter. The clock and the jitter only decide how far the rounds get. -/

namespace Quidz.Proofs

open Library (Table Verdict Round)
open Library.Retry (Matches)

variable {T R : Type} [Seconds T] (rt : Runtime T R)

/-- No attempt at the delivery failed so far. -/
def untried (row : Delivery T) : Bool := row.state.pending && row.attempts = 0

section Turn

variable (policy : RetryPolicy T) (now : T)

/-- What a pass does with one row, by what the ledger says to it. -/
inductive Picked (row : Selected) (db after : Db T) : Verdict (Db T) → Prop where
  | applied {event ledger} (decoded : decode rt row.provider row.raw = .ok event)
      (delivered : Delivered db row.deliveryId event .applied ledger)
      (effects : after.effects = ledger.effects) (payments : after.payments = ledger.payments)
      (deliveries : after.deliveries = db.deliveries.modify row.deliveryId (settledRow policy now .applied)
        (settledRow_deliveryId policy now .applied)) : Picked row db after (.applied ledger)
  | parked (effects : after.effects = db.effects) (payments : after.payments = db.payments)
      (deliveries : after.deliveries = db.deliveries.modify row.deliveryId (settledRow policy now .parked)
        (settledRow_deliveryId policy now .parked)) : Picked row db after .parked
  | refused {change keeps} (effects : after.effects = db.effects) (payments : after.payments = db.payments)
      (deliveries : after.deliveries = db.deliveries.modify row.deliveryId change keeps)
      (receipt : ∀ stored, (change stored).receivedAt = stored.receivedAt)
      (same : ∀ stored, parcel (change stored).selected = parcel stored.selected)
      (retried : ∀ stored, (change stored).state.pending = true → (change stored).attempts ≠ 0 ∧ Futile rt db (parcel row)) :
      Picked row db after .refused

theorem drainRow_picked (pass : Pass T R) (storable : Storable pass.db) (row : Selected) :
    Picked rt policy now row pass.db (drainRow rt policy now (fun _ => none) pass row).db (answer rt pass.db (parcel row)) := by
  have failed {exc : Exc} (useless : (classify exc).retryable = true → Futile rt pass.db (parcel row)) :
      Picked rt policy now row pass.db (handle rt policy now row exc pass).db .refused := by
    refine .refused (handle_effects ..) (handle_payments ..) (handle_deliveries ..) ?_ ?_ ?_
    all_goals
      intro stored
      unfold retryDelay
      split
    · rfl
    · rfl
    · rfl
    · rfl
    next again =>
      refine fun _ => ⟨Nat.succ_ne_zero _, useless ?_⟩
      unfold shouldRetry at again
      by_contra final
      simp [final] at again
    next => exact fun pending => by cases pending
  unfold drainRow
  rcases answered : attempt rt policy now none row pass.db with ⟨result, after⟩
  cases attempt_attempted rt policy now answered with
  | faulted raised => cases raised
  | undecodable _ undecodable =>
    have verdict : answer rt pass.db (parcel row) = .refused := by simp only [answer, parcel, undecodable]
    rw [verdict]
    exact failed fun _ => .undecodable undecodable
  | @refused event exc _ _ decoded refused =>
    have verdict : answer rt pass.db (parcel row) = .refused := by simp only [answer, parcel, decoded, refused]
    rw [verdict]
    exact failed fun retryable => (applyDelivery_error (congrArg Prod.fst refused)).futile storable retryable decoded
  | @delivered event outcome ledger _ decoded delivered =>
    have answer_of := applyDelivery_ok.mpr delivered
    cases outcome with
    | applied =>
      have verdict : answer rt pass.db (parcel row) = .applied ledger := by simp only [answer, parcel, decoded, answer_of]
      rw [verdict]
      refine .applied decoded delivered (settle_effects ..) (settle_payments ..) ?_
      rw [← delivered.deliveries]
      exact settle_deliveries ..
    | parked =>
      have verdict : answer rt pass.db (parcel row) = .parked := by simp only [answer, parcel, decoded, answer_of]
      obtain rfl := delivered.unapplied (by simp)
      rw [verdict]
      exact .parked (settle_effects ..) (settle_payments ..) (settle_deliveries ..)
    | noopDuplicate | rejected =>
      have verdict : answer rt pass.db (parcel row) = .refused := by simp only [answer, parcel, decoded, answer_of]
      obtain rfl := delivered.unapplied (by simp)
      rw [verdict]
      exact .refused (settle_effects ..) (settle_payments ..) (settle_deliveries ..) (fun _ => rfl) (fun _ => rfl)
        fun _ pending => by cases pending

end Turn

section Queue

/-- The untried deliveries in order of receipt: those that this round put off, all until
one time, and then those it has still to come to. -/
structure Line (base now : T) (rows asleep awake : List (Delivery T)) (wake : T) : Prop where
  order : rows = asleep ++ awake
  ahead : now < wake
  shared : awake = [] ∨ wake = now + base
  parked : ∀ row ∈ asleep, row.parkedUntil = some wake
  ready : ∀ row ∈ awake, ∀ t ∈ row.parkedUntil, t ≤ now
  scheduled : ∀ row ∈ rows, ∀ t ∈ row.nextAttemptAt, t ≤ now

/-- The store is where the round is. -/
structure Tracks (base now : T) (round : Round (Db T) Parcel) (db : Db T) : Prop where
  ledger : SameStore round.state db
  storable : Storable db
  sorted : db.deliveries.rows.Pairwise receivedBefore
  futile : ∀ row ∈ db.deliveries.rows, row.state.pending = true → row.attempts ≠ 0 → Futile rt db (parcel row.selected)
  line : ∃ asleep awake wake, Line base now (db.deliveries.rows.filter untried) asleep awake wake ∧
    round.later = parcels asleep ∧ round.todo = parcels awake

variable {rt} {policy : RetryPolicy T} {now : T} {round : Round (Db T) Parcel} {db after : Db T} {row : Selected}

theorem sorted_modify {table : Table (Delivery T) Delivery.deliveryId} {id : Str} {change : Delivery T → Delivery T} {keeps}
    (sorted : table.rows.Pairwise receivedBefore) (receipt : ∀ stored, (change stored).receivedAt = stored.receivedAt) :
    (table.modify id change keeps).rows.Pairwise receivedBefore := by
  rw [Table.rows_modify, List.pairwise_map]
  refine sorted.imp fun {first second} before => ?_
  have same (row : Delivery T) : (if row.deliveryId = id then change row else row).receivedAt = row.receivedAt ∧
      (if row.deliveryId = id then change row else row).deliveryId = row.deliveryId := by
    split
    · exact ⟨receipt row, keeps row⟩
    · exact ⟨rfl, rfl⟩
  simp only [receivedBefore, same] at before ⊢
  exact before

omit [Seconds T] in
theorem posted_modify {id : Str} {change : Delivery T → Delivery T} {keeps}
    (deliveries : after.deliveries = db.deliveries.modify id change keeps)
    (same : ∀ stored, parcel (change stored).selected = parcel stored.selected) :
    parcels after.deliveries.rows = parcels db.deliveries.rows := by
  rw [deliveries, Table.rows_modify, parcels, parcels, List.map_map]
  refine List.map_congr_left fun row _ => ?_
  simp only [Function.comp]
  split
  · exact same row
  · rfl

/-- A retry leaves the round where it is. -/
theorem Tracks.retried (tracks : Tracks rt policy.baseSeconds now round db) (stored : Stored Exact db row)
    (again : row.attempts ≠ 0) (turned : Picked rt policy now row db after (answer rt db (parcel row))) :
    Tracks rt policy.baseSeconds now round after := by
  obtain ⟨held, found, rfl, pending⟩ := stored
  obtain ⟨inside, _⟩ := Table.find?_eq_some.mp found
  have futile := tracks.futile held inside pending again
  rw [futile.refused tracks.storable] at turned
  cases turned with
  | @refused change keeps effects payments deliveries receipt same retried =>
    have tried : untried held = false := by
      have attempts : held.attempts ≠ 0 := again
      simp [untried, attempts]
    have rows : after.deliveries.rows.filter untried = db.deliveries.rows.filter untried := by
      rw [deliveries, ← Table.rows_filter, ← Table.rows_filter, Table.modify_filter, Table.modify_absent]
      · rw [Table.find?_filter, found, Option.filter_some_neg (by simp [tried])]
      · intro other member own
        obtain rfl := db.deliveries.key_inj member inside own
        rw [tried]
        by_contra changed
        simp only [Bool.not_eq_false, untried, Bool.and_eq_true, decide_eq_true_eq] at changed
        exact (retried other changed.1).1 changed.2
    refine ⟨tracks.ledger.trans ⟨effects, payments, posted_modify deliveries same⟩, ?_, ?_, ?_, ?_⟩
    · intro row member
      exact tracks.storable row (payments ▸ member)
    · rw [deliveries]
      exact sorted_modify tracks.sorted receipt
    · intro other member pending' failed
      rw [deliveries] at member
      rcases Table.mem_modify.mp member with ⟨old, inside', own, rfl⟩ | ⟨inside', _⟩
      · rw [same]
        obtain rfl := db.deliveries.key_inj inside' inside own
        exact futile.congr payments
      · exact (tracks.futile other inside' pending' failed).congr payments
    · rw [rows]
      exact tracks.line

theorem storable_applied {ledger : Db T} {deliveryId : Str} {event : CanonicalEvent T} (storable : Storable db)
    (delivered : Delivered db deliveryId event .applied ledger) : Storable ledger := by
  have step := storable.step (.delivered deliveryId event)
  rwa [ledgerStep, writeTx_ok.mpr (applyDelivery_ok.mpr delivered)] at step

section Line
variable {asleep awake : List (Delivery T)} {wake base : T} {row : Delivery T} {change : Delivery T → Delivery T} {keeps}
  (line : Line base now (db.deliveries.rows.filter untried) asleep (row :: awake) wake)
  (deliveries : after.deliveries = db.deliveries.modify row.deliveryId change keeps)
include line deliveries

theorem Line.dropped (tried : untried (change row) = false) :
    Line base now (after.deliveries.rows.filter untried) asleep awake wake := by
  have order : after.deliveries.rows.filter untried = asleep ++ awake := by
    rw [deliveries, Table.filter_modify line.order, List.filter_cons_of_neg (by simp [tried])]
    rfl
  refine ⟨order, line.ahead, .inr (line.shared.resolve_left (List.cons_ne_nil _ _)), line.parked, ?_, ?_⟩
  · exact fun other member => line.ready other (List.mem_cons_of_mem _ member)
  · intro other member
    apply line.scheduled
    rw [order, List.mem_append] at member
    rw [line.order, List.mem_append, List.mem_cons]
    exact member.imp_right .inr

theorem Line.parks (still : untried (change row) = true) (until_ : (change row).parkedUntil = some wake)
    (scheduled : (change row).nextAttemptAt = row.nextAttemptAt) :
    Line base now (after.deliveries.rows.filter untried) (asleep ++ [change row]) awake wake := by
  have order : after.deliveries.rows.filter untried = asleep ++ [change row] ++ awake := by
    rw [deliveries, Table.filter_modify line.order, List.filter_cons_of_pos still, List.append_assoc]
    rfl
  refine ⟨order, line.ahead, .inr (line.shared.resolve_left (List.cons_ne_nil _ _)), ?_, ?_, ?_⟩
  · intro other member
    rcases List.mem_append.mp member with before | here
    · exact line.parked other before
    · obtain rfl := List.mem_singleton.mp here
      exact until_
  · exact fun other member => line.ready other (List.mem_cons_of_mem _ member)
  · intro other member
    have listed := line.scheduled
    simp only [line.order, List.mem_append, List.mem_cons] at listed
    simp only [order, List.mem_append, List.mem_cons, List.not_mem_nil, or_false] at member
    rcases member with (before | rfl) | behind
    · exact listed other (.inl before)
    · rw [scheduled]
      exact listed row (.inr (.inl rfl))
    · exact listed other (.inr (.inr behind))

end Line

/-- A delivery that is due in the round is the next of it, and the store goes along. -/
theorem Tracks.turned (tracks : Tracks rt policy.baseSeconds now round db) (stored : Stored Exact db row)
    {rest : List Parcel} (todo : round.todo = parcel row :: rest) (first : row.attempts = 0)
    (turned : Picked rt policy now row db after (answer rt db (parcel row))) :
    Tracks rt policy.baseSeconds now (round.next (answer rt)) after := by
  obtain ⟨held, found, rfl, pending⟩ := stored
  obtain ⟨inside, _⟩ := Table.find?_eq_some.mp found
  obtain ⟨ledger, storable, sorted, futile, asleep, awake, wake, line, later, todo'⟩ := tracks
  rw [todo] at todo'
  obtain ⟨next, awake', rfl, own, rest'⟩ := List.map_eq_cons_iff.mp todo'.symm
  have listed : next ∈ db.deliveries.rows.filter untried := line.order ▸ List.mem_append_right _ List.mem_cons_self
  obtain rfl : next = held :=
    db.deliveries.key_inj (List.mem_filter.mp listed).1 inside (congrArg Parcel.deliveryId own)
  have shared : wake = now + policy.baseSeconds := line.shared.resolve_left (List.cons_ne_nil _ _)
  have matched := ledger.answer rt (parcel next.selected)
  have others {change keeps} (deliveries : after.deliveries = db.deliveries.modify next.deliveryId change keeps)
      (kept : ∀ other : Delivery T, Futile rt db (parcel other.selected) → Futile rt after (parcel other.selected))
      (own : (change next).state.pending = true → (change next).attempts ≠ 0 → Futile rt after (parcel (change next).selected)) :
      ∀ other ∈ after.deliveries.rows, other.state.pending = true → other.attempts ≠ 0 → Futile rt after (parcel other.selected) := by
    intro other member pending' failed
    rw [deliveries] at member
    rcases Table.mem_modify.mp member with ⟨old, inside', same, rfl⟩ | ⟨inside', _⟩
    · obtain rfl := db.deliveries.key_inj inside' inside same
      exact own pending' failed
    · exact kept other (futile other inside' pending' failed)
  obtain ⟨state, todo'', later'⟩ := round
  obtain rfl : todo'' = parcel next.selected :: rest := todo
  obtain rfl : later' = parcels asleep := later
  generalize verdict : answer rt state (parcel next.selected) = verdict' at matched
  generalize answer rt db (parcel next.selected) = reached at matched turned
  cases turned with
  | @applied event ledger' decoded delivered effects payments deliveries =>
    cases matched with
    | @applied after' _ both =>
      have stepped : Round.next (answer rt) ⟨state, parcel next.selected :: rest, parcels asleep⟩ = ⟨after', rest, parcels asleep⟩ := by
        simp only [Round.next, verdict]
      rw [stepped]
      have posted : parcels after.deliveries.rows = parcels ledger'.deliveries.rows := by
        rw [delivered.deliveries]
        exact posted_modify deliveries fun _ => rfl
      refine ⟨both.trans ⟨effects, payments, posted⟩, ?_, ?_, ?_, asleep, awake', wake, ?_, rfl, rest'.symm⟩
      · intro row member
        exact storable_applied storable delivered row (payments ▸ member)
      · rw [deliveries]
        exact sorted_modify sorted fun _ => rfl
      · exact others deliveries (fun other old => (old.extended delivered.extended).congr payments) fun pending => by cases pending
      · exact line.dropped deliveries rfl
  | parked effects payments deliveries =>
    cases matched with
    | parked =>
      have stepped : Round.next (answer rt) ⟨state, parcel next.selected :: rest, parcels asleep⟩ =
          ⟨state, rest, parcels asleep ++ [parcel next.selected]⟩ := by
        simp only [Round.next, verdict]
      rw [stepped]
      have still : untried (settledRow policy now .parked next) = true := by
        have attempts : next.attempts = 0 := first
        simp [untried, settledRow, attempts]
      refine ⟨ledger.trans ⟨effects, payments, posted_modify deliveries fun _ => rfl⟩, ?_, ?_, ?_,
        asleep ++ [settledRow policy now .parked next], awake', wake, ?_, ?_, rest'.symm⟩
      · intro row member
        exact storable row (payments ▸ member)
      · rw [deliveries]
        exact sorted_modify sorted fun _ => rfl
      · exact others deliveries (fun other old => old.congr payments) fun _ failed => absurd first failed
      · exact line.parks deliveries still (by rw [shared]; rfl) rfl
      · simp only [parcels, List.map_append]
        rfl
  | @refused change keeps effects payments deliveries receipt same retried =>
    cases matched with
    | refused =>
      have stepped : Round.next (answer rt) ⟨state, parcel next.selected :: rest, parcels asleep⟩ = ⟨state, rest, parcels asleep⟩ := by
        simp only [Round.next, verdict]
      rw [stepped]
      have tried : untried (change next) = false := by
        by_contra untried_
        simp only [Bool.not_eq_false, untried, Bool.and_eq_true, decide_eq_true_eq] at untried_
        exact (retried next untried_.1).1 untried_.2
      refine ⟨ledger.trans ⟨effects, payments, posted_modify deliveries same⟩, ?_, ?_, ?_, asleep, awake', wake, ?_, rfl, rest'.symm⟩
      · intro row member
        exact storable row (payments ▸ member)
      · rw [deliveries]
        exact sorted_modify sorted receipt
      · refine others deliveries (fun other old => old.congr payments) fun pending _ => ?_
        rw [same]
        exact (retried next pending).2.congr payments
      · exact line.dropped deliveries tried

end Queue

section Pass

variable {rt} {policy : RetryPolicy T} {now : T} {round : Round (Db T) Parcel}

/-- The parcels of the selected deliveries that no attempt failed at so far. -/
def timely (rows : List Selected) : List Parcel := (rows.filter fun row => row.attempts = 0).map parcel

theorem Tracks.rows {rows : List Selected} (pass : Pass T R) (tracks : Tracks rt policy.baseSeconds now round pass.db)
    (distinct : (rows.map Selected.deliveryId).Nodup) (stored : ∀ row ∈ rows, Stored Exact pass.db row)
    (first : timely rows <+: round.todo) : ∃ later, round.Follows (answer rt) later ∧
      Tracks rt policy.baseSeconds now later (rows.foldl (drainRow rt policy now fun _ => none) pass).db := by
  induction rows generalizing pass round with
  | nil => exact ⟨round, .refl round, tracks⟩
  | cons row rows ih =>
    have turned := drainRow_picked rt policy now pass tracks.storable row
    rw [List.map_cons, List.nodup_cons] at distinct
    have still : ∀ other ∈ rows, Stored Exact (drainRow rt policy now (fun _ => none) pass row).db other := by
      intro other member
      have different : other.deliveryId ≠ row.deliveryId := fun same => distinct.1 (same ▸ List.mem_map_of_mem member)
      exact (drainRow_frame rt policy now _ row pass).stored different (stored other (List.mem_cons_of_mem _ member))
    by_cases again : row.attempts = 0
    · have front : timely (row :: rows) = parcel row :: timely rows := by simp [timely, again]
      rw [front] at first
      obtain ⟨more, todo⟩ := first
      have todo' : round.todo = parcel row :: (timely rows ++ more) := todo.symm
      have along := tracks.turned (stored row List.mem_cons_self) todo' again turned
      obtain ⟨later, follows, reached⟩ := ih _ along distinct.2 still (by rw [Round.next_todo todo']; exact List.prefix_append _ _)
      exact ⟨later, (Round.Follows.refl round).next.trans follows, reached⟩
    · have front : timely (row :: rows) = timely rows := by simp [timely, again]
      rw [front] at first
      exact ih _ (tracks.retried (stored row List.mem_cons_self) again turned) distinct.2 still first

theorem limited_begins {α : Type} (limit : Int) (rows : List α) : limited limit rows <+: rows := by
  unfold limited
  split
  · exact List.prefix_rfl
  · exact List.take_prefix _ _

/-- Of the untried deliveries those are due that the round has still to come to. -/
theorem Line.due {base : T} {rows asleep awake : List (Delivery T)} {wake : T}
    (line : Line base now (rows.filter untried) asleep awake wake) :
    (rows.filter (due now)).filter (fun row => row.attempts = 0) = awake := by
  have swapped : (rows.filter (Quidz.due now)).filter (fun row => row.attempts = 0) =
      (rows.filter untried).filter (Quidz.due now) := by
    rw [List.filter_filter, List.filter_filter]
    refine List.filter_congr fun row _ => ?_
    simp only [Quidz.due, untried]
    cases row.state.pending <;> simp [Bool.and_comm]
  have scheduled := line.scheduled
  rw [swapped, line.order, List.filter_append]
  have parked : asleep.filter (Quidz.due now) = [] := by
    rw [List.filter_eq_nil_iff]
    intro row member
    simp [Quidz.due, line.parked row member, line.ahead]
  have ready : awake.filter (Quidz.due now) = awake := by
    rw [List.filter_eq_self]
    intro row member
    have listed : row ∈ rows.filter untried := line.order ▸ List.mem_append_right _ member
    have pending := (List.mem_filter.mp listed).2
    simp only [untried, Bool.and_eq_true] at pending
    simp only [Quidz.due, Bool.and_eq_true, Option.all_eq_true, decide_eq_true_eq]
    exact ⟨⟨pending.1, scheduled row listed⟩, line.ready row member⟩
  rw [parked, ready, List.nil_append]

/-- A pass goes along the round, retries or not. -/
theorem Tracks.drain {db : Db T} (tracks : Tracks rt policy.baseSeconds now round db) (limit : Int) (rng : Option R) :
    ∃ later, round.Follows (answer rt) later ∧
      Tracks rt policy.baseSeconds now later (drain rt policy now limit rng (fun _ => none) db).db := by
  refine tracks.rows { db, budgetUsed := budgetUsed db now, rng := rng.getD (jitterSource rt policy) }
    (selectDue_nodup db now limit) (select_synced rt policy now limit rng (fun _ => none) db).stored ?_
  obtain ⟨asleep, awake, wake, line, _, todo⟩ := tracks.line
  have inOrder : dueRows db now = db.deliveries.rows.filter (due now) :=
    (tracks.sorted.filter _).insertionSort_eq
  have selection : timely (selectDue db now limit) = parcels ((limited limit (dueRows db now)).filter fun row => row.attempts = 0) := by
    rw [selectDue_eq, timely, List.filter_map, parcels, List.map_map]
    rfl
  rw [selection, todo, ← line.due, ← inOrder]
  exact ((limited_begins limit (dueRows db now)).filter _).map _

end Pass

section Idle

variable {rt} {policy : RetryPolicy T} {now : T} {round : Round (Db T) Parcel} {db : Db T}

/-- A wait never leaves the clock where it is. This is said of exact times: a float that is
large enough absorbs a short wait. -/
def Advances (T : Type) [Seconds T] : Prop := ∀ t seconds : T, 0 < seconds → t < t + seconds

variable (advances : Advances T) (positive : 0 < policy.baseSeconds)
include advances positive

/-- The next round begins once the deliveries that were put off are due. -/
theorem Tracks.wait (tracks : Tracks rt policy.baseSeconds now round db) (finished : round.todo = []) {reading : T}
    (later : now < reading) : ∃ next, round.Follows (answer rt) next ∧ Tracks rt policy.baseSeconds reading next db := by
  obtain ⟨ledger, storable, sorted, futile, asleep, awake, wake, line, put, todo⟩ := tracks
  rw [finished] at todo
  obtain rfl : awake = [] := List.map_eq_nil_iff.mp todo.symm
  have scheduled : ∀ row ∈ db.deliveries.rows.filter untried, ∀ t ∈ row.nextAttemptAt, t ≤ reading :=
    fun row member t due => (line.scheduled row member t due).trans later.le
  by_cases early : reading < wake
  · refine ⟨round, .refl round, ledger, storable, sorted, futile, asleep, [], wake, ?_, put, finished⟩
    exact ⟨line.order, early, .inl rfl, line.parked, List.forall_mem_nil _, scheduled⟩
  · have stepped : round.next (answer rt) = { round with todo := parcels asleep, later := [] } := by
      simp only [Round.next, finished, put]
    refine ⟨round.next (answer rt), (Round.Follows.refl round).next, ?_⟩
    rw [stepped]
    refine ⟨ledger, storable, sorted, futile, [], asleep, reading + policy.baseSeconds, ?_, rfl, rfl⟩
    refine ⟨?_, advances reading _ positive, .inr rfl, List.forall_mem_nil _, ?_, scheduled⟩
    · rw [line.order, List.append_nil, List.nil_append]
    · intro row member t parked
      rw [line.parked row member] at parked
      cases parked
      exact not_lt.mp early

omit advances positive in
theorem Tracks.finished (tracks : Tracks rt policy.baseSeconds now round db) (zero : 0 ≤ now) {due : T}
    (least : (pendingTimes db).min? = some due) (later : now < due) : round.todo = [] := by
  obtain ⟨asleep, awake, wake, line, _, todo⟩ := tracks.line
  rw [todo]
  by_contra unfinished
  obtain ⟨row, member⟩ := List.exists_mem_of_ne_nil awake (fun none => unfinished (by rw [none]; rfl))
  have listed : row ∈ db.deliveries.rows.filter untried := line.order ▸ List.mem_append_right _ member
  obtain ⟨inside, kept⟩ := List.mem_filter.mp listed
  simp only [untried, Bool.and_eq_true] at kept
  have pending : max (row.nextAttemptAt.getD 0) (row.parkedUntil.getD 0) ∈ pendingTimes db :=
    List.mem_map_of_mem (List.mem_filter.mpr ⟨inside, kept.1⟩)
  have first : due ≤ max (row.nextAttemptAt.getD 0) (row.parkedUntil.getD 0) := (List.min?_eq_some_iff.mp least).2 _ pending
  have scheduled : row.nextAttemptAt.getD 0 ≤ now := by
    cases next : row.nextAttemptAt with
    | none => exact zero
    | some t => exact line.scheduled row listed t next
  have ready : row.parkedUntil.getD 0 ≤ now := by
    cases parked : row.parkedUntil with
    | none => exact zero
    | some t => exact line.ready row member t parked
  exact absurd (first.trans (max_le scheduled ready)) (not_le.mpr later)

omit advances positive in
variable (rt policy) in
/-- A turn of the loop drains, and then waits for what is due next or does not. -/
theorem idlePass_turn (faults : Str → Option Exc) (idling : Idling T R T) :
    let after := idlePass rt (FakeClock T) policy faults idling
    let drained := (Quidz.drain rt policy idling.clock defaultLimit (some idling.rng) faults idling.db).db
    after = idling ∨ after.db = drained ∧ (after.clock = idling.clock ∨
      ∃ due, (pendingTimes drained).min? = some due ∧ idling.clock < due ∧
        after.clock = idling.clock + (due - idling.clock)) := by
  intro after drained
  have unfolded : after = idlePass rt (FakeClock T) policy faults idling := rfl
  clear_value after
  unfold idlePass at unfolded
  split at unfolded
  next =>
    simp only at unfolded
    split at unfolded
    next => exact .inr (unfolded ▸ ⟨rfl, .inl rfl⟩)
    next due least =>
      split at unfolded
      next waits =>
        subst unfolded
        exact .inr ⟨rfl, .inr ⟨due, least, (Seconds.sub_pos _ _).mp waits, rfl⟩⟩
      next => exact .inr (unfolded ▸ ⟨rfl, .inl rfl⟩)
  next => exact .inl unfolded

theorem Tracks.idlePass {idling : Idling T R T} (tracks : Tracks rt policy.baseSeconds idling.clock round idling.db)
    (zero : 0 ≤ idling.clock) :
    let after := idlePass rt (FakeClock T) policy (fun _ => none) idling
    0 ≤ after.clock ∧ ∃ later, round.Follows (answer rt) later ∧ Tracks rt policy.baseSeconds after.clock later after.db := by
  intro after
  obtain ⟨reached, follows, along⟩ := tracks.drain defaultLimit (some idling.rng)
  rcases idlePass_turn rt policy (fun _ => none) idling with same | ⟨db, same | ⟨due, least, later, clock⟩⟩
  · have stopped : after = idling := same
    rw [stopped]
    exact ⟨zero, round, .refl round, tracks⟩
  · rw [show after.clock = idling.clock from same, show after.db = _ from db]
    exact ⟨zero, reached, follows, along⟩
  · have moved : idling.clock < idling.clock + (due - idling.clock) := advances _ _ ((Seconds.sub_pos _ _).mpr later)
    obtain ⟨next, turned, awake⟩ := along.wait advances positive (along.finished zero least later) moved
    rw [show after.clock = _ from clock, show after.db = _ from db]
    exact ⟨zero.trans moved.le, next, follows.trans turned, awake⟩

/-- However long the loop runs and whatever it draws, it leaves the store somewhere on
the way that the rounds take. -/
theorem Tracks.drainUntilIdle {start : T} (tracks : Tracks rt policy.baseSeconds start round db) (zero : 0 ≤ start)
    (maxPasses : Nat) :
    let after := drainUntilIdle rt (FakeClock T) policy (fun _ => none) maxPasses start db
    ∃ later, round.Follows (answer rt) later ∧ Tracks rt policy.baseSeconds after.clock later after.db := by
  have kept : 0 ≤ (Quidz.drainUntilIdle rt (FakeClock T) policy (fun _ => none) maxPasses start db).clock ∧
      ∃ later, round.Follows (answer rt) later ∧ Tracks rt policy.baseSeconds
        (Quidz.drainUntilIdle rt (FakeClock T) policy (fun _ => none) maxPasses start db).clock later
        (Quidz.drainUntilIdle rt (FakeClock T) policy (fun _ => none) maxPasses start db).db := by
    unfold Quidz.drainUntilIdle
    induction maxPasses with
    | zero => exact ⟨zero, round, .refl round, tracks⟩
    | succ passes ih =>
      rw [Function.iterate_succ_apply']
      obtain ⟨positive_, reached, follows, along⟩ := ih
      obtain ⟨still, later, further, after⟩ := along.idlePass advances positive positive_
      exact ⟨still, later, follows.trans further, after⟩
  exact kept.2

end Idle
end Quidz.Proofs
