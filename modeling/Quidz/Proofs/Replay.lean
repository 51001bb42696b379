import Mathlib.Algebra.Order.Field.Basic
import Mathlib.Algebra.Order.Field.Rat
import Mathlib.Tactic.Linarith
import Quidz.Proofs.Decoding
import Quidz.Proofs.Logging
import Quidz.Proofs.Turns

/-! The replay of a delivery log. The original run and the replay differ in their clocks and
in the jitter they draw, so that one of them may get further than the other; they come to
one terminal state if neither stopped in front of work. -/

namespace Quidz.Proofs

open Library (Table Round)

variable {T R : Type} [Seconds T] (rt : Runtime T R)

section Runs

/-- The delivery would be applied if it came up now. -/
def applicable (db : Db T) (row : Delivery T) : Bool :=
  match decode rt row.provider row.raw with
  | .error _ => false
  | .ok event => (applyDelivery row.deliveryId event db).1 = .ok .applied

/-- No delivery is left pending that would still be applied. -/
def Quiescent (db : Db T) : Prop := ∀ row ∈ db.deliveries.rows, row.state.pending = true → applicable rt db row = false

instance (db : Db T) : Decidable (Quiescent rt db) :=
  inferInstanceAs (Decidable (∀ row ∈ db.deliveries.rows, row.state.pending = true → applicable rt db row = false))

variable {rt} {policy : RetryPolicy T} {now : T} {round : Round (Db T) Parcel} {db : Db T}

theorem Quiescent.answer (quiescent : Quiescent rt db) {row : Delivery T} (member : row ∈ db.deliveries.rows)
    (pending : row.state.pending = true) (after : Db T) : answer rt db (parcel row.selected) ≠ .applied after := by
  have idle := quiescent row member pending
  intro applied
  unfold Proofs.answer at applied
  split at applied
  next => cases applied
  next event decoded =>
    have decoded' : decode rt row.provider row.raw = .ok event := decoded
    split at applied
    next answered =>
      have first := congrArg Prod.fst answered
      simp only [applicable, decoded', decide_eq_false_iff_not] at idle
      exact idle first
    next => cases applied
    next => cases applied

theorem Tracks.settled (tracks : Tracks rt policy.baseSeconds now round db) (quiescent : Quiescent rt db) :
    round.Settled (Proofs.answer rt) := by
  obtain ⟨asleep, awake, wake, line, later, todo⟩ := tracks.line
  intro item member after applied
  have listed : item ∈ parcels (db.deliveries.rows.filter untried) := by
    rw [line.order, parcels, List.map_append, List.mem_append]
    rw [todo, later, List.mem_append] at member
    exact member.symm
  obtain ⟨row, kept, rfl⟩ := List.mem_map.mp listed
  obtain ⟨inside, untried_⟩ := List.mem_filter.mp kept
  simp only [untried, Bool.and_eq_true] at untried_
  have matched := tracks.ledger.answer rt (parcel row.selected)
  rw [applied] at matched
  generalize reached : Proofs.answer rt db (parcel row.selected) = verdict at matched
  cases matched with
  | applied => exact quiescent.answer inside untried_.1 _ reached

/-- Deliveries that were claimed in this order and not looked at since. -/
structure Queued (now : T) (posted : List Parcel) (db : Db T) : Prop where
  effects : db.effects = .empty
  payments : db.payments = .empty
  posted : parcels db.deliveries.rows = posted
  sorted : db.deliveries.rows.Pairwise receivedBefore
  received : ∀ row ∈ db.deliveries.rows, row.receivedAt < now
  untouched : ∀ row ∈ db.deliveries.rows, untried row = true ∧ row.nextAttemptAt = some row.receivedAt ∧ row.parkedUntil = none

variable {posted : List Parcel} (advances : Advances T) (positive : 0 < policy.baseSeconds)
include advances positive

theorem Queued.tracks {first : Db T} (queued : Queued now posted db) (same : SameStore first db) :
    Tracks rt policy.baseSeconds now ⟨first, posted, []⟩ db where
  ledger := same
  storable := by
    intro row member
    rw [queued.payments] at member
    cases member
  sorted := queued.sorted
  futile := by
    intro row member _ failed
    have untouched := (queued.untouched row member).1
    simp [untried, failed] at untouched
  line := by
    have all : db.deliveries.rows.filter untried = db.deliveries.rows :=
      List.filter_eq_self.mpr fun row member => (queued.untouched row member).1
    rw [all]
    refine ⟨[], db.deliveries.rows, now + policy.baseSeconds, ⟨rfl, ?_, .inr rfl, nofun, ?_, ?_⟩, rfl, queued.posted.symm⟩
    · exact advances now _ positive
    · intro row member t parked
      rw [(queued.untouched row member).2.2] at parked
      cases parked
    · intro row member t scheduled
      rw [(queued.untouched row member).2.1] at scheduled
      cases scheduled
      exact (queued.received row member).le

omit [Seconds T] advances positive in
theorem answer_deliveries [Seconds T] {after : Db T} {item : Parcel} (applied : Proofs.answer rt db item = .applied after) :
    after.deliveries = db.deliveries := by
  unfold Proofs.answer at applied
  split at applied
  next => cases applied
  next =>
    split at applied
    next answered =>
      cases applied
      exact (applyDelivery_ok.mp answered).deliveries
    next => cases applied
    next => cases applied

variable (rt) in
/-- The loop leaves the deliveries as they were posted, in order of receipt. -/
theorem Queued.drained (queued : Queued now posted db) (zero : 0 ≤ now) (maxPasses : Nat) :
    let after := (drainUntilIdle rt (FakeClock T) policy (fun _ => none) maxPasses now db).db
    after.deliveries.rows.Pairwise receivedBefore ∧ parcels after.deliveries.rows = posted := by
  obtain ⟨round, follows, tracks⟩ := (queued.tracks advances positive (.refl db)).drainUntilIdle advances positive zero maxPasses
  refine ⟨tracks.sorted, tracks.ledger.posted.trans ?_⟩
  refine follows.keeps (fun state => parcels state.deliveries.rows = posted) queued.posted fun same applied => ?_
  rw [answer_deliveries applied]
  exact same

omit positive in
/-- Two loops over one queue, at whatever times and whatever they draw, leave one table of
payments if neither leaves anything that would be applied. -/
theorem Queued.drained_alike {now' : T} {db' : Db T} {policy' : RetryPolicy T} (queued : Queued now posted db)
    (queued' : Queued now' posted db') (zero : 0 ≤ now) (zero' : 0 ≤ now') (positive : 0 < policy.baseSeconds)
    (positive' : 0 < policy'.baseSeconds) (maxPasses maxPasses' : Nat) :
    let first := (drainUntilIdle rt (FakeClock T) policy (fun _ => none) maxPasses now db).db
    let second := (drainUntilIdle rt (FakeClock T) policy' (fun _ => none) maxPasses' now' db').db
    Quiescent rt first → Quiescent rt second → second.payments = first.payments := by
  intro first second quiescent quiescent'
  have same : SameStore db db' := ⟨queued'.effects.trans queued.effects.symm, queued'.payments.trans queued.payments.symm,
    queued'.posted.trans queued.posted.symm⟩
  obtain ⟨one, follows, tracks⟩ := (queued.tracks advances positive (.refl db)).drainUntilIdle advances positive zero maxPasses
  obtain ⟨other, follows', tracks'⟩ := (queued'.tracks advances positive' same).drainUntilIdle advances positive' zero' maxPasses'
  have state := Round.settled_unique follows follows' (tracks.settled quiescent) (tracks'.settled quiescent')
  rw [tracks'.ledger.payments, ← state, tracks.ledger.payments]

end Runs

section Claims

omit [Seconds T] in
theorem Queued.empty [Seconds T] (now : T) : Queued now [] .empty :=
  ⟨rfl, rfl, rfl, .nil, nofun, nofun⟩

variable {rt} {interval leaseSeconds now : T} {posted : List Parcel} {db : Db T}

theorem Queued.fresh (queued : Queued now posted db) {id : Str} (fresh : id ∉ posted.map Parcel.deliveryId) :
    db.deliveries.find? id = none := by
  rw [← queued.posted, ← known_iff, Option.isNone_iff_eq_none] at fresh
  exact fresh

/-- A claim adds the delivery behind the others. -/
theorem Queued.claimed (queued : Queued now posted db) (later : now < now + interval) {received : Received}
    {deliveries : Table (Delivery T) Delivery.deliveryId}
    (inserted : db.deliveries.insert? (claimedRow rt received.provider received.identity received.raw received.headers now leaseSeconds) =
      some deliveries) : Queued (now + interval) (posted ++ [posting received]) { db with deliveries } := by
  have rows := (Table.insert?_eq_some.mp inserted).2
  refine ⟨queued.effects, queued.payments, ?_, ?_, ?_, ?_⟩
  · simp only [rows, parcels, List.map_append, ← queued.posted]
    rfl
  · rw [rows, List.pairwise_append]
    refine ⟨queued.sorted, List.pairwise_singleton _ _, fun row member new here => ?_⟩
    obtain rfl := List.mem_singleton.mp here
    exact .inl (queued.received row member)
  · intro row member
    rw [rows, List.mem_append, List.mem_singleton] at member
    rcases member with member | rfl
    · exact (queued.received row member).trans later
    · exact later
  · intro row member
    rw [rows, List.mem_append, List.mem_singleton] at member
    rcases member with member | rfl
    · exact queued.untouched row member
    · exact ⟨rfl, rfl, rfl⟩

variable (rt leaseSeconds) in
/-- A delivery that is not queued yet is claimed, unless its id is no text that the store
holds. -/
theorem Queued.answered (queued : Queued now posted db) (later : now < now + interval) {received : Received}
    (fresh : (posting received).deliveryId ∉ posted.map Parcel.deliveryId) :
    let answered := claim rt received.provider received.identity received.raw received.headers now leaseSeconds db
    if (posting received).deliveryId.encodable then
      (∃ result, answered.1 = .ok result) ∧ Queued (now + interval) (posted ++ [posting received]) answered.2
    else ∃ exc, answered.1 = .error exc := by
  have absent := queued.fresh fresh
  have answers := claimed_self rt received.provider received.identity received.raw received.headers now leaseSeconds db
  simp only
  generalize claim rt received.provider received.identity received.raw received.headers now leaseSeconds db = reached at answers ⊢
  obtain ⟨result, after⟩ := reached
  cases answers with
  | unbound unbound exc =>
    rw [if_neg (by rw [show (posting received).deliveryId.encodable = false from unbound]; simp)]
    exact ⟨exc, rfl⟩
  | new bound inserted =>
    rw [if_pos (show (posting received).deliveryId.encodable = true from bound)]
    exact ⟨⟨_, rfl⟩, queued.claimed later inserted⟩
  | duplicate found | inProgress found | reclaimed found => cases absent.symm.trans found

section Row
variable {received : Received} {rest : List Received}
  (distinct : ((posted ++ (received :: rest).map posting).map Parcel.deliveryId).Nodup)
include distinct

theorem first_fresh : (posting received).deliveryId ∉ posted.map Parcel.deliveryId := by
  rw [List.map_append, List.nodup_append] at distinct
  intro listed
  exact distinct.2.2 _ listed _ List.mem_cons_self rfl

theorem rest_distinct : ((posted ++ [posting received] ++ rest.map posting).map Parcel.deliveryId).Nodup := by
  rw [List.append_assoc]
  exact distinct

end Row

variable (later : ∀ t : T, t < t + interval)
include later

/-- Deliveries that are claimed in a row are queued in that row. -/
theorem claimAll_queued {deliveries : List Received} (queued : Queued now posted db)
    (distinct : ((posted ++ deliveries.map posting).map Parcel.deliveryId).Nodup)
    (encodable : ∀ received ∈ deliveries, (posting received).deliveryId.encodable = true) :
    ∃ ended after, claimAll rt interval leaseSeconds deliveries now db = .ok (ended, after) ∧
      Queued ended (posted ++ deliveries.map posting) after ∧ now ≤ ended := by
  induction deliveries generalizing now posted db with
  | nil => exact ⟨now, db, rfl, by rwa [List.map_nil, List.append_nil], le_rfl⟩
  | cons received rest ih =>
    have answers := queued.answered rt leaseSeconds (later now) (first_fresh distinct)
    rw [List.forall_mem_cons] at encodable
    simp only [encodable.1, ↓reduceIte] at answers
    unfold claimAll
    generalize claim rt received.provider received.identity received.raw received.headers now leaseSeconds db = reached at answers ⊢
    obtain ⟨_ | result, reached⟩ := reached
    · obtain ⟨⟨_, raised⟩, _⟩ := answers
      cases raised
    · obtain ⟨ended, after, claimed, all, more⟩ := ih answers.2 (rest_distinct distinct) encodable.2
      refine ⟨ended, after, claimed, ?_, (later now).le.trans more⟩
      rwa [List.append_assoc] at all

theorem claimAll_encodable {deliveries : List Received} {claimed : T × Db T} (queued : Queued now posted db)
    (distinct : ((posted ++ deliveries.map posting).map Parcel.deliveryId).Nodup)
    (ok : claimAll rt interval leaseSeconds deliveries now db = .ok claimed) :
    ∀ received ∈ deliveries, (posting received).deliveryId.encodable = true := by
  induction deliveries generalizing now posted db with
  | nil => exact nofun
  | cons received rest ih =>
    have answers := queued.answered rt leaseSeconds (later now) (first_fresh distinct)
    unfold claimAll at ok
    generalize claim rt received.provider received.identity received.raw received.headers now leaseSeconds db = reached at answers ok
    obtain ⟨_ | result, reached⟩ := reached
    · cases ok
    · by_cases encodable : (posting received).deliveryId.encodable = true
      · rw [if_pos encodable] at answers
        exact List.forall_mem_cons.mpr ⟨encodable, ih answers.2 (rest_distinct distinct) ok⟩
      · rw [if_neg encodable] at answers
        obtain ⟨_, raised⟩ := answers
        cases raised

end Claims

section Log

variable {rt} {interval leaseSeconds start : T} {policy : RetryPolicy T} {deliveries : List Received} {db : Db T}

variable (rt leaseSeconds start policy) in
theorem runAll_queued (later : ∀ t : T, t < t + interval) (distinct : ((deliveries.map posting).map Parcel.deliveryId).Nodup)
    (encodable : ∀ received ∈ deliveries, (posting received).deliveryId.encodable = true) :
    ∃ now queued, Queued now (deliveries.map posting) queued ∧ start ≤ now ∧
      runAll rt policy interval leaseSeconds deliveries start =
        .ok (drainUntilIdle rt (FakeClock T) policy (fun _ => none) defaultPasses now queued).db := by
  obtain ⟨now, queued, claimed, all, more⟩ := claimAll_queued later (Queued.empty start) distinct encodable
  rw [List.nil_append] at all
  exact ⟨now, queued, all, more, bind_ok.mpr ⟨_, claimed, rfl⟩⟩

theorem runAll_encodable (later : ∀ t : T, t < t + interval) (distinct : ((deliveries.map posting).map Parcel.deliveryId).Nodup)
    (ran : runAll rt policy interval leaseSeconds deliveries start = .ok db) :
    ∀ received ∈ deliveries, (posting received).deliveryId.encodable = true := by
  obtain ⟨claimed, ok, _⟩ := bind_ok.mp ran
  exact claimAll_encodable later (Queued.empty start) distinct ok

end Log

/-- Deliveries of distinct ids are claimed at distinct times and drained, and the store they
leave is logged. The log is read as the same deliveries with the terminal state of that
store, and they are claimed and drained again, from another time and with other draws. If
neither loop used up its passes in front of a delivery that would be applied, the two terminal
states are one, and the replay finds that they are. -/
theorem replay_reproduces (policy policy' : RetryPolicy T) (interval leaseSeconds start start' : T) (deliveries : List Received)
    (db : Db T) (path : Str) (advances : Advances T) (spaced : 0 < interval) (positive : 0 < policy.baseSeconds)
    (positive' : 0 < policy'.baseSeconds) (zero : 0 ≤ start) (zero' : 0 ≤ start') (some_ : deliveries ≠ [])
    (distinct : (deliveries.map fun received => deliveryId received.provider received.identity).Nodup)
    (ran : runAll rt policy interval leaseSeconds deliveries start = .ok db) (legible : Legible rt db) :
    ∃ file logged expected again, writeLog rt db (terminal db) = .ok file ∧
      readLog rt path file = .ok (logged, some expected) ∧
      runAll rt policy' interval leaseSeconds logged start' = .ok again ∧
      (Quiescent rt db → Quiescent rt again → terminal again = terminal db ∧
        replay rt policy' interval leaseSeconds path file start' = .ok (terminal db, true)) := by
  have later (t : T) : t < t + interval := advances t interval spaced
  have ids : ((deliveries.map posting).map Parcel.deliveryId).Nodup := by
    rw [List.map_map]
    exact distinct
  have encodable := runAll_encodable later ids ran
  obtain ⟨now, queued, all, more, run⟩ := runAll_queued rt leaseSeconds start policy later ids encodable
  obtain rfl := Except.ok.inj (run.symm.trans ran)
  obtain ⟨sorted, posted⟩ := all.drained rt advances positive (zero.trans more) defaultPasses
  generalize reached : (drainUntilIdle rt (FakeClock T) policy (fun _ => none) defaultPasses now queued).db = db at sorted posted legible ⊢
  have owned : ∀ row ∈ db.deliveries.rows, ∃ identity, row.deliveryId = deliveryId row.provider identity := by
    intro row member
    have listed : parcel row.selected ∈ deliveries.map posting := posted ▸ List.mem_map_of_mem member
    obtain ⟨received, _, same⟩ := List.mem_map.mp listed
    have provider : received.provider = row.provider := congrArg Parcel.provider same
    exact ⟨received.identity, provider ▸ (congrArg Parcel.deliveryId same).symm⟩
  have stored : db.deliveries.rows ≠ [] := by
    intro none
    rw [none] at posted
    exact some_ (List.map_eq_nil_iff.mp posted.symm)
  obtain ⟨file, logged, expected, written, read, posted', same⟩ := readLog_writeLog legible sorted owned stored
  rw [posted] at posted'
  have encodable' : ∀ received ∈ logged, (posting received).deliveryId.encodable = true := by
    intro received member
    have listed : posting received ∈ deliveries.map posting := posted' ▸ List.mem_map_of_mem member
    obtain ⟨original, inside, equal⟩ := List.mem_map.mp listed
    exact equal ▸ encodable original inside
  obtain ⟨now', queued', all', more', run'⟩ :=
    runAll_queued rt leaseSeconds start' policy' later (posted' ▸ ids) encodable'
  rw [posted'] at all'
  refine ⟨file, logged, expected, _, written, read path, run', fun quiescent quiescent' => ?_⟩
  have payments := all.drained_alike advances all' (zero.trans more) (zero'.trans more') positive positive' defaultPasses defaultPasses
    (reached ▸ quiescent) quiescent'
  rw [reached] at payments
  have alike : terminal (drainUntilIdle rt (FakeClock T) policy' (fun _ => none) defaultPasses now' queued').db = terminal db := by
    rw [terminal, terminal, listPayments, listPayments, payments]
  refine ⟨alike, bind_ok.mpr ⟨_, read path, bind_ok.mpr ⟨_, run', ?_⟩⟩⟩
  rw [alike, Option.all_some, same]
  rfl

section Example

/-- Seconds that are not rounded. -/
instance : Seconds ℚ where
  sub_pos := fun _ _ => ⟨fun positive => by linarith, fun less => by linarith⟩
  ofInt n := some n
  toInt t := if t < 0 then t.ceil else t.floor
  minute t := (t / 60).floor
  scale seconds n := seconds * 2 ^ n

/-- `base64.b64encode`. -/
def base64 : Bytes → Str
  | [] => []
  | [a] => [letter (a.toNat / 4), letter (a.toNat * 16)] ++ str "=="
  | [a, b] => [letter (a.toNat / 4), letter (a.toNat * 16 + b.toNat / 16), letter (b.toNat * 4)] ++ str "="
  | a :: b :: c :: rest =>
    [letter (a.toNat / 4), letter (a.toNat * 16 + b.toNat / 16), letter (b.toNat * 4 + c.toNat / 64), letter c.toNat] ++ base64 rest
where
  letter (n : Nat) : CodePoint :=
    let n := n % 64
    .ofNat _ (if n < 26 then n + 65 else if n < 52 then n + 71 else if n < 62 then n - 4 else if n = 62 then 43 else 47)

/-- A runtime that knows some documents and some values. Its seeded generator draws little of
every delay, and ever less; the other one draws all of it. -/
def drifting (documents : List Mapping) (values : List Json) : Runtime ℚ (Option Nat) where
  loads raw := match documents.find? fun document => Json.body document = raw with
    | some document => .ok (.dict document)
    | none => raise .jsonDecodeError (str "Expecting value: line 1 column 1 (char 0)")
  loadsText text := match values.find? fun value => value.sorted.written = text with
    | some value => .ok value.sorted
    | none => raise .jsonDecodeError (str "Expecting value: line 1 column 1 (char 0)")
  dumps value := value.sorted.written
  timestamp _ := none
  fromhex _ := none
  b64decode text := (documents.map Json.body).find? fun raw => base64 raw = text
  b64refusal _ := str "Incorrect padding"
  b64encode := base64
  hmacSha256 _ _ := []
  random seed := seed.map fun _ => 0
  uniform rng low high := match rng with
    | none => (high, none)
    | some drawn => (low + (high - low) / (drawn + 100), some (drawn + 1))
  format t := Str.ofInt t.floor
  rounded := roundHalfEven
  printable _ := true
  space _ := false
  digit _ := false
  decimal _ := none
  lowered := id
  uppered := id

/-- A capture, the authorization it waits for, and events that are tried three times each. -/
def jam (others : List String) : List (String × Mapping) := [
  ("evt_1", captureBody "evt_1" "ch_1" "pi_1" 100 1000),
  ("evt_2", authorizationBody "evt_2" "pi_1" 100 1000)] ++
  others.map fun identity =>
    (identity, stripeBody identity "payment_intent.processing" 100 [(str "id", .str (str "pi_1"))])

/-- They come from Stripe, without headers. -/
def jammed (others : List String) : List Received :=
  (jam others).map fun entry => ⟨.stripe, str entry.1, Json.body entry.2, []⟩

/-- What a run over them dumps if it leaves the payment with this status. -/
def jammedValues (others : List String) (status : Status) : List Json :=
  [headerDict [], terminalRecord [(str "pi_1", status)]] ++ (jammed others).map fun received => .dict [
    (str "kind", .str (str "delivery")),
    (str "provider", .str received.provider.value),
    (str "identity", .str received.identity),
    (str "headers", headerDict received.headers),
    (str "raw_b64", .str (base64 received.raw))]

def jammedRuntime (others : List String) (status : Status) : Runtime ℚ (Option Nat) :=
  drifting ((jam others).map Prod.snd) (jammedValues others status)

/-- The package's policy. -/
def secondly (seed : Option Int) : RetryPolicy ℚ := { baseSeconds := 1, maxSeconds := 300, seed }

/-- A seeded run, and the replay of its log. -/
def replayed (rt : Runtime ℚ (Option Nat)) (deliveries : List Received) :
    Except Exc (List (Str × Status) × List (Str × Status) × Bool) := do
  let db ← runAll rt (secondly (some 0)) (1 / 20) 30 deliveries 1700000000
  let file ← writeLog rt db (terminal db)
  let (again, same) ← replay rt (secondly none) (1 / 20) 30 (str "quidz.db.jsonl") file
  return (terminal db, again, same)

theorem drifting_draws (documents : List Mapping) (values : List Json) (rng : Option Nat) {low high : ℚ} (proper : low ≤ high) :
    low ≤ ((drifting documents values).uniform rng low high).1 ∧ ((drifting documents values).uniform rng low high).1 ≤ high := by
  cases rng with
  | none => exact ⟨proper, le_rfl⟩
  | some drawn =>
    have spread : 0 ≤ high - low := sub_nonneg.mpr proper
    have parts : (1 : ℚ) ≤ drawn + 100 := by
      have natural : (0 : ℚ) ≤ drawn := Nat.cast_nonneg drawn
      linarith
    have some_ : 0 ≤ (high - low) / (drawn + 100) := div_nonneg spread (by linarith)
    have all : (high - low) / (drawn + 100) ≤ high - low := div_le_self spread parts
    exact ⟨le_add_of_nonneg_right some_, by simp only [drifting]; linarith⟩

/-- The four retried events use up the passes of the seeded run before the second is over
that the capture was parked for. The replay draws longer delays and gets to it. -/
theorem replay_differs :
    let others := ["evt_3", "evt_4", "evt_5", "evt_6"]
    ((jammed others).map fun received => deliveryId received.provider received.identity).Nodup ∧
    (∀ rng (low high : ℚ), low ≤ high → low ≤ ((jammedRuntime others .authorized).uniform rng low high).1 ∧
      ((jammedRuntime others .authorized).uniform rng low high).1 ≤ high) ∧
    replayed (jammedRuntime others .authorized) (jammed others) =
      .ok ([(str "pi_1", .authorized)], [(str "pi_1", .captured)], false) := by
  intro others
  refine ⟨by decide, fun rng low high proper => drifting_draws _ _ rng proper, ?_⟩
  decide +kernel

theorem drifting_dumped {documents : List Mapping} {values : List Json} (distinct : (values.map fun value => value.sorted.written).Nodup)
    (plain : values.all fun value => (value.sorted.written.all fun c => 32 ≤ c.val ∧ c.val < 127) &&
      value.sorted.written.any fun c => c.val ≠ 32)
    {value : Json} (member : value ∈ values) : Dumped (drifting documents values) value where
  reads := by
    have found : values.find? (fun other => other.sorted.written = value.sorted.written) = some value := by
      cases first : values.find? fun other => other.sorted.written = value.sorted.written with
      | none => simpa using List.find?_eq_none.mp first value member
      | some other =>
        have same : other.sorted.written = value.sorted.written := by simpa using List.find?_some first
        rw [List.inj_on_of_nodup_map distinct (List.mem_of_find?_eq_some first) member same]
    simp only [drifting, found]
  printable := by
    have own := List.all_eq_true.mp plain value member
    rw [Bool.and_eq_true, List.all_eq_true] at own
    exact fun c written => of_decide_eq_true (own.1 c written)
  visible := by
    have own := List.all_eq_true.mp plain value member
    rw [Bool.and_eq_true, List.any_eq_true] at own
    obtain ⟨c, written, letter⟩ := own.2
    exact ⟨c, written, of_decide_eq_true letter⟩

/-- A run with one event that is tried three times. -/
def calm : Except Exc (Db ℚ) :=
  runAll (jammedRuntime ["evt_3"] .captured) (secondly (some 0)) (1 / 20) 30 (jammed ["evt_3"]) 1700000000

def calmed : Db ℚ := match calm with
  | .ok db => db
  | .error _ => .empty

theorem calm_ok : calm = .ok calmed := by
  have ok : (match calm with
    | .ok _ => true
    | .error _ => false) = true := by decide +kernel
  unfold calmed
  generalize calm = ran at ok
  cases ran with
  | error => cases ok
  | ok => rfl

theorem calmed_legible : Legible (jammedRuntime ["evt_3"] .captured) calmed := by
  have distinct : ((jammedValues ["evt_3"] .captured).map fun value => value.sorted.written).Nodup := by decide +kernel
  have plain : ((jammedValues ["evt_3"] .captured).all fun value =>
      (value.sorted.written.all fun c => 32 ≤ c.val ∧ c.val < 127) && value.sorted.written.any fun c => c.val ≠ 32) = true := by
    decide +kernel
  have dumped {value : Json} (member : value ∈ jammedValues ["evt_3"] .captured) :
      Dumped (jammedRuntime ["evt_3"] .captured) value := drifting_dumped distinct plain member
  have rows : ∀ row ∈ calmed.deliveries.rows, row.headers = (headerDict []).sorted.written ∧
      ∃ received ∈ jammed ["evt_3"], received.headers = [] ∧ posting received = parcel row.selected := by decide +kernel
  have decoded : ∀ received ∈ jammed ["evt_3"], (jammedRuntime ["evt_3"] .captured).b64decode (base64 received.raw) =
      some received.raw := by decide +kernel
  have final : terminal calmed = [(str "pi_1", .captured)] := by decide +kernel
  have headed {row : Delivery ℚ} (member : row ∈ calmed.deliveries.rows) :
      (jammedRuntime ["evt_3"] .captured).loadsText row.headers = .ok (headerDict []) := by
    rw [(rows row member).1]
    exact (dumped List.mem_cons_self).reads
  refine ⟨fun row member => ⟨[], headed member⟩, fun row member => ?_, fun row member record written => ?_, ?_⟩
  · obtain ⟨_, received, listed, _, same⟩ := rows row member
    have raw : received.raw = row.raw := congrArg Parcel.raw same
    exact raw ▸ decoded received listed
  · obtain ⟨_, received, listed, bare, same⟩ := rows row member
    have own : row.deliveryId = deliveryId row.provider received.identity := by
      have provider : received.provider = row.provider := congrArg Parcel.provider same
      exact provider ▸ (congrArg Parcel.deliveryId same).symm
    rw [deliveryRecord_eq own (headed member)] at written
    cases written
    have record : (Json.dict (recordOf (jammedRuntime ["evt_3"] .captured) row received.identity [])) = .dict [
        (str "kind", .str (str "delivery")),
        (str "provider", .str received.provider.value),
        (str "identity", .str received.identity),
        (str "headers", headerDict received.headers),
        (str "raw_b64", .str (base64 received.raw))] := by
      have provider : received.provider = row.provider := congrArg Parcel.provider same
      have raw : received.raw = row.raw := congrArg Parcel.raw same
      rw [bare, provider, raw]
      rfl
    rw [record]
    exact dumped (List.mem_append_right _ (List.mem_map_of_mem listed))
  · rw [final]
    exact dumped (List.mem_cons_of_mem _ List.mem_cons_self)

/-- Whether the replay of its log leaves nothing that would be applied. -/
def calmedAgain : Except Exc Bool := do
  let file ← writeLog (jammedRuntime ["evt_3"] .captured) calmed (terminal calmed)
  let (logged, _) ← readLog (jammedRuntime ["evt_3"] .captured) (str "quidz.db.jsonl") file
  let again ← runAll (jammedRuntime ["evt_3"] .captured) (secondly none) (1 / 20) 30 logged 0
  return decide (Quiescent (jammedRuntime ["evt_3"] .captured) again)

theorem advances_rat : Advances ℚ := by
  intro t seconds positive
  exact lt_add_of_pos_right t positive

theorem replay_reproduces_calm : Quiescent (jammedRuntime ["evt_3"] .captured) calmed ∧
    ∃ file logged expected again,
      writeLog (jammedRuntime ["evt_3"] .captured) calmed (terminal calmed) = .ok file ∧
      readLog (jammedRuntime ["evt_3"] .captured) (str "quidz.db.jsonl") file = .ok (logged, some expected) ∧
      runAll (jammedRuntime ["evt_3"] .captured) (secondly none) (1 / 20) 30 logged 0 = .ok again ∧
      terminal again = terminal calmed ∧
      replay (jammedRuntime ["evt_3"] .captured) (secondly none) (1 / 20) 30 (str "quidz.db.jsonl") file =
        .ok (terminal calmed, true) := by
  have quiescent : Quiescent (jammedRuntime ["evt_3"] .captured) calmed := by decide +kernel
  obtain ⟨file, logged, expected, again, written, read, ran, same⟩ :=
    replay_reproduces (jammedRuntime ["evt_3"] .captured) (secondly (some 0)) (secondly none) (1 / 20) 30 1700000000 0
      (jammed ["evt_3"]) calmed (str "quidz.db.jsonl") advances_rat (by norm_num) one_pos one_pos (by norm_num) le_rfl
      (by decide) (by decide) calm_ok calmed_legible
  have checked : calmedAgain.toOption = some true := by decide +kernel
  have settled : Quiescent (jammedRuntime ["evt_3"] .captured) again := by
    simp only [calmedAgain, written, read, ran, bind, Except.bind, pure, Except.pure, Except.toOption] at checked
    exact of_decide_eq_true (Option.some.inj checked)
  obtain ⟨alike, found⟩ := same quiescent settled
  exact ⟨quiescent, file, logged, expected, again, written, read, ran, alike, found⟩

end Example
end Quidz.Proofs
