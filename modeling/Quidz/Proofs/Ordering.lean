import Quidz.Dlq
import Quidz.Proofs.Disorder

/-! Which histories of a payment the inbox applies in any order. Where the business
keys differ, each delivery does to the store what its event does to the payment, so
that both directions are shown of the payment alone. -/

namespace Quidz.Proofs

open Library (Table Verdict)
open Library.Retry (Applied Refines Matches)

variable {T : Type}

/-- The effect row an arrival leaves. -/
def Arrival.row (arrival : Arrival T) : EffectRow T := effectRow arrival.1 arrival.2

variable [Seconds T]

/-- What becomes of a delivery in its own transaction. -/
def verdict (db : Db T) (arrival : Arrival T) : Verdict (Db T) :=
  match writeTx (applyDelivery arrival.1 arrival.2) db with
  | (.ok .parked, _) => .parked
  | (.ok _, after) => .applied after
  | (.error exc, _) => if (classify exc).retryable then .parked else .refused

/-- Deliveries of one payment, in the order of their sequence, at a store that holds
nothing of it yet. -/
structure Arrivals (paymentId : Str) (db : Db T) (all : List (Arrival T)) : Prop where
  own : ∀ arrival ∈ all, arrival.2.paymentId = paymentId
  known : ∀ arrival ∈ all, (db.deliveries.find? arrival.1).isSome
  keys : (all.map fun arrival => (Arrival.row arrival).key).Nodup
  ordered : all.Pairwise fun first second => first.2.sequence < second.2.sequence
  unopened : db.payments.find? paymentId = none
  untouched : effectsOf db paymentId = []

/-- In this order each of them is answered as applied. -/
def InOrder (db : Db T) : List (Arrival T) → Prop
  | [] => True
  | arrival :: rest => ∃ after, writeTx (applyDelivery arrival.1 arrival.2) db = (.ok .applied, after) ∧ InOrder after rest

/-- The same aggregate, and the same set of effect rows. -/
def SameLedger (paymentId : Str) (first second : Db T) : Prop :=
  (first.payments.find? paymentId).map rowToState = (second.payments.find? paymentId).map rowToState ∧
  ∀ row, row ∈ effectsOf first paymentId ↔ row ∈ effectsOf second paymentId

section Store

variable (paymentId : Str)

/-- The store after some of the deliveries were applied, the last of them first. -/
structure Recorded (start db : Db T) (state : Option PaymentState) (done : List (Arrival T)) : Prop where
  deliveries : db.deliveries = start.deliveries
  state : (db.payments.find? paymentId).map rowToState = state
  rows : effectsOf db paymentId = (done.map Arrival.row).reverse

/-- Nothing that is bound for the arrivals is refused by the store. -/
structure Bindable (all : List (Arrival T)) : Prop where
  rows : ∀ arrival ∈ all, bindEffect (Arrival.row arrival) = .ok ()
  payment : ∀ arrival ∈ all, paymentId.encodable = true
  payments : ∀ done held, Applied advance none done (some held) → done.Subperm all → bindPayment held = .ok ()

variable {paymentId} {start db : Db T} {all done : List (Arrival T)} {state : Option PaymentState} {arrival : Arrival T}

omit [Seconds T] in
theorem nodup_of_subperm {α β : Type} {part whole : List α} (within : part.Subperm whole) {f : α → β}
    (distinct : (whole.map f).Nodup) : (part.map f).Nodup := by
  obtain ⟨listed, same, inside⟩ := within
  exact (same.map f).nodup_iff.mp ((inside.map f).nodup distinct)

omit [Seconds T] in
theorem Arrivals.recorded (arrivals : Arrivals paymentId start all) : Recorded paymentId start start none [] :=
  ⟨rfl, by rw [arrivals.unopened]; rfl, arrivals.untouched⟩

/-- An applied delivery is recorded, and its event was accepted. -/
theorem Recorded.accept {after : Db T} (recorded : Recorded paymentId start db state done)
    (own : arrival.2.paymentId = paymentId) (delivered : Delivered db arrival.1 arrival.2 .applied after) :
    ∃ held, advance state arrival = .applied (some held) ∧ Recorded paymentId start after (some held) (arrival :: done) ∧
      bindEffect (Arrival.row arrival) = .ok () ∧ paymentId.encodable = true ∧ bindPayment held = .ok () := by
  have extended := delivered.extended
  cases delivered with
  | @applied aggregate inserted updated _ opens records written =>
    obtain ⟨insertion, accepted⟩ := recordEffect_ok.mp records
    obtain ⟨encodable, held⟩ := openPayment_some.mp opens
    have seen : opened state arrival.2 = some aggregate := by
      rw [own] at held
      have same := recorded.state
      rcases held with loaded | ⟨absent, amount, carried, fresh⟩
      · rw [loaded] at same
        rw [← same]
        rfl
      · rw [absent] at same
        rw [← same, fresh]
        simp [opened, carried, own]
    obtain ⟨current, updated', opens', accepted', payments⟩ := extended.folded
    rw [opens] at opens'
    cases opens'
    rw [accepted] at accepted'
    cases accepted'
    refine ⟨updated, advance_applied.mpr ⟨aggregate, updated, seen, applyEffect_ok.mp accepted, rfl⟩,
      ⟨extended.deliveries.trans recorded.deliveries, ?_, ?_⟩, (insertEffect_ok.mp insertion).1, own ▸ encodable, ?_⟩
    · rw [payments paymentId, if_pos own]
    · rw [effectsOf_extended extended, if_pos own, recorded.rows, List.map_cons, List.reverse_cons]
      rfl
    · simp only [upsertPayment, bind_ok] at written
      exact written.choose_spec.1

section Transfer

variable (arrivals : Arrivals paymentId start all) (bindable : Bindable paymentId all)
  (recorded : Recorded paymentId start db state done) (within : (arrival :: done).Subperm all)
include arrivals bindable recorded within

omit [Seconds T] in
theorem Recorded.opens : openPayment db arrival.2 = .ok (opened state arrival.2) := by
  have own := arrivals.own arrival (within.subset List.mem_cons_self)
  have bound : bindStr paymentId = .ok () :=
    bindStr_ok.mpr (bindable.payment arrival (within.subset List.mem_cons_self))
  simp only [openPayment, loadPayment, opened, own, bound, recorded.state]
  rfl

omit [Seconds T] in
theorem Recorded.inserts : ∃ effects, db.effects.insert? (Arrival.row arrival) = some effects ∧
    insertEffect db (Arrival.row arrival) = .ok { db with effects } := by
  have inside : arrival ∈ all := within.subset List.mem_cons_self
  have fresh : ¬∃ other ∈ db.effects.rows, other.key = (Arrival.row arrival).key := by
    intro ⟨other, member, same⟩
    have own : other.paymentId = paymentId := (congrArg Prod.fst same).trans (arrivals.own arrival inside)
    have listed : other ∈ effectsOf db paymentId := by simp [effectsOf, member, own]
    rw [recorded.rows, List.mem_reverse] at listed
    obtain ⟨earlier, before, rfl⟩ := List.mem_map.mp listed
    have distinct := nodup_of_subperm within arrivals.keys
    rw [List.map_cons, List.nodup_cons] at distinct
    exact distinct.1 (List.mem_map.mpr ⟨earlier, before, same⟩)
  obtain ⟨effects, inserted⟩ := Option.ne_none_iff_exists'.mp fun taken => fresh (Table.insert?_eq_none.mp taken)
  refine ⟨effects, inserted, ?_⟩
  rw [insertEffect_ok]
  refine ⟨bindable.rows arrival inside, ?_, effects, inserted, rfl⟩
  rw [recorded.deliveries]
  exact arrivals.known arrival inside

omit [Seconds T] in
/-- The effect row goes in, so the state machine decides. -/
theorem Recorded.records (aggregate : PaymentState) : ∃ effects, db.effects.insert? (Arrival.row arrival) = some effects ∧
    recordEffect db arrival.1 aggregate arrival.2 =
      (applyEffect aggregate arrival.2).map fun updated => ({ db with effects }, updated) := by
  obtain ⟨effects, fresh, inserted⟩ := recorded.inserts arrivals bindable within
  refine ⟨effects, fresh, ?_⟩
  unfold recordEffect
  unfold Arrival.row at inserted
  rw [inserted]
  cases applyEffect aggregate arrival.2 with
  | error exc => rfl
  | ok updated => rfl

/-- A delivery waits if its event does. -/
theorem Recorded.parks (waits : advance state arrival = .parked) : verdict db arrival = .parked := by
  have opens := recorded.opens arrivals bindable within
  suffices applyDelivery arrival.1 arrival.2 db = (.ok .parked, db) by simp [verdict, writeTx, this]
  rw [applyDelivery_ok]
  unfold advance at waits
  cases seen : opened state arrival.2 with
  | none => exact .unopened (seen ▸ opens)
  | some aggregate =>
    rw [seen] at opens waits
    obtain ⟨effects, _, records⟩ := recorded.records arrivals bindable within aggregate
    simp only at waits
    cases answer : applyEffect aggregate arrival.2 with
    | ok after =>
      rw [answer] at waits
      cases waits
    | error exc =>
      rw [answer] at waits records
      simp only at waits
      split at waits
      next premature => exact .premature opens records (by simp [Exc.isinstance, premature])
      next => cases waits

/-- A delivery is refused for good if its event is. -/
theorem Recorded.refuses (refuses : advance state arrival = .refused) : verdict db arrival = .refused := by
  have opens := recorded.opens arrivals bindable within
  unfold advance at refuses
  cases seen : opened state arrival.2 with
  | none =>
    rw [seen] at refuses
    cases refuses
  | some aggregate =>
    rw [seen] at opens refuses
    obtain ⟨effects, _, records⟩ := recorded.records arrivals bindable within aggregate
    simp only at refuses
    cases answer : applyEffect aggregate arrival.2 with
    | ok after =>
      rw [answer] at refuses
      cases refuses
    | error exc =>
      rw [answer] at refuses records
      simp only at refuses
      split at refuses
      next => cases refuses
      next timely =>
        have listed := applyEffect_raises aggregate arrival.2 exc answer
        have final : (classify exc).retryable = false ∧ exc.isinstance .prematureEvent = false ∧
            exc.isinstance .integrityError = false := by
          obtain ⟨type, message⟩ := exc
          simp only [refusals, List.mem_cons, List.not_mem_nil, or_false] at listed timely
          rcases listed with rfl | rfl | rfl | rfl
          · exact ⟨rfl, rfl, rfl⟩
          · exact ⟨rfl, rfl, rfl⟩
          · exact ⟨rfl, rfl, rfl⟩
          · exact absurd rfl timely
        obtain ⟨final, timely, unique⟩ := final
        have raised : recordEffect db arrival.1 aggregate arrival.2 = .error exc := records
        simp [verdict, writeTx, applyDelivery, opens, raised, timely, unique, final]

/-- A delivery is applied if its event is and the aggregate can be bound. -/
theorem Recorded.applies {after : PaymentState} (applies : advance state arrival = .applied (some after))
    (bound : bindPayment after = .ok ()) :
    ∃ reached, verdict db arrival = .applied reached ∧ Recorded paymentId start reached (some after) (arrival :: done) := by
  have opens := recorded.opens arrivals bindable within
  obtain ⟨aggregate, updated, seen, accepted, same⟩ := advance_applied.mp applies
  cases same
  rw [seen] at opens
  obtain ⟨effects, _, records⟩ := recorded.records arrivals bindable within aggregate
  rw [applyEffect_ok.mpr accepted] at records
  obtain ⟨reached, written⟩ : ∃ reached, upsertPayment { db with effects } after arrival.2.occurredAt = .ok reached := by
    unfold upsertPayment
    rw [bound]
    exact ⟨_, rfl⟩
  have delivered := Delivered.applied opens records written
  obtain ⟨final, answer, further, _⟩ := recorded.accept (arrivals.own arrival (within.subset List.mem_cons_self)) delivered
  rw [applies] at answer
  cases answer
  exact ⟨reached, by rw [verdict, writeTx, applyDelivery_ok.mpr delivered], further⟩

end Transfer

section InOrder

/-- What the sequence order does to the store and to the payment. -/
structure Ran (paymentId : Str) (start after : Db T) (done : List (Arrival T)) (last : Option PaymentState) : Prop where
  store : Applied verdict start done after
  payment : Applied advance none done last
  recorded : Recorded paymentId start after last done
  rows : ∀ arrival ∈ done, bindEffect (Arrival.row arrival) = .ok () ∧ paymentId.encodable = true
  bound : ∀ held, last = some held → bindPayment held = .ok ()

theorem InOrder.ran {rest : List (Arrival T)} (inOrder : InOrder db rest) (own : ∀ arrival ∈ rest, arrival.2.paymentId = paymentId)
    (before : Ran paymentId start db done state) : ∃ after last, Ran paymentId start after (rest.reverse ++ done) last := by
  induction rest generalizing db done state with
  | nil => exact ⟨db, state, before⟩
  | cons arrival rest ih =>
    obtain ⟨after, applied, later⟩ := inOrder
    rw [List.forall_mem_cons] at own
    obtain ⟨held, advanced, recorded, row, payment, bound⟩ :=
      before.recorded.accept own.1 (applyDelivery_ok.mp (writeTx_ok.mp applied))
    have applies : verdict db arrival = .applied after := by
      unfold verdict
      rw [applied]
    have next : Ran paymentId start after (arrival :: done) (some held) :=
      ⟨before.store.cons applies, before.payment.cons advanced, recorded,
        List.forall_mem_cons.mpr ⟨⟨row, payment⟩, before.rows⟩, fun _ same => Option.some.inj same ▸ bound⟩
    obtain ⟨final, last, ran⟩ := ih later own.2 next
    refine ⟨final, last, ?_⟩
    rw [List.reverse_cons, List.append_assoc]
    exact ran

theorem Arrivals.ran (arrivals : Arrivals paymentId start all) (inOrder : InOrder start all) :
    ∃ after last, Ran paymentId start after all.reverse last := by
  obtain ⟨after, last, ran⟩ := inOrder.ran arrivals.own ⟨.nil, .nil, arrivals.recorded, nofun, nofun⟩
  rw [List.append_nil] at ran
  exact ⟨after, last, ran⟩

variable {after : Db T} {last : Option PaymentState}

variable (arrivals : Arrivals paymentId start all) (ran : Ran paymentId start after all.reverse last)
include arrivals ran

theorem Ran.legal : Legal paymentId all := ⟨arrivals.own, arrivals.ordered, last, ran.payment⟩

omit arrivals in
theorem Ran.minor_bounds (member : arrival ∈ all) : -(2 ^ 63) ≤ minorOf arrival.2 ∧ minorOf arrival.2 < 2 ^ 63 := by
  have bound := (bindEffect_ok (ran.rows arrival (List.mem_reverse.mpr member)).1).1
  unfold minorOf
  cases found : arrival.2.amount with
  | none => decide
  | some amount => exact bound amount.minor (by simp [Arrival.row, effectRow, found])

/-- No sum of some of the amounts passes the sums that were written in the end. -/
theorem Ran.payments {held : PaymentState} (applied : Applied advance none done (some held)) (within : done.Subperm all) :
    bindPayment held = .ok () := by
  have legal := ran.legal arrivals
  have inside : ∀ other ∈ done, other ∈ all := fun other member => within.subset member
  have events : (done.map Prod.snd).Subperm (all.map Prod.snd) := by
    obtain ⟨listed, same, sub⟩ := within
    exact ⟨listed.map Prod.snd, same.map _, sub.map _⟩
  rcases applied_grown (fun other member => legal.own other (inside other member)) applied with ⟨none, _⟩ | ⟨_, same, grown⟩
  · cases none
  cases same
  obtain ⟨opener, member, _, amount, carried, currency⟩ := grown.opener
  have listed := List.mem_reverse.mpr (inside opener member)
  obtain ⟨row, payment⟩ := ran.rows opener listed
  -- The payment as the sequence order left it.
  obtain ⟨final, rfl, whole⟩ : ∃ final, last = some final ∧ Grown paymentId final all.reverse := by
    rcases applied_grown (fun other member => legal.own other (List.mem_reverse.mp member)) ran.payment with ⟨_, empty⟩ | found
    · rw [empty] at listed
      cases listed
    · exact found
  have bound := (bindPayment_ok.mp (ran.bound final rfl)).2.2
  simp only [List.forall_mem_cons] at bound
  obtain ⟨_, _, failed, _, returned, _⟩ := bound
  have least (kind : EffectKind) (needs : kind.needsAmount = true) :
      tally kind (done.map Prod.snd) ≤ tally kind (all.reverse.map Prod.snd) := by
    rw [List.map_reverse, tally_perm (all.map Prod.snd).reverse_perm]
    exact tally_le events (List.forall_mem_map.mpr fun other member same =>
      legal.nonneg member (by rw [same]; exact needs))
  have hold : -(2 ^ 63) ≤ held.authorizedMinor ∧ held.authorizedMinor < 2 ^ 63 := by
    rcases grown.standing.holding with ⟨zero, _⟩ | ⟨setter, among, _, same⟩
    · rw [zero]
      decide
    · obtain ⟨other, listed, rfl⟩ := List.mem_map.mp among
      rw [← same]
      exact ran.minor_bounds (inside other listed)
  have top := topRank_le (done.map Prod.snd)
  have bottom := (topRank_le_iff.mp (Int.le_refl (topRank (done.map Prod.snd)))).1
  have status := stateRank_bounds held
  have first := latest_ge (done.map Prod.snd)
  have newest : latest (done.map Prod.snd) ≤ 2 ^ 63 - 1 := by
    rw [latest_le_iff, List.forall_mem_map]
    refine ⟨by decide, fun other among => ?_⟩
    have sequence := (bindEffect_ok (ran.rows other (List.mem_reverse.mpr (inside other among))).1).2.2.2
    exact Int.le_sub_one_of_lt sequence
  have conserved := grown.standing.toConserved
  have tallied := grown.standing.toTallied
  have total := whole.standing.toTallied
  obtain ⟨refunded, refundedLe, capturedLe, captureFailed, refundFailed, _, _⟩ := conserved
  have missed := least .captureFail rfl
  have back := least .refundFail rfl
  have reversed := least .refundReverse rfl
  rw [tallied.captureFailed] at captureFailed
  rw [tallied.refundFailed] at refundFailed
  rw [total.captureFailed] at failed
  rw [total.refundFailed] at returned
  have encodable := (bindEffect_ok row).2.1 amount.currency (by simp [Arrival.row, effectRow, Option.mem_def.mp carried])
  rw [bindPayment_ok]
  refine ⟨by rw [grown.own]; exact payment, by rw [← currency]; exact encodable, ?_⟩
  simp only [List.forall_mem_cons, tallied.captureFailed, tallied.refundFailed, tallied.rank, tallied.lastSequence]
  refine ⟨hold, ⟨?_, ?_⟩, ⟨?_, ?_⟩, ⟨?_, ?_⟩, ⟨?_, ?_⟩, ⟨?_, ?_⟩, ⟨?_, ?_⟩, List.forall_mem_nil _⟩
  all_goals omega

theorem Ran.bindable : Bindable paymentId all where
  rows arrival member := (ran.rows arrival (List.mem_reverse.mpr member)).1
  payment arrival member := (ran.rows arrival (List.mem_reverse.mpr member)).2
  payments _ _ applied within := ran.payments arrivals applied within

/-- Each delivery does to the store what its event does to the payment. -/
theorem Ran.refines : Refines verdict advance start none (Recorded paymentId start) all where
  starts := arrivals.recorded
  steps {db state done arrival} recorded applied within := by
    have bindable := ran.bindable arrivals
    cases answer : advance state arrival with
    | parked =>
      rw [recorded.parks arrivals bindable within answer]
      exact .parked
    | refused =>
      rw [recorded.refuses arrivals bindable within answer]
      exact .refused
    | applied reached =>
      obtain ⟨_, held, _, _, rfl⟩ := advance_applied.mp answer
      obtain ⟨after, applies, further⟩ :=
        recorded.applies arrivals bindable within answer (ran.payments arrivals (applied.cons answer) within)
      rw [applies]
      exact .applied further

/-- What is applied on the way is recorded. -/
theorem Ran.recorded_of {reached : Db T} (applied : Applied verdict start done reached) (within : done.Subperm all) :
    ∃ state, Applied advance none done state ∧ Recorded paymentId start reached state done :=
  (ran.refines arrivals).lower applied within

omit arrivals in
/-- The sequence order, taken as a queue, is applied in one turn. -/
theorem Ran.settled : (Library.Retry.settle verdict start all).1 = after := by
  obtain ⟨more, applied, within⟩ := Library.Retry.settle_continues ran.store []
  rw [List.reverse_reverse, List.append_nil] at applied
  obtain rfl := List.subperm_nil.mp within
  cases applied
  rfl

theorem Ran.tolerates (same : ∀ order, order.Perm all →
    SameLedger paymentId (Library.Retry.settle verdict start order).1 (Library.Retry.settle verdict start all).1) :
    Tolerates all where
  ends := by
    refine ⟨last, fun done state applied within => ?_⟩
    obtain ⟨reached, stored, _⟩ := (ran.refines arrivals).lift applied within
    obtain ⟨listed, first, sub⟩ := id within
    obtain ⟨rest, split⟩ := sub.exists_perm_append
    have order : (done.reverse ++ rest).Perm all :=
      ((done.reverse_perm.trans first.symm).append_right rest).trans split.symm
    obtain ⟨more, further, inside⟩ := Library.Retry.settle_continues stored rest
    have whole : (more ++ done).Subperm all := by
      have behind := (List.subperm_append_left done).mpr inside
      exact List.perm_append_comm.subperm.trans (behind.trans ((first.symm.append_right rest).trans split.symm).subperm)
    obtain ⟨final, paid, recorded⟩ := ran.recorded_of arrivals (stored.trans further) whole
    have ledger := (same _ order).1
    rw [recorded.state, ran.settled, ran.recorded.state] at ledger
    obtain ⟨middle, before, behind⟩ := paid.of_append
    rw [before.unique applied, ledger] at behind
    exact ⟨more, behind⟩
  unrefused {done state arrival} applied within refuses := by
    have inside := (List.sublist_cons_self arrival done).subperm.trans within
    obtain ⟨reached, stored, recorded⟩ := (ran.refines arrivals).lift applied inside
    have refuses := recorded.refuses arrivals (ran.bindable arrivals) within refuses
    obtain ⟨listed, first, sub⟩ := id within
    obtain ⟨rest, split⟩ := sub.exists_perm_append
    have all_ : (arrival :: done ++ rest).Perm all := (first.symm.append_right rest).trans split.symm
    have order : (done.reverse ++ arrival :: rest).Perm all := by
      refine List.perm_middle.trans (List.Perm.trans ?_ all_)
      exact (done.reverse_perm.append_right rest).cons arrival
    obtain ⟨more, further, left⟩ := Library.Retry.settle_refused stored refuses rest
    have whole : (arrival :: (more ++ done)).Subperm all := by
      have behind := (List.subperm_cons arrival).mpr ((List.subperm_append_left done).mpr left)
      exact (List.perm_append_comm.cons arrival).subperm.trans (behind.trans all_.subperm)
    obtain ⟨final, _, ended⟩ :=
      ran.recorded_of arrivals (stored.trans further) ((List.sublist_cons_self _ _).subperm.trans whole)
    -- The row of the refused arrival is there in the sequence order, and not in this one.
    have rows := (same _ order).2 (Arrival.row arrival)
    rw [ended.rows, ran.settled, ran.recorded.rows, List.mem_reverse, List.mem_reverse] at rows
    have member : arrival ∈ all := whole.subset List.mem_cons_self
    obtain ⟨other, among, equal⟩ := List.mem_map.mp (rows.mpr (List.mem_map_of_mem (List.mem_reverse.mpr member)))
    have distinct := nodup_of_subperm whole arrivals.keys
    rw [List.map_cons, List.nodup_cons] at distinct
    exact distinct.1 (List.mem_map.mpr ⟨other, among, congrArg EffectRow.key equal⟩)

theorem Ran.ends_alike (orderless : Orderless (all.map Prod.snd)) {order : List (Arrival T)} (same : order.Perm all) :
    SameLedger paymentId (Library.Retry.settle verdict start order).1 (Library.Retry.settle verdict start all).1 := by
  have legal := ran.legal arrivals
  have tolerant := (ran.refines arrivals).tolerant (orderless.tolerant legal)
  obtain ⟨done, every, applied⟩ := tolerant.settle same
  obtain ⟨state, paid, recorded⟩ := ran.recorded_of arrivals applied every.subperm
  rw [ran.settled]
  constructor
  · rw [recorded.state, ran.recorded.state]
    exact orderless.determined legal paid ran.payment every all.reverse_perm
  · intro row
    rw [recorded.rows, ran.recorded.rows, List.mem_reverse, List.mem_reverse]
    exact ((every.trans all.reverse_perm.symm).map Arrival.row).mem_iff

end InOrder
end Store

/-- A history that is applied in full in the order of its sequence is applied to the
same aggregate and the same effect rows in every other order if and only if it has
one of the shapes of `Orderless`. -/
theorem order_tolerated_iff {paymentId : Str} {db : Db T} {all : List (Arrival T)} (arrivals : Arrivals paymentId db all)
    (inOrder : InOrder db all) : (∀ order, order.Perm all →
      SameLedger paymentId (Library.Retry.settle verdict db order).1 (Library.Retry.settle verdict db all).1) ↔
    Orderless (all.map Prod.snd) := by
  obtain ⟨after, last, ran⟩ := arrivals.ran inOrder
  exact ⟨fun same => (ran.tolerates arrivals same).orderless (ran.legal arrivals),
    fun orderless _ same => ran.ends_alike arrivals orderless same⟩

theorem inOrder_cons {db : Db T} {arrival : Arrival T} {rest : List (Arrival T)} : InOrder db (arrival :: rest) ↔
    (writeTx (applyDelivery arrival.1 arrival.2) db).1 = .ok .applied ∧
      InOrder (writeTx (applyDelivery arrival.1 arrival.2) db).2 rest := by
  constructor
  · rintro ⟨after, applied, later⟩
    rw [applied]
    exact ⟨rfl, later⟩
  · rintro ⟨applied, later⟩
    exact ⟨_, Prod.ext applied rfl, later⟩

instance decidableInOrder : (db : Db T) → (all : List (Arrival T)) → Decidable (InOrder db all)
  | _, [] => .isTrue trivial
  | _, _ :: rest => @decidable_of_iff' _ _ inOrder_cons (@instDecidableAnd _ _ _ (decidableInOrder _ rest))

/-- A capture that failed before it succeeded. -/
def secondAttempt : List (Arrival Int) :=
  [movement .authorize "evt_1" 1 1000, movement .captureFail "evt_2" 2 1000, movement .capture "evt_3" 3 1000]

def attempted : Db Int := waiting (secondAttempt.map Prod.fst) (by decide)

/-- A capture and two refunds of it. -/
def refundedTwice : List (Arrival Int) :=
  [movement .authorize "evt_1" 1 1000, movement .capture "evt_2" 2 1000, movement .refund "evt_3" 3 400,
    movement .refund "evt_4" 4 600]

def unrefunded : Db Int := waiting (refundedTwice.map Prod.fst) (by decide)

/-- The capture that succeeded comes first, and the failed one is refused for good. -/
theorem secondAttempt_reordered : Arrivals (str "pi_1") attempted secondAttempt ∧ InOrder attempted secondAttempt ∧
    ∃ order, order.Perm secondAttempt ∧
      ¬SameLedger (str "pi_1") (Library.Retry.settle verdict attempted order).1
        (Library.Retry.settle verdict attempted secondAttempt).1 := by
  refine ⟨⟨?_, ?_, ?_, ?_, ?_, ?_⟩, ?_, [movement .authorize "evt_1" 1 1000, movement .capture "evt_3" 3 1000,
    movement .captureFail "evt_2" 2 1000], ?_, fun same => absurd same.1 ?_⟩
  all_goals decide +kernel

theorem order_tolerated_iff_refundedTwice : Arrivals (str "pi_1") unrefunded refundedTwice ∧ InOrder unrefunded refundedTwice ∧
    ∀ order, order.Perm refundedTwice →
      SameLedger (str "pi_1") (Library.Retry.settle verdict unrefunded order).1
        (Library.Retry.settle verdict unrefunded refundedTwice).1 := by
  have arrivals : Arrivals (str "pi_1") unrefunded refundedTwice := by
    refine ⟨?_, ?_, ?_, ?_, ?_, ?_⟩
    all_goals decide +kernel
  have inOrder : InOrder unrefunded refundedTwice := by decide +kernel
  refine ⟨arrivals, inOrder, (order_tolerated_iff arrivals inOrder).mpr ?_⟩
  refine .held (movement .authorize "evt_1" 1 1000).2 ?_ rfl ?_ ?_ (.taken (movement .capture "evt_2" 2 1000).2 ?_ rfl ?_ ?_ ?_ ?_)
  all_goals simp [refundedTwice, movement, SetsHold, minorOf, tally]

end Quidz.Proofs
