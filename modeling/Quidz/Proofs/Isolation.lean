import Quidz.Proofs.Decoding
import Quidz.Proofs.LedgerFold
import Quidz.Proofs.Passes

/-! The deliveries of one payment, left alone. A pass over the whole inbox and the
same pass over the deliveries of one payment do the same to that payment, as long
as none of its own deliveries asks for the retry budget that all of them share. -/

namespace Quidz.Proofs

open Library (Table)

variable {T R : Type} [Seconds T] (rt : Runtime T R) (paymentId : Str)

/-- The row decodes to an event of the payment. -/
def concerns (row : Selected) : Bool :=
  match decode rt row.provider row.raw with
  | .ok event => event.paymentId = paymentId
  | .error _ => false

/-- The deliveries that decode to an event of the payment. -/
def deliveriesOf (db : Db T) : Table (Delivery T) Delivery.deliveryId :=
  db.deliveries.filter fun row => concerns rt paymentId row.selected

/-- The inbox without the deliveries that do not decode to an event of the payment. -/
def isolated (db : Db T) : Db T := { db with deliveries := deliveriesOf rt paymentId db }

/-- What two stores have in common when they show the same of the payment, and the
second holds no delivery but those of it. -/
structure Alone (db rest : Db T) : Prop where
  deliveries : rest.deliveries = deliveriesOf rt paymentId db
  effects : effectsOf rest paymentId = effectsOf db paymentId
  payment : rest.payments.find? paymentId = db.payments.find? paymentId

/-- The store raises in no transaction. -/
abbrev sound : Str → Option Exc := fun _ => none

/-- The reason the transaction of a row fails for, if it does. -/
def failure (policy : RetryPolicy T) (now : T) (row : Selected) (db : Db T) : Option ReasonCode :=
  match (attempt rt policy now none row db).1 with
  | .ok _ => none
  | .error exc => some (classify exc)

/-- None of the payment's deliveries that the pass comes to fails for a reason that is
retried. -/
def Final (policy : RetryPolicy T) (now : T) : List Selected → Pass T R → Prop
  | [], _ => True
  | row :: rows, pass =>
    (concerns rt paymentId row = true → ∀ reason ∈ failure rt policy now row pass.db, reason.retryable = false) ∧
      Final policy now rows (drainRow rt policy now sound pass row)

instance Final.decidable (policy : RetryPolicy T) (now : T) : ∀ rows pass, Decidable (Final rt paymentId policy now rows pass)
  | [], _ => inferInstanceAs (Decidable True)
  | _ :: rows, _ =>
    have := Final.decidable policy now rows
    inferInstanceAs (Decidable (_ ∧ _))

section Deliveries

variable {rt paymentId} {db rest after after' : Db T} {row : Selected} {stored : Delivery T}
  {change : Delivery T → Delivery T} {keeps : ∀ row, (change row).deliveryId = row.deliveryId}

theorem deliveriesOf_find? (found : db.deliveries.find? row.deliveryId = some stored) (exact_ : Exact stored row) :
    (deliveriesOf rt paymentId db).find? row.deliveryId =
      if concerns rt paymentId row then some stored else none := by
  obtain ⟨rfl, _⟩ := exact_
  rw [deliveriesOf, Table.find?_filter, found, Option.filter_some]

/-- An update that leaves the payload alone is seen among the deliveries of the
payment exactly where the row is one of them. -/
theorem deliveriesOf_modify (deliveries : after.deliveries = db.deliveries.modify row.deliveryId change keeps)
    (payload : ∀ row, (change row).provider = row.provider ∧ (change row).raw = row.raw) :
    deliveriesOf rt paymentId after = (deliveriesOf rt paymentId db).modify row.deliveryId change keeps := by
  rw [deliveriesOf, deliveries]
  apply Table.modify_filter
  intro other _ _
  simp only [concerns, Delivery.selected, payload]

end Deliveries

section Ledger

variable {rt paymentId} {db rest after : Db T} {id : Str} {event : CanonicalEvent T}

/-- An event of another payment leaves no trace in this one's. -/
theorem Delivered.elsewhere {outcome : ApplyOutcome} (delivered : Delivered db id event outcome after)
    (other : event.paymentId ≠ paymentId) : effectsOf after paymentId = effectsOf db paymentId ∧
      after.payments.find? paymentId = db.payments.find? paymentId := by
  by_cases applies : outcome = .applied
  · subst applies
    refine ⟨by simpa [other] using effectsOf_extended delivered.extended paymentId, ?_⟩
    cases delivered with
    | @applied state inserted updated _ opened recorded written =>
      obtain ⟨insertion, accepted⟩ := recordEffect_ok.mp recorded
      obtain ⟨_, _, effects, _, rfl⟩ := insertEffect_ok.mp insertion
      simp only [upsertPayment, bind_ok, pure_eq_ok, Except.ok.injEq] at written
      obtain ⟨_, _, rfl⟩ := written
      have key : (paymentRow updated event.occurredAt).paymentId = event.paymentId :=
        (applyEffect_ok.mp accepted).kept.1.trans (openPayment_paymentId opened)
      rw [Table.upsert_find?, key, if_neg other]
  · rw [delivered.unapplied applies]
    exact ⟨rfl, rfl⟩

omit [Seconds T] in
theorem mem_effectsOf {row : EffectRow T} : row ∈ effectsOf db paymentId ↔ row ∈ db.effects.rows ∧ row.paymentId = paymentId := by
  simp [effectsOf]

namespace Alone

theorem openPayment (alone : Alone rt paymentId db rest) (own : event.paymentId = paymentId) :
    Quidz.openPayment rest event = Quidz.openPayment db event := by
  simp only [Quidz.openPayment, loadPayment, own, alone.payment]

theorem find?_effect (alone : Alone rt paymentId db rest) {row : EffectRow T} (own : row.paymentId = paymentId) :
    (∃ other ∈ rest.effects.rows, other.key = row.key) ↔ ∃ other ∈ db.effects.rows, other.key = row.key := by
  have within (store : Db T) : (∃ other ∈ store.effects.rows, other.key = row.key) ↔
      ∃ other ∈ effectsOf store paymentId, other.key = row.key := by
    constructor
    · intro ⟨other, inside, same⟩
      exact ⟨other, mem_effectsOf.mpr ⟨inside, (congrArg Prod.fst same).trans own⟩, same⟩
    · intro ⟨other, inside, same⟩
      exact ⟨other, (mem_effectsOf.mp inside).1, same⟩
  rw [within, within, alone.effects]

end Alone

variable (rt paymentId id) in
/-- Two stores that show the same of the payment and hold the delivery. -/
def Serving (db rest : Db T) : Prop :=
  Alone rt paymentId db rest ∧ (db.deliveries.find? id).isSome ∧ (rest.deliveries.find? id).isSome

namespace Serving

theorem insertEffect (serving : Serving rt paymentId id db rest) (own : event.paymentId = paymentId) :
    Alike (Serving rt paymentId id) (Quidz.insertEffect db (effectRow id event))
      (Quidz.insertEffect rest (effectRow id event)) := by
  obtain ⟨alone, known, known'⟩ := serving
  unfold Quidz.insertEffect
  cases bindEffect (effectRow id event) with
  | error exc => exact .error exc
  | ok done =>
    have owned : (effectRow id event).paymentId = paymentId := own
    have taken := alone.find?_effect owned
    cases inserted : db.effects.insert? (effectRow id event) with
    | none =>
      have refused : rest.effects.insert? (effectRow id event) = none :=
        Table.insert?_eq_none.mpr (taken.mpr (Table.insert?_eq_none.mp inserted))
      simp only [refused]
      exact .error _
    | some effects =>
      obtain ⟨effects', inserted'⟩ : ∃ effects', rest.effects.insert? (effectRow id event) = some effects' := by
        refine Option.ne_none_iff_exists'.mp fun refused => ?_
        have other := Table.insert?_eq_none.mpr (taken.mp (Table.insert?_eq_none.mp refused))
        rw [inserted] at other
        cases other
      have owner : (effectRow id event).deliveryId = id := rfl
      have found : ¬(db.deliveries.find? id).isNone = true := by simpa [Option.isSome_iff_ne_none] using known
      have found' : ¬(rest.deliveries.find? id).isNone = true := by simpa [Option.isSome_iff_ne_none] using known'
      simp only [inserted', raiseIf, owner, found, found']
      refine .ok ⟨⟨alone.deliveries, ?_, alone.payment⟩, known, known'⟩
      simp only [effectsOf, (Table.insert?_eq_some.mp inserted).2, (Table.insert?_eq_some.mp inserted').2,
        List.filter_append]
      congr 1
      exact alone.effects

theorem upsertPayment (serving : Serving rt paymentId id db rest) {updated : PaymentState}
    (own : updated.paymentId = paymentId) (occurredAt : T) :
    Alike (Serving rt paymentId id) (Quidz.upsertPayment db updated occurredAt)
      (Quidz.upsertPayment rest updated occurredAt) := by
  obtain ⟨alone, known, known'⟩ := serving
  unfold Quidz.upsertPayment
  cases bindPayment updated with
  | error exc => exact .error exc
  | ok done =>
    refine .ok ⟨⟨alone.deliveries, alone.effects, ?_⟩, known, known'⟩
    have key : (paymentRow updated occurredAt).paymentId = paymentId := own
    simp only [Table.upsert_find?, key, ↓reduceIte, alone.payment]

theorem congruent (own : event.paymentId = paymentId) : Congruent (Serving rt paymentId id) id event where
  opens := fun ⟨alone, _⟩ => alone.openPayment own
  inserts := fun serving => serving.insertEffect own
  upserts := fun serving same => serving.upsertPayment (same.trans own) _

end Serving
end Ledger

section Rows

variable {rt paymentId} {policy : RetryPolicy T} {now : T} {db rest : Db T} {row : Selected}

theorem Alone.settle (alone : Alone rt paymentId db rest) (outcome : ApplyOutcome) :
    Alone rt paymentId (Quidz.settle policy row.deliveryId row.state outcome now db).2
      (Quidz.settle policy row.deliveryId row.state outcome now rest).2 := by
  have deliveries := settle_deliveries policy now row.deliveryId row.state outcome
  refine ⟨?_, ?_, ?_⟩
  · rw [deliveriesOf_modify (deliveries db) (by cases outcome <;> exact fun _ => ⟨rfl, rfl⟩),
      ← alone.deliveries, deliveries rest]
  · simp only [effectsOf, settle_effects]
    exact alone.effects
  · simp only [settle_payments]
    exact alone.payment

theorem Alone.handle (alone : Alone rt paymentId db rest) {exc : Exc} (final : (classify exc).retryable = false)
    {pass pass' : Pass T R} (here : pass.db = db) (there : pass'.db = rest) :
    Alone rt paymentId (Quidz.handle rt policy now row exc pass).db (Quidz.handle rt policy now row exc pass').db := by
  subst here there
  have buried (used : Int) (rng : R) : retryDelay rt policy row exc used rng = none := by
    simp [retryDelay, shouldRetry, final]
  have deliveries := handle_deliveries rt policy now row exc
  simp only [buried] at deliveries
  refine ⟨?_, ?_, ?_⟩
  · rw [deliveriesOf_modify (deliveries pass) fun _ => ⟨rfl, rfl⟩, ← alone.deliveries, deliveries pass']
  · simp only [effectsOf, handle_effects]
    exact alone.effects
  · simp only [handle_payments]
    exact alone.payment

/-- The transaction of a delivery of the payment. -/
theorem Alone.attempt (alone : Alone rt paymentId db rest) (stored : Stored Exact db row)
    (own : concerns rt paymentId row = true) :
    (Quidz.attempt rt policy now none row rest).1 = (Quidz.attempt rt policy now none row db).1 ∧
      Alone rt paymentId (Quidz.attempt rt policy now none row db).2 (Quidz.attempt rt policy now none row rest).2 := by
  obtain ⟨held, found, exact_⟩ := stored
  have found' : rest.deliveries.find? row.deliveryId = some held := by
    rw [alone.deliveries, deliveriesOf_find? found exact_, if_pos own]
  unfold concerns at own
  unfold Quidz.attempt writeTx
  cases decoded : decode rt row.provider row.raw with
  | error exc =>
    rw [decoded] at own
    cases own
  | ok event =>
    rw [decoded, decide_eq_true_eq] at own
    have serving : Serving rt paymentId row.deliveryId db rest := ⟨alone, by simp [found], by simp [found']⟩
    obtain ⟨same, kept⟩ := (Serving.congruent own).applyDelivery serving
    rcases here : Quidz.applyDelivery row.deliveryId event db with ⟨exc | outcome, after⟩
    all_goals rcases there : Quidz.applyDelivery row.deliveryId event rest with ⟨result, after'⟩
    all_goals
      rw [here, there] at same
      cases same
    · simp only [here, there]
      exact ⟨trivial, alone⟩
    · have both := kept outcome after here
      rw [there] at both
      simp only [here, there]
      exact ⟨congrArg Except.ok (settle_report _ _ _ _ _ _ _), both.1.settle outcome⟩

/-- The transaction of any other delivery is not seen from the payment. -/
theorem Alone.attempt_elsewhere (alone : Alone rt paymentId db rest) (stored : Stored Exact db row)
    (other : concerns rt paymentId row = false) :
    Alone rt paymentId (Quidz.attempt rt policy now none row db).2 rest := by
  obtain ⟨held, found, exact_⟩ := stored
  have absent : (deliveriesOf rt paymentId db).find? row.deliveryId = none := by
    rw [deliveriesOf_find? found exact_, if_neg (by simp [other])]
  rcases answered : Quidz.attempt rt policy now none row db with ⟨result, after⟩
  cases attempt_attempted rt policy now answered with
  | @delivered event outcome reached sound decoded delivered =>
    simp only [concerns, decoded, decide_eq_false_iff_not] at other
    obtain ⟨effects, payment⟩ := delivered.elsewhere other
    have deliveries := settle_deliveries policy now row.deliveryId row.state outcome reached
    rw [delivered.deliveries] at deliveries
    refine ⟨?_, ?_, ?_⟩
    · rw [deliveriesOf_modify deliveries (by cases outcome <;> exact fun _ => ⟨rfl, rfl⟩),
        Table.modify_absent absent]
      exact alone.deliveries
    · simp only [effectsOf, settle_effects]
      exact alone.effects.trans effects.symm
    · simp only [settle_payments]
      exact alone.payment.trans payment.symm
  | _ => exact alone

theorem Alone.handle_elsewhere {pass : Pass T R} (alone : Alone rt paymentId pass.db rest)
    (stored : Stored Exact pass.db row) (other : concerns rt paymentId row = false) (exc : Exc) :
    Alone rt paymentId (Quidz.handle rt policy now row exc pass).db rest := by
  obtain ⟨held, found, exact_⟩ := stored
  have absent : (deliveriesOf rt paymentId pass.db).find? row.deliveryId = none := by
    rw [deliveriesOf_find? found exact_, if_neg (by simp [other])]
  refine ⟨?_, ?_, ?_⟩
  · rw [deliveriesOf_modify (handle_deliveries rt policy now row exc pass) ?_, Table.modify_absent absent]
    · exact alone.deliveries
    · cases retryDelay rt policy row exc pass.budgetUsed pass.rng <;> exact fun _ => ⟨rfl, rfl⟩
  · simp only [effectsOf, handle_effects]
    exact alone.effects
  · simp only [handle_payments]
    exact alone.payment

theorem Alone.drainRow {pass pass' : Pass T R} (alone : Alone rt paymentId pass.db pass'.db)
    (stored : Stored Exact pass.db row) (own : concerns rt paymentId row = true)
    (final : ∀ reason ∈ failure rt policy now row pass.db, reason.retryable = false) :
    Alone rt paymentId (Quidz.drainRow rt policy now sound pass row).db (Quidz.drainRow rt policy now sound pass' row).db := by
  obtain ⟨same, both⟩ := alone.attempt stored own
  unfold failure at final
  unfold Quidz.drainRow
  generalize Quidz.attempt rt policy now none row pass.db = first at same both final ⊢
  generalize Quidz.attempt rt policy now none row pass'.db = second at same both ⊢
  obtain ⟨exc | report, after⟩ := first
  all_goals
    obtain ⟨result, after'⟩ := second
    cases same
  · exact both.handle (final _ rfl) rfl rfl
  · exact both

theorem Alone.drainRow_elsewhere {pass : Pass T R} (alone : Alone rt paymentId pass.db rest)
    (stored : Stored Exact pass.db row) (other : concerns rt paymentId row = false) :
    Alone rt paymentId (Quidz.drainRow rt policy now sound pass row).db rest := by
  have passed : Alone rt paymentId (Quidz.attempt rt policy now none row pass.db).2 rest :=
    alone.attempt_elsewhere stored other
  unfold Quidz.drainRow
  rcases answered : Quidz.attempt rt policy now none row pass.db with ⟨exc | report, after⟩
  all_goals
    rw [answered] at passed
    simp only
  · rw [attempt_error rt policy now answered] at passed ⊢
    exact passed.handle_elsewhere stored other exc
  · exact passed

/-- By induction on the rows left: those of the payment are taken in both passes, the
others in one. -/
theorem Alone.rows {rows : List Selected} {pass pass' : Pass T R} (alone : Alone rt paymentId pass.db pass'.db)
    (distinct : (rows.map Selected.deliveryId).Nodup) (stored : ∀ row ∈ rows, Stored Exact pass.db row)
    (final : Final rt paymentId policy now rows pass) :
    Alone rt paymentId (rows.foldl (Quidz.drainRow rt policy now sound) pass).db
      ((rows.filter (concerns rt paymentId)).foldl
        (Quidz.drainRow rt policy now sound) pass').db := by
  induction rows generalizing pass pass' with
  | nil => exact alone
  | cons row rows ih =>
    rw [List.map_cons, List.nodup_cons] at distinct
    have here := stored row List.mem_cons_self
    have later : ∀ other ∈ rows, Stored Exact (Quidz.drainRow rt policy now sound pass row).db other := by
      intro other member
      have different : other.deliveryId ≠ row.deliveryId := fun same =>
        distinct.1 (same ▸ List.mem_map_of_mem member)
      exact (drainRow_frame rt policy now sound row pass).stored different (stored other (List.mem_cons_of_mem _ member))
    cases concerned : concerns rt paymentId row with
    | true =>
      rw [List.filter_cons_of_pos concerned]
      exact ih (alone.drainRow here concerned (final.1 concerned)) distinct.2 later final.2
    | false =>
      rw [List.filter_cons_of_neg (by simp [concerned])]
      exact ih (alone.drainRow_elsewhere here concerned) distinct.2 later final.2

end Rows

section Selection

variable {rt paymentId}

/-- The due deliveries of the payment are selected in the order they have among all. -/
theorem dueRows_isolated (db : Db T) (now : T) : dueRows (isolated rt paymentId db) now =
    (dueRows db now).filter fun row => concerns rt paymentId row.selected := by
  have kept : (dueRows (isolated rt paymentId db) now).Perm
      ((dueRows db now).filter fun row => concerns rt paymentId row.selected) := by
    refine (dueRows_perm _ now).trans ?_
    refine List.Perm.trans ?_ ((dueRows_perm db now).symm.filter _)
    rw [isolated, deliveriesOf, Table.rows_filter, List.filter_comm]
  exact sorted_unique (fun row member => (mem_dueRows.mp (List.mem_filter.mp member).1).1) kept (dueRows_sorted _ now)
    ((dueRows_sorted db now).filter _)

/-- The limit reaches all the due deliveries. -/
def Covers (limit : Int) (db : Db T) (now : T) : Prop := limit < 0 ∨ (dueRows db now).length ≤ limit

theorem Covers.selectDue {limit : Int} {db : Db T} {now : T} (covers : Covers limit db now) :
    selectDue db now limit = (dueRows db now).map Delivery.selected := by
  rw [selectDue_eq, limited_all covers]

theorem selectDue_isolated {limit : Int} {db : Db T} {now : T} (covers : Covers limit db now) :
    selectDue (isolated rt paymentId db) now limit = (selectDue db now limit).filter (concerns rt paymentId) := by
  have covers' : Covers limit (isolated rt paymentId db) now := by
    refine covers.imp_right fun fits => ?_
    rw [dueRows_isolated]
    have fewer := List.length_filter_le (fun row : Delivery T => concerns rt paymentId row.selected) (dueRows db now)
    omega
  rw [covers.selectDue, covers'.selectDue, dueRows_isolated, List.filter_map]
  rfl

end Selection

/-- Whatever the other deliveries hold and wherever they stand in the order of
receipt: a pass leaves a payment, its effects and its deliveries as the same pass
leaves them in the inbox that holds no delivery of any other payment. -/
theorem drain_isolated (policy : RetryPolicy T) (now : T) (limit : Int) (rng : Option R) (db : Db T)
    (covers : Covers limit db now)
    (final : Final rt paymentId policy now (selectDue db now limit)
      { db, budgetUsed := budgetUsed db now, rng := rng.getD (jitterSource rt policy) }) :
    let whole := (drain rt policy now limit rng sound db).db
    let alone := (drain rt policy now limit rng sound (isolated rt paymentId db)).db
    alone.payments.find? paymentId = whole.payments.find? paymentId ∧
    effectsOf alone paymentId = effectsOf whole paymentId ∧
    alone.deliveries = deliveriesOf rt paymentId whole := by
  intro whole alone
  obtain ⟨distinct, stored⟩ := select_synced rt policy now limit rng sound db
  have both : Alone rt paymentId whole alone := by
    unfold whole alone drain
    rw [selectDue_isolated covers]
    exact Alone.rows ⟨rfl, rfl, rfl⟩ distinct stored final
  exact ⟨both.payment, both.effects, both.deliveries⟩

/-- A capture that overdraws its payment, between bytes no adapter reads and an
authorization of another payment. -/
def crowdedRuntime : Runtime Int Unit :=
  .recorded [authorizationBody "evt_1" "pi_1" 100 1000, captureBody "evt_2" "ch_1" "pi_1" 101 2500,
    authorizationBody "evt_3" "pi_2" 102 700] []

def crowded : Db Int :=
  (Shared.run crowdedRuntime { db := .empty }
    [.claim .stripe (str "evt_0") [] [] 0 30,
      .claim .stripe (str "evt_1") (Json.body (authorizationBody "evt_1" "pi_1" 100 1000)) [] 0 30,
      .claim .stripe (str "evt_2") (Json.body (captureBody "evt_2" "ch_1" "pi_1" 101 2500)) [] 1 30,
      .claim .stripe (str "evt_3") (Json.body (authorizationBody "evt_3" "pi_2" 102 700)) [] 1 30]).db

theorem drain_isolated_crowded :
    let whole := (drain crowdedRuntime .standard 40 defaultLimit none sound crowded).db
    let alone := (drain crowdedRuntime .standard 40 defaultLimit none sound (isolated crowdedRuntime (str "pi_1") crowded)).db
    alone.payments.find? (str "pi_1") = whole.payments.find? (str "pi_1") ∧
    effectsOf alone (str "pi_1") = effectsOf whole (str "pi_1") ∧
    alone.deliveries = deliveriesOf crowdedRuntime (str "pi_1") whole := by
  apply drain_isolated
  · exact .inr (by decide +kernel)
  · decide +kernel

end Quidz.Proofs
