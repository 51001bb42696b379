import Quidz.Events
import Quidz.Proofs.LedgerFold

/-! What the outcomes of `applyDelivery` say about the store. A duplicate is inferred
from the class of the exception, which more than one constraint raises, and a delivery
is parked both for its prerequisite and for want of a currency to open a payment in. -/

namespace Quidz.Proofs

open Library (Table)

variable {T : Type} [Seconds T]

section Duplicates

/-- An effect was recorded under the business key of the event. -/
def Entered (db : Db T) (deliveryId : Str) (event : CanonicalEvent T) : Prop :=
  ∃ row ∈ db.effects.rows, row.key = (effectRow deliveryId event).key

/-- The answer is about something else than the business key. -/
inductive Mistaken (db : Db T) (deliveryId : Str) (event : CanonicalEvent T) : Prop where
  /-- A repeated effect has a parameter that SQLite does not take. -/
  | unbound (recorded : Entered db deliveryId event) (unbound : bindEffect (effectRow deliveryId event) ≠ .ok ())
  /-- A new effect names a delivery that is not there. -/
  | unknown (absent : ¬Entered db deliveryId event) (bound : bindEffect (effectRow deliveryId event) = .ok ())
      (unknown : db.deliveries.find? deliveryId = none)
      (opened : db.payments.find? event.paymentId ≠ none ∨ event.amount ≠ none)

variable {db : Db T} {deliveryId : Str} {event : CanonicalEvent T}

omit [Seconds T] in
/-- A payment is opened if it is there, or if the event has an amount to open it with. -/
theorem openPayment_isSome (encodable : event.paymentId.encodable = true)
    (opened : db.payments.find? event.paymentId ≠ none ∨ event.amount ≠ none) :
    ∃ state, openPayment db event = .ok (some state) := by
  cases held : db.payments.find? event.paymentId with
  | none =>
    obtain ⟨amount, found⟩ := Option.ne_none_iff_exists'.mp (opened.resolve_left fun other => other held)
    exact ⟨_, openPayment_some.mpr ⟨encodable, .inr ⟨held, amount, found, rfl⟩⟩⟩
  | some row => exact ⟨rowToState row, openPayment_some.mpr ⟨encodable, .inl (by rw [held, Option.map_some])⟩⟩

/-- The insert violates a constraint. -/
theorem noopDuplicate_iff : (applyDelivery deliveryId event db).1 = .ok .noopDuplicate ↔
    (∃ state, openPayment db event = .ok (some state)) ∧ bindEffect (effectRow deliveryId event) = .ok () ∧
      (Entered db deliveryId event ∨ db.deliveries.find? deliveryId = none) := by
  constructor
  · intro answered
    rcases returned : applyDelivery deliveryId event db with ⟨answer, after⟩
    obtain rfl : answer = .ok .noopDuplicate := by rw [returned] at answered; exact answered
    cases applyDelivery_ok.mp returned with
    | duplicate opened refused timely integrity => exact ⟨⟨_, opened⟩, recordEffect_integrity refused integrity⟩
  · rintro ⟨⟨state, opened⟩, bound, violated⟩
    have refused : ∃ exc, insertEffect db (effectRow deliveryId event) = .error exc := by
      cases insertion : insertEffect db (effectRow deliveryId event) with
      | error exc => exact ⟨exc, rfl⟩
      | ok inserted =>
        obtain ⟨_, known, effects, inserting, _⟩ := insertEffect_ok.mp insertion
        rcases violated with ⟨row, member, same⟩ | unknown
        · exact absurd same (Table.find?_eq_none.mp (Table.insert?_eq_some.mp inserting).1 row member)
        · rw [show (effectRow deliveryId event).deliveryId = deliveryId from rfl, unknown] at known
          cases known
    obtain ⟨exc, insertion⟩ := refused
    have recording : recordEffect db deliveryId state event = .error exc := by simp [recordEffect, insertion, bind, Except.bind]
    rcases insertEffect_error insertion with unbound | ⟨_, integrity, _⟩
    · rw [bound] at unbound
      cases unbound
    · have delivered : Delivered db deliveryId event .noopDuplicate db :=
        .duplicate opened recording (by simp [Exc.isinstance, integrity, ExcType.bases]) (by simp [Exc.isinstance, integrity])
      exact congrArg Prod.fst (applyDelivery_ok.mpr delivered)

omit [Seconds T] in
/-- A recorded effect has a payment, whose id was bound. -/
theorem Folded.opens (folded : Folded db) (recorded : Entered db deliveryId event) :
    ∃ state, openPayment db event = .ok (some state) := by
  obtain ⟨row, member, same⟩ := recorded
  have own : row.paymentId = event.paymentId := congrArg Prod.fst same
  apply openPayment_isSome (own ▸ folded.bound row member)
  left
  intro absent
  have rows := folded.aggregates event.paymentId
  rw [absent, Option.map_none] at rows
  generalize listed : effectsOf db event.paymentId = effects at rows
  cases rows
  have inside : row ∈ effectsOf db event.paymentId := List.mem_filter.mpr ⟨member, decide_eq_true own⟩
  rw [listed] at inside
  cases inside

/-- In every store that deliveries lead to, an effect that is answered as a duplicate is one
that was recorded, and the other way round, exactly where the parameters of a repeated one
bind and a new one names a delivery that is there. -/
theorem duplicate_recorded_iff (steps : List (LedgerStep T)) (deliveryId : Str) (event : CanonicalEvent T) :
    ((applyDelivery deliveryId event (ledgerRun steps)).1 = .ok .noopDuplicate ↔ Entered (ledgerRun steps) deliveryId event) ↔
      ¬Mistaken (ledgerRun steps) deliveryId event := by
  have folded := ledgerRun_folded steps
  generalize ledgerRun steps = db at folded ⊢
  rw [noopDuplicate_iff]
  constructor
  · intro told mistaken
    cases mistaken with
    | unbound recorded unbound => exact unbound (told.mpr recorded).2.1
    | unknown absent bound unknown opened =>
      exact absent (told.mp ⟨openPayment_isSome (bindEffect_paymentId bound) opened, bound, .inr unknown⟩)
  · intro sound
    constructor
    · rintro ⟨⟨state, opened⟩, bound, recorded | unknown⟩
      · exact recorded
      · by_contra absent
        refine sound (.unknown absent bound unknown ?_)
        obtain ⟨_, loaded | ⟨_, amount, found, _⟩⟩ := openPayment_some.mp opened
        · left
          intro none
          rw [none] at loaded
          cases loaded
        · exact .inr (by simp [found])
    · intro recorded
      have bound : bindEffect (effectRow deliveryId event) = .ok () := by
        by_contra unbound
        exact sound (.unbound recorded unbound)
      exact ⟨folded.opens recorded, bound, .inl recorded⟩

/-- An effect whose delivery was never claimed is taken for one that is there. -/
theorem unclaimed_duplicates :
    let event := (movement .authorize "evt_1" 1 1000).2
    (applyDelivery (str "evt_1") event (ledgerRun [])).1 = .ok .noopDuplicate ∧ ¬Entered (ledgerRun []) (str "evt_1") event :=
  ⟨by decide, fun ⟨_, member, _⟩ => nomatch member⟩

end Duplicates

section Parking
variable {db : Db T} {deliveryId : Str} {event : CanonicalEvent T}

/-- The rank of a payment, zero where it is not known. -/
def rankOf (db : Db T) (paymentId : Str) : Int := ((db.payments.find? paymentId).map PaymentRow.rank).getD 0

/-- The event waits for its prerequisite, with the amount that it needs. -/
def Waits (db : Db T) (event : CanonicalEvent T) : Prop :=
  (∃ prerequisite ∈ event.kind.prerequisiteRank, rankOf db event.paymentId < prerequisite) ∧
  (event.kind.needsAmount = true → event.amount ≠ none)

/-- No payment is there and no currency to open one in, although the kind does not wait for
anything, or not without an amount. -/
structure Unplaced (db : Db T) (event : CanonicalEvent T) : Prop where
  bound : event.paymentId.encodable = true
  absent : db.payments.find? event.paymentId = none
  amountless : event.amount = none
  kind : event.kind ≠ .void ∧ event.kind ≠ .expire

omit [Seconds T] in
theorem openPayment_rank {state : PaymentState} (opened : openPayment db event = .ok (some state)) :
    rankOf db event.paymentId = state.rank := by
  obtain ⟨_, loaded | ⟨absent, _, _, rfl⟩⟩ := openPayment_some.mp opened
  · obtain ⟨row, held, rfl⟩ := Option.map_eq_some_iff.mp loaded
    rw [rankOf, held]
    rfl
  · rw [rankOf, absent]
    rfl

omit [Seconds T] in
theorem openPayment_none : openPayment db event = .ok none ↔
    event.paymentId.encodable = true ∧ db.payments.find? event.paymentId = none ∧ event.amount = none := by
  simp only [openPayment, loadPayment, bind_ok, pure_eq_ok, bindStr_ok, Except.ok.injEq, exists_const]
  cases db.payments.find? event.paymentId with
  | none => cases event.amount <;> simp
  | some row => simp

/-- A delivery is parked for its prerequisite only, exactly where the payment is there, or
can be opened, or the kind waits without an amount. -/
theorem parked_waits_iff (db : Db T) (deliveryId : Str) (event : CanonicalEvent T) :
    ((applyDelivery deliveryId event db).1 = .ok .parked → Waits db event) ↔ ¬Unplaced db event := by
  constructor
  · intro waits unplaced
    have opened := openPayment_none.mpr ⟨unplaced.bound, unplaced.absent, unplaced.amountless⟩
    obtain ⟨⟨prerequisite, needed, _⟩, amount⟩ := waits (by simp only [applyDelivery, opened])
    have kind := unplaced.kind
    cases own : event.kind <;> simp [own, unplaced.amountless] at kind amount needed
  · intro placed parked
    rcases returned : applyDelivery deliveryId event db with ⟨answer, after⟩
    obtain rfl : answer = .ok .parked := by rw [returned] at parked; exact parked
    cases applyDelivery_ok.mp returned with
    | unopened opened =>
      obtain ⟨bound, absent, amountless⟩ := openPayment_none.mp opened
      have kind : event.kind = .void ∨ event.kind = .expire := by
        by_contra other
        exact placed ⟨bound, absent, amountless, not_or.mp other⟩
      unfold Waits
      rw [rankOf, absent]
      rcases kind with kind | kind
      all_goals simp [kind]
    | @premature state exc opened refused premature =>
      obtain ⟨_, early, refused⟩ := recordEffect_premature refused premature
      obtain ⟨prerequisite, needed, below⟩ := applyEffect_early refused early
      refine ⟨⟨prerequisite, needed, openPayment_rank opened ▸ below⟩, fun needs amountless => ?_⟩
      have illegal : ∃ message, applyEffect state event = .error ⟨.illegalTransition, message⟩ := by
        unfold applyEffect effectMinor amountMinor
        simp only [needs, amountless, ↓reduceIte]
        exact ⟨_, rfl⟩
      obtain ⟨message, raised⟩ := illegal
      rw [raised] at refused
      cases refused
      cases early

/-- An authorisation without its amount. -/
def unpriced : Mapping :=
  [(str "pspReference", .str (str "7914073381342284")), (str "eventCode", .str (str "AUTHORISATION")),
    (str "success", .str (str "true")), (str "eventDate", .str (str "2026-01-01T00:00:00+00:00")),
    (str "merchantReference", .str (str "order-1"))]

/-- It is parked in front of nothing, over and over. -/
theorem unpriced_parked : ∃ event : CanonicalEvent Int,
    fromAdyen (.recorded [unpriced] [(str "2026-01-01T00:00:00+00:00", 1767225600)]) unpriced = .ok event ∧
    event.kind = .authorize ∧
    (applyDelivery (str "adyen:7914073381342284:AUTHORISATION") event (ledgerRun [])).1 = .ok .parked ∧
    ¬Waits (ledgerRun []) event := by
  refine ⟨_, rfl, rfl, by decide, ?_⟩
  rintro ⟨⟨prerequisite, needed, _⟩, _⟩
  cases needed

end Parking
end Quidz.Proofs
