import Quidz.Library.Run
import Quidz.Proofs.Atomicity

/-! Refund corrections against the refund they correct. The guard compares a correction
with everything the payment has outstanding, so it is the other refunds of the payment
that pay for one that corrects more than its own. -/

namespace Quidz.Proofs

open Library (Table)

variable {T : Type}

def correctsRefund (paymentId providerRef : Str) (row : EffectRow T) : Bool :=
  row.paymentId = paymentId ∧ row.providerRef = providerRef ∧ row.kind.regressive = true

/-- What the applied corrections of one refund add up to. -/
def correctedOf (db : Db T) (paymentId providerRef : Str) : Int :=
  ((db.effects.rows.filter (correctsRefund paymentId providerRef)).map fun row => row.amountMinor.getD 0).sum

def refundRow (db : Db T) (paymentId providerRef : Str) : Option (EffectRow T) :=
  db.effects.find? (paymentId, .refund, providerRef)

/-- What was refunded under one reference, zero where nothing was. -/
def refundOf (db : Db T) (paymentId providerRef : Str) : Int :=
  ((refundRow db paymentId providerRef).bind EffectRow.amountMinor).getD 0

/-- No refund was corrected by more than it was, and none that was never made. -/
structure Backed (db : Db T) : Prop where
  within : ∀ paymentId providerRef, correctedOf db paymentId providerRef ≤ refundOf db paymentId providerRef
  made : ∀ paymentId providerRef, refundRow db paymentId providerRef = none → correctedOf db paymentId providerRef = 0

/-- A correction that every check lets through. -/
structure Corrects (db : Db T) (deliveryId : Str) (event : CanonicalEvent T) (row : PaymentRow T) (minor : Int) : Prop where
  regressive : event.kind.regressive = true
  held : db.payments.find? event.paymentId = some row
  carries : Carries (rowToState row) event minor
  bound : bindEffect (effectRow deliveryId event) = .ok ()
  known : (db.deliveries.find? deliveryId).isSome
  first : ∀ other ∈ db.effects.rows, other.key ≠ (effectRow deliveryId event).key
  refunded : 60 ≤ row.rank
  outstanding : minor ≤ row.refundedMinor
  fits : row.refundFailedMinor + minor < 2 ^ 63

/-- The branch that goes wrong: the correction asks for more than its own refund has
left, and the payment's other refunds have it. -/
structure Outruns (db : Db T) (deliveryId : Str) (event : CanonicalEvent T) (row : PaymentRow T) (minor : Int) : Prop
    extends Corrects db deliveryId event row minor where
  beyond : refundOf db event.paymentId event.providerRef <
    correctedOf db event.paymentId event.providerRef + minor

/-- No applied effect carries a negative amount. -/
def Amounted (db : Db T) : Prop := ∀ row ∈ db.effects.rows, row.kind.needsAmount = true → 0 ≤ row.amountMinor.getD 0

theorem effectRow_amount {state : PaymentState} {event : CanonicalEvent T} {minor : Int} {deliveryId : Str}
    (carries : Carries state event minor) : (effectRow deliveryId event).amountMinor.getD 0 = minor := by
  obtain ⟨amount, found, _, _, rfl⟩ := carries
  simp [effectRow, found]

theorem Accepts.nonneg {before after : PaymentState} {event : CanonicalEvent T} (accepted : Accepts before event after)
    (needs : event.kind.needsAmount = true) (deliveryId : Str) : 0 ≤ (effectRow deliveryId event).amountMinor.getD 0 := by
  have amount {minor : Int} (carries : Carries before event minor) : 0 ≤ (effectRow deliveryId event).amountMinor.getD 0 := by
    rw [(effectRow_amount carries)]
    exact carries.nonneg
  cases accepted with
  | authorizeFail kind | void kind | expire kind => simp [kind] at needs
  | authorize _ carries | stale _ carries | adjustAuth _ carries | capture _ carries | captureFail _ carries
  | refund _ carries | correction _ carries => exact amount carries

section Extension
variable {db after : Db T} {deliveryId : Str} {event : CanonicalEvent T} (extended : Extended db deliveryId event after)
include extended

theorem correctedOf_extended (paymentId providerRef : Str) : correctedOf after paymentId providerRef =
    correctedOf db paymentId providerRef +
      if correctsRefund paymentId providerRef (effectRow deliveryId event) then
        (effectRow deliveryId event).amountMinor.getD 0 else 0 := by
  obtain ⟨_, rows⟩ := Table.insert?_eq_some.mp extended.inserted
  unfold correctedOf
  rw [rows, List.filter_append, List.map_append, List.sum_append]
  congr 1
  split
  next same =>
    rw [List.filter_cons_of_pos same]
    exact Int.add_zero _
  next different =>
    rw [List.filter_cons_of_neg different]
    rfl

theorem refundRow_extended (paymentId providerRef : Str) : refundRow after paymentId providerRef =
    if (effectRow deliveryId event).key = (paymentId, .refund, providerRef) then some (effectRow deliveryId event)
    else refundRow db paymentId providerRef := Table.find?_insert extended.inserted _

theorem Amounted.extend (amounted : Amounted db) : Amounted after := by
  obtain ⟨_, rows⟩ := Table.insert?_eq_some.mp extended.inserted
  obtain ⟨_, _, _, accepted, _⟩ := extended.folded
  intro row member needs
  rw [rows] at member
  rcases List.mem_append.mp member with old | new
  · exact amounted row old needs
  · obtain rfl := List.mem_singleton.mp new
    exact (applyEffect_ok.mp accepted).nonneg needs deliveryId

/-- A refund is the first row under its reference, and what is no correction takes
nothing back. -/
theorem Backed.forward (backed : Backed db) (ratchets : event.kind.regressive = false) : Backed after := by
  obtain ⟨_, _, _, accepted, _⟩ := extended.folded
  have accepted := applyEffect_ok.mp accepted
  have absent := (Table.insert?_eq_some.mp extended.inserted).1
  have kept (paymentId providerRef : Str) : correctedOf after paymentId providerRef = correctedOf db paymentId providerRef := by
    rw [correctedOf_extended extended, if_neg, Int.add_zero]
    simp only [correctsRefund, decide_eq_true_eq]
    rintro ⟨_, _, regressive⟩
    rw [show (effectRow deliveryId event).kind = event.kind from rfl, ratchets] at regressive
    cases regressive
  constructor
  · intro paymentId providerRef
    rw [kept]
    unfold refundOf
    rw [refundRow_extended extended]
    split
    next own =>
      rw [own] at absent
      have kind : event.kind = .refund := congrArg (fun key => key.2.1) own
      rw [backed.made paymentId providerRef absent]
      exact accepted.nonneg (by rw [kind]; rfl) deliveryId
    next => exact backed.within paymentId providerRef
  · intro paymentId providerRef missing
    rw [refundRow_extended extended] at missing
    split at missing
    next => cases missing
    next => rw [kept, backed.made paymentId providerRef missing]

/-- A correction is backed where its own refund has enough left. -/
theorem Backed.back (backed : Backed db) (regressive : event.kind.regressive = true) : Backed after ↔
    correctedOf db event.paymentId event.providerRef + (effectRow deliveryId event).amountMinor.getD 0 ≤
      refundOf db event.paymentId event.providerRef := by
  obtain ⟨_, _, _, accepted, _⟩ := extended.folded
  have nonneg := (applyEffect_ok.mp accepted).nonneg (correction_needs regressive).1 deliveryId
  have own : correctsRefund event.paymentId event.providerRef (effectRow deliveryId event) = true :=
    decide_eq_true ⟨rfl, rfl, regressive⟩
  have kept (paymentId providerRef : Str) : refundRow after paymentId providerRef = refundRow db paymentId providerRef := by
    rw [refundRow_extended extended, if_neg]
    intro same
    have kind : event.kind = .refund := congrArg (fun key => key.2.1) same
    rw [kind] at regressive
    cases regressive
  constructor
  · intro still
    have within := still.within event.paymentId event.providerRef
    unfold refundOf at within
    rwa [correctedOf_extended extended, if_pos own, kept] at within
  · intro enough
    constructor
    · intro paymentId providerRef
      unfold refundOf
      rw [correctedOf_extended extended, kept]
      split
      next same =>
        obtain ⟨rfl, rfl, _⟩ := of_decide_eq_true same
        exact enough
      next => rw [Int.add_zero]; exact backed.within paymentId providerRef
    · intro paymentId providerRef missing
      rw [kept] at missing
      rw [correctedOf_extended extended]
      have zero := backed.made paymentId providerRef missing
      split
      next same =>
        obtain ⟨rfl, rfl, _⟩ := of_decide_eq_true same
        have nothing : refundOf db (effectRow deliveryId event).paymentId (effectRow deliveryId event).providerRef = 0 := by
          rw [refundOf, missing]
          rfl
        exact Int.le_antisymm (enough.trans (Int.le_of_eq nothing)) (by omega)
      next => omega

end Extension

variable [Seconds T]

section Guards
variable {db after : Db T} {deliveryId : Str} {event : CanonicalEvent T}

theorem Corrects.applied {row : PaymentRow T} {minor : Int} (storable : Storable db)
    (corrects : Corrects db deliveryId event row minor) :
    ∃ after, applyDelivery deliveryId event db = (.ok .applied, after) := by
  have accepted : Accepts (rowToState row) event _ :=
    .correction corrects.regressive corrects.carries corrects.refunded corrects.outstanding
  apply accepted.applied storable corrects.held corrects.bound corrects.known corrects.first
  rintro ⟨other, carries, ⟨kind, _⟩ | ⟨_, overflows⟩⟩
  · have regressive := corrects.regressive
    rw [kind] at regressive
    cases regressive
  · rw [carries.unique corrects.carries] at overflows
    exact absurd corrects.fits (Int.not_lt.mpr overflows)

theorem Delivered.corrects (storable : Storable db) (delivered : Delivered db deliveryId event .applied after)
    (regressive : event.kind.regressive = true) : ∃ row minor, Corrects db deliveryId event row minor := by
  cases delivered with
  | @applied state inserted updated _ opened recorded written =>
    obtain ⟨insertion, accepted⟩ := recordEffect_ok.mp recorded
    rw [applyEffect_ok] at accepted
    obtain ⟨bound, known, effects, inserting, _⟩ := insertEffect_ok.mp insertion
    have unbound := (accepted.binds (openPayment_binds storable opened bound) bound).mp (upsertPayment_binds written)
    cases accepted with
    | @correction minor _ carries refunded within =>
      obtain ⟨_, loaded | ⟨_, _, _, rfl⟩⟩ := openPayment_some.mp opened
      · obtain ⟨row, held, rfl⟩ := Option.map_eq_some_iff.mp loaded
        refine ⟨row, minor, regressive, held, carries, bound, known, ?_, refunded, within, ?_⟩
        · exact Table.find?_eq_none.mp (Table.insert?_eq_some.mp inserting).1
        · by_contra overflows
          exact unbound ⟨minor, carries, .inr ⟨regressive, Int.not_lt.mp overflows⟩⟩
      · cases refunded
    | _ kind => simp [kind] at regressive

end Guards

/-- The step does not take the branch that goes wrong. -/
def Fair (db : Db T) : LedgerStep T → Prop
  | .received _ _ => True
  | .delivered deliveryId event => ¬∃ row minor, Outruns db deliveryId event row minor

/-- What holds of every ledger whatever was delivered. -/
structure Charged (db : Db T) : Prop where
  storable : Storable db
  amounted : Amounted db

omit [Seconds T] in
theorem Charged.empty : Charged (Db.empty (T := T)) := ⟨nofun, nofun⟩

theorem Charged.step {db : Db T} (charged : Charged db) (step : LedgerStep T) : Charged (ledgerStep db step) := by
  refine ⟨charged.storable.step step, ?_⟩
  cases step with
  | received deliveries counters => exact charged.amounted
  | delivered deliveryId event =>
    rcases writeTx_delivered db deliveryId event with ⟨after, delivered, same⟩ | ⟨_, same⟩
    all_goals rw [ledgerStep, same]
    · exact charged.amounted.extend delivered.extended
    · exact charged.amounted

theorem backed_step {db : Db T} (charged : Charged db) (backed : Backed db) (step : LedgerStep T) :
    Backed (ledgerStep db step) ↔ Fair db step := by
  cases step with
  | received deliveries counters => exact iff_of_true ⟨backed.within, backed.made⟩ trivial
  | delivered deliveryId event =>
    rcases writeTx_delivered db deliveryId event with ⟨after, delivered, same⟩ | ⟨other, same⟩
    all_goals rw [ledgerStep, same]
    · have extended := delivered.extended
      cases regressive : event.kind.regressive with
      | false =>
        refine iff_of_true (backed.forward extended regressive) ?_
        rintro ⟨row, minor, outruns⟩
        rw [outruns.regressive] at regressive
        cases regressive
      | true =>
        obtain ⟨row, minor, corrects⟩ := delivered.corrects charged.storable regressive
        rw [backed.back extended regressive, effectRow_amount corrects.carries]
        constructor
        · rintro enough ⟨row', minor', outruns⟩
          obtain rfl := Option.some.inj (outruns.held.symm.trans corrects.held)
          have beyond := outruns.beyond
          rw [outruns.carries.unique corrects.carries] at beyond
          exact absurd beyond (Int.not_lt.mpr enough)
        · intro fair
          by_contra beyond
          exact fair ⟨row, minor, corrects, Int.not_le.mp beyond⟩
    · -- What was not applied leaves the store, and nothing outruns.
      refine iff_of_true backed ?_
      rintro ⟨row, minor, outruns⟩
      obtain ⟨reached, applied⟩ := outruns.toCorrects.applied charged.storable
      exact other reached (applyDelivery_ok.mp applied)

/-- In every store that deliveries lead to no refund is corrected beyond what it was,
as long as no correction is paid for by the other refunds of its payment. -/
theorem corrections_backed_iff (steps : List (LedgerStep T)) :
    (∀ earlier, earlier <+: steps → Backed (ledgerRun earlier)) ↔
      ∀ earlier step, earlier ++ [step] <+: steps → Fair (ledgerRun earlier) step :=
  @Library.Run.kept_iff _ _ ledgerStep Charged Backed Fair .empty .empty ⟨fun _ _ => Int.le_refl _, fun _ _ _ => rfl⟩
    (fun _ step charged => charged.step step) (fun _ step charged backed => backed_step charged backed step) steps

/-- A refund that went through, and another that was refused by the provider. -/
def refusedRefund : List (Arrival Int) :=
  [movement .authorize "evt_1" 1 1000, movement .capture "evt_2" 2 1000, movement .refund "evt_3" 3 1000,
    movement .refundFail "evt_4" 4 1000]

/-- The refusal of the one takes back the other. -/
theorem refusedRefund_unbacked :
    let inbox := waiting (refusedRefund.map Prod.fst) (by decide)
    ¬Backed (ledgerRun (.received inbox.deliveries inbox.counters ::
      refusedRefund.map fun arrival => .delivered arrival.1 arrival.2)) := by
  intro inbox backed
  exact absurd (backed.within (str "pi_1") (str "evt_4")) (by decide +kernel)

end Quidz.Proofs
