import Quidz.Proofs.Conservation
import Quidz.Proofs.LedgerFold

/-! What `applyDelivery` leaves behind when it does not apply. The savepoint covers the
effect row and the fold, but the aggregate is written after it was released, so that
a sum that no longer fits 64 bits leaves the row without its payment. -/

namespace Quidz.Proofs

open Library (Table)

variable {T : Type}

/-- The sums no guard bounds, as the effect would leave them. -/
def Overflowing (state : PaymentState) (kind : EffectKind) (minor : Int) : Prop :=
  kind = .captureFail ∧ 2 ^ 63 ≤ state.captureFailedMinor + minor ∨
    kind.regressive = true ∧ 2 ^ 63 ≤ state.refundFailedMinor + minor

section Bounds
variable {state updated : PaymentState} {event : CanonicalEvent T} {deliveryId : Str}

theorem Carries.bounded {minor : Int} (carries : Carries state event minor)
    (bound : bindEffect (effectRow deliveryId event) = .ok ()) : 0 ≤ minor ∧ minor < 2 ^ 63 := by
  refine ⟨carries.nonneg, ?_⟩
  obtain ⟨amount, found, _, _, rfl⟩ := carries
  exact ((bindEffect_ok bound).1 amount.minor (by simp [effectRow, found])).2

theorem Carries.unique {minor other : Int} (carries : Carries state event minor) (carries' : Carries state event other) :
    minor = other := by
  obtain ⟨amount, found, _, _, rfl⟩ := carries
  obtain ⟨amount', found', _, _, rfl⟩ := carries'
  rw [found, Option.some.injEq] at found'
  rw [found']

def Fits (value : Int) : Prop := -(2 ^ 63) ≤ value ∧ value < 2 ^ 63

theorem bindPayment_fits : bindPayment updated = .ok () ↔
    updated.paymentId.encodable = true ∧ updated.currency.encodable = true ∧
    Fits updated.authorizedMinor ∧ Fits updated.capturedMinor ∧ Fits updated.captureFailedMinor ∧
    Fits updated.refundedMinor ∧ Fits updated.refundFailedMinor ∧ Fits updated.rank ∧ Fits updated.lastSequence := by
  rw [bindPayment_ok]
  simp only [List.forall_mem_cons, List.not_mem_nil, false_implies, implies_true, and_true, Fits]

/-- Folding an effect in leaves only the amounts to be looked at. -/
theorem folded_fits {kind : EffectKind} {minor sequence : Int} (held : bindPayment state = .ok ()) (fits : Fits sequence) :
    bindPayment (folded state kind minor sequence) = .ok () ↔
      Fits (fold state kind minor).authorizedMinor ∧ Fits (fold state kind minor).capturedMinor ∧
      Fits (fold state kind minor).captureFailedMinor ∧ Fits (fold state kind minor).refundedMinor ∧
      Fits (fold state kind minor).refundFailedMinor := by
  rw [bindPayment_fits] at held ⊢
  obtain ⟨own, currency, _, _, _, _, _, rank, last⟩ := held
  have status := stateRank_bounds (fold state kind minor)
  have floor : 0 ≤ kind.rank ∧ kind.rank ≤ 60 := by cases kind <;> decide
  have ranked : Fits (folded state kind minor sequence).rank := by
    unfold Fits at rank ⊢
    simp only [folded]
    split <;> omega
  have latest : Fits (max state.lastSequence sequence) := by
    unfold Fits at last fits ⊢
    omega
  simp [own, currency, ranked, latest]

/-- Every field but those two stays within what SQLite holds. -/
theorem Accepts.binds (accepted : Accepts state event updated) (held : bindPayment state = .ok ())
    (bound : bindEffect (effectRow deliveryId event) = .ok ()) : bindPayment updated = .ok () ↔
      ¬∃ minor, Carries state event minor ∧ Overflowing state event.kind minor := by
  have sequence : Fits event.sequence := (bindEffect_ok bound).2.2
  have calm (kind : event.kind ≠ .captureFail) (ratchets : event.kind.regressive = false) :
      ¬∃ minor, Carries state event minor ∧ Overflowing state event.kind minor := by
    rintro ⟨minor, _, ⟨same, _⟩ | ⟨same, _⟩⟩
    · exact kind same
    · rw [ratchets] at same; cases same
  have only {minor : Int} (carries : Carries state event minor) :
      (∃ minor, Carries state event minor ∧ Overflowing state event.kind minor) ↔ Overflowing state event.kind minor :=
    ⟨fun ⟨_, carries', overflowing⟩ => carries.unique carries' ▸ overflowing, fun overflowing => ⟨minor, carries, overflowing⟩⟩
  have fields := bindPayment_fits.mp held
  cases accepted with
  | stale kind => simp only [held, calm (by simp [kind]) (by simp [kind]), not_false_eq_true]
  | authorizeFail kind | void kind | expire kind =>
    simp only [folded_fits held sequence, calm (by simp [kind]) (by simp [kind]), not_false_eq_true, iff_true]
    simp [fold, fields]
  | authorize kind carries | adjustAuth kind carries | capture kind carries | refund kind carries =>
    have minor := carries.bounded bound
    simp only [folded_fits held sequence, calm (by simp [kind]) (by simp [kind]), not_false_eq_true, iff_true]
    simp only [fold, Fits] at fields ⊢
    omega
  | captureFail kind carries =>
    have minor := carries.bounded bound
    rw [folded_fits held sequence, only carries, kind]
    simp only [fold, Fits, Overflowing, true_and, EffectKind.regressive, Bool.false_eq_true, false_and, or_false] at fields ⊢
    omega
  | correction regressive carries refunded within =>
    have minor := carries.bounded bound
    rw [folded_fits held sequence, only carries]
    have taken : event.kind ≠ .captureFail := fun kind => by simp [kind] at regressive
    simp only [fold_correction regressive, Fits, Overflowing, regressive, taken, true_and, false_and, false_or] at fields ⊢
    omega

end Bounds

/-- What is in the payments table was bound when it was written. -/
def Storable (db : Db T) : Prop := ∀ row ∈ db.payments.rows, bindPayment (rowToState row) = .ok ()

theorem openPayment_binds {db : Db T} {deliveryId : Str} {event : CanonicalEvent T} {state : PaymentState}
    (storable : Storable db) (opened : openPayment db event = .ok (some state))
    (bound : bindEffect (effectRow deliveryId event) = .ok ()) : bindPayment state = .ok () := by
  obtain ⟨encodable, loaded | ⟨_, amount, found, rfl⟩⟩ := openPayment_some.mp opened
  · obtain ⟨row, listed, rfl⟩ := Option.map_eq_some_iff.mp loaded
    exact storable row (Table.find?_eq_some.mp listed).1
  · have currency := (bindEffect_ok bound).2.1 amount.currency (by simp [effectRow, found])
    exact bindPayment_fits.mpr ⟨encodable, currency, by simp [Fits]⟩

/-- The branch that goes wrong. The event is the first under its business key, its
parameters bind, a guard accepts it, and the sum it adds to passes 64 bits. -/
structure Overruns (db : Db T) (deliveryId : Str) (event : CanonicalEvent T) (row : PaymentRow T) (minor : Int) : Prop where
  held : db.payments.find? event.paymentId = some row
  carries : Carries (rowToState row) event minor
  bound : bindEffect (effectRow deliveryId event) = .ok ()
  known : (db.deliveries.find? deliveryId).isSome
  first : ∀ other ∈ db.effects.rows, other.key ≠ (effectRow deliveryId event).key
  passes : event.kind = .captureFail ∧ 10 ≤ row.rank ∧ row.rank ≤ 20 ∧ 2 ^ 63 ≤ row.captureFailedMinor + minor ∨
    event.kind.regressive = true ∧ 60 ≤ row.rank ∧ minor ≤ row.refundedMinor ∧ 2 ^ 63 ≤ row.refundFailedMinor + minor

section Overrun
variable {db : Db T} {deliveryId : Str} {event : CanonicalEvent T}

theorem Overruns.accepted {row : PaymentRow T} {minor : Int} (overruns : Overruns db deliveryId event row minor) :
    Accepts (rowToState row) event (folded (rowToState row) event.kind minor event.sequence) := by
  rcases overruns.passes with ⟨kind, held, low, _⟩ | ⟨kind, refunded, within, _⟩
  · rw [kind]
    exact .captureFail kind overruns.carries held low
  · exact .correction kind overruns.carries refunded within

theorem Overruns.overflowing {row : PaymentRow T} {minor : Int} (overruns : Overruns db deliveryId event row minor) :
    Overflowing (rowToState row) event.kind minor :=
  overruns.passes.imp (fun ⟨kind, _, _, passes⟩ => ⟨kind, passes⟩) fun ⟨kind, _, _, passes⟩ => ⟨kind, passes⟩

/-- The savepoint stands for the first accepted event under a business key. -/
theorem Accepts.recorded {row : PaymentRow T} {updated : PaymentState} (accepted : Accepts (rowToState row) event updated)
    (held : db.payments.find? event.paymentId = some row) (bound : bindEffect (effectRow deliveryId event) = .ok ())
    (known : (db.deliveries.find? deliveryId).isSome)
    (first : ∀ other ∈ db.effects.rows, other.key ≠ (effectRow deliveryId event).key) :
    ∃ effects, effects.rows = db.effects.rows ++ [effectRow deliveryId event] ∧
      openPayment db event = .ok (some (rowToState row)) ∧
      recordEffect db deliveryId (rowToState row) event = .ok ({ db with effects }, updated) := by
  have loaded : (db.payments.find? event.paymentId).map rowToState = some (rowToState row) := by rw [held, Option.map_some]
  have opened := openPayment_some.mpr ⟨bindEffect_paymentId bound, .inl loaded⟩
  cases inserting : db.effects.insert? (effectRow deliveryId event) with
  | none =>
    obtain ⟨other, member, same⟩ := Table.insert?_eq_none.mp inserting
    exact absurd same (first other member)
  | some effects =>
    have insertion := insertEffect_ok.mpr ⟨bound, known, effects, inserting, rfl⟩
    exact ⟨effects, (Table.insert?_eq_some.mp inserting).2, opened, recordEffect_ok.mpr ⟨insertion, applyEffect_ok.mpr accepted⟩⟩

/-- What overflows a sum met its guard, at a rank that only a stored payment has. -/
theorem Accepts.overruns {state updated : PaymentState} {inserted : Db T} {minor : Int}
    (accepted : Accepts state event updated) (opened : openPayment db event = .ok (some state))
    (insertion : insertEffect db (effectRow deliveryId event) = .ok inserted) (carries : Carries state event minor)
    (overflowing : Overflowing state event.kind minor) : ∃ row, Overruns db deliveryId event row minor := by
  obtain ⟨bound, known, effects, inserting, _⟩ := insertEffect_ok.mp insertion
  have first := Table.find?_eq_none.mp (Table.insert?_eq_some.mp inserting).1
  have passes : event.kind = .captureFail ∧ 10 ≤ state.rank ∧ state.rank ≤ 20 ∧ 2 ^ 63 ≤ state.captureFailedMinor + minor ∨
      event.kind.regressive = true ∧ 60 ≤ state.rank ∧ minor ≤ state.refundedMinor ∧
        2 ^ 63 ≤ state.refundFailedMinor + minor := by
    rcases overflowing with ⟨kind, passes⟩ | ⟨kind, passes⟩
    · cases accepted with
      | captureFail _ _ held low => exact .inl ⟨kind, held, low, passes⟩
      | correction regressive => simp [kind] at regressive
      | _ other => rw [kind] at other; cases other
    · cases accepted with
      | correction _ carries' refunded within => exact .inr ⟨kind, refunded, carries.unique carries' ▸ within, passes⟩
      | _ other => simp [other] at kind
  obtain ⟨_, loaded | ⟨_, amount, _, rfl⟩⟩ := openPayment_some.mp opened
  · obtain ⟨row, held, rfl⟩ := Option.map_eq_some_iff.mp loaded
    exact ⟨row, held, carries, bound, known, first, passes⟩
  · rcases passes with ⟨_, held, _⟩ | ⟨_, refunded, _⟩
    · cases held
    · cases refunded

end Overrun

variable [Seconds T]

/-- Whatever was raised, and whatever was answered without applying, the ledger is as
it was. -/
def Atomic (db : Db T) (deliveryId : Str) (event : CanonicalEvent T) : Prop :=
  ∀ answer after, applyDelivery deliveryId event db = (answer, after) →
    ((∃ exc, answer = .error exc) ∨ answer = .ok .parked ∨ answer = .ok .noopDuplicate) →
    after.effects = db.effects ∧ after.payments = db.payments

theorem upsertPayment_raises (db : Db T) (updated : PaymentState) (occurredAt : T) :
    (∃ exc, upsertPayment db updated occurredAt = .error exc) ↔ bindPayment updated ≠ .ok () := by
  unfold upsertPayment
  cases bound : bindPayment updated with
  | error exc => simp [bind, Except.bind]
  | ok done => simp [bind, Except.bind, pure, Except.pure]

theorem upsertPayment_binds {db after : Db T} {updated : PaymentState} {occurredAt : T}
    (written : upsertPayment db updated occurredAt = .ok after) : bindPayment updated = .ok () := by
  by_contra unbound
  obtain ⟨exc, raised⟩ := (upsertPayment_raises db updated occurredAt).mpr unbound
  rw [raised] at written
  cases written

/-- The first accepted event under a business key is applied, if no sum is run over. -/
theorem Accepts.applied {db : Db T} {deliveryId : Str} {event : CanonicalEvent T} {row : PaymentRow T} {updated : PaymentState}
    (accepted : Accepts (rowToState row) event updated) (storable : Storable db)
    (held : db.payments.find? event.paymentId = some row) (bound : bindEffect (effectRow deliveryId event) = .ok ())
    (known : (db.deliveries.find? deliveryId).isSome)
    (first : ∀ other ∈ db.effects.rows, other.key ≠ (effectRow deliveryId event).key)
    (fits : ¬∃ minor, Carries (rowToState row) event minor ∧ Overflowing (rowToState row) event.kind minor) :
    ∃ after, applyDelivery deliveryId event db = (.ok .applied, after) := by
  obtain ⟨effects, _, opened, recorded⟩ := accepted.recorded held bound known first
  have binds := (accepted.binds (openPayment_binds storable opened bound) bound).mpr fits
  cases written : upsertPayment { db with effects } updated event.occurredAt with
  | error exc => exact absurd binds ((upsertPayment_raises _ _ _).mp ⟨exc, written⟩)
  | ok after => exact ⟨after, applyDelivery_ok.mpr (.applied opened recorded written)⟩

/-- Every store that deliveries lead to is one whose payments were bound. -/
theorem Storable.step {db : Db T} (storable : Storable db) (step : LedgerStep T) : Storable (ledgerStep db step) := by
  cases step with
  | received deliveries counters => exact storable
  | delivered deliveryId event =>
    rcases writeTx_delivered db deliveryId event with ⟨after, delivered, same⟩ | ⟨_, same⟩
    all_goals rw [ledgerStep, same]
    · cases delivered with
      | @applied state inserted updated _ opened recorded written =>
        have bound := upsertPayment_binds written
        have extended := (Delivered.applied opened recorded written).extended
        obtain ⟨_, _, opened', accepted, payments⟩ := extended.folded
        obtain rfl := Option.some.inj (Except.ok.inj (opened'.symm.trans opened))
        obtain rfl := Except.ok.inj (accepted.symm.trans (recordEffect_ok.mp recorded).2)
        intro row member
        have found := payments row.paymentId
        rw [Table.find?_of_mem member, Option.map_some] at found
        split at found
        next => exact Option.some.inj found ▸ bound
        next =>
          obtain ⟨earlier, listed, same⟩ := Option.map_eq_some_iff.mp found.symm
          exact same ▸ storable earlier (Table.find?_eq_some.mp listed).1
    · exact storable

theorem ledgerRun_storable (steps : List (LedgerStep T)) : Storable (ledgerRun steps) :=
  List.foldlRecOn steps ledgerStep nofun fun _ storable step _ => storable.step step

section Overrun
variable {db : Db T} {deliveryId : Str} {event : CanonicalEvent T}

/-- The effect row stays behind without its payment. -/
theorem Overruns.strands {row : PaymentRow T} {minor : Int} (storable : Storable db)
    (overruns : Overruns db deliveryId event row minor) :
    ∃ exc inserted, applyDelivery deliveryId event db = (.error exc, inserted) ∧
      inserted.effects.rows = db.effects.rows ++ [effectRow deliveryId event] := by
  have accepted := overruns.accepted
  obtain ⟨effects, rows, opened, recorded⟩ :=
    accepted.recorded overruns.held overruns.bound overruns.known overruns.first
  have binds := accepted.binds (openPayment_binds storable opened overruns.bound) overruns.bound
  obtain ⟨exc, raised⟩ := (upsertPayment_raises { db with effects } _ event.occurredAt).mpr fun bound =>
    binds.mp bound ⟨minor, overruns.carries, overruns.overflowing⟩
  refine ⟨exc, { db with effects }, ?_, rows⟩
  simp only [applyDelivery, opened, recorded, raised]

/-- `applyDelivery` is atomic exactly where no sum is run over. -/
theorem atomic_iff (storable : Storable db) (deliveryId : Str) (event : CanonicalEvent T) :
    Atomic db deliveryId event ↔ ¬∃ row minor, Overruns db deliveryId event row minor := by
  constructor
  · rintro atomic ⟨row, minor, overruns⟩
    obtain ⟨exc, inserted, answered, rows⟩ := overruns.strands storable
    have same := (atomic _ _ answered (.inl ⟨exc, rfl⟩)).1
    rw [same] at rows
    simp at rows
  · intro fits answer after answered unapplied
    unfold applyDelivery at answered
    split at answered
    next => cases answered; exact ⟨rfl, rfl⟩
    next => cases answered; exact ⟨rfl, rfl⟩
    next state opened =>
      split at answered
      next =>
        -- The savepoint was unwound.
        repeat' split at answered
        all_goals cases answered; exact ⟨rfl, rfl⟩
      next inserted updated recorded =>
        obtain ⟨insertion, accepted⟩ := recordEffect_ok.mp recorded
        rw [applyEffect_ok] at accepted
        have bound := (insertEffect_ok.mp insertion).1
        have binds := (accepted.binds (openPayment_binds storable opened bound) bound).mpr fun ⟨minor, carries, overflowing⟩ =>
          let ⟨row, overruns⟩ := accepted.overruns opened insertion carries overflowing
          fits ⟨row, minor, overruns⟩
        split at answered
        next exc raised => exact absurd binds ((upsertPayment_raises _ _ _).mp ⟨exc, raised⟩)
        next => cases answered; simp at unapplied

end Overrun

/-- A failed capture of all the 64 bits there are, and one minor unit more. -/
def strained : List (Arrival Int) :=
  [movement .authorize "evt_1" 1 1000, movement .captureFail "evt_2" 2 (2 ^ 63 - 1), movement .captureFail "evt_3" 3 1]

def strainedLedger : Db Int :=
  let inbox := waiting (strained.map Prod.fst) (by decide)
  ledgerRun (.received inbox.deliveries inbox.counters ::
    (strained.take 2).map fun arrival => .delivered arrival.1 arrival.2)

/-- The last row is left in a ledger whose payment does not know of it. -/
theorem strained_strands : ¬Atomic strainedLedger (str "evt_3") (movement .captureFail "evt_3" 3 1).2 := by
  intro atomic
  have raised : (applyDelivery (str "evt_3") (movement .captureFail "evt_3" 3 1).2 strainedLedger).1 =
      .error ⟨.overflowError, str "Python int too large to convert to SQLite INTEGER"⟩ := by decide +kernel
  have same := (atomic _ _ rfl (.inl ⟨_, raised⟩)).1
  exact absurd (congrArg (fun effects => effects.rows.length) same) (by decide +kernel)

theorem atomic_iff_strained : Storable strainedLedger ∧
    Atomic strainedLedger (str "evt_3") (movement .capture "evt_3" 3 1000).2 := by
  have storable : Storable strainedLedger := ledgerRun_storable _
  refine ⟨storable, (atomic_iff storable _ _).mpr ?_⟩
  rintro ⟨row, minor, overruns⟩
  rcases overruns.passes with ⟨kind, _⟩ | ⟨kind, _⟩
  all_goals cases kind

end Quidz.Proofs
