import Quidz.Library.Run
import Quidz.Proofs.Atomicity

/-! The currency of the effect rows against that of their payment. It is checked where an
amount is read, and the kinds that read none are recorded with the one they were sent. -/

namespace Quidz.Proofs

open Library (Table)

variable {T : Type} {db after : Db T} {deliveryId : Str} {event : CanonicalEvent T}

def currencyOf (db : Db T) (paymentId : Str) : Option Str := (db.payments.find? paymentId).map PaymentRow.currency

/-- Every row that has a currency has that of its payment. -/
def OneCurrency (db : Db T) : Prop :=
  ∀ row ∈ db.effects.rows, ∀ currency ∈ row.currency, currencyOf db row.paymentId = some currency

/-- The branch that goes wrong: an event of a kind that moves no amount is accepted with
one in another currency than its payment's. -/
structure Crosses (db : Db T) (deliveryId : Str) (event : CanonicalEvent T) (row : PaymentRow T) (amount : Money) : Prop where
  held : db.payments.find? event.paymentId = some row
  carried : event.amount = some amount
  foreign : amount.currency ≠ row.currency
  bound : bindEffect (effectRow deliveryId event) = .ok ()
  known : (db.deliveries.find? deliveryId).isSome
  first : ∀ other ∈ db.effects.rows, other.key ≠ (effectRow deliveryId event).key
  passes : event.kind = .authorizeFail ∧ row.rank ≤ 0 ∨
    (event.kind = .void ∨ event.kind = .expire) ∧ 10 ≤ row.rank ∧ row.rank ≤ 30

section Extension

theorem currencyOf_eq (db : Db T) (paymentId : Str) :
    currencyOf db paymentId = ((db.payments.find? paymentId).map rowToState).map PaymentState.currency := by
  rw [currencyOf, Option.map_map]
  rfl

theorem openPayment_currency {state : PaymentState} (opened : openPayment db event = .ok (some state)) :
    currencyOf db event.paymentId = some state.currency ∨
    currencyOf db event.paymentId = none ∧ ∃ amount, event.amount = some amount ∧ amount.currency = state.currency := by
  obtain ⟨_, loaded | ⟨absent, amount, found, rfl⟩⟩ := openPayment_some.mp opened
  · left
    rw [currencyOf_eq, loaded, Option.map_some]
  · right
    exact ⟨by rw [currencyOf, absent, Option.map_none], amount, found, rfl⟩

/-- A payment keeps its currency, and what was opened is in that of the amount. -/
theorem Extended.currencyOf (extended : Extended db deliveryId event after) (paymentId : Str) (currency : Str)
    (found : currencyOf db paymentId = some currency) : Proofs.currencyOf after paymentId = some currency := by
  obtain ⟨state, updated, opened, accepted, payments⟩ := extended.folded
  rw [currencyOf_eq, payments]
  split
  next same =>
    subst same
    rw [Option.map_some, (applyEffect_ok.mp accepted).kept.2]
    rcases openPayment_currency opened with loaded | ⟨absent, _⟩
    · exact loaded.symm.trans found
    · rw [absent] at found
      cases found
  next => rw [← currencyOf_eq, found]

/-- The new row has the currency of its payment, or crosses it. -/
theorem OneCurrency.extended (one : OneCurrency db) (extended : Extended db deliveryId event after) :
    OneCurrency after ↔ ∀ amount ∈ event.amount, ∀ row, db.payments.find? event.paymentId = some row →
      amount.currency = row.currency := by
  obtain ⟨_, rows⟩ := Table.insert?_eq_some.mp extended.inserted
  obtain ⟨state, updated, opened, accepted, payments⟩ := extended.folded
  constructor
  · intro still amount found row held
    have own := still (effectRow deliveryId event) (by simp [rows]) amount.currency (by simp [effectRow, Option.mem_def.mp found])
    have kept := extended.currencyOf event.paymentId row.currency (by rw [Proofs.currencyOf, held, Option.map_some])
    exact Option.some.inj (own.symm.trans kept)
  · intro same row member currency found
    rw [rows] at member
    rcases List.mem_append.mp member with old | new
    · exact extended.currencyOf _ _ (one row old currency found)
    · obtain rfl := List.mem_singleton.mp new
      obtain ⟨amount, carried, rfl⟩ := Option.map_eq_some_iff.mp (Option.mem_def.mp found)
      have kept := (applyEffect_ok.mp accepted).kept.2
      change Proofs.currencyOf after event.paymentId = _
      rw [currencyOf_eq, payments, if_pos rfl, Option.map_some, kept]
      obtain ⟨_, loaded | ⟨absent, other, found', rfl⟩⟩ := openPayment_some.mp opened
      · obtain ⟨row, held, rfl⟩ := Option.map_eq_some_iff.mp loaded
        exact congrArg some (same amount carried row held).symm
      · rw [carried] at found'
        cases found'
        rfl

end Extension

variable [Seconds T]

theorem Crosses.applied {row : PaymentRow T} {amount : Money} (crosses : Crosses db deliveryId event row amount)
    (storable : Storable db) : ∃ after, applyDelivery deliveryId event db = (.ok .applied, after) := by
  have accepted : ∃ updated, Accepts (rowToState row) event updated := by
    rcases crosses.passes with ⟨kind, pending⟩ | ⟨kind | kind, held, low⟩
    · exact ⟨_, .authorizeFail kind pending⟩
    · exact ⟨_, .void kind held low⟩
    · exact ⟨_, .expire kind held low⟩
  obtain ⟨updated, accepted⟩ := accepted
  apply accepted.applied storable crosses.held crosses.bound crosses.known crosses.first
  rintro ⟨minor, _, ⟨kind, _⟩ | ⟨regressive, _⟩⟩
  · rcases crosses.passes with ⟨other, _⟩ | ⟨other | other, _⟩
    all_goals
      rw [kind] at other
      cases other
  · rcases crosses.passes with ⟨other, _⟩ | ⟨other | other, _⟩
    all_goals
      rw [other] at regressive
      cases regressive

/-- A foreign amount gets past the state machine only under a kind that reads none. -/
theorem Delivered.crosses {row : PaymentRow T} {amount : Money} (delivered : Delivered db deliveryId event .applied after)
    (held : db.payments.find? event.paymentId = some row) (carried : event.amount = some amount)
    (foreign : amount.currency ≠ row.currency) : Crosses db deliveryId event row amount := by
  cases delivered with
  | @applied state inserted updated _ opened recorded written =>
    obtain ⟨insertion, accepted⟩ := recordEffect_ok.mp recorded
    obtain ⟨bound, known, effects, inserting, _⟩ := insertEffect_ok.mp insertion
    have first := Table.find?_eq_none.mp (Table.insert?_eq_some.mp inserting).1
    obtain rfl : state = rowToState row := by
      obtain ⟨_, loaded | ⟨absent, _⟩⟩ := openPayment_some.mp opened
      · rw [held, Option.map_some] at loaded
        exact (Option.some.inj loaded).symm
      · rw [held] at absent
        cases absent
    have native {minor : Int} (carries : Carries (rowToState row) event minor) : False := by
      obtain ⟨other, found, currency, _⟩ := carries
      rw [carried] at found
      cases found
      exact foreign currency
    refine ⟨held, carried, foreign, bound, known, first, ?_⟩
    cases applyEffect_ok.mp accepted with
    | authorizeFail kind pending => exact .inl ⟨kind, pending⟩
    | void kind above low => exact .inr ⟨.inl kind, above, low⟩
    | expire kind above low => exact .inr ⟨.inr kind, above, low⟩
    | authorize _ carries | stale _ carries | adjustAuth _ carries | capture _ carries | captureFail _ carries
    | refund _ carries | correction _ carries => exact (native carries).elim

/-- The step does not take the branch that goes wrong. -/
def Native (db : Db T) : LedgerStep T → Prop
  | .received _ _ => True
  | .delivered deliveryId event => ¬∃ row amount, Crosses db deliveryId event row amount

theorem oneCurrency_step (storable : Storable db) (one : OneCurrency db) (step : LedgerStep T) :
    OneCurrency (ledgerStep db step) ↔ Native db step := by
  cases step with
  | received deliveries counters => exact iff_of_true one trivial
  | delivered deliveryId event =>
    rcases writeTx_delivered db deliveryId event with ⟨after, delivered, same⟩ | ⟨other, same⟩
    all_goals rw [ledgerStep, same]
    · rw [one.extended delivered.extended]
      constructor
      · rintro native ⟨row, amount, crosses⟩
        exact crosses.foreign (native amount crosses.carried row crosses.held)
      · intro native amount carried row held
        by_contra foreign
        exact native ⟨row, amount, delivered.crosses held carried foreign⟩
    · refine iff_of_true one ?_
      rintro ⟨row, amount, crosses⟩
      obtain ⟨reached, applied⟩ := crosses.applied storable
      exact other reached (applyDelivery_ok.mp applied)

/-- In every store that deliveries lead to the effect rows are in the currency of their
payment, as long as no failed authorization, void or expiry comes with an amount in another. -/
theorem one_currency_iff (steps : List (LedgerStep T)) :
    (∀ earlier, earlier <+: steps → OneCurrency (ledgerRun earlier)) ↔
      ∀ earlier step, earlier ++ [step] <+: steps → Native (ledgerRun earlier) step :=
  @Library.Run.kept_iff _ _ ledgerStep Storable OneCurrency Native .empty nofun nofun
    (fun _ step storable => storable.step step) (fun _ step storable one => oneCurrency_step storable one step) steps

/-- An authorization in euros, voided in dollars. -/
def crossed : List (LedgerStep Int) :=
  let inbox := waiting [str "evt_1", str "evt_2"] (by decide)
  [.received inbox.deliveries inbox.counters, .delivered (str "evt_1") (movement .authorize "evt_1" 1 1000).2,
    .delivered (str "evt_2") { (movement .void "evt_2" 2 1000).2 with amount := some ⟨1000, str "USD", by decide⟩ }]

theorem crossed_mixes : ¬OneCurrency (ledgerRun crossed) := by
  intro one
  have dollars : ∃ row ∈ (ledgerRun crossed).effects.rows, row.currency = some (str "USD") ∧
      currencyOf (ledgerRun crossed) row.paymentId = some (str "EUR") := by decide +kernel
  obtain ⟨row, member, currency, held⟩ := dollars
  have same := (one row member _ currency).symm.trans held
  exact absurd same (by decide)

end Quidz.Proofs
