import Mathlib.Data.Set.Insert
import Quidz.Library.Path
import Quidz.Proofs.Application
import Quidz.Proofs.Conservation

/-! What the ledger is for, in terms of its own: a book in which each effect is entered at
most once, and in which a payment is what its entries come to. The tables are such a book at
every moment, and an applied delivery is one entry in it. -/

namespace Quidz.Proofs

open Library (Path Table)

variable {T : Type}

/-- The business key of the row an event is recorded as. -/
def eventKey (event : CanonicalEvent T) : BusinessKey := (event.paymentId, event.kind, event.providerRef)

structure Book where
  entered : Set BusinessKey
  payment : Str → Option PaymentState

namespace Book

def empty : Book := ⟨∅, fun _ => none⟩

/-- The payment an event applies to. Its first amount opens it. -/
inductive Opens (book : Book) (event : CanonicalEvent T) : PaymentState → Prop where
  | known {state} (known : book.payment event.paymentId = some state) : Opens book event state
  | fresh {amount} (absent : book.payment event.paymentId = none) (carried : event.amount = some amount) :
      Opens book event { paymentId := event.paymentId, currency := amount.currency }

structure Enters (before : Book) (event : CanonicalEvent T) (after : Book) : Prop where
  fresh : eventKey event ∉ before.entered
  entered : after.entered = insert (eventKey event) before.entered
  folded : ∃ state updated, before.Opens event state ∧ applyEffect state event = .ok updated ∧
    ∀ paymentId, after.payment paymentId = if event.paymentId = paymentId then some updated else before.payment paymentId

/-- The book holds the entries, each once, and what it held before. -/
theorem entered_of_path {before after : Book} {events : List (CanonicalEvent T)} (path : Path Enters before events after) :
    (events.map eventKey).Nodup ∧ ∀ key, key ∈ after.entered ↔ key ∈ before.entered ∨ key ∈ events.map eventKey := by
  induction path with
  | nil => simp
  | @cons state event middle rest final first further ih =>
    obtain ⟨distinct, holds⟩ := ih
    simp only [first.entered, Set.mem_insert_iff] at holds
    constructor
    · refine List.nodup_cons.mpr ⟨fun again => ?_, distinct⟩
      obtain ⟨later, member, same⟩ := List.mem_map.mp again
      obtain ⟨front, back, split⟩ := List.append_of_mem member
      subst split
      obtain ⟨here, _, before, entering, _⟩ := further.around
      refine entering.fresh (same ▸ ?_)
      let held (book : Book) : Prop := eventKey event ∈ book.entered
      have began : held middle := by
        change eventKey event ∈ _
        rw [first.entered]
        exact Set.mem_insert _ _
      exact before.keeps began fun {state _ after} (known : eventKey event ∈ state.entered) step =>
        show eventKey event ∈ after.entered from step.entered ▸ Set.mem_insert_of_mem _ known
    · intro key
      rw [holds, List.map_cons, List.mem_cons]
      tauto

/-- Amounts are conserved in every payment of the book. -/
def Balanced (book : Book) : Prop := ∀ paymentId state, book.payment paymentId = some state → Conserved state

theorem Balanced.empty : Balanced empty := nofun

theorem Balanced.enters {before after : Book} {event : CanonicalEvent T} (balanced : Balanced before)
    (entering : before.Enters event after) : Balanced after := by
  obtain ⟨state, updated, opened, accepted, payments⟩ := entering.folded
  have conserved : Conserved state := by
    cases opened with
    | known known => exact balanced _ _ known
    | fresh _ _ => exact .fresh _ _
  intro paymentId held found
  rw [payments] at found
  split at found
  next =>
    obtain rfl := Option.some.inj found
    exact conserved.step (applyEffect_ok.mp accepted)
  next => exact balanced paymentId held found

end Book

/-- The book that the tables are. -/
def view (db : Db T) : Book where
  entered := { key | ∃ row ∈ db.effects.rows, row.key = key }
  payment paymentId := (db.payments.find? paymentId).map rowToState

theorem view_empty : view (Db.empty : Db T) = Book.empty := by
  have entered : { key | ∃ row ∈ (Db.empty : Db T).effects.rows, row.key = key } = (∅ : Set BusinessKey) :=
    Set.eq_empty_of_forall_notMem fun key ⟨_, member, _⟩ => List.not_mem_nil member
  simp only [view, entered, Book.empty]
  rfl

theorem view_congr {db after : Db T} (effects : after.effects = db.effects) (payments : after.payments = db.payments) :
    view after = view db := by
  rw [view, view, effects, payments]

/-- An applied delivery is one entry. -/
theorem Extended.enters {db after : Db T} {deliveryId : Str} {event : CanonicalEvent T}
    (extended : Extended db deliveryId event after) : (view db).Enters event (view after) := by
  obtain ⟨absent, rows⟩ := Table.insert?_eq_some.mp extended.inserted
  obtain ⟨state, updated, opened, accepted, payments⟩ := extended.folded
  refine ⟨?_, ?_, state, updated, ?_, accepted, payments⟩
  · rintro ⟨row, member, same⟩
    exact Table.find?_eq_none.mp absent row member same
  · ext key
    constructor
    · rintro ⟨row, member, rfl⟩
      rw [rows] at member
      rcases List.mem_append.mp member with before | new
      · exact .inr ⟨row, before, rfl⟩
      · rw [List.mem_singleton.mp new]
        exact .inl rfl
    · rintro (rfl | ⟨row, member, rfl⟩)
      · exact ⟨effectRow deliveryId event, by simp [rows], rfl⟩
      · exact ⟨row, by simp [rows, member], rfl⟩
  · rcases (openPayment_some.mp opened).2 with loaded | ⟨unknown, amount, carried, rfl⟩
    · exact .known loaded
    · exact .fresh (by simp [view, unknown]) carried

end Quidz.Proofs
