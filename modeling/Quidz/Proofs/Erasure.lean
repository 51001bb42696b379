import Mathlib.Data.List.Sort
import Quidz.Proofs.Twins

/-! The headers a delivery was stored with are for whoever reads the table. Nothing that is
decided looks at them, so that every operation does the same where they are erased. -/

namespace Quidz.Proofs

open Library (Table)

variable {T R C : Type}

/-- A delivery without its headers. -/
def bareRow (row : Delivery T) : Delivery T := { row with headers := [] }

theorem bareRow_deliveryId (row : Delivery T) : (bareRow row).deliveryId = row.deliveryId := rfl

def bare (db : Db T) : Db T := { db with deliveries := db.deliveries.map bareRow bareRow_deliveryId }

section Tables
variable (db : Db T)

@[simp] theorem bare_bump (name : Metric) : bare (db.bump name) = (bare db).bump name := rfl

@[simp] theorem bare_counter (name : CounterName) : (bare db).counter name = db.counter name := rfl

theorem bare_find? (id : Str) : (bare db).deliveries.find? id = (db.deliveries.find? id).map bareRow :=
  Table.find?_map bareRow_deliveryId db.deliveries id

/-- What is written to a delivery does not hang on its headers. -/
theorem bare_modify {after : Db T} {id : Str} {change other : Delivery T → Delivery T} {keeps} (keeps')
    (deliveries : after.deliveries = db.deliveries.modify id change keeps)
    (blind : ∀ row, other (bareRow row) = bareRow (change row)) :
    (bare db).deliveries.modify id other keeps' = (bare after).deliveries := by
  have modified := Table.modify_map bareRow_deliveryId db.deliveries id keeps' keeps blind
  rw [← deliveries] at modified
  exact modified

end Tables

variable [Seconds T] {rt : Runtime T R} {policy : RetryPolicy T} {now : T} {db first second : Db T}

section Passes

theorem selectDue_bare (limit : Int) : selectDue (bare db) now limit = selectDue db now limit := by
  have sorted : ((bare db).deliveries.rows.filter (due now)).insertionSort receivedBefore =
      ((db.deliveries.rows.filter (due now)).insertionSort receivedBefore).map bareRow := by
    rw [List.map_insertionSort (r := receivedBefore) (s := receivedBefore) bareRow _ fun _ _ _ _ => Iff.rfl]
    congr 1
    exact List.filter_map
  rw [selectDue, selectDue, sorted, ← limited_map, List.map_map]
  rfl

theorem settle_bare (id : Str) (was : DeliveryState) (outcome : ApplyOutcome) : settle policy id was outcome now (bare db) =
    ((settle policy id was outcome now db).1, bare (settle policy id was outcome now db).2) := by
  refine Prod.ext (settle_report policy now id was outcome db (bare db)) (Db.ext ?_ ?_ ?_ ?_)
  · rw [settle_deliveries]
    exact bare_modify db _ (settle_deliveries policy now id was outcome db) fun row => by cases outcome <;> rfl
  · simp only [bare, settle_effects]
  · simp only [bare, settle_payments]
  · exact settle_counters policy now id was outcome db rfl

theorem attempt_bare (fault : Option Exc) (row : Selected) : attempt rt policy now fault row (bare db) =
    ((attempt rt policy now fault row db).1, bare (attempt rt policy now fault row db).2) := by
  unfold attempt writeTx
  cases fault with
  | some exc => rfl
  | none =>
    cases decode rt row.provider row.raw with
    | error exc => rfl
    | ok event =>
      have known : ((bare db).deliveries.find? row.deliveryId).isNone = (db.deliveries.find? row.deliveryId).isNone := by
        rw [bare_find?, Option.isNone_map]
      obtain ⟨same, kept⟩ := (ledger_congruent row.deliveryId event).applyDelivery
        (show (bare db).effects = db.effects ∧ (bare db).payments = db.payments ∧ _ from ⟨rfl, rfl, known⟩)
      rcases here : applyDelivery row.deliveryId event db with ⟨exc | outcome, after⟩
      all_goals rcases there : applyDelivery row.deliveryId event (bare db) with ⟨result, after'⟩
      all_goals
        rw [here, there] at same
        cases same
      · simp only [here, there]
      · obtain ⟨effects, payments, _⟩ := kept outcome after here
        rw [there] at effects payments
        have delivered := applyDelivery_ok.mp here
        have delivered' := applyDelivery_ok.mp there
        have reached : after' = bare after := by
          refine Db.ext ?_ effects payments ?_
          · rw [delivered'.deliveries]
            simp only [bare, delivered.deliveries]
          · rw [delivered'.counters]
            simp only [bare, delivered.counters]
        simp only [here, there, reached, settle_bare]

theorem handle_bare (row : Selected) (exc : Exc) (pass : Pass T R) :
    handle rt policy now row exc { pass with db := bare pass.db } =
      { handle rt policy now row exc pass with db := bare (handle rt policy now row exc pass).db } := by
  have written : (handle rt policy now row exc { pass with db := bare pass.db }).db.deliveries =
      (bare (handle rt policy now row exc pass).db).deliveries := by
    rw [handle_deliveries]
    refine bare_modify pass.db _ (handle_deliveries rt policy now row exc pass) fun stored => ?_
    cases retryDelay rt policy row exc pass.budgetUsed pass.rng <;> rfl
  unfold handle at written ⊢
  dsimp only at written ⊢
  split
  next retried =>
    rw [if_pos retried, if_pos retried] at written
    simp only [Pass.mk.injEq, and_true]
    exact Db.ext written rfl rfl rfl
  next gives_up =>
    rw [if_neg gives_up, if_neg gives_up] at written
    simp only [Pass.mk.injEq, and_true]
    exact Db.ext written rfl rfl rfl

theorem drainRow_bare (faults : Str → Option Exc) (row : Selected) (pass : Pass T R) :
    drainRow rt policy now faults { pass with db := bare pass.db } row =
      { drainRow rt policy now faults pass row with db := bare (drainRow rt policy now faults pass row).db } := by
  unfold drainRow
  dsimp only
  rw [attempt_bare]
  rcases attempt rt policy now (faults row.deliveryId) row pass.db with ⟨exc | report, after⟩
  · exact handle_bare row exc { pass with db := after }
  · rfl

theorem drain_bare (limit : Int) (rng : Option R) (faults : Str → Option Exc) : drain rt policy now limit rng faults (bare db) =
    { drain rt policy now limit rng faults db with db := bare (drain rt policy now limit rng faults db).db } := by
  have rows (rows : List Selected) (pass : Pass T R) :
      rows.foldl (drainRow rt policy now faults) { pass with db := bare pass.db } =
        { rows.foldl (drainRow rt policy now faults) pass with db := bare (rows.foldl (drainRow rt policy now faults) pass).db } := by
    induction rows generalizing pass with
    | nil => rfl
    | cons row rest ih => rw [List.foldl_cons, drainRow_bare, ih, List.foldl_cons]
  unfold drain
  rw [selectDue_bare]
  exact rows _ { db, budgetUsed := budgetUsed db now, rng := rng.getD (jitterSource rt policy) }

theorem pendingTimes_bare : pendingTimes (bare db) = pendingTimes db := by
  unfold pendingTimes bare
  rw [Table.rows_map, List.filter_map, List.map_map]
  rfl

theorem idlePass_bare (clock : Clock T C) (faults : Str → Option Exc) (idling : Idling T R C) :
    idlePass rt clock policy faults { idling with db := bare idling.db } =
      { idlePass rt clock policy faults idling with db := bare (idlePass rt clock policy faults idling).db } := by
  unfold idlePass
  split
  next =>
    dsimp only
    rw [drain_bare]
    dsimp only
    rw [pendingTimes_bare]
    split
    next => rfl
    next => split <;> rfl
  next => rfl

theorem drainUntilIdle_bare (clock : Clock T C) (faults : Str → Option Exc) (maxPasses : Nat) (start : C) :
    drainUntilIdle rt clock policy faults maxPasses start (bare db) =
      { drainUntilIdle rt clock policy faults maxPasses start db with
        db := bare (drainUntilIdle rt clock policy faults maxPasses start db).db } := by
  unfold drainUntilIdle
  induction maxPasses with
  | zero => rfl
  | succ passes ih => rw [Function.iterate_succ_apply', ih, idlePass_bare, Function.iterate_succ_apply']

end Passes

section Claims
variable (alike : bare first = bare second) (raw : Bytes) (leaseSeconds : T)
include alike

theorem reclaim_bare (id headers headers' : Str) :
    (reclaim id raw headers now leaseSeconds first).1 = (reclaim id raw headers' now leaseSeconds second).1 ∧
      bare (reclaim id raw headers now leaseSeconds first).2 = bare (reclaim id raw headers' now leaseSeconds second).2 := by
  have both : (first.deliveries.find? id).map bareRow = (second.deliveries.find? id).map bareRow := by
    rw [← bare_find?, ← bare_find?, alike]
  unfold reclaim
  cases here : first.deliveries.find? id with
  | none =>
    rw [here, Option.map_none] at both
    rw [Option.map_eq_none_iff.mp both.symm]
    exact ⟨rfl, alike⟩
  | some row =>
    rw [here, Option.map_some] at both
    obtain ⟨row', there, same⟩ := Option.map_eq_some_iff.mp both.symm
    simp only [bareRow, Delivery.mk.injEq] at same
    obtain ⟨_, _, _, _, _, state, attempts, next, lease, _⟩ := same
    rw [there]
    simp only [state, lease, attempts, next]
    split
    · exact ⟨rfl, alike⟩
    · split
      · exact ⟨rfl, alike⟩
      · refine ⟨rfl, ?_⟩
        let change (headers : Str) (stored : Delivery T) : Delivery T := { stored with
          raw, headers, leaseExpiresAt := some (now + leaseSeconds)
          nextAttemptAt := if row.attempts = 0 then some now else row.nextAttemptAt }
        have keeps (headers : Str) (stored : Delivery T) : (change headers stored).deliveryId = stored.deliveryId := rfl
        have erased (db : Db T) (headers : Str) : bare (db.updateDelivery id (change headers) (keeps headers)) =
            (bare db).updateDelivery id (change []) (keeps []) := by
          refine Db.ext (Eq.symm ?_) rfl rfl rfl
          exact bare_modify db (keeps []) (Db.updateDelivery_deliveries db id (change headers) (keeps headers)) fun _ => rfl
        exact (erased first headers).trans ((congrArg (Db.updateDelivery · id (change []) (keeps [])) alike).trans
          (erased second headers').symm)

/-- A claim is answered alike whatever headers come with it, and whatever ones came before. -/
theorem claim_bare (provider : Provider) (name : Str) (headers headers' : List (Str × Str)) :
    (claim rt provider name raw headers now leaseSeconds first).1 =
        (claim rt provider name raw headers' now leaseSeconds second).1 ∧
      bare (claim rt provider name raw headers now leaseSeconds first).2 =
        bare (claim rt provider name raw headers' now leaseSeconds second).2 := by
  let fresh := claimedRow rt provider name raw headers now leaseSeconds
  let fresh' := claimedRow rt provider name raw headers' now leaseSeconds
  have inserts : (first.deliveries.insert? fresh).map (Table.map bareRow bareRow_deliveryId) =
      (second.deliveries.insert? fresh').map (Table.map bareRow bareRow_deliveryId) := by
    rw [← Table.insert?_map, ← Table.insert?_map]
    exact congrArg (fun db : Db T => db.deliveries.insert? (bareRow fresh)) alike
  have reclaims : (reclaim fresh.deliveryId raw fresh.headers now leaseSeconds first).1 =
        (reclaim fresh.deliveryId raw fresh'.headers now leaseSeconds second).1 ∧
      bare (reclaim fresh.deliveryId raw fresh.headers now leaseSeconds first).2 =
        bare (reclaim fresh.deliveryId raw fresh'.headers now leaseSeconds second).2 :=
    reclaim_bare alike raw leaseSeconds fresh.deliveryId fresh.headers fresh'.headers
  rw [claim_eq rt provider name raw headers now leaseSeconds (show fresh = _ from rfl),
    claim_eq rt provider name raw headers' now leaseSeconds (show fresh' = _ from rfl)]
  unfold writeTx insertDelivery
  change _ = Option.map _ (second.deliveries.insert? fresh') at inserts
  have same : fresh'.deliveryId = fresh.deliveryId := rfl
  rw [same]
  cases bound : bindStr fresh.deliveryId with
  | error exc =>
    have other : exc.isinstance .integrityError = false := by
      unfold bindStr raiseIf at bound
      split at bound <;> cases bound
      rfl
    dsimp only [bind, Except.bind]
    rw [other]
    exact ⟨rfl, alike⟩
  | ok _ =>
    dsimp only [bind, Except.bind]
    cases here : first.deliveries.insert? fresh with
    | none =>
      rw [here, Option.map_none] at inserts
      rw [Option.map_eq_none_iff.mp inserts.symm]
      have refused : (⟨.integrityError, str "UNIQUE constraint failed: deliveries.delivery_id"⟩ : Exc).isinstance .integrityError =
          true := rfl
      dsimp only [raise]
      rw [if_pos refused, if_pos refused]
      generalize reclaim fresh.deliveryId raw fresh.headers now leaseSeconds first = answer at reclaims
      generalize reclaim fresh.deliveryId raw fresh'.headers now leaseSeconds second = answer' at reclaims
      obtain ⟨exc | result, after⟩ := answer
      all_goals
        obtain ⟨result', after'⟩ := answer'
        obtain ⟨rfl, kept⟩ := reclaims
      · exact ⟨rfl, alike⟩
      · exact ⟨rfl, kept⟩
    | some deliveries =>
      rw [here, Option.map_some] at inserts
      obtain ⟨deliveries', there, mapped⟩ := Option.map_eq_some_iff.mp inserts.symm
      rw [there]
      have effects : (bare first).effects = (bare second).effects := congrArg Db.effects alike
      have payments : (bare first).payments = (bare second).payments := congrArg Db.payments alike
      have counters : (bare first).counters = (bare second).counters := congrArg Db.counters alike
      exact ⟨rfl, Db.ext mapped.symm effects payments counters⟩

end Claims
end Quidz.Proofs
