import Mathlib.Data.List.Induction
import Mathlib.Data.Prod.Lex
import Quidz.Worker
import Quidz.Proofs.Transactions

/-! One pass over the inbox. While no claim comes between its transactions, every
row a pass has selected and not settled yet is stored as it was selected, and a
property that each transaction keeps is kept by the pass, cut short or not. -/

namespace Quidz.Proofs

open Library (Table)

variable {T R : Type} [Seconds T] (rt : Runtime T R)

section Selection

theorem limited_sublist {α : Type} (limit : Int) (rows : List α) : (limited limit rows).Sublist rows := by
  unfold limited
  split
  · exact List.Sublist.refl _
  · exact List.take_sublist _ _

theorem limited_all {α : Type} {limit : Int} {rows : List α} (covers : limit < 0 ∨ rows.length ≤ limit) :
    limited limit rows = rows := by
  unfold limited
  rcases covers with lifted | fits
  · exact if_pos lifted
  · rw [if_neg (by omega)]
    apply List.take_of_length_le
    omega

theorem receivedBefore_iff {first second : Delivery T} : receivedBefore first second ↔
    toLex (first.receivedAt, first.deliveryId) ≤ toLex (second.receivedAt, second.deliveryId) := by
  rw [Prod.Lex.toLex_le_toLex]
  exact Iff.rfl

instance : Std.Total (receivedBefore (T := T)) where
  total first second := by
    simp only [receivedBefore_iff]
    exact le_total _ _

instance : IsTrans (Delivery T) receivedBefore where
  trans first second third before after := by
    rw [receivedBefore_iff] at before after ⊢
    exact before.trans after

/-- The order of receipt tells the rows of one table apart, so there is one way only to
put some of them in order. -/
theorem sorted_unique {table : Table (Delivery T) Delivery.deliveryId} {first second : List (Delivery T)}
    (inside : ∀ row ∈ second, row ∈ table.rows) (same : first.Perm second) (sorted : first.Pairwise receivedBefore)
    (sorted' : second.Pairwise receivedBefore) : first = second := by
  refine same.eq_of_pairwise (fun row other member member' before after => ?_) sorted sorted'
  rw [receivedBefore_iff] at before after
  have equal := congrArg ofLex (before.antisymm after)
  exact table.key_inj (inside row (same.mem_iff.mp member)) (inside other member') (Prod.ext_iff.mp equal).2

/-- The rows that are due, in the order they are selected. -/
def dueRows (db : Db T) (now : T) : List (Delivery T) :=
  (db.deliveries.rows.filter (due now)).insertionSort receivedBefore

theorem selectDue_eq (db : Db T) (now : T) (limit : Int) :
    selectDue db now limit = (limited limit (dueRows db now)).map Delivery.selected := rfl

theorem dueRows_perm (db : Db T) (now : T) : (dueRows db now).Perm (db.deliveries.rows.filter (due now)) :=
  List.perm_insertionSort _ _

theorem dueRows_sorted (db : Db T) (now : T) : (dueRows db now).Pairwise receivedBefore :=
  List.pairwise_insertionSort _ _

theorem mem_dueRows {db : Db T} {now : T} {row : Delivery T} :
    row ∈ dueRows db now ↔ row ∈ db.deliveries.rows ∧ due now row = true := by
  rw [(dueRows_perm db now).mem_iff, List.mem_filter]

theorem dueRows_nodup (db : Db T) (now : T) : ((dueRows db now).map Delivery.deliveryId).Nodup :=
  ((dueRows_perm db now).map _).nodup_iff.mpr ((List.filter_sublist.map _).nodup db.deliveries.unique)

theorem mem_selectDue {db : Db T} {now : T} {limit : Int} {row : Selected} (member : row ∈ selectDue db now limit) :
    ∃ stored ∈ db.deliveries.rows, due now stored = true ∧ stored.selected = row := by
  obtain ⟨stored, selected, same⟩ := List.mem_map.mp member
  obtain ⟨inside, isDue⟩ := mem_dueRows.mp ((limited_sublist limit _).mem selected)
  exact ⟨stored, inside, isDue, same⟩

theorem selectDue_nodup (db : Db T) (now : T) (limit : Int) :
    ((selectDue db now limit).map Selected.deliveryId).Nodup := by
  rw [selectDue, List.map_map]
  exact ((limited_sublist limit _).map _).nodup (dueRows_nodup db now)

end Selection

section Readings

omit [Seconds T]

/-- What a selected row is taken to say of the delivery as it is stored. -/
abbrev Reading (T : Type) := Delivery T → Selected → Prop

/-- The delivery is stored as it was selected, and waits to be settled. -/
def Exact : Reading T := fun stored row => stored.selected = row ∧ stored.state.pending = true

/-- The same, but for the payload. -/
def Held : Reading T := fun stored row =>
  stored.provider = row.provider ∧ stored.attempts = row.attempts ∧ stored.state = row.state ∧
    stored.state.pending = true

theorem Exact.held {stored : Delivery T} {row : Selected} (exact_ : Exact stored row) : Held stored row := by
  obtain ⟨rfl, pending⟩ := exact_
  exact ⟨rfl, rfl, rfl, pending⟩

def Stored (reading : Reading T) (db : Db T) (row : Selected) : Prop :=
  ∃ stored, db.deliveries.find? row.deliveryId = some stored ∧ reading stored row

theorem Stored.held {db : Db T} {row : Selected} (stored : Stored Exact db row) : Stored Held db row := by
  obtain ⟨held, found, same⟩ := stored
  exact ⟨held, found, same.held⟩

/-- Everything but the delivery under `id`. -/
def Frame (id : Str) (before after : Db T) : Prop :=
  ∀ other, other ≠ id → after.deliveries.find? other = before.deliveries.find? other

theorem Frame.stored {reading : Reading T} {id : Str} {before after : Db T} (frame : Frame id before after)
    {row : Selected} (other : row.deliveryId ≠ id) (stored : Stored reading before row) : Stored reading after row := by
  unfold Stored
  rw [frame row.deliveryId other]
  exact stored

theorem frame_modify {db after : Db T} {id : Str} {change : Delivery T → Delivery T} {keeps}
    (changed : after.deliveries = db.deliveries.modify id change keeps) : Frame id db after := by
  intro other different
  simp [changed, different.symm]

end Readings

theorem attempt_frame (policy : RetryPolicy T) (now : T) (fault : Option Exc) (row : Selected) (db : Db T) :
    Frame row.deliveryId db (attempt rt policy now fault row db).2 := by
  rcases answered : attempt rt policy now fault row db with ⟨result, after⟩
  cases attempt_attempted rt policy now answered with
  | delivered sound decoded delivered =>
    intro other different
    rw [frame_modify (settle_deliveries _ _ _ _ _ _) other different, delivered.deliveries]
  | _ => exact fun _ _ => rfl

theorem handle_frame (policy : RetryPolicy T) (now : T) (row : Selected) (exc : Exc) (pass : Pass T R) :
    Frame row.deliveryId pass.db (handle rt policy now row exc pass).db :=
  frame_modify (handle_deliveries rt policy now row exc pass)

theorem drainRow_frame (policy : RetryPolicy T) (now : T) (faults : Str → Option Exc) (row : Selected) (pass : Pass T R) :
    Frame row.deliveryId pass.db (drainRow rt policy now faults pass row).db := by
  have attempted := attempt_frame rt policy now (faults row.deliveryId) row pass.db
  unfold drainRow
  rcases answered : attempt rt policy now (faults row.deliveryId) row pass.db with ⟨exc | report, after⟩
  all_goals
    rw [answered] at attempted
    simp only
  · rw [attempt_error rt policy now answered]
    exact handle_frame rt policy now row exc { pass with db := pass.db }
  · exact attempted

theorem rows_frame (policy : RetryPolicy T) (now : T) (faults : Str → Option Exc) (rows : List Selected) (pass : Pass T R)
    {id : Str} (other : id ∉ rows.map Selected.deliveryId) :
    (rows.foldl (drainRow rt policy now faults) pass).db.deliveries.find? id = pass.db.deliveries.find? id := by
  induction rows generalizing pass with
  | nil => rfl
  | cons row rest ih =>
    rw [List.map_cons, List.mem_cons, not_or] at other
    exact (ih _ other.2).trans (drainRow_frame rt policy now faults row pass id other.1)

/-- A pass leaves the deliveries it did not select as they are. -/
theorem drain_frame (policy : RetryPolicy T) (now : T) (limit : Int) (rng : Option R) (faults : Str → Option Exc)
    (db : Db T) {id : Str} (other : id ∉ (selectDue db now limit).map Selected.deliveryId) :
    (drain rt policy now limit rng faults db).db.deliveries.find? id = db.deliveries.find? id :=
  rows_frame rt policy now faults _ _ other

/-- A delivery that was selected is left by the pass as its own row leaves it. -/
theorem drain_row (policy : RetryPolicy T) (now : T) (limit : Int) (rng : Option R) (faults : Str → Option Exc)
    (db : Db T) {row : Selected} (selected : row ∈ selectDue db now limit) : ∃ pass : Pass T R,
      pass.db.deliveries.find? row.deliveryId = db.deliveries.find? row.deliveryId ∧
      (drain rt policy now limit rng faults db).db.deliveries.find? row.deliveryId =
        (drainRow rt policy now faults pass row).db.deliveries.find? row.deliveryId := by
  obtain ⟨before, behind, split⟩ := List.append_of_mem selected
  have distinct := selectDue_nodup db now limit
  rw [split, List.map_append, List.map_cons, List.nodup_append, List.nodup_cons] at distinct
  obtain ⟨_, ⟨later, _⟩, apart⟩ := distinct
  have earlier : row.deliveryId ∉ before.map Selected.deliveryId := fun listed => apart _ listed _ List.mem_cons_self rfl
  refine ⟨before.foldl (drainRow rt policy now faults)
    { db, budgetUsed := budgetUsed db now, rng := rng.getD (jitterSource rt policy) }, rows_frame rt policy now faults _ _ earlier, ?_⟩
  rw [drain, split, List.foldl_append, List.foldl_cons]
  exact rows_frame rt policy now faults _ _ later

namespace Worker

/-- The rows the pass has still to settle. -/
def pending (worker : Worker T R) : List Selected := (worker.failed.map Prod.fst).toList ++ worker.rows

/-- Every row left reads on the store as it is, and comes up only once. -/
structure Synced (reading : Reading T) (worker : Worker T R) (db : Db T) : Prop where
  distinct : ((pending worker).map Selected.deliveryId).Nodup
  stored : ∀ row ∈ pending worker, Stored reading db row

end Worker

theorem select_synced (policy : RetryPolicy T) (now : T) (limit : Int) (rng : Option R) (faults : Str → Option Exc)
    (db : Db T) : Worker.Synced Exact (select rt policy now limit rng faults db) db := by
  constructor
  · exact selectDue_nodup db now limit
  · intro row member
    obtain ⟨stored, inside, isDue, same⟩ := mem_selectDue member
    refine ⟨stored, same ▸ Table.find?_of_mem inside, same, ?_⟩
    simp only [due, Bool.and_eq_true] at isDue
    exact isDue.1.1

section Induction

variable {rt} {reading : Reading T} {motive : Db T → Prop}

/-- A transaction of a pass keeps what every attempt and every handler keeps. -/
theorem transact_keeps
    (attempts : ∀ policy now fault row db, motive db → Stored reading db row → motive (attempt rt policy now fault row db).2)
    (handles : ∀ policy now row exc pass, motive pass.db → Stored reading pass.db row →
      motive (handle rt policy now row exc pass).db)
    {worker : Worker T R} {db : Db T} (synced : Worker.Synced reading worker db) (initial : motive db) :
    Worker.Synced reading (worker.transact rt db).1 (worker.transact rt db).2 ∧ motive (worker.transact rt db).2 := by
  obtain ⟨policy, now, faults, rows, failed, used, rng, report⟩ := worker
  obtain ⟨distinct, stored⟩ := synced
  cases failed with
  | some entry =>
    obtain ⟨row, exc⟩ := entry
    simp only [Worker.pending, Option.map_some, Option.toList_some, List.cons_append, List.nil_append, List.map_cons,
      List.nodup_cons] at distinct stored
    have here := stored row List.mem_cons_self
    refine ⟨⟨distinct.2, fun other member => ?_⟩, handles _ _ _ _ _ initial here⟩
    have inside : other ∈ rows := member
    have different : other.deliveryId ≠ row.deliveryId := fun same =>
      distinct.1 (same ▸ List.mem_map_of_mem inside)
    exact (handle_frame rt _ _ row exc _).stored different (stored other (List.mem_cons_of_mem _ inside))
  | none =>
    cases rows with
    | nil => exact ⟨⟨distinct, stored⟩, initial⟩
    | cons row rest =>
      simp only [Worker.pending, Option.map_none, Option.toList_none, List.nil_append, List.map_cons,
        List.nodup_cons] at distinct stored
      have here := stored row List.mem_cons_self
      have frame := attempt_frame rt policy now (faults row.deliveryId) row db
      have kept := attempts policy now (faults row.deliveryId) row db initial here
      have later {after : Db T} (frame : Frame row.deliveryId db after) : ∀ other ∈ rest, Stored reading after other := by
        intro other inside
        have different : other.deliveryId ≠ row.deliveryId := fun same =>
          distinct.1 (same ▸ List.mem_map_of_mem inside)
        exact frame.stored different (stored other (List.mem_cons_of_mem _ inside))
      rcases answered : attempt rt policy now (faults row.deliveryId) row db with ⟨exc | report', after⟩
      · rw [answered] at frame kept
        simp only [Worker.transact, answered]
        refine ⟨⟨?_, ?_⟩, kept⟩
        · simpa [Worker.pending] using distinct
        · intro other member
          rcases List.mem_cons.mp member with rfl | inside
          · rw [attempt_error rt policy now answered]
            exact here
          · exact later frame other inside
      · rw [answered] at frame kept
        simp only [Worker.transact, answered]
        exact ⟨⟨distinct.2, later frame⟩, kept⟩

theorem cut_keeps
    (attempts : ∀ policy now fault row db, motive db → Stored reading db row → motive (attempt rt policy now fault row db).2)
    (handles : ∀ policy now row exc pass, motive pass.db → Stored reading pass.db row →
      motive (handle rt policy now row exc pass).db)
    (transactions : Nat) {worker : Worker T R} {db : Db T} (synced : Worker.Synced reading worker db) (initial : motive db) :
    motive (worker.cut rt transactions db).2 := by
  induction transactions generalizing worker db with
  | zero => exact initial
  | succ transactions ih =>
    obtain ⟨still, kept⟩ := transact_keeps attempts handles synced initial
    exact ih still kept

end Induction

section Whole

/-- The worker with nothing failed and so many rows to go. -/
def resting (policy : RetryPolicy T) (now : T) (faults : Str → Option Exc) (rows : List Selected) (pass : Pass T R) :
    Worker T R :=
  { policy, now, faults, rows, budgetUsed := pass.budgetUsed, rng := pass.rng, report := pass.report }

theorem cut_add (worker : Worker T R) (first later : Nat) (db : Db T) :
    worker.cut rt (first + later) db = (worker.cut rt first db).1.cut rt later (worker.cut rt first db).2 := by
  induction first generalizing worker db with
  | zero => simp [Worker.cut]
  | succ first ih => rw [Nat.succ_add]; exact ih _ _

/-- A row costs one transaction, or two when the first is rolled back. -/
theorem cut_row (policy : RetryPolicy T) (now : T) (faults : Str → Option Exc) (row : Selected) (rest : List Selected)
    (pass : Pass T R) : ∃ transactions,
      (resting policy now faults (row :: rest) pass).cut rt transactions pass.db =
        (resting policy now faults rest (drainRow rt policy now faults pass row),
          (drainRow rt policy now faults pass row).db) := by
  rcases answered : attempt rt policy now (faults row.deliveryId) row pass.db with ⟨exc | report, after⟩
  · exact ⟨2, by simp [Worker.cut, Worker.transact, resting, drainRow, answered, Worker.pass]⟩
  · exact ⟨1, by simp [Worker.cut, Worker.transact, resting, drainRow, answered]⟩

/-- Taken to its end, the worker does what `drain` does. -/
theorem drain_eq_cut (policy : RetryPolicy T) (now : T) (limit : Int) (rng : Option R) (faults : Str → Option Exc)
    (db : Db T) : ∃ transactions, ((select rt policy now limit rng faults db).cut rt transactions db).2 =
      (drain rt policy now limit rng faults db).db := by
  have run (rows : List Selected) (pass : Pass T R) : ∃ transactions,
      ((resting policy now faults rows pass).cut rt transactions pass.db).2 =
        (rows.foldl (drainRow rt policy now faults) pass).db := by
    induction rows generalizing pass with
    | nil => exact ⟨0, rfl⟩
    | cons row rest ih =>
      obtain ⟨first, here⟩ := cut_row rt policy now faults row rest pass
      obtain ⟨later, there⟩ := ih (drainRow rt policy now faults pass row)
      exact ⟨first + later, by rw [cut_add, here]; exact there⟩
  exact run (selectDue db now limit)
    { db, budgetUsed := budgetUsed db now, rng := rng.getD (jitterSource rt policy) }

end Whole
end Quidz.Proofs
