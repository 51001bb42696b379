import Mathlib.Data.List.Nodup
import Mathlib.Data.List.Basic

/-! A relational table with a primary key. The key constraint is part of the
value, so a statement that would break it cannot be written down, and a lookup
identifies at most one row. Rows keep the order they were inserted in. -/

namespace Quidz.Library

universe u v

@[ext] structure Table (ρ : Type u) {κ : Type v} (key : ρ → κ) where
  rows : List ρ
  unique : (rows.map key).Nodup

namespace Table
variable {ρ : Type u} {κ : Type v} {key : ρ → κ}

def empty : Table ρ key := ⟨[], by simp⟩

@[simp] theorem rows_empty : (empty : Table ρ key).rows = [] := rfl

/-- The rows that satisfy `keep`, as after deleting all the others. -/
def filter (table : Table ρ key) (keep : ρ → Bool) : Table ρ key :=
  ⟨table.rows.filter keep, (List.filter_sublist.map key).nodup table.unique⟩

@[simp] theorem rows_filter (table : Table ρ key) (keep : ρ → Bool) :
    (table.filter keep).rows = table.rows.filter keep := rfl

theorem key_inj (table : Table ρ key) {first second : ρ} (member : first ∈ table.rows)
    (other : second ∈ table.rows) (same : key first = key second) : first = second :=
  List.inj_on_of_nodup_map table.unique member other same

variable [DecidableEq κ]

def find? (table : Table ρ key) (k : κ) : Option ρ := table.rows.find? fun row => key row = k

/-- An insert that a row with the same key refuses. -/
def insert? (table : Table ρ key) (row : ρ) : Option (Table ρ key) :=
  if fresh : key row ∈ table.rows.map key then none
  else some ⟨table.rows ++ [row], by
    rw [List.map_append]
    exact table.unique.append (by simp) (by simpa using fresh)⟩

/-- An update of the row under `k`, which cannot move it to another key. -/
def modify (table : Table ρ key) (k : κ) (change : ρ → ρ)
    (keeps : ∀ row, key (change row) = key row := by intro _; rfl) : Table ρ key :=
  ⟨table.rows.map fun row => if key row = k then change row else row, by
    have same : (key ∘ fun row => if key row = k then change row else row) = key := by
      funext row
      simp only [Function.comp]
      split
      · exact keeps row
      · rfl
    rw [List.map_map, same]
    exact table.unique⟩

/-- An insert that, when the key is taken, updates the row that holds it. -/
def upsert (table : Table ρ key) (row : ρ) (change : ρ → ρ)
    (keeps : ∀ row, key (change row) = key row := by intro _; rfl) : Table ρ key :=
  match table.insert? row with
  | some inserted => inserted
  | none => table.modify (key row) change keeps

theorem find?_eq_some {table : Table ρ key} {k : κ} {row : ρ} :
    table.find? k = some row ↔ row ∈ table.rows ∧ key row = k := by
  constructor
  · intro found
    exact ⟨List.mem_of_find?_eq_some found, by simpa using List.find?_some found⟩
  · intro ⟨member, same⟩
    cases seen : table.find? k with
    | none =>
      have absent := List.find?_eq_none.mp seen row member
      simp [same] at absent
    | some other =>
      have located : other ∈ table.rows ∧ key other = k :=
        ⟨List.mem_of_find?_eq_some seen, by simpa using List.find?_some seen⟩
      rw [table.key_inj located.1 member (located.2.trans same.symm)]

theorem find?_eq_none {table : Table ρ key} {k : κ} :
    table.find? k = none ↔ ∀ row ∈ table.rows, key row ≠ k := by
  simp [find?, List.find?_eq_none]

theorem find?_isSome {table : Table ρ key} {k : κ} :
    (table.find? k).isSome ↔ ∃ row ∈ table.rows, key row = k := by
  simp only [Option.isSome_iff_exists, find?_eq_some]

theorem find?_of_mem {table : Table ρ key} {row : ρ} (member : row ∈ table.rows) :
    table.find? (key row) = some row := find?_eq_some.mpr ⟨member, rfl⟩

@[simp] theorem find?_empty (k : κ) : (empty : Table ρ key).find? k = none := rfl

theorem insert?_eq_some {table after : Table ρ key} {row : ρ} :
    table.insert? row = some after ↔ table.find? (key row) = none ∧ after.rows = table.rows ++ [row] := by
  unfold insert?
  split
  next taken =>
    obtain ⟨other, member, same⟩ := List.mem_map.mp taken
    constructor
    · intro impossible; cases impossible
    · intro ⟨absent, _⟩
      exact absurd same (find?_eq_none.mp absent other member)
  next fresh =>
    simp only [Option.some.injEq, Table.ext_iff]
    constructor
    · intro same
      exact ⟨find?_eq_none.mpr fun other member same => fresh (same ▸ List.mem_map_of_mem member), same.symm⟩
    · intro ⟨_, same⟩; exact same.symm

theorem insert?_eq_none {table : Table ρ key} {row : ρ} :
    table.insert? row = none ↔ ∃ other ∈ table.rows, key other = key row := by
  unfold insert?
  split
  next taken => simpa using taken
  next fresh => simpa using fresh

theorem find?_insert {table after : Table ρ key} {row : ρ} (inserted : table.insert? row = some after) (k : κ) :
    after.find? k = if key row = k then some row else table.find? k := by
  obtain ⟨absent, rows⟩ := insert?_eq_some.mp inserted
  split
  next same => exact find?_eq_some.mpr ⟨by simp [rows], same⟩
  next different => simp [find?, rows, List.find?_append, different]

theorem mem_modify {table : Table ρ key} {k : κ} {change : ρ → ρ} {keeps} {row : ρ} :
    row ∈ (table.modify k change keeps).rows ↔
      (∃ old ∈ table.rows, key old = k ∧ row = change old) ∨ (row ∈ table.rows ∧ key row ≠ k) := by
  simp only [modify, List.mem_map]
  constructor
  · intro ⟨old, member, same⟩
    by_cases selected : key old = k
    · simp only [selected, if_true] at same
      exact .inl ⟨old, member, selected, same.symm⟩
    · simp only [selected, if_false] at same
      exact .inr (same ▸ ⟨member, selected⟩)
  · rintro (⟨old, member, selected, same⟩ | ⟨member, different⟩)
    · exact ⟨old, member, by simp [selected, same]⟩
    · exact ⟨row, member, by simp [different]⟩

@[simp] theorem rows_modify (table : Table ρ key) (k : κ) (change : ρ → ρ) (keeps) :
    (table.modify k change keeps).rows = table.rows.map fun row => if key row = k then change row else row := rfl

@[simp] theorem find?_modify (table : Table ρ key) (k other : κ) (change : ρ → ρ) (keeps) :
    (table.modify k change keeps).find? other = if k = other then (table.find? k).map change else table.find? other := by
  split
  next same =>
    subst same
    cases seen : table.find? k with
    | none =>
      refine find?_eq_none.mpr fun row member => ?_
      rcases mem_modify.mp member with ⟨old, inside, selected, _⟩ | ⟨_, different⟩
      · exact absurd selected (find?_eq_none.mp seen old inside)
      · exact different
    | some row =>
      obtain ⟨member, selected⟩ := find?_eq_some.mp seen
      exact find?_eq_some.mpr ⟨mem_modify.mpr (.inl ⟨row, member, selected, rfl⟩), (keeps row).trans selected⟩
  next different =>
    cases seen : table.find? other with
    | none =>
      refine find?_eq_none.mpr fun row member => ?_
      rcases mem_modify.mp member with ⟨old, inside, selected, rfl⟩ | ⟨inside, _⟩
      · rw [keeps old, selected]; exact different
      · exact find?_eq_none.mp seen row inside
    | some row =>
      obtain ⟨member, selected⟩ := find?_eq_some.mp seen
      exact find?_eq_some.mpr ⟨mem_modify.mpr (.inr ⟨member, fun same => different (same ▸ selected)⟩), selected⟩

/-- Only what a change does to the row under `k` matters. -/
theorem modify_congr {table : Table ρ key} {k : κ} {row : ρ} {change other : ρ → ρ}
    (found : table.find? k = some row) (same : change row = other row) (keeps keeps') :
    table.modify k change keeps = table.modify k other keeps' := by
  ext1
  simp only [rows_modify]
  refine List.map_congr_left fun old member => ?_
  split
  next selected =>
    obtain rfl : row = old := Option.some.inj (found.symm.trans (find?_eq_some.mpr ⟨member, selected⟩))
    exact same
  next => rfl

/-- An update replaces the one row under its key, in its place. -/
theorem modify_split {table : Table ρ key} {k : κ} {row : ρ} (found : table.find? k = some row) (change : ρ → ρ) (keeps) :
    ∃ earlier later, table.rows = earlier ++ row :: later ∧
      (table.modify k change keeps).rows = earlier ++ change row :: later := by
  obtain ⟨member, same⟩ := find?_eq_some.mp found
  obtain ⟨earlier, later, split⟩ := List.append_of_mem member
  have distinct := table.unique
  rw [split, List.map_append, List.map_cons, List.nodup_middle, List.nodup_cons, same] at distinct
  have untouched {part : List ρ} (inside : ∀ other ∈ part, key other ∈ earlier.map key ++ later.map key) :
      part.map (fun other => if key other = k then change other else other) = part := by
    refine (List.map_congr_left fun other member => ?_).trans (List.map_id part)
    have different : key other ≠ k := fun equal => distinct.1 (equal ▸ inside other member)
    rw [if_neg different, id]
  refine ⟨earlier, later, split, ?_⟩
  rw [rows_modify, split, List.map_append, List.map_cons, if_pos same,
    untouched fun other member => List.mem_append_left _ (List.mem_map_of_mem member),
    untouched fun other member => List.mem_append_right _ (List.mem_map_of_mem member)]

theorem modify_filter (table : Table ρ key) (k : κ) (change : ρ → ρ) (keeps) (keep : ρ → Bool)
    (blind : ∀ row ∈ table.rows, key row = k → keep (change row) = keep row) :
    (table.modify k change keeps).filter keep = (table.filter keep).modify k change keeps := by
  ext1
  simp only [rows_filter, rows_modify, List.filter_map]
  congr 1
  refine List.filter_congr fun row member => ?_
  simp only [Function.comp]
  split
  next selected => exact blind row member selected
  next => rfl

/-- Among the rows that are kept, an update replaces the one under its key or drops it. -/
theorem filter_modify {table : Table ρ key} {keep : ρ → Bool} {before after : List ρ} {row : ρ}
    (split : table.rows.filter keep = before ++ row :: after) (change : ρ → ρ) (keeps) :
    (table.modify (key row) change keeps).rows.filter keep = before ++ ([change row].filter keep ++ after) := by
  have kept : row ∈ table.rows.filter keep := split ▸ List.mem_append_right _ List.mem_cons_self
  obtain ⟨inside, here⟩ := List.mem_filter.mp kept
  obtain ⟨earlier, later, rows, modified⟩ := modify_split (find?_of_mem inside) change keeps
  have distinct := table.unique.of_map
  rw [rows, List.nodup_middle, List.nodup_cons, List.mem_append, not_or] at distinct
  rw [rows, List.filter_append, List.filter_cons_of_pos here] at split
  obtain ⟨rfl, _, rfl⟩ := (List.append_cons_inj_of_notMem (fun listed => distinct.1.1 (List.mem_filter.mp listed).1)
    fun listed => distinct.1.2 (List.mem_filter.mp listed).1).mp split
  have front : earlier ++ change row :: later = earlier ++ ([change row] ++ later) := rfl
  rw [modified, front, List.filter_append, List.filter_append]

/-- Where no row is under the key, an update does nothing. -/
theorem modify_absent {table : Table ρ key} {k : κ} (absent : table.find? k = none) (change : ρ → ρ) (keeps) :
    table.modify k change keeps = table := by
  ext1
  rw [rows_modify]
  refine (List.map_congr_left fun row member => ?_).trans (List.map_id table.rows)
  rw [if_neg (find?_eq_none.mp absent row member), id]

theorem find?_filter (table : Table ρ key) (keep : ρ → Bool) (k : κ) :
    (table.filter keep).find? k = (table.find? k).filter keep := by
  cases seen : table.find? k with
  | none =>
    refine find?_eq_none.mpr fun row member => ?_
    exact find?_eq_none.mp seen row (List.mem_filter.mp member).1
  | some row =>
    obtain ⟨inside, same⟩ := find?_eq_some.mp seen
    cases kept : keep row with
    | true =>
      rw [Option.filter_some_pos kept]
      exact find?_eq_some.mpr ⟨List.mem_filter.mpr ⟨inside, kept⟩, same⟩
    | false =>
      rw [Option.filter_some_neg (by simp [kept])]
      refine find?_eq_none.mpr fun other member equal => ?_
      obtain ⟨inside', kept'⟩ := List.mem_filter.mp member
      rw [table.key_inj inside' inside (equal.trans same.symm), kept] at kept'
      cases kept'

theorem upsert_find? (table : Table ρ key) (row : ρ) (change : ρ → ρ) (keeps) (k : κ) :
    (table.upsert row change keeps).find? k =
      if key row = k then some ((table.find? k).elim row change) else table.find? k := by
  unfold upsert
  cases seen : table.insert? row with
  | some inserted =>
    obtain ⟨absent, _⟩ := insert?_eq_some.mp seen
    rw [find?_insert seen]
    split
    next same => subst same; simp [absent]
    next => rfl
  | none =>
    obtain ⟨other, member, same⟩ := insert?_eq_none.mp seen
    have located := find?_eq_some.mpr ⟨member, same⟩
    rw [find?_modify]
    split
    next equal => subst equal; simp [located]
    next => rfl

section Map
variable (f : ρ → ρ) (keeps : ∀ row, key (f row) = key row)

omit [DecidableEq κ] in
/-- Every row is written to, in its place and under its key. -/
def map (table : Table ρ key) : Table ρ key :=
  ⟨table.rows.map f, by rw [List.map_map, show key ∘ f = key from funext keeps]; exact table.unique⟩

omit [DecidableEq κ] in
@[simp] theorem rows_map (table : Table ρ key) : (table.map f keeps).rows = table.rows.map f := rfl

variable {f}

theorem find?_map (table : Table ρ key) (k : κ) : (table.map f keeps).find? k = (table.find? k).map f := by
  simp only [find?, rows_map, List.find?_map, Function.comp_def, keeps]

theorem insert?_map (table : Table ρ key) (row : ρ) : (table.map f keeps).insert? (f row) =
    (table.insert? row).map (Table.map f keeps) := by
  cases inserted : table.insert? row with
  | some after =>
    obtain ⟨absent, rows⟩ := insert?_eq_some.mp inserted
    refine insert?_eq_some.mpr ⟨?_, ?_⟩
    · rw [keeps, find?_map, absent, Option.map_none]
    · rw [rows_map, rows, List.map_append, rows_map, List.map_singleton]
  | none =>
    obtain ⟨other, member, same⟩ := insert?_eq_none.mp inserted
    exact insert?_eq_none.mpr ⟨f other, List.mem_map_of_mem member, by rw [keeps, keeps, same]⟩

/-- An update that looks at what is left of a row does the same to it. -/
theorem modify_map (table : Table ρ key) (k : κ) {change other : ρ → ρ} (keeps' keeps'')
    (commutes : ∀ row, other (f row) = f (change row)) :
    (table.map f keeps).modify k other keeps' = (table.modify k change keeps'').map f keeps := by
  ext1
  simp only [rows_modify, rows_map, List.map_map]
  refine List.map_congr_left fun row _ => ?_
  simp only [Function.comp_apply, keeps]
  split
  · exact commutes row
  · rfl

end Map

/-- An insert that takes the place of a row with the same key. -/
def replace (table : Table ρ key) (row : ρ) : Table ρ key :=
  ⟨table.rows.filter (fun other => key other ≠ key row) ++ [row], by
    have kept : ((table.rows.filter fun other => key other ≠ key row).map key).Nodup :=
      (List.filter_sublist.map key).nodup table.unique
    rw [List.map_append]
    refine kept.append (by simp) fun k left right => ?_
    obtain ⟨other, member, rfl⟩ := List.mem_map.mp left
    exact of_decide_eq_true (List.mem_filter.mp member).2 (List.mem_singleton.mp right)⟩

end Table
end Quidz.Library
