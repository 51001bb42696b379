import Mathlib.Data.List.Basic
import Mathlib.Data.List.Induction
import Mathlib.Data.List.Nodup

/-! Rows grouped under their keys, in the order the keys first come up. Looking a key up
finds the rows that carry it. -/

namespace Quidz.Library.Group

universe u v

variable {ρ : Type u} {κ : Type v} [DecidableEq κ]

/-- A row put behind the others of its key. -/
def add (key : κ) (row : ρ) : List (κ × List ρ) → List (κ × List ρ)
  | [] => [(key, [row])]
  | (other, rows) :: rest => if other = key then (other, rows ++ [row]) :: rest else (other, rows) :: add key row rest

def group (key : ρ → κ) (rows : List ρ) : List (κ × List ρ) :=
  rows.foldl (fun groups row => add (key row) row groups) []

/-- The rows of a key, none where it never came up. -/
def members (groups : List (κ × List ρ)) (key : κ) : List ρ := (groups.lookup key).getD []

theorem members_add (groups : List (κ × List ρ)) (key other : κ) (row : ρ) :
    members (add key row groups) other = members groups other ++ if key = other then [row] else [] := by
  induction groups with
  | nil =>
    by_cases same : other = key
    · simp [add, members, same]
    · simp [add, members, List.lookup_cons, beq_eq_false_iff_ne.mpr same, Ne.symm same]
  | cons entry rest ih =>
    obtain ⟨found, rows⟩ := entry
    unfold members at ih ⊢
    by_cases here : other = found
    · subst here
      by_cases same : other = key
      · simp [add, same]
      · simp [add, same, Ne.symm same]
    · by_cases same : found = key
      · subst same
        simp [add, List.lookup_cons, beq_eq_false_iff_ne.mpr here, Ne.symm here]
      · simp only [add, if_neg same, List.lookup_cons, beq_eq_false_iff_ne.mpr here]
        exact ih

theorem keys_add (groups : List (κ × List ρ)) (key : κ) (row : ρ) :
    (add key row groups).map Prod.fst =
      if key ∈ groups.map Prod.fst then groups.map Prod.fst else groups.map Prod.fst ++ [key] := by
  induction groups with
  | nil => simp [add]
  | cons entry rest ih =>
    obtain ⟨found, rows⟩ := entry
    by_cases same : found = key
    · simp [add, same]
    · rw [add, if_neg same, List.map_cons, ih, List.map_cons]
      by_cases inside : key ∈ rest.map Prod.fst
      · rw [if_pos inside, if_pos (List.mem_cons_of_mem _ inside)]
      · rw [if_neg inside, if_neg (by simpa [Ne.symm same] using inside), List.cons_append]

variable (key : ρ → κ) (rows : List ρ)

theorem group_append (row : ρ) : group key (rows ++ [row]) = add (key row) row (group key rows) := by
  rw [group, List.foldl_append]
  rfl

theorem members_group (k : κ) : members (group key rows) k = rows.filter fun row => key row = k := by
  induction rows using List.reverseRecOn with
  | nil => rfl
  | append_singleton rows row ih =>
    rw [group_append, members_add, ih, List.filter_append, List.filter_cons, List.filter_nil]
    by_cases same : key row = k <;> simp [same]

theorem keys_nodup : ((group key rows).map Prod.fst).Nodup := by
  induction rows using List.reverseRecOn with
  | nil => exact List.nodup_nil
  | append_singleton rows row ih =>
    rw [group_append, keys_add]
    split
    next => exact ih
    next fresh => exact ih.append (List.nodup_singleton _) (by simpa using fresh)

theorem mem_keys {k : κ} : k ∈ (group key rows).map Prod.fst ↔ ∃ row ∈ rows, key row = k := by
  induction rows using List.reverseRecOn with
  | nil => simp [group]
  | append_singleton rows row ih =>
    rw [group_append, keys_add]
    split
    next known =>
      rw [ih]
      refine ⟨fun ⟨other, member, same⟩ => ⟨other, List.mem_append_left _ member, same⟩, fun ⟨other, member, same⟩ => ?_⟩
      rcases List.mem_append.mp member with before | last
      · exact ⟨other, before, same⟩
      · rw [List.mem_singleton.mp last] at same
        exact ih.mp (same ▸ known)
    next =>
      rw [List.mem_append, ih, List.mem_singleton]
      constructor
      · rintro (⟨other, member, same⟩ | rfl)
        · exact ⟨other, List.mem_append_left _ member, same⟩
        · exact ⟨row, List.mem_append_right _ List.mem_cons_self, rfl⟩
      · rintro ⟨other, member, same⟩
        rcases List.mem_append.mp member with before | last
        · exact .inl ⟨other, before, same⟩
        · rw [List.mem_singleton.mp last] at same
          exact .inr same.symm

/-- An entry holds the rows of its key. -/
theorem mem_group {k : κ} {entry : List ρ} (member : (k, entry) ∈ group key rows) :
    entry = rows.filter fun row => key row = k := by
  rw [← members_group, members, List.lookup_eq_some_iff.mpr]
  · rfl
  · obtain ⟨front, behind, split⟩ := List.append_of_mem member
    refine ⟨front, behind, split, fun other before => ?_⟩
    have distinct := keys_nodup key rows
    rw [split, List.map_append, List.map_cons] at distinct
    have apart := (List.nodup_append.mp distinct).2.2 other.1 (List.mem_map_of_mem before) k List.mem_cons_self
    simpa using apart.symm

theorem mem_grouped {row : ρ} : row ∈ (group key rows).flatMap Prod.snd ↔ row ∈ rows := by
  rw [List.mem_flatMap]
  constructor
  · rintro ⟨⟨k, entry⟩, member, inside⟩
    rw [mem_group key rows member] at inside
    exact List.mem_of_mem_filter inside
  · intro member
    obtain ⟨entry, listed, same⟩ := List.mem_map.mp ((mem_keys key rows).mpr ⟨row, member, rfl⟩)
    refine ⟨entry, listed, ?_⟩
    rw [mem_group key rows (show (entry.1, entry.2) ∈ group key rows from listed), List.mem_filter]
    exact ⟨member, decide_eq_true same.symm⟩

theorem add_absent {groups : List (κ × List ρ)} {k : κ} (absent : k ∉ groups.map Prod.fst) (row : ρ) :
    add k row groups = groups ++ [(k, [row])] := by
  induction groups with
  | nil => rfl
  | cons entry rest ih =>
    rw [List.map_cons, List.mem_cons, not_or] at absent
    rw [add, if_neg (Ne.symm absent.1), ih absent.2, List.cons_append]

theorem add_last {groups : List (κ × List ρ)} {k : κ} (absent : k ∉ groups.map Prod.fst) (row : ρ) (own : List ρ) :
    add k row (groups ++ [(k, own)]) = groups ++ [(k, own ++ [row])] := by
  induction groups with
  | nil => simp [add]
  | cons entry rest ih =>
    rw [List.map_cons, List.mem_cons, not_or] at absent
    rw [List.cons_append, add, if_neg (Ne.symm absent.1), ih absent.2, List.cons_append]

/-- Rows of a key of their own make the last group. -/
theorem group_append_fresh {front back : List ρ} {k : κ} (fresh : ∀ row ∈ front, key row ≠ k) (own : ∀ row ∈ back, key row = k)
    (some_ : back ≠ []) : group key (front ++ back) = group key front ++ [(k, back)] := by
  have absent : k ∉ (group key front).map Prod.fst := fun listed => by
    obtain ⟨row, member, same⟩ := (mem_keys key front).mp listed
    exact fresh row member same
  induction back using List.reverseRecOn with
  | nil => exact absurd rfl some_
  | append_singleton back row ih =>
    rw [← List.append_assoc, group_append, own row (by simp)]
    by_cases first : back = []
    · subst first
      rw [List.append_nil, List.nil_append, add_absent absent]
    · rw [ih (fun other member => own other (List.mem_append_left _ member)) first, add_last absent]

end Quidz.Library.Group
