import Mathlib.Algebra.Order.BigOperators.Group.List
import Mathlib.Data.List.Induction
import Mathlib.Data.List.Nodup
import Mathlib.Data.List.Perm.Subperm

/-! Amounts summed up under their keys, in the order the keys first come up. More entries
that are not negative never make a sum smaller. -/

namespace Quidz.Library.Tally

universe u v

variable {κ : Type u} {μ : Type v} [DecidableEq κ]

section Sums
variable [AddCommMonoid μ]

def add (key : κ) (amount : μ) : List (κ × μ) → List (κ × μ)
  | [] => [(key, amount)]
  | (other, total) :: rest => if other = key then (other, total + amount) :: rest else (other, total) :: add key amount rest

def tally (entries : List (κ × μ)) : List (κ × μ) := entries.foldl (fun totals entry => add entry.1 entry.2 totals) []

/-- What the entries of a key come to. -/
def sumOf (key : κ) (entries : List (κ × μ)) : μ := ((entries.filter fun entry => entry.1 = key).map Prod.snd).sum

theorem keys_add (totals : List (κ × μ)) (key : κ) (amount : μ) : (add key amount totals).map Prod.fst =
    if key ∈ totals.map Prod.fst then totals.map Prod.fst else totals.map Prod.fst ++ [key] := by
  induction totals with
  | nil => simp [add]
  | cons entry rest ih =>
    obtain ⟨found, total⟩ := entry
    by_cases same : found = key
    · simp [add, same]
    · rw [add, if_neg same, List.map_cons, ih, List.map_cons]
      by_cases inside : key ∈ rest.map Prod.fst
      · rw [if_pos inside, if_pos (List.mem_cons_of_mem _ inside)]
      · rw [if_neg inside, if_neg (by simpa [Ne.symm same] using inside), List.cons_append]

theorem mem_add {totals : List (κ × μ)} (distinct : (totals.map Prod.fst).Nodup) {key other : κ} {amount total : μ} :
    (other, total) ∈ add key amount totals ↔ (other ≠ key ∧ (other, total) ∈ totals) ∨
      (other = key ∧ ((∃ held, (key, held) ∈ totals ∧ total = held + amount) ∨
        (key ∉ totals.map Prod.fst ∧ total = amount))) := by
  induction totals with
  | nil => by_cases same : other = key <;> simp [add, same]
  | cons entry rest ih =>
    obtain ⟨found, held⟩ := entry
    rw [List.map_cons, List.nodup_cons] at distinct
    by_cases here : found = key
    · subst here
      have others (total : μ) : (found, total) ∉ rest := fun inside => distinct.1 (List.mem_map.mpr ⟨_, inside, rfl⟩)
      by_cases same : other = found
      · subst same
        simp [add, others]
      · simp [add, same]
    · rw [add, if_neg here, List.mem_cons, ih distinct.2]
      by_cases same : other = key
      · subst same
        simp [Ne.symm here]
      · simp [same]

theorem sumOf_absent {entries : List (κ × μ)} {key : κ} (absent : key ∉ entries.map Prod.fst) : sumOf key entries = 0 := by
  have empty : entries.filter (fun entry => entry.1 = key) = [] := by
    refine List.filter_eq_nil_iff.mpr fun entry member same => absent ?_
    exact List.mem_map.mpr ⟨entry, member, of_decide_eq_true same⟩
  rw [sumOf, empty]
  rfl

variable (entries : List (κ × μ))

theorem tally_append (entry : κ × μ) : tally (entries ++ [entry]) = add entry.1 entry.2 (tally entries) := by
  rw [tally, List.foldl_append]
  rfl

theorem keys_tally : ((tally entries).map Prod.fst).Nodup ∧ ∀ key, key ∈ (tally entries).map Prod.fst ↔ key ∈ entries.map Prod.fst := by
  induction entries using List.reverseRecOn with
  | nil => exact ⟨List.nodup_nil, fun _ => Iff.rfl⟩
  | append_singleton entries entry ih =>
    obtain ⟨distinct, keys⟩ := ih
    rw [tally_append, keys_add]
    split
    next known => exact ⟨distinct, fun key => by
      rw [keys, List.map_append, List.mem_append, List.map_singleton, List.mem_singleton]
      exact (or_iff_left_of_imp fun same => same ▸ (keys _).mp known).symm⟩
    next fresh =>
      refine ⟨distinct.append (List.nodup_singleton _) (by simpa using fresh), fun key => ?_⟩
      rw [List.mem_append, keys, List.map_append, List.mem_append, List.map_singleton]

/-- Each key that comes up is listed once, with the sum of its entries. -/
theorem mem_tally {key : κ} {total : μ} :
    (key, total) ∈ tally entries ↔ key ∈ entries.map Prod.fst ∧ total = sumOf key entries := by
  induction entries using List.reverseRecOn generalizing total with
  | nil => simp [tally]
  | append_singleton entries entry ih =>
    obtain ⟨found, amount⟩ := entry
    obtain ⟨distinct, keys⟩ := keys_tally entries
    rw [tally_append, mem_add distinct]
    by_cases same : key = found
    · subst same
      have sum : sumOf key (entries ++ [(key, amount)]) = sumOf key entries + amount := by simp [sumOf]
      have listed : key ∈ (entries ++ [(key, amount)]).map Prod.fst := by simp
      simp only [ne_eq, not_true_eq_false, false_and, true_and, false_or, keys, sum, listed]
      constructor
      · rintro (⟨held, inside, rfl⟩ | ⟨absent, rfl⟩)
        · rw [(ih.mp inside).2]
        · rw [sumOf_absent absent, zero_add]
      · rintro rfl
        by_cases known : key ∈ entries.map Prod.fst
        · exact .inl ⟨sumOf key entries, ih.mpr ⟨known, rfl⟩, rfl⟩
        · exact .inr ⟨known, by rw [sumOf_absent known, zero_add]⟩
    · have sum : sumOf key (entries ++ [(found, amount)]) = sumOf key entries := by simp [sumOf, Ne.symm same]
      simp [same, sum, ih]

end Sums

section Order
variable [AddCommMonoid μ] [PartialOrder μ] [IsOrderedAddMonoid μ]

theorem sumOf_mono {first second : List (κ × μ)} (included : first.Subperm second) (nonneg : ∀ entry ∈ second, 0 ≤ entry.2)
    (key : κ) : sumOf key first ≤ sumOf key second := by
  obtain ⟨part, perm, sub⟩ := included
  have same : sumOf key first = sumOf key part := ((perm.symm.filter _).map _).sum_eq
  rw [same]
  refine List.Sublist.sum_le_sum ((sub.filter _).map _) fun amount member => ?_
  obtain ⟨entry, inside, rfl⟩ := List.mem_map.mp member
  exact nonneg entry (List.mem_filter.mp inside).1

/-- A total that is reached stays reached when entries are added. -/
theorem tally_mono {first second : List (κ × μ)} (included : first.Subperm second) (nonneg : ∀ entry ∈ second, 0 ≤ entry.2)
    {key : κ} {total : μ} (member : (key, total) ∈ tally first) : ∃ larger, (key, larger) ∈ tally second ∧ total ≤ larger := by
  obtain ⟨known, rfl⟩ := (mem_tally first).mp member
  obtain ⟨entry, inside, same⟩ := List.mem_map.mp known
  exact ⟨sumOf key second, (mem_tally second).mpr ⟨same ▸ List.mem_map_of_mem (included.subset inside), rfl⟩,
    sumOf_mono included nonneg key⟩

end Order
end Quidz.Library.Tally
