import Mathlib.Data.List.Sort

/-! Insertion sort keeps the order of what it cannot tell apart. So the elements of one
class come out as they came in, and the order of the rest does not matter. -/

namespace Quidz.Library.Stable

variable {α : Type*} {r : α → α → Prop} [DecidableRel r] {p : α → Bool}

theorem filter_orderedInsert (tied : ∀ x y, p x → p y → r x y) (x : α) (l : List α) :
    (l.orderedInsert r x).filter p = (x :: l).filter p := by
  induction l with
  | nil => rfl
  | cons y l ih =>
    rw [List.orderedInsert_cons]
    split
    · rfl
    next behind =>
      rw [List.filter_cons, ih]
      by_cases inside : p x
      · have apart : ¬p y := fun inside' => behind (tied x y inside inside')
        rw [if_neg apart, List.filter_cons, List.filter_cons, if_pos inside, List.filter_cons, if_neg apart]
        exact (if_pos inside).symm
      · rw [List.filter_cons, List.filter_cons (x := x), if_neg inside, if_neg inside, List.filter_cons]

/-- A class of tied elements comes out in the order it came in. -/
theorem filter_insertionSort (tied : ∀ x y, p x → p y → r x y) (l : List α) :
    (l.insertionSort r).filter p = l.filter p := by
  induction l with
  | nil => rfl
  | cons x l ih => rw [List.insertionSort_cons, filter_orderedInsert tied, List.filter_cons, List.filter_cons, ih]

/-- Of two that are not tied, it does not matter which is put in first. -/
theorem orderedInsert_comm (trans : ∀ a b c, r a b → r b c → r a c) {x y : α} (ordered : r x y) (strict : ¬r y x) (l : List α) :
    (l.orderedInsert r y).orderedInsert r x = (l.orderedInsert r x).orderedInsert r y := by
  induction l with
  | nil => simp [ordered, strict]
  | cons z l ih =>
    by_cases low : r x z
    · by_cases low' : r y z
      · simp [List.orderedInsert_cons, low, low', ordered, strict]
      · simp [List.orderedInsert_cons, low, low', strict]
    · have low' : ¬r y z := fun low' => low (trans x y z ordered low')
      simp [List.orderedInsert_cons, low, low', ih]

/-- A list sorts to the same in any order of its front, if what is tied there is the same. -/
theorem insertionSort_perm (total : ∀ a b, r a b ∨ r b a) (trans : ∀ a b c, r a b → r b c → r a c) {first second : List α}
    (perm : first.Perm second) (ties : ∀ x ∈ first, ∀ y ∈ first, r x y → r y x → x = y) (rest : List α) :
    (first ++ rest).insertionSort r = (second ++ rest).insertionSort r := by
  have fold (front : List α) : (front ++ rest).insertionSort r = front.foldr (List.orderedInsert r) (rest.insertionSort r) :=
    List.foldr_append ..
  rw [fold, fold]
  refine perm.foldr_eq' (fun x inside y inside' l => ?_) _
  rcases total x y with ordered | ordered
  · by_cases tie : r y x
    · rw [ties x inside y inside' ordered tie]
    · exact (orderedInsert_comm trans ordered tie l).symm
  · by_cases tie : r x y
    · rw [ties x inside y inside' tie ordered]
    · exact orderedInsert_comm trans ordered tie l

end Quidz.Library.Stable
