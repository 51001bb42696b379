import Mathlib.Data.List.Basic

/-! A list of texts written as one, with a separator between them and a mark
before every mark or separator inside one. Reading from the left undoes it, so
no two lists of texts are written alike. -/

namespace Quidz.Library.Escape

universe u

variable {α : Type u} [DecidableEq α] (mark separator : α)

def escape (text : List α) : List α :=
  text.flatMap fun c => if c = mark ∨ c = separator then [mark, c] else [c]

def write (texts : List (List α)) : List α := [separator].intercalate (texts.map (escape mark separator))

private def push (c : α) : List (List α) → List (List α)
  | [] => [[c]]
  | text :: rest => (c :: text) :: rest

/-- Read from the left; `marked` is set right after a mark. -/
def read (marked : Bool) : List α → List (List α)
  | [] => [[]]
  | c :: rest =>
    if marked then push c (read false rest)
    else if c = separator then [] :: read false rest
    else if c = mark then read true rest
    else push c (read false rest)

variable {mark separator}

private theorem read_escape (different : mark ≠ separator) (text rest : List α) :
    read mark separator false (escape mark separator text ++ rest) = text.foldr push (read mark separator false rest) := by
  induction text with
  | nil => rfl
  | cons c text ih =>
    have cons : escape mark separator (c :: text) =
        (if c = mark ∨ c = separator then [mark, c] else [c]) ++ escape mark separator text := List.flatMap_cons
    rw [cons, List.append_assoc, List.foldr_cons, ← ih]
    split
    next special => simp [read, different]
    next plain =>
      obtain ⟨unmarked, inside⟩ := not_or.mp plain
      simp [read, unmarked, inside]

omit [DecidableEq α] in
private theorem foldr_push (text other : List α) (rest : List (List α)) :
    text.foldr push (other :: rest) = (text ++ other) :: rest := by
  induction text with
  | nil => rfl
  | cons c text ih => simp [ih, push]

theorem read_write (different : mark ≠ separator) (first : List α) (rest : List (List α)) :
    read mark separator false (write mark separator (first :: rest)) = first :: rest := by
  induction rest generalizing first with
  | nil =>
    have whole := read_escape different first []
    simpa [write, read, foldr_push] using whole
  | cons second rest ih =>
    have tail : read mark separator false (separator :: write mark separator (second :: rest)) =
        [] :: second :: rest := by
      rw [read, if_neg Bool.false_ne_true, if_pos rfl, ih]
    have head := read_escape different first (separator :: write mark separator (second :: rest))
    rw [tail, foldr_push, List.append_nil] at head
    have split : write mark separator (first :: second :: rest) =
        escape mark separator first ++ separator :: write mark separator (second :: rest) := by
      simp [write, List.intercalate_cons_cons]
    rw [split, head]

/-- What was written determines the texts, field by field. -/
theorem write_injective (different : mark ≠ separator) {first second : List (List α)}
    (nonempty : first ≠ []) (other : second ≠ [])
    (same : write mark separator first = write mark separator second) : first = second := by
  cases first with
  | nil => exact absurd rfl nonempty
  | cons text rest =>
    cases second with
    | nil => exact absurd rfl other
    | cons text' rest' =>
      have readBack := congrArg (read mark separator false) same
      rwa [read_write different, read_write different] at readBack

end Quidz.Library.Escape
