import RiscvGloss.Text.Pieces

/-! Cutting a list after its separators. Each piece keeps the separator that ends it, so nothing is
lost, and the last piece is there only if it holds something. -/

namespace RiscvGloss.Text

variable {α : Type} [DecidableEq α] {separator : α} {piece xs : List α}

/-- The pieces of a list up to and including each separator, and what follows the last one. -/
def cutAfter (separator : α) : List α → List (List α)
  | [] => []
  | x :: xs =>
    if x = separator then
      [x] :: cutAfter separator xs
    else
      match cutAfter separator xs with
      | [] => [[x]]
      | piece :: more => (x :: piece) :: more

@[simp] theorem cutAfter_nil : cutAfter separator [] = [] := rfl

theorem cutAfter_append_cons (h : separator ∉ piece) (xs : List α) :
    cutAfter separator (piece ++ separator :: xs) =
      (piece ++ [separator]) :: cutAfter separator xs := by
  induction piece with
  | nil => rw [List.nil_append, cutAfter, if_pos rfl, List.nil_append]
  | cons x piece ih =>
    simp only [List.mem_cons, not_or] at h
    rw [List.cons_append, cutAfter, if_neg (Ne.symm h.1), ih h.2]
    rfl

/-- Pieces that each end in their only separator are cut apart again. -/
theorem cutAfter_flatMap {pieces : List (List α)} (h : ∀ piece ∈ pieces, separator ∉ piece) :
    cutAfter separator (pieces.flatMap (· ++ [separator])) = pieces.map (· ++ [separator]) := by
  induction pieces with
  | nil => rfl
  | cons piece pieces ih =>
    obtain ⟨hpiece, hpieces⟩ := List.forall_mem_cons.1 h
    rw [List.flatMap_cons, List.append_assoc, List.singleton_append,
      cutAfter_append_cons hpiece, ih hpieces, List.map_cons]

/-- Cutting after the separators gives the same pieces as cutting at them. -/
theorem cutAfter_eq (separator : α) (xs : List α) :
    cutAfter separator xs = (cut (· == separator) xs).1.map (· ++ [separator]) ++
      if (cut (· == separator) xs).2.isEmpty then [] else [(cut (· == separator) xs).2] := by
  induction xs with
  | nil => rfl
  | cons x xs ih =>
    rw [cutAfter, ih, cut_cons]
    rcases cut (· == separator) xs with ⟨done, rest⟩
    by_cases hx : x = separator
    · simp [cutAt, hx]
    · cases done with
      | nil => cases rest <;> simp [cutAt, hx]
      | cons piece more => simp [cutAt, hx]

theorem flatMap_cut (separator : α) (xs : List α) :
    (cut (· == separator) xs).1.flatMap (· ++ [separator]) ++ (cut (· == separator) xs).2 = xs := by
  induction xs with
  | nil => rfl
  | cons x xs ih =>
    rw [cut_cons]
    rcases h : cut (· == separator) xs with ⟨done, rest⟩
    rw [h] at ih
    by_cases hx : x = separator
    · simp [cutAt, hx, ← ih]
    · cases done <;> simp [cutAt, hx, ← ih]

theorem not_mem_of_mem_cut (h : piece ∈ (cut (· == separator) xs).1 ∨
    piece = (cut (· == separator) xs).2) : separator ∉ piece := by
  have hmem : piece ∈ pieces (· == separator) xs := by simpa [pieces] using h
  intro hseparator
  simpa using not_separator_of_mem_pieces hmem hseparator

end RiscvGloss.Text
