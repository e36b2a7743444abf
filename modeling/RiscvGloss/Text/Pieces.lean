/-! Cutting a list at its separators. -/

namespace RiscvGloss.Text

/-- Puts `x` in front of a list that is already cut: a separator starts a new piece, and anything
else joins the first one, or the rest if nothing is cut off yet. -/
def cutAt (isSeparator : α → Bool) (x : α) : List (List α) × List α → List (List α) × List α
  | (done, rest) =>
    if isSeparator x then
      ([] :: done, rest)
    else
      match done with
      | [] => ([], x :: rest)
      | piece :: more => ((x :: piece) :: more, rest)

/-- Cuts a list at its separators: the pieces that a separator ends, and what follows the last
separator. -/
def cut (isSeparator : α → Bool) (xs : List α) : List (List α) × List α :=
  xs.foldr (cutAt isSeparator) ([], [])

/-- The pieces between the separators of a list, empty ones included. -/
def pieces (isSeparator : α → Bool) (xs : List α) : List (List α) :=
  let (done, rest) := cut isSeparator xs
  done ++ [rest]

section

variable {isSeparator : α → Bool} {x : α} {xs : List α}

@[simp] theorem cut_nil : cut isSeparator [] = ([], []) := rfl

theorem cut_cons : cut isSeparator (x :: xs) = cutAt isSeparator x (cut isSeparator xs) := rfl

@[simp] theorem pieces_nil : pieces isSeparator [] = [[]] := rfl

theorem pieces_cons_separator (h : isSeparator x = true) :
    pieces isSeparator (x :: xs) = [] :: pieces isSeparator xs := by
  simp [pieces, cut_cons, cutAt, h]

theorem pieces_cons_of_not (h : isSeparator x = false) :
    pieces isSeparator (x :: xs) = (pieces isSeparator xs).modifyHead (x :: ·) := by
  simp only [pieces, cut_cons]
  rcases cut isSeparator xs with ⟨_ | ⟨piece, more⟩, rest⟩ <;> simp [cutAt, h]

/-- No piece holds a separator. -/
theorem not_separator_of_mem_pieces {piece : List α} (hp : piece ∈ pieces isSeparator xs)
    (hx : x ∈ piece) : isSeparator x = false := by
  induction xs generalizing piece with
  | nil => simp_all
  | cons y ys ih =>
    cases hy : isSeparator y with
    | true =>
      rw [pieces_cons_separator hy] at hp
      rcases List.mem_cons.1 hp with rfl | hp
      · cases hx
      · exact ih hp hx
    | false =>
      rw [pieces_cons_of_not hy] at hp
      cases hs : pieces isSeparator ys with
      | nil => simp [hs] at hp
      | cons first more =>
        rw [hs, List.modifyHead_cons] at hp
        rcases List.mem_cons.1 hp with rfl | hp
        · rcases List.mem_cons.1 hx with rfl | hx
          · exact hy
          · exact ih (hs ▸ List.mem_cons_self) hx
        · exact ih (hs ▸ List.mem_cons_of_mem _ hp) hx

end

end RiscvGloss.Text
