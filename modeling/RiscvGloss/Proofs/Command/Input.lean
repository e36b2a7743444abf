import RiscvGloss.Proofs.Text.CutAfter
import RiscvGloss.Proofs.Text.Utf8

/-! The lines of a stream. They are its pieces up to and including each newline, less their ends,
before the first one that is not UTF-8, and all of them are there exactly when the stream as a whole
is UTF-8. -/

namespace RiscvGloss.Command.Input

open Text

variable {bytes line : List UInt8}

/-- A piece of a stream without the newline at its end and a carriage return right before it. -/
def withoutEnd (piece : List UInt8) : List UInt8 :=
  if piece.getLast? = some newline then dropReturn piece.dropLast else piece

/-- The lines are the texts of the first pieces of the stream, each without its end, and the piece
that follows them, if there is one, is not UTF-8. -/
def LeadingLines (bytes : List UInt8) (lines : List String) : Prop :=
  ∃ rest, (cutAfter newline bytes).map withoutEnd = lines.map utf8 ++ rest ∧
    ∀ piece ∈ rest.head?, ¬IsUtf8 piece

theorem withoutEnd_append (line : List UInt8) :
    withoutEnd (line ++ [newline]) = dropReturn line := by
  simp [withoutEnd]

theorem withoutEnd_of_not_mem (h : newline ∉ line) : withoutEnd line = line := by
  rw [withoutEnd, if_neg]
  exact fun hlast => h (List.mem_of_getLast? hlast)

theorem splitLines_eq_cut (bytes : List UInt8) :
    splitLines bytes = (cut (· == newline) bytes).1.map dropReturn ++
      if (cut (· == newline) bytes).2.isEmpty then [] else [(cut (· == newline) bytes).2] :=
  rfl

theorem splitLines_eq (bytes : List UInt8) :
    splitLines bytes = (cutAfter newline bytes).map withoutEnd := by
  have hrest : newline ∉ (cut (· == newline) bytes).2 := not_mem_of_mem_cut (.inr rfl)
  rw [cutAfter_eq, splitLines_eq_cut, List.map_append, List.map_map]
  congr 1
  · exact List.map_congr_left fun line _ => (withoutEnd_append line).symm
  · split
    · rfl
    · rw [List.map_singleton, withoutEnd_of_not_mem hrest]

-- Only a carriage return before a newline goes.
example : (cutAfter newline [97, 13, 10, 10, 98, 13]).map withoutEnd = [[97], [], [98, 13]] := by
  decide

theorem isUtf8_dropReturn_iff : IsUtf8 (dropReturn line) ↔ IsUtf8 line := by
  unfold dropReturn
  split
  · rename_i hlast
    obtain ⟨front, rfl⟩ := List.getLast?_eq_some_iff.1 hlast
    rw [List.dropLast_concat, isUtf8_append_cons_iff (by decide)]
    exact ⟨fun h => ⟨h, isUtf8_nil⟩, And.left⟩
  · rfl

theorem mem_of_mem_dropReturn {byte : UInt8} (h : byte ∈ dropReturn line) : byte ∈ line := by
  unfold dropReturn at h
  split at h
  · exact List.dropLast_subset line h
  · exact h

theorem newline_not_mem_of_mem_splitLines (h : line ∈ splitLines bytes) : newline ∉ line := by
  rw [splitLines_eq_cut, List.mem_append] at h
  rcases h with h | h
  · obtain ⟨piece, hmem, rfl⟩ := List.mem_map.1 h
    exact fun hnewline => not_mem_of_mem_cut (.inl hmem) (mem_of_mem_dropReturn hnewline)
  · split at h
    · cases h
    · exact not_mem_of_mem_cut (.inr (List.mem_singleton.1 h))

/-- Pieces ended by newlines and a rest are UTF-8 together exactly when each of them is. -/
theorem isUtf8_flatMap_append_iff {pieces : List (List UInt8)} {rest : List UInt8} :
    IsUtf8 (pieces.flatMap (· ++ [newline]) ++ rest) ↔
      (∀ piece ∈ pieces, IsUtf8 piece) ∧ IsUtf8 rest := by
  induction pieces with
  | nil => simp
  | cons piece pieces ih =>
    rw [List.flatMap_cons, List.append_assoc, List.append_assoc, List.singleton_append,
      isUtf8_append_cons_iff (by decide), ih, List.forall_mem_cons, and_assoc]

theorem forall_mem_splitLines_isUtf8_iff :
    (∀ line ∈ splitLines bytes, IsUtf8 line) ↔ IsUtf8 bytes := by
  conv => rhs; rw [← flatMap_cut newline bytes, isUtf8_flatMap_append_iff]
  rw [splitLines_eq_cut, List.forall_mem_append, List.forall_mem_map]
  simp only [isUtf8_dropReturn_iff]
  refine and_congr_right fun _ => ?_
  split
  · rename_i hempty
    rw [List.isEmpty_iff.1 hempty]
    simpa using isUtf8_nil
  · exact List.forall_mem_singleton

/-- All lines are there exactly when the stream is UTF-8. -/
theorem complete_ofBytes_iff : (ofBytes bytes).complete = true ↔ IsUtf8 bytes := by
  rw [← forall_mem_splitLines_isUtf8_iff]
  simp [ofBytes, isSome_decode?_iff]

theorem exists_rest_of_takeWhile (pieces : List (List UInt8)) :
    ∃ rest,
      pieces = (((pieces.map decode?).takeWhile Option.isSome).filterMap id).map utf8 ++ rest ∧
      ∀ piece ∈ rest.head?, ¬IsUtf8 piece := by
  induction pieces with
  | nil => exact ⟨[], rfl, nofun⟩
  | cons piece pieces ih =>
    rw [List.map_cons]
    cases h : decode? piece with
    | none =>
      refine ⟨piece :: pieces, rfl, fun first hfirst => ?_⟩
      cases hfirst
      rw [← isSome_decode?_iff, h]
      exact Bool.false_ne_true
    | some text =>
      obtain ⟨rest, hrest, hhead⟩ := ih
      refine ⟨rest, ?_, hhead⟩
      rw [List.takeWhile_cons_of_pos rfl, List.filterMap_cons, id, List.map_cons,
        decode?_eq_some_iff.1 h, List.cons_append, ← hrest]

theorem leadingLines_ofBytes (bytes : List UInt8) : LeadingLines bytes (ofBytes bytes).lines := by
  rw [LeadingLines, ← splitLines_eq]
  exact exists_rest_of_takeWhile (splitLines bytes)

theorem newline_not_mem_of_leadingLines {lines : List String} (h : LeadingLines bytes lines) :
    ∀ line ∈ lines, '\n' ∉ line.toList := by
  intro line hmem hnewline
  obtain ⟨rest, heq, -⟩ := h
  rw [← splitLines_eq] at heq
  have hline : utf8 line ∈ splitLines bytes := by
    rw [heq, List.mem_append]
    exact .inl (List.mem_map_of_mem hmem)
  exact newline_not_mem_of_mem_splitLines hline (List.mem_flatMap.2 ⟨'\n', hnewline, by decide⟩)

end RiscvGloss.Command.Input
