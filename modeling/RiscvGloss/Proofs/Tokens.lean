import RiscvGloss.Proofs.Text.Trim
import RiscvGloss.Tokens

/-! Tokens and layouts. A line lays out its tokens with separators before, between and after them,
and no other texts without separators; so each layout of some tokens gives back these tokens. The
tokens are also what is left of a line that is trimmed, has its commas replaced by blanks, and is
cut at the blanks. -/

namespace RiscvGloss

section Parts

variable {α : Type} {p q : α → Bool} {x : α} {xs ys gap : List α}

/-- The pieces between separators that hold something. -/
def parts (p : α → Bool) (xs : List α) : List (List α) :=
  (xs.splitOnP p).filter (!·.isEmpty)

theorem pieces_eq_splitOnP : Text.pieces p xs = xs.splitOnP p := by
  induction xs with
  | nil => rfl
  | cons x xs ih =>
    rw [List.splitOnP_cons_eq_if_modifyHead, ← ih]
    split
    · rename_i hx
      exact Text.pieces_cons_separator hx
    · rename_i hx
      exact Text.pieces_cons_of_not (by simpa using hx)

@[simp] theorem parts_nil : parts p [] = [] := rfl

/-- A separator cuts a list in two whose parts have nothing to do with each other. -/
theorem parts_append_cons (hx : p x = true) (xs ys : List α) :
    parts p (xs ++ x :: ys) = parts p xs ++ parts p ys := by
  rw [parts, List.splitOnP_append_cons xs ys hx, List.filter_append, parts, parts]

theorem parts_of_forall_not (hne : xs ≠ []) (h : ∀ x ∈ xs, p x = false) : parts p xs = [xs] := by
  rw [parts, List.splitOnP_eq_singleton h]
  simp [hne]

theorem parts_gap_append (hgap : ∀ x ∈ gap, p x = true) (xs : List α) :
    parts p (gap ++ xs) = parts p xs := by
  induction gap with
  | nil => rfl
  | cons x gap ih =>
    obtain ⟨hx, hgap⟩ := List.forall_mem_cons.1 hgap
    exact (parts_append_cons hx [] (gap ++ xs)).trans (ih hgap)

theorem parts_append_gap (hgap : ∀ x ∈ gap, p x = true) (xs : List α) :
    parts p (xs ++ gap) = parts p xs := by
  cases gap with
  | nil => rw [List.append_nil]
  | cons x gap =>
    obtain ⟨hx, hgap⟩ := List.forall_mem_cons.1 hgap
    have hrest : parts p gap = [] := by simpa using parts_gap_append hgap []
    rw [parts_append_cons hx, hrest, List.append_nil]

/-- A change of separators among each other leaves the parts as they are. -/
theorem parts_map {f : α → α} (hf : ∀ x, q (f x) = p x) (hkeep : ∀ x, p x = false → f x = x)
    (xs : List α) : parts q (xs.map f) = parts p xs := by
  have hsplit : (xs.map f).splitOnP q = xs.splitOnP p := by
    induction xs with
    | nil => rfl
    | cons x xs ih =>
      rw [List.map_cons, List.splitOnP_cons_eq_if_modifyHead, List.splitOnP_cons_eq_if_modifyHead,
        hf, ih]
      split
      · rfl
      · rename_i hx
        rw [hkeep x (by simpa using hx)]
  rw [parts, parts, hsplit]

end Parts

theorem tokens_eq_parts (line : String) :
    tokens line = (parts isSeparator line.toList).map String.ofList := by
  rw [tokens, pieces_eq_splitOnP, parts]

/-- The text is made of separators, commas and blanks in any order. -/
def IsGap (cs : List Char) : Prop :=
  ∀ c ∈ cs, c = ',' ∨ Text.isBlank c = true

/-- The text holds something, and no separator. -/
def IsToken (cs : List Char) : Prop :=
  cs ≠ [] ∧ ∀ c ∈ cs, c ≠ ',' ∧ Text.isBlank c = false

/-- The words one after another, each with a gap after it, which only the last word can do
without. -/
inductive Joined : List (List Char) → List Char → Prop
  | nil : Joined [] []
  | cons {words : List (List Char)} {text : List Char} (word gap : List Char) (isGap : IsGap gap)
      (apart : words = [] ∨ gap ≠ []) (rest : Joined words text) :
      Joined (word :: words) (word ++ (gap ++ text))

/-- The line joins the words, after a gap that may be empty. -/
def LaysOut (line : String) (words : List String) : Prop :=
  ∃ before text, IsGap before ∧ Joined (words.map String.toList) text ∧
    line.toList = before ++ text

theorem isSeparator_iff {c : Char} : isSeparator c = true ↔ c = ',' ∨ Text.isBlank c = true := by
  simp [isSeparator]

theorem isSeparator_eq_false_iff {c : Char} :
    isSeparator c = false ↔ c ≠ ',' ∧ Text.isBlank c = false := by
  simp [isSeparator]

section

variable {cs text : List Char} {words : List (List Char)}

theorem IsGap.isSeparator (h : IsGap cs) : ∀ c ∈ cs, isSeparator c = true :=
  fun c hc => isSeparator_iff.2 (h c hc)

theorem IsToken.not_isSeparator (h : IsToken cs) : ∀ c ∈ cs, isSeparator c = false :=
  fun c hc => isSeparator_eq_false_iff.2 (h.2 c hc)

/-- Words that are tokens are the parts of every text that joins them. -/
theorem Joined.parts_eq (h : Joined words text) (hwords : ∀ word ∈ words, IsToken word) :
    parts isSeparator text = words := by
  induction h with
  | nil => rfl
  | @cons words text word gap isGap apart rest ih =>
    obtain ⟨hword, hwords⟩ := List.forall_mem_cons.1 hwords
    have hpart : parts isSeparator word = [word] :=
      parts_of_forall_not hword.1 hword.not_isSeparator
    cases gap with
    | nil =>
      -- without a gap after it this is the last word, and nothing follows
      obtain rfl : words = [] := by simpa using apart
      cases rest
      simpa using hpart
    | cons c gap =>
      obtain ⟨hc, hgap⟩ := List.forall_mem_cons.1 isGap.isSeparator
      rw [List.cons_append, parts_append_cons hc, hpart, parts_gap_append hgap, ih hwords]
      rfl

/-- Every text is a gap and then tokens that are joined: a character is put in front as a separator,
as the start of the first token, or as a token of its own. -/
theorem exists_joined (cs : List Char) : ∃ before text words, cs = before ++ text ∧ IsGap before ∧
    Joined words text ∧ ∀ word ∈ words, IsToken word := by
  induction cs with
  | nil => exact ⟨[], [], [], rfl, nofun, .nil, nofun⟩
  | cons c cs ih =>
    obtain ⟨before, text, words, rfl, hbefore, hjoined, hwords⟩ := ih
    by_cases hc : c = ',' ∨ Text.isBlank c = true
    · exact ⟨c :: before, text, words, rfl, List.forall_mem_cons.2 ⟨hc, hbefore⟩, hjoined, hwords⟩
    have hchar : c ≠ ',' ∧ Text.isBlank c = false := by simpa using hc
    have hsingle : IsToken [c] := ⟨by simp, by simpa using hchar⟩
    cases before with
    | cons b before =>
      refine ⟨[], c :: (b :: before ++ text), [c] :: words, rfl, nofun, ?_, ?_⟩
      · exact .cons [c] (b :: before) hbefore (.inr (by simp)) hjoined
      · exact List.forall_mem_cons.2 ⟨hsingle, hwords⟩
    | nil =>
      cases hjoined with
      | nil =>
        refine ⟨[], [c], [[c]], rfl, nofun, ?_, by simpa using hsingle⟩
        exact .cons [c] [] nofun (.inl rfl) .nil
      | @cons words text word gap isGap apart rest =>
        obtain ⟨hword, hwords⟩ := List.forall_mem_cons.1 hwords
        refine ⟨[], c :: (word ++ (gap ++ text)), (c :: word) :: words, rfl, nofun, ?_, ?_⟩
        · exact .cons (c :: word) gap isGap apart rest
        · refine List.forall_mem_cons.2 ⟨⟨by simp, ?_⟩, hwords⟩
          exact List.forall_mem_cons.2 ⟨hchar, hword.2⟩

end

section

variable {line : String} {words : List String}

theorem tokens_eq_of_laysOut (h : LaysOut line words)
    (hwords : ∀ word ∈ words, IsToken word.toList) : tokens line = words := by
  obtain ⟨before, text, hbefore, hjoined, hline⟩ := h
  rw [tokens_eq_parts, hline, parts_gap_append hbefore.isSeparator,
    hjoined.parts_eq (List.forall_mem_map.2 hwords), List.map_map]
  simp [Function.comp_def]

theorem exists_laysOut (line : String) :
    ∃ words, LaysOut line words ∧ ∀ word ∈ words, IsToken word.toList := by
  obtain ⟨before, text, words, hline, hbefore, hjoined, hwords⟩ := exists_joined line.toList
  have hlists : (words.map String.ofList).map String.toList = words := by
    simp [Function.comp_def]
  refine ⟨words.map String.ofList, ⟨before, text, hbefore, hlists.symm ▸ hjoined, hline⟩, ?_⟩
  simpa [List.forall_mem_map] using hwords

end

/-- Spaces in the place of commas. -/
def spaceForComma (c : Char) : Char :=
  if c = ',' then ' ' else c

/-- The tokens of a line in three steps: the line is trimmed, its commas are replaced by spaces, and
it is cut at the blanks, without the empty pieces. -/
def tokensByTrimming (line : String) : List String :=
  ((((Text.trim line.toList).map spaceForComma).splitOnP Text.isBlank).filter (!·.isEmpty)).map
    String.ofList

theorem tokens_eq_tokensByTrimming (line : String) : tokens line = tokensByTrimming line := by
  obtain ⟨before, after, hline, hblank, -, -⟩ := Text.isTrimOf_trim line.toList
  obtain ⟨hbefore, hafter⟩ := List.forall_mem_append.1 hblank
  have hgap {cs : List Char} (h : ∀ c ∈ cs, Text.isBlank c = true) :
      ∀ c ∈ cs, isSeparator c = true :=
    IsGap.isSeparator fun c hc => .inr (h c hc)
  have hspace (c : Char) : Text.isBlank (spaceForComma c) = isSeparator c := by
    by_cases hc : c = ','
    · subst hc
      decide
    · simp [spaceForComma, isSeparator, hc]
  have hkeep (c : Char) (hc : isSeparator c = false) : spaceForComma c = c :=
    if_neg (isSeparator_eq_false_iff.1 hc).1
  have htrim : parts isSeparator line.toList = parts isSeparator (Text.trim line.toList) := by
    rw [hline, parts_append_gap (hgap hafter), parts_gap_append (hgap hbefore), ← hline]
  rw [tokens_eq_parts, htrim, ← parts_map hspace hkeep]
  rfl

/-- The tokens of a line are the only texts without separators that the line lays out, so a line
made of tokens and gaps in any way gives back exactly these tokens, and every line is made of its
own in this way. They are also what the three steps give. -/
theorem tokens_eq_iff_laysOut (line : String) :
    (∀ words, tokens line = words ↔
      (∀ word ∈ words, IsToken word.toList) ∧ LaysOut line words) ∧
    tokens line = tokensByTrimming line := by
  refine ⟨fun words => ⟨?_, fun h => tokens_eq_of_laysOut h.2 h.1⟩,
    tokens_eq_tokensByTrimming line⟩
  rintro rfl
  obtain ⟨words, hlays, hwords⟩ := exists_laysOut line
  rw [tokens_eq_of_laysOut hlays hwords]
  exact ⟨hwords, hlays⟩

-- The last character of the third token is no blank, although it has no width.
example : tokens "\u3000,add\u2028,,t0,t1\u200B\u0085,\t" = ["add", "t0", "t1\u200B"] := by
  decide +kernel

end RiscvGloss
