import RiscvGloss.Text.Blank

/-! Words: the parts of a text between single spaces. A text that joins words without blanks by
single spaces falls into exactly these words. -/

namespace RiscvGloss.Text

/-- The text holds no blank. -/
def Blankless (text : String) : Prop :=
  ∀ c ∈ text.toList, isBlank c = false

-- The list decides this and not the type of characters, which is finite but large.
instance : DecidablePred Blankless :=
  fun text => List.decidableBAll (fun c => isBlank c = false) text.toList

theorem Blankless.append {text text' : String} (h : Blankless text) (h' : Blankless text') :
    Blankless (text ++ text') := by
  intro c hc
  rw [String.toList_append, List.mem_append] at hc
  exact hc.elim (h c) (h' c)

theorem Blankless.of_append {text text' : String} (h : Blankless (text ++ text')) :
    Blankless text ∧ Blankless text' :=
  ⟨fun c hc => h c (by simp [hc]), fun c hc => h c (by simp [hc])⟩

theorem Blankless.not_mem {text : String} (h : Blankless text) {c : Char} (hc : isBlank c = true) :
    c ∉ text.toList := fun hmem => by
  simp [h c hmem] at hc

/-- The words of a text, empty ones included. -/
def words (text : String) : List String :=
  (text.toList.splitOn ' ').map String.ofList

theorem words_append (text text' : String) :
    words (text ++ " " ++ text') = words text ++ words text' := by
  rw [words, String.toList_append, String.toList_append]
  change ((text.toList ++ [' '] ++ text'.toList).splitOn ' ').map String.ofList = _
  rw [List.append_assoc, List.singleton_append, List.splitOn_append_cons_self, List.map_append]
  rfl

theorem words_of_blankless {text : String} (h : Blankless text) : words text = [text] := by
  rw [words, List.splitOn_eq_singleton (h.not_mem (by decide)), List.map_singleton,
    String.ofList_toList]

theorem words_intercalate {parts : List String} (hne : parts ≠ [])
    (h : ∀ part ∈ parts, Blankless part) : words (" ".intercalate parts) = parts := by
  rw [words, String.toList_intercalate]
  change (([' '].intercalate (parts.map String.toList)).splitOn ' ').map String.ofList = _
  rw [List.splitOn_intercalate ' ' ?_ (by simpa using hne)]
  · simp [Function.comp_def]
  · intro part hpart
    obtain ⟨part, hmem, rfl⟩ := List.mem_map.1 hpart
    exact (h part hmem).not_mem (by decide)

theorem infix_intercalate {separator part : String} {parts : List String} (h : part ∈ parts) :
    part.toList <:+: (separator.intercalate parts).toList := by
  induction parts with
  | nil => cases h
  | cons first rest ih =>
    by_cases hnil : rest = []
    · subst hnil
      rw [List.mem_singleton] at h
      simp [h]
    · rw [String.intercalate_cons_of_ne_nil hnil, String.toList_append, String.toList_append]
      rcases List.mem_cons.1 h with rfl | hrest
      · rw [List.append_assoc]
        exact List.infix_append' [] _ _
      · exact (ih hrest).trans (List.suffix_append _ _).isInfix

/-- The last word of a text takes up what is appended without a blank. -/
theorem exists_words_append (text : String) {rest : String} (h : Blankless rest) :
    ∃ front last, words (text ++ rest) = front ++ [last ++ rest] := by
  have hsplit : ∀ cs : List Char, ∃ front last,
      (cs ++ rest.toList).splitOn ' ' = front ++ [last ++ rest.toList] := by
    intro cs
    induction cs with
    | nil =>
      have hspace : ' ' ∉ rest.toList := h.not_mem (by decide)
      exact ⟨[], [], by simp [List.splitOn_eq_singleton hspace]⟩
    | cons c cs ih =>
      obtain ⟨front, last, ih⟩ := ih
      rw [List.cons_append, List.splitOn_cons_eq_if_modifyHead, ih]
      split
      · exact ⟨[] :: front, last, rfl⟩
      · cases front with
        | nil => exact ⟨[], c :: last, rfl⟩
        | cons word front => exact ⟨(c :: word) :: front, last, rfl⟩
  obtain ⟨front, last, hwords⟩ := hsplit text.toList
  refine ⟨front.map String.ofList, String.ofList last, ?_⟩
  rw [words, String.toList_append, hwords, List.map_append, List.map_singleton,
    String.ofList_append, String.ofList_toList]

/-- Every blank of the text is a space. -/
def Spaced (text : String) : Prop :=
  ∀ c ∈ text.toList, isBlank c = true → c = ' '

instance : DecidablePred Spaced :=
  fun text => List.decidableBAll (fun c => isBlank c = true → c = ' ') text.toList

theorem Blankless.spaced {text : String} (h : Blankless text) : Spaced text :=
  fun c hc hblank => absurd hblank (by simp [h c hc])

theorem Spaced.append {text text' : String} (h : Spaced text) (h' : Spaced text') :
    Spaced (text ++ text') := by
  intro c hc
  rw [String.toList_append, List.mem_append] at hc
  exact hc.elim (h c) (h' c)

theorem Spaced.newline_not_mem {text : String} (h : Spaced text) : '\n' ∉ text.toList :=
  fun hmem => absurd (h _ hmem (by decide)) (by decide)

theorem spaced_intercalate {parts : List String} (h : ∀ part ∈ parts, Blankless part) :
    Spaced (" ".intercalate parts) := by
  induction parts with
  | nil => decide
  | cons part rest ih =>
    obtain ⟨hpart, hrest⟩ := List.forall_mem_cons.1 h
    by_cases hnil : rest = []
    · subst hnil
      simpa using hpart.spaced
    · rw [String.intercalate_cons_of_ne_nil hnil]
      exact (hpart.spaced.append (by decide)).append (ih hrest)

theorem isBlank_of_isDigit {c : Char} (h : c.isDigit = true) : isBlank c = false := by
  have hdigit := Char.isDigit_iff_toNat.1 h
  have hranges : ∀ range ∈ blanks, range.last < '0'.toNat ∨ '9'.toNat < range.first := by decide
  rw [← Bool.not_eq_true, isBlank, inRanges_iff]
  rintro ⟨range, hmem, hlow, hhigh⟩
  have := hranges range hmem
  omega

theorem isDigit_of_mem_toString {n : Nat} {c : Char} (h : c ∈ (toString n).toList) :
    c.isDigit = true := by
  rw [Nat.toString_eq_repr, Nat.toList_repr] at h
  exact Nat.isDigit_of_mem_toDigits (by decide) (by decide) h

theorem blankless_toString (n : Nat) : Blankless (toString n) :=
  fun _ hc => isBlank_of_isDigit (isDigit_of_mem_toString hc)

end RiscvGloss.Text
