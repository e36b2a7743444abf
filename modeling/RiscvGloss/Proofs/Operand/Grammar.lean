import Mathlib.Data.List.Basic
import Mathlib.Data.List.TakeWhile
import RiscvGloss.Operand.Read
import RiscvGloss.Proofs.Text.Trim

/-! The flat grammar of operand tokens: which texts are memory references, which start with an
integer literal, and what kind of operand a token without blanks reads as. -/

namespace RiscvGloss

/-- What may stand before the digits of a number. -/
def signs : List (List Char) := [[], ['+'], ['-']]

theorem Radix.isDigit_decimal (c : Char) : Radix.decimal.isDigit c = c.isDigit := by
  rw [Bool.eq_iff_iff]
  simp only [isDigit, digit?, digitValue?, Char.isDigit, base, Char.le_def,
    UInt32.le_iff_toNat_le, ge_iff_le]
  simp
  split
  · grind
  · split
    · grind
    · split <;> grind

theorem Radix.ofMark?_eq_hexadecimal_iff {mark : Char} :
    ofMark? mark = some .hexadecimal ↔ mark = 'x' ∨ mark = 'X' := by
  unfold ofMark?
  split <;> simp_all

theorem takeWhile_eq_nil_iff_head? {α : Type} {p : α → Bool} {xs : List α} :
    xs.takeWhile p = [] ↔ ∀ x ∈ xs.head?, p x = false := by
  cases xs with
  | nil => simp
  | cons x xs => by_cases h : p x <;> simp [h]

namespace Literal

/-- The mark of hexadecimal with no digit after it. -/
def IsBareMark (cs : List Char) : Prop :=
  ∃ mark rest, cs = '0' :: mark :: rest ∧ (mark = 'x' ∨ mark = 'X') ∧
    ∀ c ∈ rest.head?, Radix.hexadecimal.isDigit c = false

/-- The text starts with an integer literal: a sign or none, then a decimal digit, but not the mark
of hexadecimal alone. -/
def Starts (cs : List Char) : Prop :=
  ∃ sign ∈ signs, ∃ digit rest, cs = sign ++ digit :: rest ∧ Char.isDigit digit = true ∧
    ¬IsBareMark (digit :: rest)

theorem splitSign_append {sign : List Char} (hs : sign ∈ signs) {c : Char} {cs : List Char}
    (hc : c.isDigit = true) :
    splitSign (sign ++ c :: cs) = (decide (sign = ['-']), c :: cs) := by
  have hplus : c ≠ '+' := by rintro rfl; simp at hc
  have hminus : c ≠ '-' := by rintro rfl; simp at hc
  simp only [signs, List.mem_cons, List.not_mem_nil, or_false] at hs
  rcases hs with rfl | rfl | rfl
  · simp [splitSign, hplus, hminus]
  · rfl
  · rfl

theorem exists_sign (cs : List Char) : ∃ sign ∈ signs, cs = sign ++ (splitSign cs).2 ∧
    (splitSign cs).1 = decide (sign = ['-']) := by
  unfold splitSign
  split
  · exact ⟨['-'], by simp [signs], rfl, rfl⟩
  · exact ⟨['+'], by simp [signs], rfl, rfl⟩
  · exact ⟨[], by simp [signs], rfl, rfl⟩

theorem not_isBareMark_of_ne {mark : Char} {cs : List Char}
    (h : Radix.ofMark? mark ≠ some .hexadecimal) : ¬IsBareMark ('0' :: mark :: cs) := by
  rintro ⟨_, _, heq, hx, _⟩
  cases heq
  exact h (Radix.ofMark?_eq_hexadecimal_iff.2 hx)

/-- An unsigned text has digits at its start when it starts with a decimal digit, unless the mark
of hexadecimal stands there alone. -/
theorem digits_magnitude_eq_nil_iff {cs : List Char} :
    (magnitude cs).2 = [] ↔ (∀ c ∈ cs.head?, c.isDigit = false) ∨ IsBareMark cs := by
  have hdecimal : cs.takeWhile Radix.decimal.isDigit = [] ↔ ∀ c ∈ cs.head?, c.isDigit = false := by
    simp only [takeWhile_eq_nil_iff_head?, Radix.isDigit_decimal]
  unfold magnitude
  by_cases hmark : ∃ mark rest, cs = '0' :: mark :: rest
  · obtain ⟨mark, rest, rfl⟩ := hmark
    cases hradix : Radix.ofMark? mark with
    | none =>
      have hbare : ¬IsBareMark ('0' :: mark :: rest) := not_isBareMark_of_ne (by simp [hradix])
      simpa [marked?, hradix, hbare] using hdecimal
    | some radix =>
      by_cases hhex : radix = .hexadecimal
      · subst hhex
        have hx := Radix.ofMark?_eq_hexadecimal_iff.1 hradix
        have hbare : IsBareMark ('0' :: mark :: rest) ↔
            ∀ c ∈ rest.head?, Radix.hexadecimal.isDigit c = false :=
          ⟨fun ⟨_, _, heq, _, h⟩ => by cases heq; exact h, fun h => ⟨_, _, rfl, hx, h⟩⟩
        have hmarked : marked? ('0' :: mark :: rest) =
            some (.hexadecimal, rest.takeWhile Radix.hexadecimal.isDigit) := by
          simp [marked?, hradix]
        rw [hmarked, hbare, Option.getD_some, takeWhile_eq_nil_iff_head?]
        simp
      · have hbare : ¬IsBareMark ('0' :: mark :: rest) :=
          not_isBareMark_of_ne (by simp [hradix, hhex])
        by_cases hempty : rest.takeWhile radix.isDigit = []
        · simpa [marked?, hradix, hempty, hhex, hbare, -List.takeWhile_eq_nil_iff] using hdecimal
        · simp [marked?, hradix, hempty, hbare, -List.takeWhile_eq_nil_iff]
  · have hbare : ¬IsBareMark cs := fun ⟨mark, rest, h, _⟩ => hmark ⟨mark, rest, h⟩
    have hnone : marked? cs = none := by
      unfold marked?
      split
      · exact absurd ⟨_, _, rfl⟩ hmark
      · rfl
    simpa [hnone, hbare] using hdecimal

/-- Reading a literal succeeds exactly on the texts that start with one. -/
theorem isSome_read?_iff {cs : List Char} : (read? cs).isSome = true ↔ Starts cs := by
  have hread : (read? cs).isSome = true ↔ (magnitude (splitSign cs).2).2 ≠ [] := by
    simp only [read?]
    split <;> simp_all
  rw [hread, ne_eq, digits_magnitude_eq_nil_iff]
  constructor
  · intro h
    obtain ⟨sign, hs, hcs, -⟩ := exists_sign cs
    cases hu : (splitSign cs).2 with
    | nil => simp [hu] at h
    | cons digit rest =>
      simp only [hu, List.head?_cons, Option.mem_some_iff, forall_eq', not_or] at h
      exact ⟨sign, hs, digit, rest, by rw [← hu]; exact hcs, by simpa using h.1, h.2⟩
  · rintro ⟨sign, hs, digit, rest, rfl, hdigit, hbare⟩
    rw [splitSign_append hs hdigit]
    simp [hdigit, hbare]

end Literal

namespace Operand

/-- The text is a decimal number with at most one sign. -/
def IsNumber (cs : List Char) : Prop :=
  ∃ sign ∈ signs, ∃ digits, cs = sign ++ digits ∧ digits ≠ [] ∧ ∀ c ∈ digits, c.isDigit = true

/-- The text is a memory reference: a number, then a word of ASCII letters, digits and underscores
between parentheses. -/
def IsReference (offset base cs : List Char) : Prop :=
  cs = offset ++ '(' :: base ++ [')'] ∧ IsNumber offset ∧ base ≠ [] ∧
    ∀ c ∈ base, c.isAlphanum = true ∨ c = '_'

theorem isOffset_iff {cs : List Char} : isOffset cs = true ↔ IsNumber cs := by
  simp only [isOffset, Bool.and_eq_true, Bool.not_eq_true', List.isEmpty_eq_false_iff,
    List.all_eq_true]
  constructor
  · rintro ⟨hne, hall⟩
    obtain ⟨sign, hs, hcs, -⟩ := Literal.exists_sign cs
    exact ⟨sign, hs, _, hcs, hne, hall⟩
  · rintro ⟨sign, hs, digits, rfl, hne, hall⟩
    cases digits with
    | nil => exact absurd rfl hne
    | cons digit rest =>
      rw [Literal.splitSign_append hs (hall digit (by simp))]
      exact ⟨hne, hall⟩

theorem isWord_iff {cs : List Char} :
    isWord cs = true ↔ cs ≠ [] ∧ ∀ c ∈ cs, c.isAlphanum = true ∨ c = '_' := by
  simp [isWord, isWordChar]

theorem IsNumber.not_paren_mem {cs : List Char} (h : IsNumber cs) : '(' ∉ cs := by
  obtain ⟨sign, hs, digits, rfl, -, hall⟩ := h
  have hsign : '(' ∉ sign := by
    simp only [signs, List.mem_cons, List.not_mem_nil, or_false] at hs
    rcases hs with rfl | rfl | rfl <;> decide
  have hdigits : '(' ∉ digits := fun hmem => absurd (hall _ hmem) (by decide)
  simp [hsign, hdigits]

theorem memoryParts?_eq_some_iff {cs offset base : List Char} :
    memoryParts? cs = some (offset, base) ↔ IsReference offset base cs := by
  simp only [memoryParts?, Option.ite_none_right_eq_some, Option.some.injEq, Prod.mk.injEq,
    Bool.and_eq_true, isOffset_iff, isWord_iff, beq_iff_eq]
  constructor
  · rintro ⟨⟨⟨hoffset, hbase⟩, hlast⟩, rfl, rfl⟩
    refine ⟨?_, hoffset, hbase⟩
    have hinner := List.dropLast_append_getLast? _ hlast
    have hdrop : cs.drop (cs.takeWhile (· != '(')).length = cs.dropWhile (· != '(') := by
      conv => lhs; rw [← List.takeWhile_append_dropWhile (p := (· != '(')) (l := cs)]
      exact List.drop_left' (by simp)
    -- what follows the offset is not empty, so it starts with the character that ended the offset
    cases hrest : cs.dropWhile (· != '(') with
    | nil =>
      rw [← List.drop_drop, hdrop, hrest] at hlast
      simp at hlast
    | cons c rest =>
      have hc : c = '(' := by
        have := List.head?_dropWhile_not (· != '(') cs
        simpa [hrest] using this
      subst hc
      rw [← List.drop_drop, hdrop, hrest] at hinner ⊢
      rw [List.append_assoc, List.cons_append, hinner]
      simpa [hrest] using (List.takeWhile_append_dropWhile (p := (· != '(')) (l := cs)).symm
  · rintro ⟨rfl, hoffset, hbase⟩
    have htake : (offset ++ '(' :: base ++ [')']).takeWhile (· != '(') = offset := by
      have hpos : ∀ c ∈ offset, (c != '(') = true := fun c hc => by
        have := hoffset.not_paren_mem
        simpa using fun h : c = '(' => this (h ▸ hc)
      rw [List.append_assoc, List.takeWhile_append_of_pos hpos]
      simp
    have hinner : (offset ++ '(' :: base ++ [')']).drop (offset.length + 1) = base ++ [')'] := by
      rw [← List.drop_drop, List.append_assoc, List.drop_left]
      simp
    rw [htake, hinner]
    simpa using ⟨hoffset, hbase⟩

theorem IsReference.unique {offset offset' base base' cs : List Char}
    (h : IsReference offset base cs) (h' : IsReference offset' base' cs) :
    offset = offset' ∧ base = base' := by
  have := (memoryParts?_eq_some_iff.2 h).symm.trans (memoryParts?_eq_some_iff.2 h')
  simpa using this

/-- The token has an opening parenthesis and is no memory reference. -/
def IsMalformed (token : String) : Prop :=
  '(' ∈ token.toList ∧ ¬∃ offset base, IsReference offset base token.toList

/-- What a token without blanks reads as, by its characters: an ABI register name, a memory
reference, a text that starts with an integer literal, or anything else without an opening
parenthesis. -/
inductive Reads (token : String) : Operand → Prop
  | register (r : Register) (name : r.name = token) : Reads token (.register token r)
  | memory (offset base : List Char) (reference : IsReference offset base token.toList) :
      Reads token (.memory token (String.ofList offset) (String.ofList base))
  | immediate (plain : '(' ∉ token.toList) (literal : Literal.Starts token.toList) :
      Reads token (.immediate token)
  | label (plain : '(' ∉ token.toList) (noName : token ∉ Register.names)
      (noLiteral : ¬Literal.Starts token.toList) : Reads token (.label token)

theorem Reads.text_eq {token : String} {operand : Operand} (h : Reads token operand) :
    operand.text = token := by
  cases h <;> rfl

end Operand

namespace Register

theorem mem_names_iff {text : String} : text ∈ names ↔ ∃ r : Register, r.name = text := by
  constructor
  · intro h
    obtain ⟨i, rfl⟩ := List.get_of_mem h
    exact ⟨⟨i.cast length_names⟩, rfl⟩
  · rintro ⟨r, rfl⟩
    exact List.get_mem _ _

theorem isSome_ofName?_iff {text : String} : (ofName? text).isSome = true ↔ text ∈ names := by
  rw [mem_names_iff, Option.isSome_iff_exists]
  simp only [ofName?_eq_some_iff]

theorem idxOf_name (r : Register) : names.idxOf r.name = r.number := by
  rw [name, List.get_eq_getElem, nodup_names.idxOf_getElem]
  rfl

theorem no_literal_of_mem_names {text : String} (h : text ∈ names) :
    '(' ∉ text.toList ∧ Literal.read? text.toList = none := by
  revert text
  decide

end Register

namespace Operand

theorem IsReference.paren_mem {offset base cs : List Char} (h : IsReference offset base cs) :
    '(' ∈ cs := by
  simp [h.1]

/-- The tokens that read as registers are the ABI names. -/
theorem Reads.mem_names_iff {token : String} {operand : Operand} (h : Reads token operand) :
    token ∈ Register.names ↔ operand.kind = .register := by
  cases h with
  | register r name => simp [Register.mem_names_iff.2 ⟨r, name⟩, kind]
  | memory offset base reference =>
    have hno : token ∉ Register.names := fun hname =>
      (Register.no_literal_of_mem_names hname).1 reference.paren_mem
    simp [hno, kind]
  | immediate plain literal =>
    have hno : token ∉ Register.names := fun hname => by
      have := Literal.isSome_read?_iff.2 literal
      simp [(Register.no_literal_of_mem_names hname).2] at this
    simp [hno, kind]
  | label plain noName => simp [noName, kind]

/-- Every token that is not malformed reads as some operand. -/
theorem exists_reads_iff {token : String} :
    (∃ operand, Reads token operand) ↔ ¬IsMalformed token := by
  constructor
  · rintro ⟨operand, h⟩ ⟨hp, hno⟩
    cases h with
    | register r name =>
      exact (Register.no_literal_of_mem_names (Register.mem_names_iff.2 ⟨r, name⟩)).1 hp
    | memory offset base reference => exact hno ⟨offset, base, reference⟩
    | immediate plain | label plain => exact plain hp
  · intro h
    by_cases hp : '(' ∈ token.toList
    · obtain ⟨offset, base, hparts⟩ := not_not.1 fun hno => h ⟨hp, hno⟩
      exact ⟨_, .memory offset base hparts⟩
    · by_cases hname : token ∈ Register.names
      · obtain ⟨r, hr⟩ := Register.mem_names_iff.1 hname
        exact ⟨_, .register r hr⟩
      · by_cases hliteral : Literal.Starts token.toList
        · exact ⟨_, .immediate hp hliteral⟩
        · exact ⟨_, .label hp hname hliteral⟩

theorem read_of_paren {token text : String} (ht : String.ofList (Text.trim token.toList) = text)
    (hp : '(' ∈ text.toList) :
    read token = match memoryParts? text.toList with
      | some (offset, base) => .ok (memory text (String.ofList offset) (String.ofList base))
      | none => .error (.malformedMemory text) := by
  subst ht
  rw [String.toList_ofList] at hp ⊢
  exact if_pos (List.contains_iff_mem.2 hp)

theorem read_of_no_paren {token text : String}
    (ht : String.ofList (Text.trim token.toList) = text) (hp : '(' ∉ text.toList) :
    read token = match Register.ofName? text with
      | some r => .ok (register text r)
      | none =>
        .ok (if (Literal.read? text.toList).isSome then immediate text else label text) := by
  subst ht
  rw [String.toList_ofList] at hp ⊢
  exact if_neg fun h => hp (List.contains_iff_mem.1 h)

theorem read_eq_ok_iff {token text : String} {operand : Operand}
    (ht : String.ofList (Text.trim token.toList) = text) :
    read token = .ok operand ↔ Reads text operand := by
  by_cases hp : '(' ∈ text.toList
  · rw [read_of_paren ht hp]
    constructor
    · intro h
      split at h
      · rename_i offset base hparts
        cases h
        exact .memory offset base (memoryParts?_eq_some_iff.1 hparts)
      · cases h
    · intro h
      cases h with
      | register r name =>
        exact absurd hp (Register.no_literal_of_mem_names (Register.mem_names_iff.2 ⟨r, name⟩)).1
      | memory offset base reference => simp [memoryParts?_eq_some_iff.2 reference]
      | immediate plain | label plain => exact absurd hp plain
  · rw [read_of_no_paren ht hp]
    constructor
    · intro h
      split at h
      · rename_i r hr
        cases h
        exact .register r (Register.ofName?_eq_some_iff.1 hr)
      · rename_i hr
        have hname : text ∉ Register.names := by simp [← Register.isSome_ofName?_iff, hr]
        split at h
        · rename_i hl
          cases h
          exact .immediate hp (Literal.isSome_read?_iff.1 hl)
        · rename_i hl
          cases h
          exact .label hp hname (hl ∘ Literal.isSome_read?_iff.2)
    · intro h
      cases h with
      | register r name => simp [Register.ofName?_eq_some_iff.2 name]
      | memory offset base reference => exact absurd reference.paren_mem hp
      | immediate plain literal =>
        have hname : Register.ofName? text = none := by
          by_contra hne
          have hmem := Register.isSome_ofName?_iff.1 (Option.isSome_iff_ne_none.2 hne)
          have := Literal.isSome_read?_iff.2 literal
          simp [(Register.no_literal_of_mem_names hmem).2] at this
        simp [hname, Literal.isSome_read?_iff.2 literal]
      | label plain noName noLiteral =>
        have hname : Register.ofName? text = none := by
          simpa [← Register.isSome_ofName?_iff] using noName
        have hread : ¬(Literal.read? text.toList).isSome = true :=
          noLiteral ∘ Literal.isSome_read?_iff.1
        simp [hname, hread]

/-- Only malformed tokens are rejected, and the rejection gives the token without its blanks. -/
theorem read_eq_error_iff {token text : String} {reason : Rejection}
    (ht : String.ofList (Text.trim token.toList) = text) :
    read token = .error reason ↔ IsMalformed text ∧ reason = .malformedMemory text := by
  by_cases hp : '(' ∈ text.toList
  · rw [read_of_paren ht hp]
    cases hparts : memoryParts? text.toList with
    | none =>
      have hno : ¬∃ offset base, IsReference offset base text.toList := by
        rintro ⟨offset, base, h⟩
        simp [memoryParts?_eq_some_iff.2 h] at hparts
      simp [IsMalformed, hp, hno, eq_comm]
    | some parts =>
      have href : ∃ offset base, IsReference offset base text.toList :=
        ⟨parts.1, parts.2, memoryParts?_eq_some_iff.1 hparts⟩
      simp [IsMalformed, href]
  · rw [read_of_no_paren ht hp]
    constructor
    · intro h
      split at h <;> cases h
    · exact fun h => absurd h.1.1 hp

theorem trim_token {token : String} (h : ∀ c ∈ token.toList, Text.isBlank c = false) :
    String.ofList (Text.trim token.toList) = token := by
  rw [Text.trim_eq_self h, String.ofList_toList]

end Operand

end RiscvGloss
