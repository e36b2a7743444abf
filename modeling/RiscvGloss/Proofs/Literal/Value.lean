import RiscvGloss.Operand
import RiscvGloss.Proofs.Literal.Number
import RiscvGloss.Proofs.Operand.Grammar

/-! The literal that a text starts with, by its grammar, and the value of an immediate. -/

namespace RiscvGloss

namespace Radix

/-- The letters that mark digits of this radix after a zero. Decimal digits have no mark. -/
def marks : Radix → List Char
  | binary => ['b', 'B']
  | octal => ['o', 'O']
  | decimal => []
  | hexadecimal => ['x', 'X']

/-- The text starts with these digits of the radix, and no further digit follows them. -/
def IsRun (radix : Radix) (digits cs : List Char) : Prop :=
  ∃ rest, cs = digits ++ rest ∧ (∀ c ∈ digits, weight c < radix.base) ∧
    ∀ c ∈ rest.head?, radix.base ≤ weight c

variable {radix : Radix} {mark : Char} {digits cs : List Char}

theorem mem_marks_iff : mark ∈ radix.marks ↔ ofMark? mark = some radix := by
  unfold ofMark?
  cases radix <;> split <;> simp_all [marks]

theorem takeWhile_isDigit_eq_nil_iff :
    cs.takeWhile radix.isDigit = [] ↔ ∀ c ∈ cs.head?, radix.base ≤ weight c := by
  simp only [takeWhile_eq_nil_iff_head?, ← Bool.not_eq_true, isDigit_iff, Nat.not_lt]

theorem isRun_iff : radix.IsRun digits cs ↔ cs.takeWhile radix.isDigit = digits := by
  constructor
  · rintro ⟨rest, rfl, hdigits, hrest⟩
    have hall : ∀ c ∈ digits, radix.isDigit c = true := fun c hc => isDigit_iff.2 (hdigits c hc)
    rw [List.takeWhile_append_of_pos hall, takeWhile_isDigit_eq_nil_iff.2 hrest, List.append_nil]
  · rintro rfl
    refine ⟨cs.dropWhile radix.isDigit, List.takeWhile_append_dropWhile.symm, ?_, ?_⟩
    · exact fun c hc => isDigit_iff.1 (List.mem_takeWhile_imp hc)
    · intro c hc
      have hnot : radix.isDigit c = false := by
        simpa [Option.mem_def.1 hc] using List.head?_dropWhile_not radix.isDigit cs
      rw [← Nat.not_lt, ← isDigit_iff, hnot]
      exact Bool.false_ne_true

end Radix

namespace Literal

/-- The radix and the digits at the start of an unsigned text. A mark counts if a digit of its radix
follows it. Digits without such a mark are decimal, but those after the mark of hexadecimal never
are. -/
inductive IsMagnitude (cs : List Char) : Radix → List Char → Prop
  | marked (radix : Radix) (mark : Char) (rest digits : List Char)
      (split : cs = '0' :: mark :: rest) (marks : mark ∈ radix.marks)
      (run : radix.IsRun digits rest) (nonempty : digits ≠ []) : IsMagnitude cs radix digits
  | plain (digits : List Char)
      (unmarked : ∀ radix mark rest, cs = '0' :: mark :: rest → mark ∈ Radix.marks radix →
        radix ≠ .hexadecimal ∧ ∀ c ∈ rest.head?, radix.base ≤ weight c)
      (run : Radix.decimal.IsRun digits cs) (nonempty : digits ≠ []) :
      IsMagnitude cs .decimal digits

/-- The text starts with this literal: a sign or none, then its magnitude. -/
def IsAtStart (literal : Literal) (cs : List Char) : Prop :=
  ∃ sign ∈ signs, ∃ unsigned, cs = sign ++ unsigned ∧
    literal.negative = decide (sign = ['-']) ∧
    IsMagnitude unsigned literal.radix literal.digits

/-- The number that the digits of a literal denote, without the sign. -/
def number (literal : Literal) : Nat :=
  literal.radix.number literal.digits

variable {literal : Literal} {radix : Radix} {digits cs : List Char}

theorem marked?_eq_some_iff : marked? cs = some (radix, digits) ↔
    ∃ mark rest, cs = '0' :: mark :: rest ∧ mark ∈ radix.marks ∧ radix.IsRun digits rest ∧
      (digits = [] → radix = .hexadecimal) := by
  constructor
  · intro h
    unfold marked? at h
    split at h
    · rename_i mark rest
      obtain ⟨radix', hradix, h⟩ := Option.bind_eq_some_iff.1 h
      simp only at h
      split at h
      · cases h
      · rename_i hdigits
        cases h
        refine ⟨mark, rest, rfl, Radix.mem_marks_iff.2 hradix, Radix.isRun_iff.2 rfl, ?_⟩
        intro hempty
        simpa [hempty] using hdigits
    · cases h
  · rintro ⟨mark, rest, rfl, hmark, hrun, hhex⟩
    have hdigits := Radix.isRun_iff.1 hrun
    simp only [marked?, Radix.mem_marks_iff.1 hmark, Option.bind_eq_bind, Option.bind_some, hdigits]
    rw [if_neg]
    simpa using hhex

theorem isMagnitude_iff :
    IsMagnitude cs radix digits ↔ magnitude cs = (radix, digits) ∧ digits ≠ [] := by
  rw [magnitude]
  constructor
  · intro h
    cases h with
    | marked _ mark rest _ split marks run nonempty =>
      rw [marked?_eq_some_iff.2 ⟨mark, rest, split, marks, run, fun h => absurd h nonempty⟩]
      exact ⟨rfl, nonempty⟩
    | plain _ unmarked run nonempty =>
      have hnone : marked? cs = none := by
        by_contra hsome
        obtain ⟨⟨radix, digits⟩, hmarked⟩ := Option.ne_none_iff_exists'.1 hsome
        obtain ⟨mark, rest, split, marks, hrun, hhex⟩ := marked?_eq_some_iff.1 hmarked
        obtain ⟨hne, hrest⟩ := unmarked radix mark rest split marks
        rw [Radix.isRun_iff, Radix.takeWhile_isDigit_eq_nil_iff.2 hrest] at hrun
        exact hne (hhex hrun.symm)
      rw [hnone, Option.getD_none, Radix.isRun_iff.1 run]
      exact ⟨rfl, nonempty⟩
  · rintro ⟨h, nonempty⟩
    cases hmarked : marked? cs with
    | none =>
      rw [hmarked] at h
      cases h
      refine .plain _ ?_ (Radix.isRun_iff.2 rfl) nonempty
      intro radix mark rest split marks
      rw [← Radix.takeWhile_isDigit_eq_nil_iff]
      by_contra hnot
      have hsome := marked?_eq_some_iff.2 ⟨mark, rest, split, marks, Radix.isRun_iff.2 rfl, ?_⟩
      · simp [hmarked] at hsome
      · intro hempty
        by_contra hne
        exact hnot ⟨hne, hempty⟩
    | some parts =>
      rw [hmarked] at h
      cases h
      obtain ⟨mark, rest, split, marks, run, -⟩ := marked?_eq_some_iff.1 hmarked
      exact .marked _ mark rest _ split marks run nonempty

theorem IsMagnitude.weight_lt (h : IsMagnitude cs radix digits) :
    ∀ c ∈ digits, weight c < radix.base := by
  cases h with
  | marked _ _ _ _ _ _ run | plain _ _ run =>
    obtain ⟨-, -, hdigits, -⟩ := run
    exact hdigits

theorem IsMagnitude.exists_digit (h : IsMagnitude cs radix digits) :
    ∃ c rest, cs = c :: rest ∧ c.isDigit = true := by
  cases h with
  | marked _ mark rest _ split => exact ⟨'0', mark :: rest, split, rfl⟩
  | plain _ _ run nonempty =>
    obtain ⟨rest, rfl, hdigits, -⟩ := run
    obtain ⟨c, more, rfl⟩ := List.exists_cons_of_ne_nil nonempty
    refine ⟨c, more ++ rest, rfl, ?_⟩
    rw [← Radix.isDigit_decimal, Radix.isDigit_iff]
    exact hdigits c (by simp)

theorem read?_eq_some_iff_magnitude : read? cs = some literal ↔
    literal.negative = (splitSign cs).1 ∧
      IsMagnitude (splitSign cs).2 literal.radix literal.digits := by
  obtain ⟨negative, radix, digits⟩ := literal
  simp only [isMagnitude_iff, read?]
  constructor
  · intro h
    split at h
    · cases h
    · rename_i hdigits
      cases h
      exact ⟨rfl, rfl, by simpa using hdigits⟩
  · rintro ⟨rfl, hmagnitude, hdigits⟩
    rw [hmagnitude, if_neg (by simpa using hdigits)]

/-- Reading finds the literal that the text starts with. -/
theorem read?_eq_some_iff : read? cs = some literal ↔ literal.IsAtStart cs := by
  rw [read?_eq_some_iff_magnitude]
  constructor
  · rintro ⟨hnegative, hmagnitude⟩
    obtain ⟨sign, hs, hcs, hsign⟩ := exists_sign cs
    exact ⟨sign, hs, _, hcs, hnegative.trans hsign, hmagnitude⟩
  · rintro ⟨sign, hs, unsigned, rfl, hnegative, hmagnitude⟩
    obtain ⟨c, rest, rfl, hc⟩ := hmagnitude.exists_digit
    rw [splitSign_append hs hc]
    exact ⟨hnegative, hmagnitude⟩

/-- The number that a literal denotes, with its sign. -/
def signedNumber (literal : Literal) : Int :=
  if literal.negative then -literal.number else literal.number

/-- The number of a literal is negated without an overflow, because it is not negative itself. -/
theorem toInt_neg {word : Int64} (h : 0 ≤ word.toInt) : (-word).toInt = -word.toInt := by
  have hlt := word.toInt_lt
  rw [Int64.toInt_neg, Int.bmod_eq_of_le] <;> omega

theorem map_toInt_value? (h : literal.IsAtStart cs) : literal.value?.map Int64.toInt =
    if literal.number ≤ 2 ^ 63 - 1 then some literal.signedNumber else none := by
  obtain ⟨_, _, _, _, _, hmagnitude⟩ := h
  rw [value?, Radix.value?_eq hmagnitude.weight_lt, ← number]
  cases hword : word? literal.number with
  | none =>
    rw [word?_eq_none_iff] at hword
    rw [if_neg (by omega)]
    rfl
  | some word =>
    have hnumber := word?_eq_some_iff.1 hword
    have hlt := word.toInt_lt
    rw [if_pos (by omega), signedNumber, ← hnumber]
    cases literal.negative with
    | true => exact congrArg some (toInt_neg (by omega))
    | false => rfl

end Literal

/-- The value of an immediate with this text. It is the number of the literal that the text starts
with, if there is one and its number without the sign is not too large. -/
inductive Operand.HasValue (text : String) : Option Int → Prop
  | noLiteral (absent : ∀ literal : Literal, ¬literal.IsAtStart text.toList) : HasValue text none
  | fits (literal : Literal) (present : literal.IsAtStart text.toList)
      (small : literal.number ≤ 2 ^ 63 - 1) : HasValue text (some literal.signedNumber)
  | tooLarge (literal : Literal) (present : literal.IsAtStart text.toList)
      (large : 2 ^ 63 - 1 < literal.number) : HasValue text none

theorem Operand.value?_immediate (text : String) :
    (immediate text).value? = (Literal.read? text.toList).bind (·.value?.map Int64.toInt) := by
  simp only [value?]
  cases Literal.read? text.toList with
  | none => rfl
  | some literal =>
    rw [Option.bind_eq_bind, Option.bind_some, Option.bind_some]
    cases literal.value? <;> rfl

theorem Operand.value?_immediate_of_isAtStart {text : String} {literal : Literal}
    (h : literal.IsAtStart text.toList) : (immediate text).value? =
      if literal.number ≤ 2 ^ 63 - 1 then some literal.signedNumber else none := by
  rw [value?_immediate, Literal.read?_eq_some_iff.2 h, Option.bind_some, Literal.map_toInt_value? h]

theorem Operand.value?_immediate_of_absent {text : String}
    (h : ∀ literal : Literal, ¬literal.IsAtStart text.toList) : (immediate text).value? = none := by
  have hread : Literal.read? text.toList = none :=
    Option.eq_none_iff_forall_ne_some.2 fun literal hsome =>
      h literal (Literal.read?_eq_some_iff.1 hsome)
  rw [value?_immediate, hread, Option.bind_none]

/-- An immediate has the value of the literal that its text starts with, whatever follows it and
however the immediate came about. A text without a literal has no value, and a number that is too
large for a word has none either, also if its sign would make it fit. Where the number fits, it is
negated without an overflow. -/
theorem immediate_value_iff (text : String) :
    (∀ value, (Operand.immediate text).value? = value ↔ Operand.HasValue text value) ∧
    (∀ literal literal' : Literal, literal.IsAtStart text.toList →
      literal'.IsAtStart text.toList → literal = literal') ∧
    ∀ (literal : Literal) (word : Int64), literal.IsAtStart text.toList →
      literal.radix.value? literal.digits = some word →
      word.toInt = literal.number ∧ (-word).toInt = -word.toInt := by
  refine ⟨fun value => ⟨?_, ?_⟩, ?_, ?_⟩
  · rintro rfl
    by_cases hliteral : ∃ literal : Literal, literal.IsAtStart text.toList
    · obtain ⟨literal, present⟩ := hliteral
      rw [Operand.value?_immediate_of_isAtStart present]
      split
      · rename_i small
        exact .fits literal present small
      · rename_i large
        exact .tooLarge literal present (by omega)
    · have absent := not_exists.1 hliteral
      rw [Operand.value?_immediate_of_absent absent]
      exact .noLiteral absent
  · intro h
    cases h with
    | noLiteral absent => exact Operand.value?_immediate_of_absent absent
    | fits literal present small =>
      rw [Operand.value?_immediate_of_isAtStart present, if_pos small]
    | tooLarge literal present large =>
      rw [Operand.value?_immediate_of_isAtStart present, if_neg (by omega)]
  · intro literal literal' h h'
    have hread := Literal.read?_eq_some_iff.2 h
    exact Option.some.inj (hread.symm.trans (Literal.read?_eq_some_iff.2 h'))
  · rintro literal word ⟨_, _, _, _, _, hmagnitude⟩ hword
    rw [Radix.value?_eq hmagnitude.weight_lt, word?_eq_some_iff] at hword
    exact ⟨hword, Literal.toInt_neg (by omega)⟩

-- A mark without a digit of its radix, a number whose sign does not help, and other digits.
example : ["0b2", "-0x", "+0O17)", "-9223372036854775808", "٣"].map
    (fun text => (Operand.immediate text).value?) = [some 0, none, some 15, none, none] := by
  decide +kernel

end RiscvGloss
