import RiscvGloss.Proofs.Operand.Grammar
import RiscvGloss.Proofs.Text.Words

/-! Reading any token, also one with blanks. The blanks around it play no part, and an opening
parenthesis decides: a token without one always reads, as the kind that its text gives it, and a
token with one reads only as the memory reference that it spells out. -/

namespace RiscvGloss.Operand

variable {token text : String} {operand : Operand}

theorem Reads.immediate_iff (h : Reads text operand) (hplain : '(' ∉ text.toList) :
    operand.kind = .immediate ↔ Literal.Starts text.toList := by
  cases h with
  | register r name =>
    have hread := (Register.no_literal_of_mem_names (Register.mem_names_iff.2 ⟨r, name⟩)).2
    simp [kind, ← Literal.isSome_read?_iff, hread]
  | memory offset base reference => exact absurd reference.paren_mem hplain
  | immediate plain literal => simp [kind, literal]
  | label plain noName noLiteral => simp [kind, noLiteral]

theorem Reads.kind_ne_memory (h : Reads text operand) (hplain : '(' ∉ text.toList) :
    operand.kind ≠ .memory := by
  cases h with
  | memory offset base reference => exact absurd reference.paren_mem hplain
  | register r name | immediate plain literal | label plain noName noLiteral =>
    exact fun hkind => by cases hkind

theorem Reads.label_iff (h : Reads text operand) (hplain : '(' ∉ text.toList) :
    operand.kind = .label ↔ text ∉ Register.names ∧ ¬Literal.Starts text.toList := by
  rw [h.mem_names_iff, ← h.immediate_iff hplain]
  have := h.kind_ne_memory hplain
  cases hkind : operand.kind <;> simp_all

theorem Reads.register_eq {written : String} {r : Register}
    (h : Reads text (.register written r)) : written = text ∧ r.name = text := by
  cases h with
  | register _ name => exact ⟨rfl, name⟩

theorem exists_read_eq_ok (htrim : Text.IsTrimOf text.toList token.toList)
    (hplain : '(' ∉ text.toList) : ∃ operand, read token = .ok operand ∧ Reads text operand := by
  obtain ⟨operand, h⟩ := exists_reads_iff.2 fun malformed : IsMalformed text => hplain malformed.1
  exact ⟨operand, (read_eq_ok_iff (Text.ofList_trim_eq_iff.2 htrim)).2 h, h⟩

/-- A token without an opening parenthesis reads as an operand with its text. It is a register if
the text is an ABI name, letter case included, and then the register with this name; an immediate if
the text starts with an integer literal; and else a label. No text is both. -/
theorem read_plain (htrim : Text.IsTrimOf text.toList token.toList) (hplain : '(' ∉ text.toList) :
    ∃ operand, read token = .ok operand ∧ operand.text = text ∧
      (operand.kind = .register ↔ text ∈ Register.names) ∧
      (∀ written r, operand = .register written r →
        r.number = Register.names.idxOf text ∧ r.name = text) ∧
      (operand.kind = .immediate ↔ Literal.Starts text.toList) ∧
      (operand.kind = .label ↔ text ∉ Register.names ∧ ¬Literal.Starts text.toList) := by
  obtain ⟨operand, hread, h⟩ := exists_read_eq_ok htrim hplain
  refine ⟨operand, hread, h.text_eq, h.mem_names_iff.symm, ?_, h.immediate_iff hplain,
    h.label_iff hplain⟩
  rintro written r rfl
  obtain ⟨-, hname⟩ := h.register_eq
  exact ⟨by rw [← hname, Register.idxOf_name], hname⟩

/-- The mark of hexadecimal alone, between two blanks. -/
theorem read_plain_of_blanks :
    Text.IsTrimOf "-0xg".toList "\u2003-0xg\u00a0".toList ∧ '(' ∉ "-0xg".toList ∧
      ∃ operand, read "\u2003-0xg\u00a0" = .ok operand ∧ operand.text = "-0xg" ∧
        (operand.kind = .register ↔ "-0xg" ∈ Register.names) ∧
        (∀ written r, operand = .register written r →
          r.number = Register.names.idxOf "-0xg" ∧ r.name = "-0xg") ∧
        (operand.kind = .immediate ↔ Literal.Starts "-0xg".toList) ∧
        (operand.kind = .label ↔ "-0xg" ∉ Register.names ∧ ¬Literal.Starts "-0xg".toList) := by
  have htrim : Text.IsTrimOf "-0xg".toList "\u2003-0xg\u00a0".toList :=
    Text.trim_eq_iff.1 (by decide)
  exact ⟨htrim, by decide, read_plain htrim (by decide)⟩

-- Besides the names and the numbers, everything is a label.
example : ["", "+", "x5", "SP", "٣", "-0xg", "sp", "0b2"].map
    (fun token => (read token).toOption.map kind) =
      [some .label, some .label, some .label, some .label, some .label, some .label,
        some .register, some .immediate] := by
  decide +kernel

section Reference

variable {offset base cs before after : List Char}

theorem IsNumber.isBlank_head (h : IsNumber offset) (rest : List Char) :
    ∀ c ∈ (offset ++ rest).head?, Text.isBlank c = false := by
  obtain ⟨sign, hs, digits, rfl, hne, hdigits⟩ := h
  obtain ⟨digit, digits, rfl⟩ := List.exists_cons_of_ne_nil hne
  simp only [signs, List.mem_cons, List.not_mem_nil, or_false] at hs
  rcases hs with rfl | rfl | rfl <;> rintro c ⟨⟩
  · exact Text.isBlank_of_isDigit (hdigits _ List.mem_cons_self)
  · decide
  · decide

theorem IsReference.isTrimOf (h : IsReference offset base cs)
    (hblank : ∀ c ∈ before ++ after, Text.isBlank c = true) :
    Text.IsTrimOf cs (before ++ cs ++ after) := by
  obtain ⟨rfl, hoffset, -⟩ := h
  refine ⟨before, after, rfl, hblank, ?_, ?_⟩
  · rw [List.append_assoc]
    exact hoffset.isBlank_head _
  · rw [List.getLast?_concat]
    rintro c ⟨⟩
    decide

end Reference

theorem read_of_isReference {offset base : String}
    (htrim : Text.IsTrimOf text.toList token.toList)
    (h : IsReference offset.toList base.toList text.toList) :
    read token = .ok (.memory text offset base) := by
  have hreads := Reads.memory offset.toList base.toList h
  rw [String.ofList_toList, String.ofList_toList] at hreads
  exact (read_eq_ok_iff (Text.ofList_trim_eq_iff.2 htrim)).2 hreads

/-- A number and a word between parentheses read as the memory reference with this offset and this
base, whatever blanks stand around them. A token with an opening parenthesis reads so or is
rejected, and the rejection gives its text. A token without one is no memory reference. -/
theorem read_reference :
    (∀ offset base before after : String, IsNumber offset.toList → base.toList ≠ [] →
      (∀ c ∈ base.toList, c.isAlphanum = true ∨ c = '_') →
      (∀ c ∈ before.toList ++ after.toList, Text.isBlank c = true) →
      read (before ++ (offset ++ "(" ++ base ++ ")") ++ after) =
        .ok (.memory (offset ++ "(" ++ base ++ ")") offset base)) ∧
    (∀ token text : String, Text.IsTrimOf text.toList token.toList → '(' ∈ text.toList →
      (∃ offset base : String, IsReference offset.toList base.toList text.toList ∧
        read token = .ok (.memory text offset base)) ∨
      (¬∃ offset base, IsReference offset base text.toList) ∧
        read token = .error (.malformedMemory text)) ∧
    ∀ token text offset base : String, '(' ∉ token.toList →
      read token ≠ .ok (.memory text offset base) := by
  refine ⟨?_, ?_, ?_⟩
  · intro offset base before after hoffset hne hword hblank
    have href : IsReference offset.toList base.toList (offset ++ "(" ++ base ++ ")").toList :=
      ⟨by simp, hoffset, hne, hword⟩
    refine read_of_isReference ?_ href
    simpa only [String.toList_append] using href.isTrimOf hblank
  · intro token text htrim hparen
    by_cases href : ∃ offset base, IsReference offset base text.toList
    · obtain ⟨offset, base, href⟩ := href
      rw [← String.toList_ofList (l := offset), ← String.toList_ofList (l := base)] at href
      exact .inl ⟨_, _, href, read_of_isReference htrim href⟩
    · have htext := Text.ofList_trim_eq_iff.2 htrim
      exact .inr ⟨href, (read_eq_error_iff htext).2 ⟨⟨hparen, href⟩, rfl⟩⟩
  · intro token text offset base hparen hread
    have htrim := Text.isTrimOf_trim token.toList
    rw [← String.toList_ofList (l := Text.trim token.toList)] at htrim
    have hreads := (read_eq_ok_iff rfl).1 hread
    exact hreads.kind_ne_memory (fun hmem => hparen (htrim.mem hmem)) rfl

/-- A base that is no register, between two blanks, and a reference with text after it. -/
theorem read_reference_of_blanks :
    IsNumber "-08".toList ∧ "x_9".toList ≠ [] ∧
    (∀ c ∈ "x_9".toList, c.isAlphanum = true ∨ c = '_') ∧
    (∀ c ∈ "\u3000".toList ++ "\t".toList, Text.isBlank c = true) ∧
    read ("\u3000" ++ ("-08" ++ "(" ++ "x_9" ++ ")") ++ "\t") =
      .ok (.memory ("-08" ++ "(" ++ "x_9" ++ ")") "-08" "x_9") ∧
    Text.IsTrimOf "8(sp)x".toList " 8(sp)x".toList ∧ '(' ∈ "8(sp)x".toList ∧
    ((∃ offset base : String, IsReference offset.toList base.toList "8(sp)x".toList ∧
        read " 8(sp)x" = .ok (.memory "8(sp)x" offset base)) ∨
      (¬∃ offset base, IsReference offset base "8(sp)x".toList) ∧
        read " 8(sp)x" = .error (.malformedMemory "8(sp)x")) := by
  have hoffset : IsNumber "-08".toList := isOffset_iff.1 (by decide)
  obtain ⟨hne, hword⟩ := isWord_iff.1 (show isWord "x_9".toList = true by decide)
  have hblank : ∀ c ∈ "\u3000".toList ++ "\t".toList, Text.isBlank c = true :=
    List.all_eq_true.1 (by decide)
  have htrim : Text.IsTrimOf "8(sp)x".toList " 8(sp)x".toList := Text.trim_eq_iff.1 (by decide)
  have hparen : '(' ∈ "8(sp)x".toList := by decide
  exact ⟨hoffset, hne, hword, hblank, read_reference.1 _ _ _ _ hoffset hne hword hblank,
    htrim, hparen, read_reference.2.1 _ _ htrim hparen⟩

-- A second parenthesis, text after the reference, an offset or a base of another form.
example : ["8((sp)", "8(sp)x", "(sp)", "-(sp)", "0x8(sp)", "8()", "8(s p)", "٣(sp)", "8(é)"].all
    (fun token => decide (read token = .error (.malformedMemory token))) = true := by
  decide +kernel

end RiscvGloss.Operand
