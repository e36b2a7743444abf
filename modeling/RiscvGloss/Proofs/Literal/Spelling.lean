import RiscvGloss.Proofs.Literal.Value
import RiscvGloss.Proofs.Text.Digits

/-! The ways to write an integer: a sign, the mark of a radix, zeros and the digits, letters in
either case. Each of them reads as an immediate with the integer as its value, as long as the
integer without its sign fits in a word. So every word reads back in every radix except the least
one, which has no positive counterpart. -/

namespace RiscvGloss

theorem weight_toLower (c : Char) : weight c.toLower = weight c := by
  by_cases hc : c.toNat < 128
  · exact forall_of_ascii (p := fun c => weight c.toLower = weight c) (by decide +kernel) hc
  · rw [toLower_of_not_ascii (by omega)]

theorem weight_digitChar : ∀ d < 16, weight (Nat.digitChar d) = d := by
  decide

/-- The character is neither a blank nor an opening parenthesis. -/
def isPlain (c : Char) : Bool :=
  !Text.isBlank c && c != '('

theorem isPlain_of_weight_lt {c : Char} (h : weight c < 16) : isPlain c = true := by
  by_cases hc : c.toNat < 128
  · exact forall_of_ascii (p := fun c => weight c < 16 → isPlain c = true) (by decide +kernel) hc h
  · rw [weight_of_not_ascii (by omega)] at h
    omega

namespace Radix

theorem number_eq_foldl (radix : Radix) (digits : List Char) :
    radix.number digits = (digits.map weight).foldl (radix.base * · + ·) 0 := by
  rw [number, Nat.ofDigits_eq_foldr, List.foldr_reverse]
  simp only [Nat.cast_id, Nat.add_comm]

theorem number_toDigits (radix : Radix) (n : Nat) :
    radix.number (Nat.toDigits radix.base n) = n := by
  rw [number_eq_foldl]
  have hbase := radix.base_le
  exact Text.foldl_toDigits radix.one_lt_base (fun d hd => weight_digitChar d (by omega)) n

theorem number_zeros_append (radix : Radix) (zeros : Nat) (digits : List Char) :
    radix.number (List.replicate zeros '0' ++ digits) = radix.number digits := by
  induction zeros with
  | zero => rfl
  | succ zeros ih =>
    rw [List.replicate_succ, List.cons_append, number_cons, ih, show weight '0' = 0 by decide,
      Nat.zero_mul, Nat.zero_add]

theorem number_map_toLower (radix : Radix) (digits : List Char) :
    radix.number (digits.map Char.toLower) = radix.number digits := by
  rw [number, number, List.map_map]
  simp only [Function.comp_def, weight_toLower]

/-- What can stand before digits of this radix: nothing if they are decimal, and else a zero with a
mark. -/
def leads : Radix → List (List Char)
  | decimal => [[]]
  | radix => radix.marks.map (['0', ·])

/-- The digits of the number in this radix after any number of zeros, each letter small or
capital. -/
def IsNumeral (radix : Radix) (n : Nat) (digits : List Char) : Prop :=
  ∃ zeros, digits.map Char.toLower = List.replicate zeros '0' ++ Nat.toDigits radix.base n

section

variable {radix : Radix} {n : Nat} {lead digits : List Char}

theorem IsNumeral.number_eq (h : radix.IsNumeral n digits) : radix.number digits = n := by
  obtain ⟨zeros, h⟩ := h
  rw [← number_map_toLower, h, number_zeros_append, number_toDigits]

theorem IsNumeral.ne_nil (h : radix.IsNumeral n digits) : digits ≠ [] := by
  rintro rfl
  obtain ⟨zeros, h⟩ := h
  exact Nat.toDigits_ne_nil (List.append_eq_nil_iff.1 h.symm).2

theorem IsNumeral.weight_lt (h : radix.IsNumeral n digits) :
    ∀ c ∈ digits, weight c < radix.base := by
  intro c hc
  obtain ⟨zeros, h⟩ := h
  have hlower : c.toLower ∈ List.replicate zeros '0' ++ Nat.toDigits radix.base n :=
    h ▸ List.mem_map_of_mem hc
  have hbase := radix.one_lt_base
  rw [← weight_toLower]
  rcases List.mem_append.1 hlower with hzero | hdigit
  · rw [(List.mem_replicate.1 hzero).2, show weight '0' = 0 by decide]
    omega
  · obtain ⟨d, hd, hchar⟩ := Text.exists_digit_of_mem_toDigits hbase hdigit
    have hle := radix.base_le
    rwa [← hchar, weight_digitChar d (by omega)]

theorem IsNumeral.isRun (h : radix.IsNumeral n digits) : radix.IsRun digits digits :=
  ⟨[], (List.append_nil digits).symm, h.weight_lt, nofun⟩

/-- No mark is a decimal digit. -/
theorem base_decimal_le_weight_of_mem_marks {mark : Char} (h : mark ∈ radix.marks) :
    decimal.base ≤ weight mark := by
  have hmarks : radix.marks.all (decimal.base ≤ weight ·) = true := by cases radix <;> decide
  simpa using List.all_eq_true.1 hmarks mark h

theorem IsNumeral.isMagnitude (h : radix.IsNumeral n digits) (hlead : lead ∈ radix.leads) :
    Literal.IsMagnitude (lead ++ digits) radix digits := by
  by_cases hradix : radix = .decimal
  · subst hradix
    obtain rfl : lead = [] := List.mem_singleton.1 hlead
    refine .plain digits ?_ h.isRun h.ne_nil
    -- the character after a first zero is a digit and cannot be a mark
    rintro radix mark rest rfl hmark
    have hdigit := h.weight_lt mark (by simp)
    have hweight := base_decimal_le_weight_of_mem_marks hmark
    omega
  · obtain ⟨mark, hmark, rfl⟩ : ∃ mark ∈ radix.marks, ['0', mark] = lead := by
      cases radix with
      | decimal => exact absurd rfl hradix
      | binary | octal | hexadecimal => exact List.mem_map.1 hlead
    exact .marked radix mark digits digits rfl hmark h.isRun h.ne_nil

end

end Radix

/-- The signs that an integer can be written with. -/
def signsOf (value : Int) : List (List Char) :=
  if value < 0 then [['-']] else [[], ['+']]

/-- The text is the integer, written in the radix: a sign, what can stand before the digits, and the
digits of the integer without its sign. -/
inductive Spells (radix : Radix) (value : Int) (text : String) : Prop
  | intro (sign lead digits : List Char) (signed : sign ∈ signsOf value)
      (led : lead ∈ radix.leads) (numeral : radix.IsNumeral value.natAbs digits)
      (written : text.toList = sign ++ (lead ++ digits))

section

variable {radix : Radix} {value : Int} {text : String} {sign : List Char}

theorem mem_signs_of_mem_signsOf (h : sign ∈ signsOf value) :
    sign ∈ signs ∧ decide (value < 0) = decide (sign = ['-']) := by
  rw [signsOf] at h
  split at h
  · rename_i hneg
    obtain rfl := List.mem_singleton.1 h
    simp [signs, hneg]
  · rename_i hneg
    simp only [List.mem_cons, List.not_mem_nil, or_false] at h
    rcases h with rfl | rfl <;> simp [signs, hneg]

/-- A spelling starts with one literal, which is all of it and denotes the integer. -/
theorem Spells.exists_isAtStart (h : Spells radix value text) :
    ∃ literal : Literal, literal.IsAtStart text.toList ∧ literal.number = value.natAbs ∧
      literal.signedNumber = value := by
  obtain ⟨sign, lead, digits, signed, led, numeral, written⟩ := h
  obtain ⟨hsign, hnegative⟩ := mem_signs_of_mem_signsOf signed
  have hnumber : Literal.number ⟨decide (value < 0), radix, digits⟩ = value.natAbs :=
    numeral.number_eq
  refine ⟨⟨decide (value < 0), radix, digits⟩, ?_, hnumber, ?_⟩
  · exact ⟨sign, hsign, lead ++ digits, written, hnegative, numeral.isMagnitude led⟩
  · rw [Literal.signedNumber, hnumber]
    simp only [decide_eq_true_eq]
    omega

theorem Spells.isPlain_of_mem (h : Spells radix value text) :
    ∀ c ∈ text.toList, isPlain c = true := by
  obtain ⟨sign, lead, digits, signed, led, numeral, written⟩ := h
  have hsigns : signs.all (·.all isPlain) = true := by decide
  have hleads : radix.leads.all (·.all isPlain) = true := by cases radix <;> decide
  have hsign := List.all_eq_true.1 hsigns sign (mem_signs_of_mem_signsOf signed).1
  have hlead := List.all_eq_true.1 hleads lead led
  rw [written, List.forall_mem_append, List.forall_mem_append]
  refine ⟨List.all_eq_true.1 hsign, List.all_eq_true.1 hlead, fun c hc => ?_⟩
  exact isPlain_of_weight_lt ((numeral.weight_lt c hc).trans_le radix.base_le)

theorem Spells.read_eq (h : Spells radix value text) :
    Operand.read text = .ok (.immediate text) := by
  obtain ⟨literal, hstart, -⟩ := h.exists_isAtStart
  have hstarts : Literal.Starts text.toList := by
    rw [← Literal.isSome_read?_iff, Literal.read?_eq_some_iff.2 hstart]
    rfl
  have hplain : ∀ c ∈ text.toList, Text.isBlank c = false ∧ c ≠ '(' := by
    simpa [isPlain] using h.isPlain_of_mem
  have htrim := Operand.trim_token fun c hc => (hplain c hc).1
  exact (Operand.read_eq_ok_iff htrim).2 (.immediate (fun hc => (hplain _ hc).2 rfl) hstarts)

theorem Spells.value?_eq (h : Spells radix value text) :
    (Operand.immediate text).value? = if value.natAbs < 2 ^ 63 then some value else none := by
  obtain ⟨literal, hstart, hnumber, hsigned⟩ := h.exists_isAtStart
  have hiff : literal.number ≤ 2 ^ 63 - 1 ↔ value.natAbs < 2 ^ 63 := by omega
  rw [Operand.value?_immediate_of_isAtStart hstart, hsigned]
  simp only [hiff]

theorem map_toLower_toDigits (radix : Radix) (n : Nat) :
    (Nat.toDigits radix.base n).map Char.toLower = Nat.toDigits radix.base n := by
  have hsmall : ∀ d < 16, (Nat.digitChar d).toLower = Nat.digitChar d := by decide
  have hbase := radix.base_le
  refine (List.map_congr_left fun c hc => ?_).trans (List.map_id _)
  obtain ⟨d, hd, rfl⟩ := Text.exists_digit_of_mem_toDigits radix.one_lt_base hc
  exact hsmall d (by omega)

theorem exists_spells (radix : Radix) (value : Int) : ∃ text, Spells radix value text := by
  obtain ⟨sign, hsign⟩ : ∃ sign, sign ∈ signsOf value := by
    unfold signsOf
    split <;> exact ⟨_, List.mem_cons_self⟩
  obtain ⟨lead, hlead⟩ : ∃ lead, lead ∈ radix.leads := by
    cases radix <;> exact ⟨_, List.mem_cons_self⟩
  have hnumeral : radix.IsNumeral value.natAbs (Nat.toDigits radix.base value.natAbs) :=
    ⟨0, map_toLower_toDigits radix value.natAbs⟩
  exact ⟨_, .intro sign lead _ hsign hlead hnumeral String.toList_ofList⟩

end

/-- Every integer can be written in every radix, and however it is written, the text reads as an
immediate. Its value is the integer if the integer without its sign fits in a word, and there is
none otherwise. So every word is given back but the least one. -/
theorem spelling_reads_back (radix : Radix) (value : Int) :
    (∃ text, Spells radix value text) ∧
    ∀ text, Spells radix value text →
      Operand.read text = .ok (.immediate text) ∧
      (Operand.immediate text).value? = if value.natAbs < 2 ^ 63 then some value else none :=
  ⟨exists_spells radix value, fun _ h => ⟨h.read_eq, h.value?_eq⟩⟩

/-- The integer next to the least word, in capital and small digits after the mark and zeros. -/
theorem spelling_reads_back_of_mixed_case :
    Spells .hexadecimal (-9223372036854775807) "-0X007fFFfFffFFFfFffF" ∧
      Operand.read "-0X007fFFfFffFFFfFffF" = .ok (.immediate "-0X007fFFfFffFFFfFffF") ∧
      (Operand.immediate "-0X007fFFfFffFFFfFffF").value? =
        if (-9223372036854775807 : Int).natAbs < 2 ^ 63 then some (-9223372036854775807)
        else none := by
  have h : Spells .hexadecimal (-9223372036854775807) "-0X007fFFfFffFFFfFffF" :=
    .intro ['-'] ['0', 'X'] "007fFFfFffFFFfFffF".toList (by decide) (by decide)
      ⟨2, by decide +kernel⟩ (by decide)
  exact ⟨h, (spelling_reads_back _ _).2 _ h⟩

/-- The least word is lost: its usual spelling is an immediate without a value. -/
theorem least_word_has_no_value :
    Spells .decimal (-2 ^ 63) "-9223372036854775808" ∧
      word? (-2 ^ 63) = some Int64.minValue ∧
      Operand.read "-9223372036854775808" = .ok (.immediate "-9223372036854775808") ∧
      (Operand.immediate "-9223372036854775808").value? = none := by
  refine ⟨?_, word?_eq_some_iff.2 (by decide), by decide +kernel, by decide +kernel⟩
  exact .intro ['-'] [] "9223372036854775808".toList (by decide) (by decide)
    ⟨0, by decide +kernel⟩ (by decide)

end RiscvGloss
