import Mathlib.Data.Nat.Digits.Defs
import Mathlib.Tactic.Ring
import RiscvGloss.Literal

/-! Digits and the numbers that they denote. Reading digits into a word of 64 bits, with a check at
each step, gives their number if it fits in a word, and nothing otherwise: no step fails before the
number itself is too large. -/

namespace RiscvGloss

/-- The digits of hexadecimal in the order of their values, letters in lower case. -/
def figures : List Char :=
  "0123456789abcdef".toList

/-- The value of a digit in either letter case. Other characters weigh more than every digit. -/
def weight (c : Char) : Nat :=
  figures.idxOf c.toLower

/-- The number that digits denote in a radix, the last digit weighing least. -/
def Radix.number (radix : Radix) (digits : List Char) : Nat :=
  Nat.ofDigits radix.base (digits.map weight).reverse

example : Radix.hexadecimal.number "0fF".toList = 255 := by
  decide

/-- What holds of each character of ASCII, as a check of their code points. -/
theorem forall_of_ascii {p : Char → Prop} (h : ∀ n < 128, p (Char.ofNat n)) {c : Char}
    (hc : c.toNat < 128) : p c := by
  rw [← Char.ofNat_toNat c]
  exact h c.toNat hc

theorem toLower_of_not_ascii {c : Char} (h : 128 ≤ c.toNat) : c.toLower = c := by
  have hupper : ¬(c.val ≥ 'A'.val ∧ c.val ≤ 'Z'.val) := by
    rintro ⟨-, hle⟩
    have := UInt32.le_iff_toNat_le.1 hle
    change c.toNat ≤ 90 at this
    omega
  exact dif_neg hupper

theorem weight_of_not_ascii {c : Char} (h : 128 ≤ c.toNat) : weight c = 16 := by
  have hsmall : figures.all (·.toNat < 128) = true := by decide
  have hnot : c ∉ figures := by
    intro hmem
    have := List.all_eq_true.1 hsmall c hmem
    simp only [decide_eq_true_eq] at this
    omega
  rw [weight, toLower_of_not_ascii h, List.idxOf_eq_length hnot]
  rfl

namespace Radix

theorem one_lt_base (radix : Radix) : 1 < radix.base := by
  cases radix <;> decide

theorem base_le (radix : Radix) : radix.base ≤ 16 := by
  cases radix <;> decide

theorem digitValue?_of_not_ascii {c : Char} (h : 128 ≤ c.toNat) : digitValue? c = none := by
  have hgt : ∀ d : Char, d.toNat < 128 → ¬c ≤ d := by
    intro d hd hle
    have := UInt32.le_iff_toNat_le.1 (Char.le_def.1 hle)
    change c.toNat ≤ d.toNat at this
    omega
  rw [digitValue?, if_neg fun h => hgt '9' (by decide) h.2, if_neg fun h => hgt 'f' (by decide) h.2,
    if_neg fun h => hgt 'F' (by decide) h.2]

theorem digitValue?_eq (c : Char) :
    digitValue? c = if weight c < 16 then some (weight c) else none := by
  by_cases h : c.toNat < 128
  · refine forall_of_ascii (p := fun c => digitValue? c =
      if weight c < 16 then some (weight c) else none) ?_ h
    decide +kernel
  · rw [digitValue?_of_not_ascii (by omega), weight_of_not_ascii (by omega)]
    rfl

theorem digit?_eq_some_iff {radix : Radix} {c : Char} {d : Nat} :
    radix.digit? c = some d ↔ weight c = d ∧ d < radix.base := by
  have hbase := radix.base_le
  rw [digit?, Option.filter_eq_some_iff, digitValue?_eq]
  constructor
  · rintro ⟨hvalue, hlt⟩
    split at hvalue
    · exact ⟨Option.some.inj hvalue, by simpa using hlt⟩
    · cases hvalue
  · rintro ⟨rfl, hlt⟩
    rw [if_pos (by omega)]
    exact ⟨rfl, by simpa using hlt⟩

theorem isDigit_iff {radix : Radix} {c : Char} :
    radix.isDigit c = true ↔ weight c < radix.base := by
  simp [isDigit, Option.isSome_iff_exists, digit?_eq_some_iff]

end Radix

section

variable {n m : Int} {word : Int64}

/-- A word stands for an integer in one way only, and every word stands for one. -/
theorem word?_eq_some_iff : word? n = some word ↔ word.toInt = n := by
  rw [word?]
  constructor
  · intro h
    split at h
    · rw [← Option.some.inj h, Int64.toInt_ofIntLE]
    · cases h
  · rintro rfl
    rw [dif_pos ⟨word.minValue_le_toInt, word.toInt_le⟩, Int64.ofIntLE_toInt]

theorem word?_eq_none_iff : word? n = none ↔ ¬(-2 ^ 63 ≤ n ∧ n < 2 ^ 63) := by
  rw [word?]
  have hmin : Int64.minValue.toInt = -2 ^ 63 := by decide
  have hmax : Int64.maxValue.toInt = 2 ^ 63 - 1 := by decide
  split <;> simp <;> omega

/-- What is too large for a word stays so when it grows. -/
theorem word?_eq_none_of_le (hn : 0 ≤ n) (hle : n ≤ m) (h : word? n = none) : word? m = none := by
  rw [word?_eq_none_iff] at h ⊢
  omega

end

namespace Radix

variable {radix : Radix} {c : Char} {digits : List Char} {word : Int64}

theorem number_cons (radix : Radix) (c : Char) (digits : List Char) :
    radix.number (c :: digits) = weight c * radix.base ^ digits.length + radix.number digits := by
  rw [number, List.map_cons, Nat.ofDigits_reverse_cons, List.length_map, Nat.add_comm, Nat.mul_comm]
  rfl

/-- One digit more: the product overflows only if the sum would. -/
theorem extend?_eq (hc : weight c < radix.base) (hword : 0 ≤ word.toInt) :
    radix.extend? word c = word? (word.toInt * radix.base + weight c) := by
  have hpos : 0 ≤ word.toInt * radix.base := Int.mul_nonneg hword (by omega)
  rw [extend?, digit?_eq_some_iff.2 ⟨rfl, hc⟩, Option.bind_eq_bind, Option.bind_some]
  cases hproduct : word? (word.toInt * radix.base) with
  | none => exact (word?_eq_none_of_le hpos (by omega) hproduct).symm
  | some product => rw [Option.bind_eq_bind, Option.bind_some, word?_eq_some_iff.1 hproduct]

/-- Checking each step is the same as checking the number once. -/
theorem foldlM_extend? (hdigits : ∀ c ∈ digits, weight c < radix.base) (hword : 0 ≤ word.toInt) :
    digits.foldlM radix.extend? word =
      word? (word.toInt * radix.base ^ digits.length + radix.number digits) := by
  induction digits generalizing word with
  | nil => simpa [number] using (word?_eq_some_iff.2 rfl).symm
  | cons c digits ih =>
    obtain ⟨hc, hrest⟩ := List.forall_mem_cons.1 hdigits
    have htotal : word.toInt * radix.base ^ (c :: digits).length + radix.number (c :: digits) =
        (word.toInt * radix.base + weight c) * radix.base ^ digits.length +
          radix.number digits := by
      rw [number_cons, List.length_cons]
      push_cast
      ring
    have hpos : 0 ≤ word.toInt * radix.base + weight c :=
      Int.add_nonneg (Int.mul_nonneg hword (by omega)) (by omega)
    have hpow : (1 : Int) ≤ radix.base ^ digits.length := by
      exact_mod_cast Nat.one_le_pow _ _ (by omega)
    rw [List.foldlM_cons, extend?_eq hc hword, htotal]
    cases hstep : word? (word.toInt * radix.base + weight c) with
    | none =>
      -- the digits that follow only make the number larger
      have hle := Int.mul_le_mul_of_nonneg_left hpow hpos
      exact (word?_eq_none_of_le hpos (by omega) hstep).symm
    | some next =>
      have hnext := word?_eq_some_iff.1 hstep
      rw [Option.bind_eq_bind, Option.bind_some, ih hrest (by omega), hnext]

/-- Digits are read as their number if it fits in a word. -/
theorem value?_eq (hdigits : ∀ c ∈ digits, weight c < radix.base) :
    radix.value? digits = word? (radix.number digits) := by
  rw [value?, foldlM_extend? hdigits (by decide)]
  simp

end Radix

end RiscvGloss
