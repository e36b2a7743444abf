import Mathlib
import RiscvGloss.Proofs.Text.CaseMap

/-! The lower case of texts near ASCII. Whether an ASCII letter is written small or capital makes no
difference to it, in the context of a sigma as little as for the letter itself. It is an ASCII text
only for ASCII texts, apart from the Kelvin sign, which becomes a `k`. -/

namespace RiscvGloss.Text

/-- The texts differ in nothing but the case of ASCII letters. -/
def SameUpToCase (text text' : String) : Prop :=
  text.toList.map Char.toLower = text'.toList.map Char.toLower

instance : DecidableRel SameUpToCase :=
  fun _ _ => inferInstanceAs (Decidable (_ = _))

section Letters

variable {c : Char}

theorem isUpper_iff_toNat : c.isUpper = true ↔ 0x41 ≤ c.toNat ∧ c.toNat ≤ 0x5A := by
  simp [Char.isUpper, UInt32.le_iff_toNat_le]

theorem isLower_iff_toNat : c.isLower = true ↔ 0x61 ≤ c.toNat ∧ c.toNat ≤ 0x7A := by
  simp [Char.isLower, UInt32.le_iff_toNat_le]

theorem isAlpha_iff_toNat : c.isAlpha = true ↔
    (0x41 ≤ c.toNat ∧ c.toNat ≤ 0x5A) ∨ (0x61 ≤ c.toNat ∧ c.toNat ≤ 0x7A) := by
  rw [Char.isAlpha, Bool.or_eq_true, isUpper_iff_toNat, isLower_iff_toNat]

/-- What is the same for all letters of ASCII is the same for a character and its lower case. -/
theorem toLower_congr {α : Type} {f : Char → α} {a : α} (h : ∀ c, c.isAlpha = true → f c = a)
    (c : Char) : f c.toLower = f c := by
  by_cases hupper : c.isUpper
  · have hc : c.isAlpha = true := by simp [Char.isAlpha, hupper]
    rw [h c hc, h c.toLower (by rwa [Char.isAlpha_toLower_eq_isAlpha])]
  · rw [Char.toLower_eq_of_not_isUpper hupper]

theorem isCased_of_isAlpha (h : c.isAlpha = true) : isCased c = true := by
  rw [isCased, inRanges_iff]
  rcases isAlpha_iff_toNat.1 h with hc | hc
  · exact ⟨⟨0x41, 0x5A⟩, by decide +kernel, hc⟩
  · exact ⟨⟨0x61, 0x7A⟩, by decide +kernel, hc⟩

/-- No range of case-ignorable characters meets the letters of ASCII. -/
theorem isCaseIgnorable_of_isAlpha (h : c.isAlpha = true) : isCaseIgnorable c = false := by
  have hranges : ∀ range ∈ caseIgnorable,
      range.last < 0x41 ∨ (0x5A < range.first ∧ range.last < 0x61) ∨ 0x7A < range.first := by
    decide +kernel
  have hc := isAlpha_iff_toNat.1 h
  rw [← Bool.not_eq_true, isCaseIgnorable, inRanges_iff]
  rintro ⟨range, hmem, hlow, hhigh⟩
  have hrange := hranges range hmem
  omega

theorem isCased_toLower (c : Char) : isCased c.toLower = isCased c :=
  toLower_congr (fun _ => isCased_of_isAlpha) c

theorem isCaseIgnorable_toLower (c : Char) : isCaseIgnorable c.toLower = isCaseIgnorable c :=
  toLower_congr (fun _ => isCaseIgnorable_of_isAlpha) c

/-- A character beyond ASCII is the lower case of no other. -/
theorem toLower_eq_iff {d : Char} (hd : 128 ≤ d.toNat) (c : Char) : c.toLower = d ↔ c = d := by
  have hne : ∀ c : Char, c.isAlpha = true → decide (c = d) = false := by
    intro c hc
    have hletter := isAlpha_iff_toNat.1 hc
    exact decide_eq_false fun heq => by subst heq; omega
  simpa using toLower_congr hne c

end Letters

section Ascii

variable {c : Char}

theorem image?_eq_none {run : CaseRun} {n : Nat} (h : n < run.first ∨ run.last < n) :
    run.image? n = none := by
  rw [CaseRun.image?, if_neg]
  omega

/-- On ASCII the lower case is that of its capitals, for all other runs start beyond it. -/
theorem apply_of_toNat_lt (h : c.toNat < 128) : lowerMap.apply c = [c.toLower] := by
  have hexpansions : lowerMap.expansions.lookup c.toNat = none := by
    have hne : (c.toNat == 0x130) = false := beq_false_of_ne (by omega)
    simp only [lowerMap, List.lookup, hne]
  obtain ⟨hhead, htail⟩ : lowerMap.runs.head? = some ⟨0x41, 0x5A, 1, 0x61⟩ ∧
      ∀ run ∈ lowerMap.runs.tail, 128 ≤ run.first := by decide +kernel
  have htail : lowerMap.runs.tail.findSome? (·.image? c.toNat) = none := by
    rw [List.findSome?_eq_none_iff]
    intro run hrun
    exact image?_eq_none (.inl (by have := htail run hrun; omega))
  rw [CaseMap.apply, hexpansions, ← List.cons_head?_tail hhead, List.findSome?_cons, htail]
  by_cases hupper : c.isUpper
  · obtain ⟨hlow, hhigh⟩ := isUpper_iff_toNat.1 hupper
    have himage : CaseRun.image? ⟨0x41, 0x5A, 1, 0x61⟩ c.toNat = some (c.toNat + 32) := by
      simp only [CaseRun.image?, Nat.mod_one, and_true]
      rw [if_pos ⟨hlow, hhigh⟩]
      congr 1
      omega
    rw [Char.toLower_eq_of_isUpper hupper, himage]
  · have hc := mt isUpper_iff_toNat.2 hupper
    rw [Char.toLower_eq_of_not_isUpper hupper, image?_eq_none (by simp only; omega)]

theorem toNat_toLower_lt (h : c.toNat < 128) : c.toLower.toNat < 128 := by
  by_cases hupper : c.isUpper
  · have hlower := Char.isLower_toLower_eq_isAlpha c
    rw [Char.isAlpha, hupper, Bool.true_or, isLower_iff_toNat] at hlower
    omega
  · rwa [Char.toLower_eq_of_not_isUpper hupper]

theorem apply_toLower (c : Char) : lowerMap.apply c.toLower = lowerMap.apply c := by
  by_cases hc : c.toNat < 128
  · rw [apply_of_toNat_lt (toNat_toLower_lt hc), apply_of_toNat_lt hc,
      Char.toLower_toLower_eq_toLower]
  · have hupper : ¬c.isUpper := fun h => by have := isUpper_iff_toNat.1 h; omega
    rw [Char.toLower_eq_of_not_isUpper hupper]

end Ascii

section Context

theorem meetsCased_map_toLower (cs : List Char) :
    meetsCased (cs.map Char.toLower) = meetsCased cs := by
  have hcomp : isCaseIgnorable ∘ Char.toLower = isCaseIgnorable := funext isCaseIgnorable_toLower
  rw [meetsCased, meetsCased, List.dropWhile_map, hcomp]
  cases cs.dropWhile isCaseIgnorable with
  | nil => rfl
  | cons c rest => exact isCased_toLower c

theorem lowerAt_toLower (before after : List Char) (c : Char) :
    lowerAt (before.map Char.toLower) c.toLower (after.map Char.toLower) =
      lowerAt before c after := by
  have hsigma : c.toLower = 'Σ' ↔ c = 'Σ' := toLower_eq_iff (by decide) c
  rw [lowerAt, lowerAt, endsWord, endsWord, meetsCased_map_toLower, meetsCased_map_toLower,
    apply_toLower]
  exact ite_congr (propext hsigma) (fun _ => rfl) fun _ => rfl

theorem lowerFrom_map_toLower (before text : List Char) :
    lowerFrom (before.map Char.toLower) (text.map Char.toLower) = lowerFrom before text := by
  induction text generalizing before with
  | nil => rfl
  | cons c after ih =>
    rw [List.map_cons, lowerFrom, lowerFrom, lowerAt_toLower, ← List.map_cons, ih]

theorem SameUpToCase.lower_eq {text text' : String} (h : SameUpToCase text text') :
    lower text = lower text' := by
  rw [lower, lower, ← lowerFrom_map_toLower [] text.toList, h, lowerFrom_map_toLower]

end Context

/-- The Kelvin sign, the only character beyond ASCII with a lower case in ASCII. -/
def kelvin : Char := '\u212A'

/-- The run moves characters of ASCII, or the Kelvin sign, or moves characters to some beyond ASCII.
Code points between `0xD800` and `0xE000` are no characters. -/
def CaseRun.StaysBeyondAscii (run : CaseRun) : Prop :=
  run.last < 128 ∨ (run.first = kelvin.toNat ∧ run.last = kelvin.toNat) ∨
    (128 ≤ run.image ∧ run.image + (run.last - run.first) < 0xD800) ∨
    (0xE000 ≤ run.image ∧ run.image + (run.last - run.first) < 0x110000)

instance : DecidablePred CaseRun.StaysBeyondAscii :=
  fun _ => inferInstanceAs (Decidable (_ ∨ _ ∨ _ ∨ _))

section BeyondAscii

variable {c : Char}

theorem CaseRun.StaysBeyondAscii.le_toNat {run : CaseRun} (h : run.StaysBeyondAscii)
    (hc : 128 ≤ c.toNat) (hk : c ≠ kelvin) {image : Nat} (himage : run.image? c.toNat = some image) :
    128 ≤ (Char.ofNat image).toNat := by
  obtain ⟨⟨hfirst, hlast, -⟩, rfl⟩ := CaseRun.image?_eq_some_iff.1 himage
  have hne : c.toNat ≠ kelvin.toNat := mt Char.toNat_inj.1 hk
  have hvalid : (run.image + (c.toNat - run.first)).isValidChar ∧
      128 ≤ run.image + (c.toNat - run.first) := by
    rw [Nat.isValidChar]
    rcases h with h | h | h | h <;> omega
  rw [Char.toNat_ofNat, if_pos hvalid.1]
  exact hvalid.2

/-- The lower case of a character beyond ASCII has one, unless the character is the Kelvin sign. -/
theorem exists_mem_apply (hc : 128 ≤ c.toNat) (hk : c ≠ kelvin) :
    ∃ d ∈ lowerMap.apply c, 128 ≤ d.toNat := by
  have hexpansions : ∀ expansion ∈ lowerMap.expansions,
      ∃ n ∈ expansion.2, 128 ≤ (Char.ofNat n).toNat := by decide
  have hruns : ∀ run ∈ lowerMap.runs, run.StaysBeyondAscii := by decide +kernel
  rcases lowerMap.apply_cases c with
    ⟨images, hmem, happly⟩ | ⟨run, hmem, image, himage, happly⟩ | happly
  · obtain ⟨n, hn, hfar⟩ := hexpansions _ hmem
    exact ⟨Char.ofNat n, happly ▸ List.mem_map_of_mem hn, hfar⟩
  · exact ⟨Char.ofNat image, by simp [happly], (hruns run hmem).le_toNat hc hk himage⟩
  · exact ⟨c, by simp [happly], hc⟩

theorem exists_mem_lowerAt (before after : List Char) (hc : 128 ≤ c.toNat) (hk : c ≠ kelvin) :
    ∃ d ∈ lowerAt before c after, 128 ≤ d.toNat := by
  unfold lowerAt
  split
  · split
    · exact ⟨'ς', List.mem_singleton_self _, by decide⟩
    · exact ⟨'σ', List.mem_singleton_self _, by decide⟩
  · exact exists_mem_apply hc hk

end BeyondAscii

/-- The characters are in ASCII. -/
def Ascii (cs : List Char) : Prop :=
  ∀ c ∈ cs, c.toNat < 128

instance : DecidablePred Ascii :=
  fun cs => List.decidableBAll (fun c : Char => c.toNat < 128) cs

/-- The lower case of a character where that is a single character of ASCII. -/
def plainLower (c : Char) : Char :=
  if c = kelvin then 'k' else c.toLower

section Plain

variable {c d : Char}

theorem plainLower_of_toNat_lt (hc : c.toNat < 128) : plainLower c = c.toLower :=
  if_neg fun h => by subst h; exact absurd hc (by decide)

theorem lowerAt_of_toNat_lt (before after : List Char) (hc : c.toNat < 128) :
    lowerAt before c after = [plainLower c] := by
  have hsigma : c ≠ 'Σ' := fun h => by subst h; exact absurd hc (by decide)
  rw [lowerAt, if_neg hsigma, apply_of_toNat_lt hc, plainLower_of_toNat_lt hc]

theorem lowerAt_kelvin (before after : List Char) :
    lowerAt before kelvin after = [plainLower kelvin] := by
  rw [lowerAt, if_neg (by decide)]
  decide +kernel

/-- Any other character beyond ASCII is its own plain lower case. -/
theorem le_toNat_plainLower (hc : 128 ≤ c.toNat) (hk : c ≠ kelvin) : 128 ≤ (plainLower c).toNat := by
  rwa [plainLower, if_neg hk, (toLower_eq_iff hc c).2 rfl]

/-- A text becomes a text in ASCII when it does so character by character. -/
theorem lowerFrom_eq_iff {word : List Char} (hword : Ascii word)
    (before text : List Char) : lowerFrom before text = word ↔ text.map plainLower = word := by
  induction text generalizing before word with
  | nil => rfl
  | cons c after ih =>
    rw [lowerFrom, List.map_cons]
    by_cases hc : c.toNat < 128 ∨ c = kelvin
    · have hsingle : lowerAt before c after = [plainLower c] := by
        rcases hc with hc | rfl
        · exact lowerAt_of_toNat_lt before after hc
        · exact lowerAt_kelvin before after
      rw [hsingle, List.singleton_append]
      cases word with
      | nil => simp
      | cons d word => rw [List.cons_eq_cons, List.cons_eq_cons, ih (List.forall_mem_cons.1 hword).2]
    · -- A character beyond ASCII is left on either side.
      rw [not_or, Nat.not_lt] at hc
      obtain ⟨d, hd, hfar⟩ := exists_mem_lowerAt before after hc.1 hc.2
      constructor
      · rintro rfl
        have := hword d (List.mem_append_left _ hd)
        omega
      · rintro rfl
        have := hword (plainLower c) (List.mem_cons_self ..)
        have := le_toNat_plainLower hc.1 hc.2
        omega

theorem lower_eq_iff {word : String} (hword : Ascii word.toList) (text : String) :
    lower text = word ↔ text.toList.map plainLower = word.toList := by
  rw [lower, ← lowerFrom_eq_iff hword [] text.toList]
  constructor
  · rintro rfl
    rw [String.toList_ofList]
  · intro h
    rw [h, String.ofList_toList]

theorem plainLower_eq_iff (hd : d.toNat < 128) :
    plainLower c = d ↔ c.toLower = d ∨ c.toLower = kelvin ∧ d = 'k' := by
  by_cases hc : c = kelvin
  · subst hc
    have hne : kelvin ≠ d := fun h => by subst h; exact absurd hd (by decide)
    have hself : kelvin.toLower = kelvin := by decide
    simp [plainLower, hself, hne, eq_comm]
  · have hne : c.toLower ≠ kelvin := mt (toLower_eq_iff (by decide) c).1 hc
    simp [plainLower, hc, hne]

theorem map_plainLower_eq_iff {word : List Char} (hword : Ascii word)
    (hk : 'k' ∉ word) (text : List Char) :
    text.map plainLower = word ↔ text.map Char.toLower = word := by
  induction text generalizing word with
  | nil => rfl
  | cons c text ih =>
    cases word with
    | nil => simp
    | cons d word =>
      obtain ⟨hd, hword⟩ := List.forall_mem_cons.1 hword
      rw [List.mem_cons, not_or] at hk
      rw [List.map_cons, List.map_cons, List.cons_eq_cons, List.cons_eq_cons, ih hword hk.2,
        plainLower_eq_iff hd]
      simp [Ne.symm hk.1]

/-- After a last `k` there is a choice. -/
theorem map_plainLower_eq_concat_iff {word : List Char} (hword : Ascii word)
    (hk : 'k' ∉ word) (text : List Char) :
    text.map plainLower = word ++ ['k'] ↔
      text.map Char.toLower = word ++ ['k'] ∨ text.map Char.toLower = word ++ [kelvin] := by
  have hlast : ∀ {f : Char → Char} {d : Char}, text.map f = word ++ [d] ↔
      ∃ before c, text = before ++ [c] ∧ before.map f = word ∧ f c = d := by
    intro f d
    simp [List.map_eq_append_iff, List.map_eq_singleton_iff]
  have hk' : 'k'.toNat < 128 := by decide
  simp only [hlast, map_plainLower_eq_iff hword hk, plainLower_eq_iff hk', and_true, and_or_left,
    exists_or]

end Plain

end RiscvGloss.Text
