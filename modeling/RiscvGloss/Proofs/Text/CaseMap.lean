import RiscvGloss.Proofs.Text.Words
import RiscvGloss.Text.Lower
import RiscvGloss.Text.Upper

/-! Changing the case of a text creates no blanks. For the case mappings this is a check of their
tables: no run of images meets a range of blanks. -/

namespace RiscvGloss.Text

theorem CaseRun.image?_eq_some_iff {run : CaseRun} {n image : Nat} :
    run.image? n = some image ↔
      (run.first ≤ n ∧ n ≤ run.last ∧ (n - run.first) % run.step = 0) ∧
        run.image + (n - run.first) = image := by
  rw [CaseRun.image?, Option.ite_none_right_eq_some, Option.some.injEq]

namespace CaseMap

/-- A mapping expands a character, moves it with a run, or keeps it. -/
theorem apply_cases (m : CaseMap) (c : Char) :
    (∃ images, (c.toNat, images) ∈ m.expansions ∧ m.apply c = images.map Char.ofNat) ∨
    (∃ run ∈ m.runs, ∃ image, run.image? c.toNat = some image ∧ m.apply c = [Char.ofNat image]) ∨
    m.apply c = [c] := by
  unfold apply
  cases hlookup : m.expansions.lookup c.toNat with
  | some images =>
    obtain ⟨before, after, hsplit, -⟩ := List.lookup_eq_some_iff.1 hlookup
    exact .inl ⟨images, by simp [hsplit], rfl⟩
  | none =>
    cases hfind : m.runs.findSome? (·.image? c.toNat) with
    | some image =>
      obtain ⟨run, hmem, himage⟩ := List.exists_of_findSome?_eq_some hfind
      exact .inr (.inl ⟨run, hmem, image, himage, rfl⟩)
    | none => exact .inr (.inr rfl)

/-- The images of a run lie outside the blanks. -/
def runAvoidsBlanks (run : CaseRun) : Bool :=
  blanks.all fun range =>
    range.last < run.image || run.image + (run.last - run.first) < range.first

/-- The images of all characters that the mapping changes lie outside the blanks. -/
def avoidsBlanks (m : CaseMap) : Bool :=
  m.expansions.all (fun (_, images) => images.all fun n => !isBlank (Char.ofNat n)) &&
    m.runs.all runAvoidsBlanks

/-- Code points that no character has stand for the character zero. -/
theorem toNat_ofNat_eq_or (n : Nat) : (Char.ofNat n).toNat = n ∨ (Char.ofNat n).toNat = 0 := by
  by_cases h : n.isValidChar
  · rw [Char.ofNat, dif_pos h]
    exact .inl rfl
  · rw [Char.ofNat, dif_neg h]
    exact .inr rfl

theorem first_pos_of_mem_blanks : ∀ range ∈ blanks, 0 < range.first := by
  decide

theorem isBlank_ofNat_image {run : CaseRun} (h : runAvoidsBlanks run = true) {n image : Nat}
    (himage : run.image? n = some image) : isBlank (Char.ofNat image) = false := by
  obtain ⟨⟨hfirst, hlast, -⟩, rfl⟩ := CaseRun.image?_eq_some_iff.1 himage
  rw [← Bool.not_eq_true, isBlank, inRanges_iff]
  rintro ⟨range, hmem, hlow, hhigh⟩
  have hrange := List.all_eq_true.1 h range hmem
  simp only [Bool.or_eq_true, decide_eq_true_eq] at hrange
  have hpos := first_pos_of_mem_blanks range hmem
  have hcode := toNat_ofNat_eq_or (run.image + (n - run.first))
  omega

theorem isBlank_of_mem_apply {m : CaseMap} (h : m.avoidsBlanks = true) {c d : Char}
    (hc : isBlank c = false) (hd : d ∈ m.apply c) : isBlank d = false := by
  simp only [avoidsBlanks, Bool.and_eq_true, List.all_eq_true] at h
  rcases m.apply_cases c with ⟨images, hmem, happly⟩ | ⟨run, hmem, image, himage, happly⟩ | happly
  · rw [happly] at hd
    obtain ⟨n, hn, rfl⟩ := List.mem_map.1 hd
    simpa using h.1 _ hmem n hn
  · rw [happly, List.mem_singleton] at hd
    exact hd ▸ isBlank_ofNat_image (h.2 run hmem) himage
  · rw [happly, List.mem_singleton] at hd
    exact hd ▸ hc

theorem avoidsBlanks_lowerMap : lowerMap.avoidsBlanks = true := by
  decide

theorem avoidsBlanks_upperMap : upperMap.avoidsBlanks = true := by
  decide

end CaseMap

theorem isBlank_of_mem_lowerAt {before after : List Char} {c d : Char} (hc : isBlank c = false)
    (hd : d ∈ lowerAt before c after) : isBlank d = false := by
  unfold lowerAt at hd
  split at hd
  · split at hd <;> rw [List.mem_singleton] at hd <;> subst hd <;> decide
  · exact CaseMap.isBlank_of_mem_apply CaseMap.avoidsBlanks_lowerMap hc hd

theorem isBlank_of_mem_lowerFrom {before text : List Char}
    (h : ∀ c ∈ text, isBlank c = false) : ∀ d ∈ lowerFrom before text, isBlank d = false := by
  induction text generalizing before with
  | nil => simp [lowerFrom]
  | cons c after ih =>
    obtain ⟨hc, hafter⟩ := List.forall_mem_cons.1 h
    intro d hd
    rw [lowerFrom, List.mem_append] at hd
    exact hd.elim (isBlank_of_mem_lowerAt hc) (ih hafter d)

theorem Blankless.lower {text : String} (h : Blankless text) : Blankless (lower text) := by
  intro d hd
  rw [Text.lower, String.toList_ofList] at hd
  exact isBlank_of_mem_lowerFrom h d hd

theorem Blankless.upper {text : String} (h : Blankless text) : Blankless (upper text) := by
  intro d hd
  rw [Text.upper, String.toList_ofList] at hd
  obtain ⟨c, hc, hd⟩ := List.mem_flatMap.1 hd
  exact CaseMap.isBlank_of_mem_apply CaseMap.avoidsBlanks_upperMap (h c hc) hd

end RiscvGloss.Text
