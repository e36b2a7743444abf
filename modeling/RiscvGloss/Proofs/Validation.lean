import Mathlib.Data.List.Forall2
import RiscvGloss.Validation

/-! What each format expects, which kinds meet that, and what the check of operands reports: the
wrong number first, then the first place of a wrong kind, and for upper immediates the second check
that none of them passes. -/

namespace RiscvGloss

/-- The kind meets the expectation. -/
inductive Expectation.Meets : Expectation → Operand.Kind → Prop
  | register : Meets .register .register
  | immediate : Meets .immediate .immediate
  | memory : Meets .memory .memory
  | offset : Meets .target .immediate
  | label : Meets .target .label

namespace Expectation

variable {expected : Expectation} {found : Operand.Kind}

theorem admits_eq_true_iff : expected.admits found = true ↔ expected.Meets found := by
  constructor
  · intro h
    cases expected <;> cases found <;> first | constructor | cases h
  · intro h
    cases h <;> rfl

instance : DecidableRel Meets :=
  fun _ _ => decidable_of_iff _ admits_eq_true_iff

@[simp] theorem meets_register : Meets .register found ↔ found = .register := by
  cases found <;> decide

@[simp] theorem meets_immediate : Meets .immediate found ↔ found = .immediate := by
  cases found <;> decide

@[simp] theorem meets_memory : Meets .memory found ↔ found = .memory := by
  cases found <;> decide

@[simp] theorem meets_target : Meets .target found ↔ found = .immediate ∨ found = .label := by
  cases found <;> decide

end Expectation

section

variable {shape : List Expectation} {operands : List Operand} {index : Nat} {operand : Operand}
  {expected : Expectation}

theorem length_eq_of_meets
    (h : List.Forall₂ Expectation.Meets shape (operands.map Operand.kind)) :
    shape.length = operands.length := by
  simpa using h.length_eq

theorem exists_operand_of_meets
    (h : List.Forall₂ Expectation.Meets shape (operands.map Operand.kind))
    (he : shape[index]? = some expected) :
    ∃ operand, operands[index]? = some operand ∧ expected.Meets operand.kind := by
  obtain ⟨hlt, rfl⟩ := List.getElem?_eq_some_iff.1 he
  have hlt' : index < operands.length := length_eq_of_meets h ▸ hlt
  refine ⟨operands[index], List.getElem?_eq_getElem hlt', ?_⟩
  simpa using h.get hlt (by simpa using hlt')

theorem exists_expectation_of_meets
    (h : List.Forall₂ Expectation.Meets shape (operands.map Operand.kind))
    (hget : operands[index]? = some operand) :
    ∃ expected, shape[index]? = some expected ∧ expected.Meets operand.kind := by
  obtain ⟨hlt, rfl⟩ := List.getElem?_eq_some_iff.1 hget
  have hlt' : index < shape.length := (length_eq_of_meets h).symm ▸ hlt
  refine ⟨shape[index], List.getElem?_eq_getElem hlt', ?_⟩
  simpa using h.get hlt' (by simpa using hlt)

end

namespace Mismatch

/-- The place `index` is the first one where a kind does not meet the expectation. -/
structure FirstUnfit (shape : List Expectation) (kinds : List Operand.Kind) (index : Nat)
    (expected : Expectation) (found : Operand.Kind) : Prop where
  expected_at : shape[index]? = some expected
  found_at : kinds[index]? = some found
  unfit : ¬expected.Meets found
  fit_before : List.Forall₂ Expectation.Meets (shape.take index) (kinds.take index)

variable {shape : List Expectation} {kinds : List Operand.Kind} {expected : Expectation}
  {found : Operand.Kind}

theorem firstUnfit?_cons_fit {start : Nat} (h : expected.Meets found) :
    firstUnfit? start (expected :: shape) (found :: kinds) =
      firstUnfit? (start + 1) shape kinds :=
  if_pos (Expectation.admits_eq_true_iff.2 h)

theorem firstUnfit?_cons_unfit {start : Nat} (h : ¬expected.Meets found) :
    firstUnfit? start (expected :: shape) (found :: kinds) = some (kind start expected found) :=
  if_neg (mt Expectation.admits_eq_true_iff.1 h)

theorem firstUnfit?_eq_some {start index : Nat} (h : FirstUnfit shape kinds index expected found) :
    firstUnfit? start shape kinds = some (kind (start + index) expected found) := by
  induction index generalizing start shape kinds with
  | zero =>
    obtain ⟨hexpected, hfound, hunfit, -⟩ := h
    cases shape <;> cases kinds <;> cases hexpected <;> cases hfound
    exact firstUnfit?_cons_unfit hunfit
  | succ index ih =>
    obtain ⟨hexpected, hfound, hunfit, hbefore⟩ := h
    cases shape with
    | nil => cases hexpected
    | cons first shape =>
      cases kinds with
      | nil => cases hfound
      | cons k kinds =>
        rw [List.take_succ_cons, List.take_succ_cons, List.forall₂_cons] at hbefore
        rw [firstUnfit?_cons_fit hbefore.1, ih ⟨hexpected, hfound, hunfit, hbefore.2⟩]
        congr 2
        omega

theorem firstUnfit_of_firstUnfit? {start : Nat} {mismatch : Mismatch}
    (h : firstUnfit? start shape kinds = some mismatch) :
    ∃ index expected found, FirstUnfit shape kinds index expected found ∧
      mismatch = kind (start + index) expected found := by
  induction shape generalizing start kinds with
  | nil => cases h
  | cons first shape ih =>
    cases kinds with
    | nil => cases h
    | cons k kinds =>
      by_cases hfit : first.Meets k
      · rw [firstUnfit?_cons_fit hfit] at h
        obtain ⟨index, expected, found, hfirst, rfl⟩ := ih h
        refine ⟨index + 1, expected, found, ?_, by congr 1; omega⟩
        exact ⟨hfirst.expected_at, hfirst.found_at, hfirst.unfit, .cons hfit hfirst.fit_before⟩
      · rw [firstUnfit?_cons_unfit hfit] at h
        cases h
        exact ⟨0, first, k, ⟨rfl, rfl, hfit, .nil⟩, rfl⟩

/-- Nothing is found in a list of the right length when all its kinds meet the expectations. -/
theorem firstUnfit?_eq_none_iff {start : Nat} (hlen : kinds.length = shape.length) :
    firstUnfit? start shape kinds = none ↔ List.Forall₂ Expectation.Meets shape kinds := by
  induction shape generalizing start kinds with
  | nil =>
    obtain rfl := List.length_eq_zero_iff.1 hlen
    exact ⟨fun _ => .nil, fun _ => rfl⟩
  | cons first shape ih =>
    cases kinds with
    | nil => cases hlen
    | cons k kinds =>
      rw [List.forall₂_cons]
      by_cases hfit : first.Meets k
      · rw [firstUnfit?_cons_fit hfit, ih (by simpa using hlen)]
        simp [hfit]
      · simp [firstUnfit?_cons_unfit hfit, hfit]

theorem between?_eq_none_iff :
    between? shape kinds = none ↔ List.Forall₂ Expectation.Meets shape kinds := by
  unfold between?
  split
  · rename_i hlen
    exact firstUnfit?_eq_none_iff hlen
  · rename_i hlen
    exact ⟨fun h => (Option.some_ne_none _ h).elim, fun h => absurd h.length_eq.symm hlen⟩

theorem between?_eq_count_iff {want got : Nat} :
    between? shape kinds = some (count want got) ↔
      kinds.length ≠ shape.length ∧ want = shape.length ∧ got = kinds.length := by
  unfold between?
  split
  · rename_i hlen
    refine ⟨fun h => ?_, fun h => absurd hlen h.1⟩
    obtain ⟨_, _, _, _, heq⟩ := firstUnfit_of_firstUnfit? h
    cases heq
  · rename_i hlen
    simp [hlen, eq_comm]

theorem between?_eq_kind_iff {index : Nat} :
    between? shape kinds = some (kind index expected found) ↔
      kinds.length = shape.length ∧ FirstUnfit shape kinds index expected found := by
  unfold between?
  split
  · rename_i hlen
    simp only [hlen, true_and]
    constructor
    · intro h
      obtain ⟨_, _, _, hfirst, heq⟩ := firstUnfit_of_firstUnfit? h
      cases heq
      simpa using hfirst
    · intro h
      have : firstUnfit? 0 shape kinds = some (kind (0 + index) expected found) :=
        firstUnfit?_eq_some h
      simpa using this
  · rename_i hlen
    simp [hlen]

end Mismatch

namespace Format

/-- What each format expects of its operands, in order. -/
inductive Expects : Format → List Expectation → Prop
  | r : Expects .r [.register, .register, .register]
  | i : Expects .i [.register, .register, .immediate]
  | s : Expects .s [.register, .memory]
  | b : Expects .b [.register, .register, .target]
  | j : Expects .j [.register, .target]
  | u : Expects .u [.register, .immediate]
  | e : Expects .e []

variable {settings : Settings} {format : Format} {shape : List Expectation}
  {operands : List Operand}

theorem expects_shape (format : Format) : format.Expects format.shape := by
  cases format <;> constructor

theorem Expects.eq_shape (h : format.Expects shape) : shape = format.shape := by
  cases h <;> rfl

/-- Only upper immediates are checked twice, and only with the fallthrough. -/
theorem shapes_eq (h : ¬(settings.upperFallthrough = true ∧ format = .u)) :
    format.shapes settings = [format.shape] := by
  cases format <;> simp_all [shapes]

/-- No upper immediate is a load or a store. -/
theorem between?_of_upper {kinds : List Operand.Kind}
    (h : List.Forall₂ Expectation.Meets u.shape kinds) :
    Mismatch.between? s.shape kinds = some (.kind 1 .memory .immediate) := by
  rcases h with _ | ⟨hfirst, _ | ⟨hsecond, _ | _⟩⟩
  rw [Expectation.meets_register] at hfirst
  rw [Expectation.meets_immediate] at hsecond
  subst hfirst hsecond
  rfl

/-- The check of a format reports what does not fit its shape, and with the fallthrough also an
upper immediate that does fit. -/
theorem mismatch?_eq_some_iff {mismatch : Mismatch} :
    format.mismatch? settings operands = some mismatch ↔
      Mismatch.between? format.shape (operands.map Operand.kind) = some mismatch ∨
      (List.Forall₂ Expectation.Meets format.shape (operands.map Operand.kind) ∧
        (settings.upperFallthrough = true ∧ format = .u) ∧
        mismatch = .kind 1 .memory .immediate) := by
  rw [mismatch?]
  generalize operands.map Operand.kind = kinds
  by_cases hfall : settings.upperFallthrough = true ∧ format = .u
  · obtain ⟨hset, rfl⟩ := hfall
    have hshapes : u.shapes settings = [u.shape, s.shape] := by simp [shapes, hset]
    simp only [hshapes, List.findSome?_cons, List.findSome?_nil]
    cases hfirst : Mismatch.between? u.shape kinds with
    | none =>
      have hfits := Mismatch.between?_eq_none_iff.1 hfirst
      simp [between?_of_upper hfits, hfits, hset, eq_comm]
    | some first =>
      have hfits : ¬List.Forall₂ Expectation.Meets u.shape kinds := by
        simp [← Mismatch.between?_eq_none_iff, hfirst]
      simp [hfits]
  · simp only [shapes_eq hfall, List.findSome?_cons, List.findSome?_nil, hfall, false_and,
      and_false, or_false]
    cases Mismatch.between? format.shape kinds <;> rfl

/-- Operands pass the check of a format when they fit its shape, unless the fallthrough makes it
reject upper immediates. -/
theorem mismatch?_eq_none_iff :
    format.mismatch? settings operands = none ↔
      List.Forall₂ Expectation.Meets format.shape (operands.map Operand.kind) ∧
        ¬(settings.upperFallthrough = true ∧ format = .u) := by
  rw [Option.eq_none_iff_forall_not_mem]
  simp only [Option.mem_def, mismatch?_eq_some_iff, not_or]
  rw [← Mismatch.between?_eq_none_iff]
  constructor
  · intro h
    refine ⟨Option.eq_none_iff_forall_not_mem.2 fun m => (h m).1, fun hfall => ?_⟩
    exact (h (.kind 1 .memory .immediate)).2
      ⟨Option.eq_none_iff_forall_not_mem.2 fun m => (h m).1, hfall, rfl⟩
  · rintro ⟨hnone, hfall⟩ m
    exact ⟨by simp [hnone], fun h => hfall h.2.1⟩

end Format

namespace Instruction

theorem find_eq_ok_iff {mnemonic : String} {instruction : Instruction} :
    find mnemonic = .ok instruction ↔ instruction ∈ table ∧ instruction.mnemonic = mnemonic := by
  unfold find
  constructor
  · intro h
    split at h
    · rename_i found hfound
      cases h
      exact mem_of_find? hfound
    · cases h
  · rintro ⟨hmem, rfl⟩
    rw [find?_mnemonic hmem]

theorem find_eq_error_iff {mnemonic : String} {reason : Rejection} :
    find mnemonic = .error reason ↔
      (∀ instruction ∈ table, instruction.mnemonic ≠ mnemonic) ∧
        reason = .unknownInstruction mnemonic := by
  unfold find find?
  cases hfind : table.find? (·.mnemonic == mnemonic) with
  | none =>
    have hno := List.find?_eq_none.1 hfind
    simp only [beq_iff_eq] at hno
    exact ⟨fun h => by cases h; exact ⟨hno, rfl⟩, fun h => by rw [h.2]⟩
  | some found =>
    have hmem := mem_of_find? hfind
    simp only [reduceCtorEq, false_iff, not_and]
    exact fun hno => absurd hmem.2 (hno found hmem.1)

variable {instruction : Instruction} {settings : Settings} {operands : List Operand}

theorem checkOperands_eq_ok_iff {done : Unit} :
    instruction.checkOperands settings operands = .ok done ↔
      List.Forall₂ Expectation.Meets instruction.format.shape (operands.map Operand.kind) ∧
        ¬(settings.upperFallthrough = true ∧ instruction.format = .u) := by
  rw [← Format.mismatch?_eq_none_iff, checkOperands]
  cases instruction.format.mismatch? settings operands <;> simp

theorem checkOperands_eq_error_iff {reason : Rejection} :
    instruction.checkOperands settings operands = .error reason ↔
      ∃ mismatch, instruction.format.mismatch? settings operands = some mismatch ∧
        reason = .unfit instruction.mnemonic mismatch := by
  rw [checkOperands]
  cases instruction.format.mismatch? settings operands <;> simp [eq_comm]

end Instruction

end RiscvGloss
