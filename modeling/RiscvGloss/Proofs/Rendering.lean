import RiscvGloss.Proofs.Text.Words
import RiscvGloss.Proofs.Verdict

/-! Sentences from operands that are taken by their number, without a look at how many there are and
of which kind they are. A program that works so stops where there is no such operand, and has to make
up the parts of an operand that is no memory reference. After the check of the operands it does
neither: it gives the same sentences as phrases do, and they show every operand. -/

namespace RiscvGloss

/-- A result or a rejection, from a program that may also stop without either. -/
abbrev Direct := ExceptT Rejection Option

namespace Operand

/-- The base and the offset of a memory reference. Any other operand is made up to one, with its
text as the base and zero as the offset. -/
def address : Operand → String × String
  | memory _ offset base => (base, offset)
  | operand => (operand.text, "0")

/-- What a sentence shows of an operand. -/
def parts : Operand → List String
  | memory _ offset base => [base, offset]
  | operand => [operand.text]

end Operand

namespace Direct

variable {α β : Type}

/-- The member with this number, which the program stops without. -/
def take (xs : List α) (index : Nat) : Direct α :=
  ExceptT.mk (xs[index]?.map .ok)

/-- Checks the operands from `index` on, each taken by its number. -/
def checkKinds (mnemonic : String) (operands : List Operand) (index : Nat) :
    List Expectation → Direct Unit
  | [] => return ()
  | expected :: shape => do
    let operand ← take operands index
    if expected.admits operand.kind then checkKinds mnemonic operands (index + 1) shape
    else throw (.unfit mnemonic (.kind index expected operand.kind))

/-- Checks the number of operands, and then one after another. -/
def checkShape (mnemonic : String) (operands : List Operand) (shape : List Expectation) :
    Direct Unit := do
  if operands.length = shape.length then checkKinds mnemonic operands 0 shape
  else throw (.unfit mnemonic (.count shape.length operands.length))

def check (settings : Settings) (mnemonic : String) (operands : List Operand) :
    Direct Instruction := do
  let instruction ← liftExcept (Instruction.find mnemonic)
  forM (instruction.format.shapes settings) (checkShape mnemonic operands)
  return instruction

def fill (operands : List Operand) : Slot → Direct String
  | .text index => return (← take operands index).text
  | .base index => return (← take operands index).address.1
  | .offset index => return (← take operands index).address.2
  | .target index => return (← take operands index).targetWord

def word (operands : List Operand) : Word → Direct String
  | .fixed text => return text
  | .gap before slot after => return before ++ (← fill operands slot) ++ after

def render (operands : List Operand) (phrase : Phrase) : Direct String :=
  return " ".intercalate (← phrase.mapM (word operands))

def explainOperands (settings : Settings) (mnemonic : String) (operands : List Operand) :
    Direct String := do
  render operands (← check settings mnemonic operands).phrase

def explain (settings : Settings) (line : String) : Direct String :=
  match tokens line with
  | [] => return emptyLine
  | first :: rest => do
    explainOperands settings (Text.lower first) (← liftExcept (rest.mapM Operand.read))

section Run

/-- A program that does not stop goes on with its result. -/
theorem run_bind_of_eq_some {x : Direct α} {f : α → Direct β} {result : Except Rejection α}
    {next : α → Except Rejection β} (h : x.run = some result)
    (hnext : ∀ a, result = .ok a → (f a).run = some (next a)) :
    (x >>= f).run = some (result >>= next) := by
  rw [ExceptT.run_bind, h]
  cases result with
  | ok a => exact hnext a rfl
  | error reason => rfl

theorem run_bind_of_eq_ok {x : Direct α} {a : α} (h : x.run = some (.ok a)) (f : α → Direct β) :
    (x >>= f).run = (f a).run := by
  rw [ExceptT.run_bind, h]
  rfl

theorem run_liftExcept (x : Except Rejection α) : (liftExcept x : Direct α).run = some x := by
  cases x <;> rfl

theorem run_take {xs : List α} {index : Nat} {a : α} (h : xs[index]? = some a) :
    (take xs index).run = some (.ok a) := by
  rw [take, ExceptT.run_mk, h]
  rfl

/-- The result of a check that found this mismatch, or none. -/
def outcome (mnemonic : String) : Option Mismatch → Except Rejection Unit
  | none => .ok ()
  | some mismatch => .error (.unfit mnemonic mismatch)

variable {mnemonic : String} {operands : List Operand}

/-- The operands are there as long as the shape asks for them, so their check never stops. -/
theorem run_checkKinds {shape : List Expectation} {index : Nat}
    (h : operands.length = index + shape.length) :
    (checkKinds mnemonic operands index shape).run = some (outcome mnemonic
      (Mismatch.firstUnfit? index shape ((operands.drop index).map Operand.kind))) := by
  induction shape generalizing index with
  | nil => rfl
  | cons expected shape ih =>
    rw [List.length_cons] at h
    have hlt : index < operands.length := by omega
    rw [checkKinds, run_bind_of_eq_ok (run_take (List.getElem?_eq_getElem hlt)),
      List.drop_eq_getElem_cons hlt, List.map_cons]
    split
    · rename_i hfit
      rw [Mismatch.firstUnfit?_cons_fit (Expectation.admits_eq_true_iff.1 hfit)]
      exact ih (by omega)
    · rename_i hunfit
      rw [Mismatch.firstUnfit?_cons_unfit (mt Expectation.admits_eq_true_iff.2 hunfit)]
      rfl

theorem run_checkShape (shape : List Expectation) :
    (checkShape mnemonic operands shape).run =
      some (outcome mnemonic (Mismatch.between? shape (operands.map Operand.kind))) := by
  rw [checkShape, Mismatch.between?, List.length_map]
  split
  · rename_i hlength
    exact run_checkKinds (by omega)
  · rfl

theorem run_forM_checkShape (shapes : List (List Expectation)) :
    (forM shapes (checkShape mnemonic operands)).run = some (outcome mnemonic
      (shapes.findSome? (Mismatch.between? · (operands.map Operand.kind)))) := by
  induction shapes with
  | nil => rfl
  | cons shape shapes ih =>
    rw [List.forM_cons, run_bind_of_eq_some (run_checkShape shape) fun _ _ => ih,
      List.findSome?_cons]
    cases Mismatch.between? shape (operands.map Operand.kind) <;> rfl

theorem run_check (settings : Settings) (mnemonic : String) (operands : List Operand) :
    (check settings mnemonic operands).run =
      some (Instruction.validate settings mnemonic operands) := by
  refine run_bind_of_eq_some (run_liftExcept _) fun instruction hfind => ?_
  obtain ⟨-, rfl⟩ := Instruction.find_eq_ok_iff.1 hfind
  exact run_bind_of_eq_some (run_forM_checkShape _) fun _ _ => rfl

end Run

end Direct

namespace Slot

/-- The number of the operand that the gap shows. -/
def index : Slot → Nat
  | text index | base index | offset index | target index => index

/-- The gap shows the base or the offset of a memory reference. -/
def isPart : Slot → Bool
  | base _ | offset _ => true
  | text _ | target _ => false

/-- The gaps that show an operand in this place, of which this is expected. -/
def showing (index : Nat) : Expectation → List Slot
  | .memory => [base index, offset index]
  | .register | .immediate | .target => [text index]

/-- These gaps hold all that a sentence shows of the operand, if its kind is the expected one. -/
theorem exists_showing {operands : List Operand} {operand : Operand} {expected : Expectation}
    {index : Nat} {part : String} (hget : operands[index]? = some operand)
    (hmeets : expected.Meets operand.kind) (hpart : part ∈ operand.parts) :
    ∃ slot ∈ showing index expected, slot.read? operands = some part := by
  cases operand with
  | memory text offset base =>
    obtain rfl : expected = .memory := by cases expected <;> simp [Operand.kind] at hmeets ⊢
    simp only [Operand.parts, List.mem_cons, List.not_mem_nil, or_false] at hpart
    rcases hpart with rfl | rfl
    · exact ⟨.base index, by simp [showing], by simp [read?, hget, Operand.base?]⟩
    · exact ⟨.offset index, by simp [showing], by simp [read?, hget, Operand.offset?]⟩
  | register text | immediate text | label text =>
    obtain rfl : part = text := List.mem_singleton.1 hpart
    refine ⟨.text index, ?_, by simp [read?, hget, Operand.text]⟩
    cases expected <;> simp [showing, Operand.kind] at hmeets ⊢

end Slot

namespace Instruction

/-- Phrases ask only for operands of the format, and take only memory references apart. -/
theorem exists_expectation_of_mem_slots {instruction : Instruction} (h : instruction ∈ table) :
    ∀ slot ∈ instruction.phrase.slots, ∃ expected ∈ instruction.format.shape[slot.index]?,
      slot.isPart = true → expected = .memory := by
  revert instruction
  decide

/-- Phrases show every operand of the format. -/
theorem showing_subset_slots {instruction : Instruction} (h : instruction ∈ table) :
    ∀ index < instruction.format.shape.length,
      ∀ expected ∈ instruction.format.shape[index]?,
        ∀ slot ∈ Slot.showing index expected, slot ∈ instruction.phrase.slots := by
  revert instruction
  decide

end Instruction

/-- The operands fill the gaps of a phrase. Each gap finds its operand, what is taken apart is a
memory reference, and the sentence shows every operand as it is written. -/
structure Fills (operands : List Operand) (phrase : Phrase) : Prop where
  present : ∀ slot ∈ phrase.slots, slot.index < operands.length
  reference : ∀ slot ∈ phrase.slots, slot.isPart = true →
    ∃ text offset base, operands[slot.index]? = some (.memory text offset base)
  shown : ∀ operand ∈ operands, ∀ part ∈ operand.parts,
    part.toList <:+: (phrase.render operands).toList

section

variable {operands : List Operand} {phrase : Phrase}

theorem infix_render_of_mem_slots {slot : Slot} {part : String} (h : slot ∈ phrase.slots)
    (hread : slot.read? operands = some part) : part.toList <:+: (phrase.render operands).toList := by
  obtain ⟨word, hword, hslot⟩ := List.mem_filterMap.1 h
  have hrender : (word.render operands).toList <:+: (phrase.render operands).toList :=
    Text.infix_intercalate (List.mem_map_of_mem hword)
  refine List.IsInfix.trans ?_ hrender
  cases word with
  | fixed text => cases hslot
  | gap before slot' after =>
    cases hslot
    simp only [Word.render, hread, Option.getD_some, String.toList_append]
    exact List.infix_append _ _ _

end

namespace Instruction

variable {settings : Settings} {mnemonic : String} {operands : List Operand}
  {instruction : Instruction}

theorem fills_of_meets (h : instruction ∈ table)
    (hmeets : List.Forall₂ Expectation.Meets instruction.format.shape
      (operands.map Operand.kind)) : Fills operands instruction.phrase := by
  constructor
  · intro slot hslot
    obtain ⟨expected, hexpected, -⟩ := exists_expectation_of_mem_slots h slot hslot
    obtain ⟨operand, hget, -⟩ := exists_operand_of_meets hmeets hexpected
    exact (List.getElem?_eq_some_iff.1 hget).1
  · intro slot hslot hpart
    obtain ⟨expected, hexpected, hmemory⟩ := exists_expectation_of_mem_slots h slot hslot
    obtain ⟨operand, hget, hkind⟩ := exists_operand_of_meets hmeets hexpected
    rw [hmemory hpart, Expectation.meets_memory] at hkind
    cases operand with
    | memory text offset base => exact ⟨text, offset, base, hget⟩
    | register | immediate | label => cases hkind
  · intro operand hmem part hpart
    obtain ⟨index, hlt, rfl⟩ := List.getElem_of_mem hmem
    have hget := List.getElem?_eq_getElem hlt
    obtain ⟨expected, hexpected, hkind⟩ := exists_expectation_of_meets hmeets hget
    obtain ⟨slot, hslot, hread⟩ := Slot.exists_showing hget hkind hpart
    have hlt' := (List.getElem?_eq_some_iff.1 hexpected).1
    exact infix_render_of_mem_slots
      (showing_subset_slots h index hlt' expected hexpected slot hslot) hread

/-- Operands that pass the check fill the phrase of their instruction. -/
theorem fills_of_validate (h : validate settings mnemonic operands = .ok instruction) :
    Fills operands instruction.phrase := by
  cases validate_eq_iff.1 h with
  | accepted _ entry shape expects fits allowed =>
    obtain rfl := expects.eq_shape
    exact fills_of_meets entry.known fits

end Instruction

namespace Direct

variable {α β : Type} {operands : List Operand} {phrase : Phrase}

theorem run_mapM {f : α → Direct β} {g : α → β} {xs : List α}
    (h : ∀ x ∈ xs, (f x).run = some (.ok (g x))) : (xs.mapM f).run = some (.ok (xs.map g)) := by
  induction xs with
  | nil => rfl
  | cons x xs ih =>
    obtain ⟨hx, hxs⟩ := List.forall_mem_cons.1 h
    rw [List.mapM_cons, run_bind_of_eq_ok hx, run_bind_of_eq_ok (ih hxs)]
    rfl

/-- A gap of a phrase that is filled finds its text, and nothing is made up for it. -/
theorem run_fill (h : Fills operands phrase) {slot : Slot} (hslot : slot ∈ phrase.slots) :
    (fill operands slot).run = some (.ok ((slot.read? operands).getD "")) := by
  cases slot with
  | text index | target index =>
    have hlt : index < operands.length := h.present _ hslot
    have hget := List.getElem?_eq_getElem hlt
    rw [fill, run_bind_of_eq_ok (run_take hget), Slot.read?, hget]
    rfl
  | base index | offset index =>
    obtain ⟨text, offset, base, hmemory⟩ := h.reference _ hslot rfl
    rw [Slot.index] at hmemory
    rw [fill, run_bind_of_eq_ok (run_take hmemory), Slot.read?, hmemory]
    rfl

theorem run_word (h : Fills operands phrase) {word : Word} (hword : word ∈ phrase) :
    (Direct.word operands word).run = some (.ok (word.render operands)) := by
  cases word with
  | fixed text => rfl
  | gap before slot after =>
    have hslot : slot ∈ phrase.slots := List.mem_filterMap.2 ⟨_, hword, rfl⟩
    rw [Direct.word, run_bind_of_eq_ok (run_fill h hslot)]
    rfl

theorem run_render (h : Fills operands phrase) :
    (render operands phrase).run = some (.ok (phrase.render operands)) := by
  rw [render, run_bind_of_eq_ok (run_mapM fun _ => run_word h)]
  rfl

theorem run_explainOperands (settings : Settings) (mnemonic : String) (operands : List Operand) :
    (explainOperands settings mnemonic operands).run =
      some (RiscvGloss.explainOperands settings mnemonic operands).run.value := by
  have hrun := run_bind_of_eq_some (run_check settings mnemonic operands) fun instruction hvalid =>
    run_render (Instruction.fills_of_validate hvalid)
  rw [value_run_explainOperands_eq_validate]
  refine hrun.trans ?_
  cases Instruction.validate settings mnemonic operands <;> rfl

theorem run_explain (settings : Settings) (line : String) :
    (explain settings line).run = some (RiscvGloss.explain settings line).run.value := by
  rw [value_run_explain_eq_validate, explain]
  cases tokens line with
  | nil => rfl
  | cons first rest =>
    simp only [← value_run_explainOperands_eq_validate]
    exact run_bind_of_eq_some (run_liftExcept _) fun operands _ => run_explainOperands _ _ operands

end Direct

/-- Operands that pass the check, whatever their texts are, fill every gap of the phrase of their
instruction, and the sentence shows all of them. So the programs that take operands by their number
never stop and never make up a part, for any operands and any line: they have the same results. -/
theorem direct_access_safe :
    (∀ settings mnemonic operands instruction,
      Instruction.validate settings mnemonic operands = .ok instruction →
      Fills operands instruction.phrase ∧
        (explainOperands settings mnemonic operands).run.value =
          .ok (instruction.phrase.render operands)) ∧
    (∀ settings mnemonic operands, (Direct.explainOperands settings mnemonic operands).run =
      some (explainOperands settings mnemonic operands).run.value) ∧
    ∀ settings line, (Direct.explain settings line).run =
      some (explain settings line).run.value := by
  refine ⟨fun settings mnemonic operands instruction h => ⟨Instruction.fills_of_validate h, ?_⟩,
    Direct.run_explainOperands, Direct.run_explain⟩
  rw [value_run_explainOperands_eq_validate, h]
  rfl

/-- A load with operands that no line has. -/
theorem direct_access_safe_of_load :
    Instruction.validate {} "lw" [.register "" ⟨3⟩, .memory "?" "1 2" "a b"] =
      .ok ⟨"lw", .s, .load "word"⟩ ∧
    Fills [.register "" ⟨3⟩, .memory "?" "1 2" "a b"] (.load "word") ∧
    (explainOperands {} "lw" [.register "" ⟨3⟩, .memory "?" "1 2" "a b"]).run.value =
      .ok "Load word from memory[a b + 1 2] → " := by
  have hvalid : Instruction.validate {} "lw" [.register "" ⟨3⟩, .memory "?" "1 2" "a b"] =
      .ok ⟨"lw", .s, .load "word"⟩ := rfl
  obtain ⟨hfills, hvalue⟩ := direct_access_safe.1 _ _ _ _ hvalid
  exact ⟨hvalid, hfills, hvalue⟩

-- Without the check the second operand is missing, or its parts are made up.
example : (Direct.render [.label "x"] (.load "word")).run = none ∧
    (Direct.render [.label "x", .label "y"] (.load "word")).run =
      some (.ok "Load word from memory[y + 0] → x") := by
  decide +kernel

end RiscvGloss
