import Mathlib.Data.List.Pairwise
import RiscvGloss.Instruction
import RiscvGloss.Proofs.Operand.Grammar
import RiscvGloss.Proofs.Text.Words
import RiscvGloss.Proofs.Validation

/-! What sentences say: the words of a sentence give back every operand, and no two instructions of
the table have a sentence in common. Whether two phrases can meet is computed from their words and
the shapes of their operands, so that the table as a whole is checked by evaluation. -/

namespace RiscvGloss

/-- Operands that fit a shape, as tokens give them: each is what its text reads as, and no text
holds a blank. -/
structure Fitting (shape : List Expectation) (operands : List Operand) : Prop where
  meets : List.Forall₂ Expectation.Meets shape (operands.map Operand.kind)
  reads : ∀ operand ∈ operands, Operand.Reads operand.text operand
  blankless : ∀ operand ∈ operands, Text.Blankless operand.text

namespace Fitting

variable {shape : List Expectation} {operands : List Operand} {index : Nat}
  {expected : Expectation}

theorem nil : Fitting [] [] :=
  ⟨.nil, nofun, nofun⟩

theorem length_eq (h : Fitting shape operands) : operands.length = shape.length :=
  (length_eq_of_meets h.meets).symm

theorem exists_operand (h : Fitting shape operands) (he : shape[index]? = some expected) :
    ∃ operand ∈ operands, operands[index]? = some operand ∧ expected.Meets operand.kind := by
  obtain ⟨operand, hget, hmeets⟩ := exists_operand_of_meets h.meets he
  exact ⟨operand, List.mem_of_getElem? hget, hget, hmeets⟩

end Fitting

namespace Operand

/-- The text of a memory reference is made of its offset and its base. -/
theorem Reads.text_memory {operand : Operand} (h : Reads operand.text operand)
    (hk : operand.kind = .memory) :
    ∃ offset base, operand.offset? = some offset ∧ operand.base? = some base ∧
      operand.text = offset ++ "(" ++ base ++ ")" := by
  cases operand with
  | memory text offset base =>
    cases h with
    | memory o b reference =>
      refine ⟨_, _, rfl, rfl, String.toList_inj.1 ?_⟩
      simpa [Operand.text] using reference.1
  | register | immediate | label => cases hk

end Operand

namespace Word

/-- The words of the phrase hold no blank, apart from what fills their gaps. -/
def blankless : Word → Bool
  | fixed text => decide (Text.Blankless text)
  | gap before _ after => decide (Text.Blankless before) && decide (Text.Blankless after)

/-- The word is an ABI name whatever the operands are. -/
def isName (shape : List Expectation) : Word → Bool
  | gap before (.text index) after =>
    before == "" && after == "" && shape[index]? == some .register
  | _ => false

/-- The word is no ABI name whatever the operands are. -/
def isNoName (shape : List Expectation) : Word → Bool
  | fixed text => !Register.names.contains text
  | gap before (.text index) after =>
    before == "" && after == "" && shape[index]? == some .immediate
  | _ => false

/-- Two words that differ whatever the operands of either are. -/
def apart (shape shape' : List Expectation) : Word → Word → Bool
  | fixed text, fixed text' => text != text'
  | word, word' =>
    word.isName shape && word'.isNoName shape' || word.isNoName shape && word'.isName shape'

variable {shape shape' : List Expectation} {operands operands' : List Operand} {word word' : Word}

theorem render_mem_names (h : Fitting shape operands) (hw : word.isName shape = true) :
    word.render operands ∈ Register.names := by
  unfold isName at hw
  split at hw
  · simp only [Bool.and_eq_true, beq_iff_eq] at hw
    obtain ⟨⟨rfl, rfl⟩, he⟩ := hw
    obtain ⟨operand, hmem, hget, hmeets⟩ := h.exists_operand he
    have := (h.reads operand hmem).mem_names_iff.2 (Expectation.meets_register.1 hmeets)
    simpa [render, Slot.read?, hget] using this
  · cases hw

theorem render_not_mem_names (h : Fitting shape operands) (hw : word.isNoName shape = true) :
    word.render operands ∉ Register.names := by
  unfold isNoName at hw
  split at hw
  · simpa [render] using hw
  · simp only [Bool.and_eq_true, beq_iff_eq] at hw
    obtain ⟨⟨rfl, rfl⟩, he⟩ := hw
    obtain ⟨operand, hmem, hget, hmeets⟩ := h.exists_operand he
    have := (h.reads operand hmem).mem_names_iff
    rw [Expectation.meets_immediate.1 hmeets] at this
    simpa [render, Slot.read?, hget] using this
  · cases hw

theorem render_ne_of_apart (h : Fitting shape operands) (h' : Fitting shape' operands')
    (ha : apart shape shape' word word' = true) :
    word.render operands ≠ word'.render operands' := by
  unfold apart at ha
  split at ha
  · simpa [render] using ha
  · simp only [Bool.or_eq_true, Bool.and_eq_true] at ha
    rcases ha with ⟨hname, hno⟩ | ⟨hno, hname⟩
    · exact ne_of_mem_of_not_mem (render_mem_names h hname) (render_not_mem_names h' hno)
    · exact (ne_of_mem_of_not_mem (render_mem_names h' hname) (render_not_mem_names h hno)).symm

end Word

namespace Slot

variable {shape : List Expectation} {operands : List Operand} {index : Nat}

theorem blankless_of_read? (h : Fitting shape operands) {slot : Slot} {text : String}
    (hread : slot.read? operands = some text) : Text.Blankless text := by
  cases slot with
  | text index =>
    obtain ⟨operand, hget, rfl⟩ := Option.map_eq_some_iff.1 hread
    exact h.blankless operand (List.mem_of_getElem? hget)
  | base index | offset index =>
    obtain ⟨operand, hget, hpart⟩ := Option.bind_eq_some_iff.1 hread
    have hmem := List.mem_of_getElem? hget
    have hk : operand.kind = .memory := by cases operand <;> first | rfl | cases hpart
    obtain ⟨offset, base, hoffset, hbase, htext⟩ := (h.reads operand hmem).text_memory hk
    have hparts := (htext ▸ h.blankless operand hmem).of_append.1.of_append
    first
      | exact Option.some.inj (hbase.symm.trans hpart) ▸ hparts.2
      | exact Option.some.inj (hoffset.symm.trans hpart) ▸ hparts.1.of_append.1
  | target index =>
    obtain ⟨operand, -, rfl⟩ := Option.map_eq_some_iff.1 hread
    unfold Operand.targetWord
    split <;> decide

end Slot

theorem Word.blankless_render {shape : List Expectation} {operands : List Operand} {word : Word}
    (h : Fitting shape operands) (hw : word.blankless = true) :
    Text.Blankless (word.render operands) := by
  cases word with
  | fixed text => simpa [blankless, render] using hw
  | gap before slot after =>
    simp only [blankless, Bool.and_eq_true, decide_eq_true_eq] at hw
    refine (hw.1.append ?_).append hw.2
    cases hread : slot.read? operands with
    | none => exact fun c hc => by simp at hc
    | some text => exact Slot.blankless_of_read? h hread

namespace Phrase

variable {shape shape' : List Expectation} {operands operands' : List Operand}
  {phrase phrase' : Phrase}

/-- The phrase has words, and none of them holds a blank. -/
def blankless (phrase : Phrase) : Bool :=
  !phrase.isEmpty && phrase.all Word.blankless

/-- Two phrases that differ in some word whatever the operands of either are. -/
def apart (shape shape' : List Expectation) (phrase phrase' : Phrase) : Bool :=
  phrase.length != phrase'.length ||
    (phrase.zip phrase').any fun (word, word') => word.apart shape shape' word'

theorem blankless_of_mem_map_render (h : Fitting shape operands) (hp : phrase.blankless = true) :
    ∀ text ∈ phrase.map (·.render operands), Text.Blankless text := by
  simp only [blankless, Bool.and_eq_true, List.all_eq_true] at hp
  intro text ht
  obtain ⟨word, hmem, rfl⟩ := List.mem_map.1 ht
  exact Word.blankless_render h (hp.2 word hmem)

/-- The words of a sentence are the words of its phrase. -/
theorem words_render (h : Fitting shape operands) (hp : phrase.blankless = true) :
    Text.words (phrase.render operands) = phrase.map (·.render operands) := by
  refine Text.words_intercalate ?_ (blankless_of_mem_map_render h hp)
  rintro hnil
  rw [List.map_eq_nil_iff] at hnil
  simp [blankless, hnil] at hp

theorem spaced_render (h : Fitting shape operands) (hp : phrase.blankless = true) :
    Text.Spaced (phrase.render operands) :=
  Text.spaced_intercalate (blankless_of_mem_map_render h hp)

theorem map_render_ne_of_apart (h : Fitting shape operands) (h' : Fitting shape' operands')
    (ha : apart shape shape' phrase phrase' = true) :
    phrase.map (·.render operands) ≠ phrase'.map (·.render operands') := by
  intro heq
  simp only [apart, Bool.or_eq_true, bne_iff_ne, List.any_eq_true] at ha
  rcases ha with hlen | ⟨⟨word, word'⟩, hmem, hword⟩
  · exact hlen (by simpa using congrArg List.length heq)
  · have hall : List.Forall₂ (fun word word' => word.render operands = word'.render operands')
        phrase phrase' := by
      rw [← List.forall₂_map_right_iff, ← List.forall₂_map_left_iff, List.forall₂_eq_eq_eq]
      exact heq
    exact Word.render_ne_of_apart h h' hword (List.forall₂_zip hall hmem)

/-- The sentence shows the operand: its text, or its offset and its base where a memory reference is
expected. -/
def shows (shape : List Expectation) (phrase : Phrase) (index : Nat) : Bool :=
  phrase.slots.contains (.text index) ||
    (shape[index]? == some .memory && phrase.slots.contains (.base index) &&
      phrase.slots.contains (.offset index))

/-- Sentences of one phrase have the same parts in their gaps. -/
theorem read?_eq_of_map_render_eq
    (heq : phrase.map (·.render operands) = phrase.map (·.render operands')) {slot : Slot}
    (hs : slot ∈ phrase.slots) :
    (slot.read? operands).getD "" = (slot.read? operands').getD "" := by
  obtain ⟨word, hmem, hslot⟩ := List.mem_filterMap.1 hs
  cases word with
  | fixed text => cases hslot
  | gap before slot' after =>
    cases hslot
    have := List.map_inj_left.1 heq _ hmem
    simpa [Word.render, String.append_left_inj, String.append_right_inj] using this

theorem text_eq_of_shows (h : Fitting shape operands) (h' : Fitting shape operands')
    (heq : phrase.map (·.render operands) = phrase.map (·.render operands')) {index : Nat}
    (hshows : phrase.shows shape index = true) (hlt : index < shape.length) :
    operands[index]?.map Operand.text = operands'[index]?.map Operand.text := by
  obtain ⟨operand, hmem, hget, hmeets⟩ := h.exists_operand (List.getElem?_eq_getElem hlt)
  obtain ⟨operand', hmem', hget', hmeets'⟩ := h'.exists_operand (List.getElem?_eq_getElem hlt)
  simp only [shows, Bool.or_eq_true, Bool.and_eq_true, List.contains_iff_mem, beq_iff_eq] at hshows
  rcases hshows with htext | ⟨⟨hmemory, hbase⟩, hoffset⟩
  · have := read?_eq_of_map_render_eq heq htext
    simpa [Slot.read?, hget, hget'] using this
  · rw [List.getElem?_eq_getElem hlt] at hmemory
    rw [Option.some.inj hmemory, Expectation.meets_memory] at hmeets hmeets'
    obtain ⟨offset, base, ho, hb, htext⟩ := (h.reads operand hmem).text_memory hmeets
    obtain ⟨offset', base', ho', hb', htext'⟩ := (h'.reads operand' hmem').text_memory hmeets'
    have hbases := read?_eq_of_map_render_eq heq hbase
    have hoffsets := read?_eq_of_map_render_eq heq hoffset
    simp only [Slot.read?, hget, hget', Option.bind_some, hb, hb', ho, ho', Option.getD_some]
      at hbases hoffsets
    simp [hget, hget', htext, htext', hbases, hoffsets]

end Phrase

namespace Instruction

theorem blankless_of_mem {instruction : Instruction} (h : instruction ∈ table) :
    instruction.phrase.blankless = true := by
  revert instruction
  decide

theorem shows_of_mem {instruction : Instruction} (h : instruction ∈ table) :
    ∀ index < instruction.format.shape.length,
      instruction.phrase.shows instruction.format.shape index = true := by
  revert instruction
  decide

theorem pairwise_apart : table.Pairwise fun instruction instruction' =>
    Phrase.apart instruction.format.shape instruction'.format.shape instruction.phrase
      instruction'.phrase = true := by
  decide

/-- The instructions have no sentence in common. -/
def Distinct (instruction instruction' : Instruction) : Prop :=
  ∀ operands operands', Fitting instruction.format.shape operands →
    Fitting instruction'.format.shape operands' →
    instruction.phrase.map (·.render operands) ≠ instruction'.phrase.map (·.render operands')

instance : Std.Symm Distinct :=
  ⟨fun _ _ h operands operands' hf hf' => (h operands' operands hf' hf).symm⟩

theorem pairwise_distinct : table.Pairwise Distinct :=
  pairwise_apart.imp fun ha _ _ h h' => Phrase.map_render_ne_of_apart h h' ha

variable {instruction instruction' : Instruction} {operands operands' : List Operand}

/-- Sentences of the table that are equal are of one instruction, and their operands have the same
texts. -/
theorem eq_of_render_eq (hi : instruction ∈ table) (hi' : instruction' ∈ table)
    (h : Fitting instruction.format.shape operands)
    (h' : Fitting instruction'.format.shape operands')
    (heq : instruction.phrase.render operands = instruction'.phrase.render operands') :
    instruction = instruction' ∧ operands.map Operand.text = operands'.map Operand.text := by
  have hwords := congrArg Text.words heq
  rw [Phrase.words_render h (blankless_of_mem hi),
    Phrase.words_render h' (blankless_of_mem hi')] at hwords
  have hsame : instruction = instruction' := by
    by_contra hne
    exact pairwise_distinct.forall hi hi' hne _ _ h h' hwords
  subst hsame
  refine ⟨rfl, List.ext_getElem? fun index => ?_⟩
  rw [List.getElem?_map, List.getElem?_map]
  by_cases hlt : index < instruction.format.shape.length
  · exact Phrase.text_eq_of_shows h h' hwords (shows_of_mem hi index hlt) hlt
  · rw [List.getElem?_eq_none (by simpa [h.length_eq] using hlt),
      List.getElem?_eq_none (by simpa [h'.length_eq] using hlt)]

theorem render_ne_emptyLine (hi : instruction ∈ table)
    (h : Fitting instruction.format.shape operands) :
    instruction.phrase.render operands ≠ "Empty line" := by
  intro heq
  have hwords := congrArg Text.words heq
  rw [Phrase.words_render h (blankless_of_mem hi)] at hwords
  have hapart : ∀ instruction ∈ table,
      Phrase.apart [] instruction.format.shape ["Empty", "line"] instruction.phrase = true := by
    decide
  exact Phrase.map_render_ne_of_apart Fitting.nil h (hapart _ hi) hwords.symm

end Instruction

end RiscvGloss
