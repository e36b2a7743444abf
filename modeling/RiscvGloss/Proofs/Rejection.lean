import RiscvGloss.Proofs.Text.CaseMap
import RiscvGloss.Rejection

/-! The wording of rejections. Up to the text it quotes a message has fixed words, and none of them
that ends in a colon has another message after it. So a text followed by a colon, a space and a
message can be taken apart in one way only. -/

namespace RiscvGloss

/-- The words of the wording of a mismatch. -/
def Mismatch.words : Mismatch → List String
  | count expected found =>
    ["Incorrect", "number", "of", "operands,", "expected", toString expected ++ ",", "got",
      toString found]
  | kind index expected found =>
    "Expect" :: Text.words expected.name ++
      ["at", "operand", toString index ++ ",", "got", found.name]

namespace Mismatch

theorem words_message (mismatch : Mismatch) : Text.words mismatch.message = mismatch.words := by
  have hgot : ", got " = "," ++ " " ++ "got" ++ " " := rfl
  cases mismatch with
  | count expected found =>
    have hmessage : (count expected found).message =
        "Incorrect number of operands, expected" ++ " " ++ (toString expected ++ ",") ++ " " ++
          "got" ++ " " ++ toString found := by
      change "Incorrect number of operands, expected " ++ toString expected ++ ", got " ++
        toString found = _
      rw [hgot]
      simp only [← String.append_assoc]
      rfl
    have hexpected : Text.Blankless (toString expected ++ ",") :=
      (Text.blankless_toString expected).append (by decide)
    rw [hmessage, Text.words_append, Text.words_append, Text.words_append,
      Text.words_of_blankless hexpected, Text.words_of_blankless (Text.blankless_toString found)]
    rfl
  | kind index expected found =>
    have hmessage : (kind index expected found).message =
        "Expect" ++ " " ++ expected.name ++ " " ++ "at operand" ++ " " ++
          (toString index ++ ",") ++ " " ++ "got" ++ " " ++ found.name := by
      change "Expect " ++ expected.name ++ " at operand " ++ toString index ++ ", got " ++
        found.name = _
      rw [hgot, show " at operand " = " " ++ "at operand" ++ " " from rfl]
      simp only [← String.append_assoc]
      rfl
    have hindex : Text.Blankless (toString index ++ ",") :=
      (Text.blankless_toString index).append (by decide)
    have hfound : Text.words found.name = [found.name] := by cases found <;> rfl
    rw [hmessage, Text.words_append, Text.words_append, Text.words_append, Text.words_append,
      Text.words_append, Text.words_of_blankless hindex, hfound]
    simp only [words, List.append_assoc]
    rfl

theorem spaced_message (mismatch : Mismatch) : Text.Spaced mismatch.message := by
  cases mismatch with
  | count expected found =>
    have hexpected := (Text.blankless_toString expected).spaced
    have hfound := (Text.blankless_toString found).spaced
    exact ((Text.Spaced.append (by decide) hexpected).append (by decide)).append hfound
  | kind index expected found =>
    have hindex := (Text.blankless_toString index).spaced
    have hexpected : Text.Spaced expected.name := by cases expected <;> decide
    have hfound : Text.Spaced found.name := by cases found <;> decide
    exact ((((Text.Spaced.append (by decide) hexpected).append (by decide)).append hindex).append
      (by decide)).append hfound

theorem colon_not_mem_toDigits (n : Nat) : ':' ∉ Nat.toDigits 10 n :=
  fun h => absurd (Nat.isDigit_of_mem_toDigits (by decide) (by decide) h) (by decide)

theorem colon_not_mem_of_mem_words {mismatch : Mismatch} :
    ∀ word ∈ mismatch.words, ':' ∉ word.toList := by
  cases mismatch with
  | count expected found =>
    simp [words, colon_not_mem_toDigits]
  | kind index expected found =>
    have hexpected : ∀ word ∈ Text.words expected.name, ':' ∉ word.toList := by
      cases expected <;> decide
    have hfound : ':' ∉ found.name.toList := by cases found <;> decide
    simpa [words, colon_not_mem_toDigits, hfound, or_imp, forall_and] using hexpected

theorem exists_words_eq (mismatch : Mismatch) :
    ∃ first rest, mismatch.words = first :: rest ∧ (first = "Incorrect" ∨ first = "Expect") ∧
      2 ≤ rest.length := by
  cases mismatch with
  | count expected found => exact ⟨"Incorrect", _, rfl, .inl rfl, by simp⟩
  | kind index expected found => exact ⟨"Expect", _, rfl, .inr rfl, by simp⟩

end Mismatch

namespace Rejection

/-- The text that a rejection quotes. -/
def quoted : Rejection → String
  | unknownInstruction mnemonic => mnemonic
  | malformedMemory token => token
  | unfit mnemonic _ => mnemonic

/-- The words of the wording of a rejection. -/
def words : Rejection → List String
  | unknownInstruction mnemonic => ["Unknown", "instruction", mnemonic]
  | malformedMemory token => ["Invalid", "memory", "operand:", token]
  | unfit mnemonic mismatch => (Text.upper mnemonic ++ ":") :: mismatch.words

variable {reason reason' : Rejection}

theorem message_unknownInstruction (mnemonic : String) :
    (unknownInstruction mnemonic).message = "Unknown instruction" ++ " " ++ mnemonic :=
  rfl

theorem message_malformedMemory (token : String) :
    (malformedMemory token).message = "Invalid memory operand:" ++ " " ++ token :=
  rfl

theorem message_unfit (mnemonic : String) (mismatch : Mismatch) :
    (unfit mnemonic mismatch).message = Text.upper mnemonic ++ ":" ++ " " ++ mismatch.message := by
  change Text.upper mnemonic ++ ": " ++ mismatch.message = _
  rw [show ": " = ":" ++ " " from rfl, ← String.append_assoc]

theorem words_message (h : Text.Blankless reason.quoted) :
    Text.words reason.message = reason.words := by
  cases reason with
  | unknownInstruction mnemonic =>
    have hmnemonic : Text.Blankless mnemonic := h
    rw [message_unknownInstruction, Text.words_append, Text.words_of_blankless hmnemonic]
    rfl
  | malformedMemory token =>
    have htoken : Text.Blankless token := h
    rw [message_malformedMemory, Text.words_append, Text.words_of_blankless htoken]
    rfl
  | unfit mnemonic mismatch =>
    have hfirst : Text.Blankless (Text.upper mnemonic ++ ":") := h.upper.append (by decide)
    rw [message_unfit, Text.words_append, Text.words_of_blankless hfirst, mismatch.words_message]
    rfl

theorem spaced_message (h : Text.Blankless reason.quoted) : Text.Spaced reason.message := by
  cases reason with
  | unknownInstruction mnemonic => exact Text.Spaced.append (by decide) h.spaced
  | malformedMemory token => exact Text.Spaced.append (by decide) h.spaced
  | unfit mnemonic mismatch =>
    exact (h.upper.spaced.append (by decide)).append mismatch.spaced_message

theorem three_le_length_words (reason : Rejection) : 3 ≤ reason.words.length := by
  cases reason with
  | unknownInstruction | malformedMemory => simp [words]
  | unfit mnemonic mismatch =>
    obtain ⟨first, rest, hwords, -, hlength⟩ := mismatch.exists_words_eq
    simp only [words, hwords, List.length_cons]
    omega

theorem words_ne_words_mismatch (reason : Rejection) (mismatch : Mismatch) :
    reason.words ≠ mismatch.words := by
  intro heq
  obtain ⟨first, rest, hwords, hfirst, -⟩ := mismatch.exists_words_eq
  rw [hwords] at heq
  cases reason with
  | unknownInstruction | malformedMemory =>
    obtain ⟨rfl, -⟩ := List.cons.inj heq
    simp at hfirst
  | unfit mnemonic mismatch' =>
    obtain ⟨rfl, -⟩ := List.cons.inj heq
    have hcolon : ':' ∈ (Text.upper mnemonic ++ ":").toList := by simp
    rcases hfirst with h | h <;> rw [h] at hcolon <;> revert hcolon <;> decide

/-- Inside the words of a message no word before the words of another message has a colon. -/
theorem colon_not_mem_of_words_eq {before : List String} {word : String}
    (h : reason.words = before ++ word :: reason'.words) : ':' ∉ word.toList := by
  have hlength := congrArg List.length h
  have hlength' := reason'.three_le_length_words
  rw [List.length_append, List.length_cons] at hlength
  -- every message has three words, so the fixed wordings leave room for one word before it at most
  cases reason with
  | unknownInstruction mnemonic =>
    change 3 = _ at hlength
    omega
  | malformedMemory token =>
    change 4 = _ at hlength
    obtain rfl : before = [] := List.length_eq_zero_iff.1 (by omega)
    obtain ⟨rfl, -⟩ := List.cons.inj h
    decide
  | unfit mnemonic mismatch =>
    cases before with
    | nil =>
      obtain ⟨-, hrest⟩ := List.cons.inj h
      exact absurd hrest.symm (reason'.words_ne_words_mismatch mismatch)
    | cons first before =>
      obtain ⟨-, hrest⟩ := List.cons.inj h
      exact mismatch.colon_not_mem_of_mem_words word (hrest ▸ by simp)

theorem message_ne_append (h : Text.Blankless reason.quoted) (h' : Text.Blankless reason'.quoted)
    (text : String) : reason.message ≠ text ++ ": " ++ reason'.message := by
  intro heq
  obtain ⟨front, last, hfront⟩ := @Text.exists_words_append text ":" (by decide)
  have hwords : reason.words = front ++ (last ++ ":") :: reason'.words := by
    rw [← words_message h, heq, show ": " = ":" ++ " " from rfl, ← String.append_assoc,
      Text.words_append, hfront, words_message h', List.append_assoc, List.singleton_append]
  exact colon_not_mem_of_words_eq hwords (by simp)

theorem eq_nil_of_append_eq (h : Text.Blankless reason.quoted)
    (h' : Text.Blankless reason'.quoted) {extra : List Char}
    (heq : ':' :: ' ' :: reason.message.toList = extra ++ ':' :: ' ' :: reason'.message.toList) :
    extra = [] := by
  rcases extra with _ | ⟨c, _ | ⟨d, rest⟩⟩
  · rfl
  · simp at heq
  · have hmessage : reason.message.toList = rest ++ ':' :: ' ' :: reason'.message.toList :=
      (List.cons.inj (List.cons.inj heq).2).2
    refine absurd (String.toList_inj.1 ?_) (message_ne_append h h' (String.ofList rest))
    simpa using hmessage

/-- What stands before a colon, a space and a message can be told from the whole. -/
theorem append_message_inj (h : Text.Blankless reason.quoted) (h' : Text.Blankless reason'.quoted)
    {text text' : String}
    (heq : text ++ ": " ++ reason.message = text' ++ ": " ++ reason'.message) :
    text = text' ∧ reason.message = reason'.message := by
  have hlists : text.toList ++ ':' :: ' ' :: reason.message.toList =
      text'.toList ++ ':' :: ' ' :: reason'.message.toList := by
    simpa using congrArg String.toList heq
  have htext : text.toList = text'.toList := by
    rcases List.append_eq_append_iff.1 hlists with ⟨extra, htext, hrest⟩ | ⟨extra, htext, hrest⟩
    · rw [htext, eq_nil_of_append_eq h h' hrest, List.append_nil]
    · rw [htext, eq_nil_of_append_eq h' h hrest, List.append_nil]
  rw [htext] at hlists
  have hrest := List.append_cancel_left hlists
  exact ⟨String.toList_inj.1 htext, String.toList_inj.1 (List.cons.inj (List.cons.inj hrest).2).2⟩

end Rejection

end RiscvGloss
