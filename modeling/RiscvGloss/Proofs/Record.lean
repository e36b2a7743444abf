import RiscvGloss.Proofs.Log
import RiscvGloss.Proofs.Text.CaseMap

/-! Records of the log. What a record quotes of a line has no blanks, so a record never has a line
break, whatever the line holds, and the level that it names in front is the level of its event. -/

namespace RiscvGloss

section

variable {line token : String} {entries : List Entry} {entry : Entry}

theorem Warns.spaced (h : Warns token entries) (htoken : Text.Blankless token) :
    ∀ entry ∈ entries, Text.Spaced entry.text := by
  cases h with
  | nothing => exact List.forall_mem_nil _
  | unknownBase offset base reference =>
    have hbase : Text.Blankless (String.ofList base) := by
      intro c hc
      rw [String.toList_ofList] at hc
      refine htoken c ?_
      rw [reference.1]
      simp [hc]
    rw [List.forall_mem_singleton]
    exact ((Text.Spaced.append (by decide) htoken.spaced).append (by decide)).append hbase.spaced

theorem Traces.spaced (h : Traces token entry) (htoken : Text.Blankless token) :
    Text.Spaced entry.text := by
  cases h with
  | register =>
    have hnumber := (Text.blankless_toString (Register.names.idxOf token)).spaced
    exact (htoken.spaced.append (by decide)).append hnumber
  | other operand =>
    have hkind : Text.Spaced operand.kind.name := by cases operand.kind <;> decide
    exact (htoken.spaced.append (by decide)).append hkind

theorem forall_mem_of_forall₂ {α β : Type} {R : α → β → Prop} {p : α → Prop} {q : β → Prop}
    {as : List α} {bs : List β} (h : List.Forall₂ R as bs) (hp : ∀ a ∈ as, p a)
    (hq : ∀ a b, R a b → p a → q b) : ∀ b ∈ bs, q b := by
  induction h with
  | nil => exact List.forall_mem_nil _
  | cons hab _ ih =>
    rw [List.forall_mem_cons] at hp ⊢
    exact ⟨hq _ _ hab hp.1, ih hp.2⟩

theorem spaced_of_warns {before : List String} {warnings : List (List Entry)}
    (h : List.Forall₂ Warns before warnings) (htokens : ∀ token ∈ before, Text.Blankless token) :
    ∀ entry ∈ warnings.flatten, Text.Spaced entry.text := by
  rw [List.forall_mem_flatten]
  exact forall_mem_of_forall₂ h htokens fun _ _ => Warns.spaced

theorem spaced_of_traces {rest : List String} {traces : List Entry}
    (h : List.Forall₂ Traces rest traces) (htokens : ∀ token ∈ rest, Text.Blankless token) :
    ∀ entry ∈ traces, Text.Spaced entry.text :=
  forall_mem_of_forall₂ h htokens fun _ _ => Traces.spaced

/-- The log of a line quotes tokens only, and these hold no blank. -/
theorem LineLog.spaced (h : LineLog line entries) : ∀ entry ∈ entries, Text.Spaced entry.text := by
  have htokens : ∀ token ∈ tokens line, Text.Blankless token := fun _ => not_isBlank_of_mem_tokens
  cases h with
  | empty => exact List.forall_mem_nil _
  | malformed first before token after split plain bad warnings warns =>
    rw [split, List.forall_mem_cons, List.forall_mem_append] at htokens
    exact spaced_of_warns warns htokens.2.1
  | unknown first rest split plain warnings warns traces traced =>
    rw [split, List.forall_mem_cons] at htokens
    rw [List.forall_mem_append]
    exact ⟨spaced_of_warns warns htokens.2, spaced_of_traces traced htokens.2⟩
  | known first rest split plain warnings warns traces traced instruction =>
    rw [split, List.forall_mem_cons] at htokens
    have hletter : Text.Spaced instruction.format.letter := by
      cases instruction.format <;> decide
    rw [List.forall_mem_append, List.forall_mem_append, List.forall_mem_singleton]
    exact ⟨spaced_of_warns warns htokens.2, spaced_of_traces traced htokens.2,
      (htokens.1.lower.spaced.append (by decide)).append hletter⟩

/-- What explaining a line notes has no blanks but spaces. -/
theorem spaced_message_of_mem_explain (settings : Settings) (line : String) :
    ∀ event ∈ (explain settings line).run.events, Text.Spaced event.message := by
  intro event hevent
  obtain ⟨entries, h⟩ := exists_lineLog line
  have hentry : event.entry ∈ entries := h.entries_eq settings ▸ List.mem_map_of_mem hevent
  exact h.spaced event.entry hentry

end

theorem Settings.spaced_summary (settings : Settings) : Text.Spaced settings.summary := by
  have hchoice : Text.Spaced (toString settings.upperFallthrough) := by
    cases settings.upperFallthrough <;> decide
  exact (Text.Spaced.append (by decide) hchoice).append (by decide)

/-- The level that a line of the log names, which is the word after its opening bracket. -/
def Level.ofLine? : List Char → Option Level
  | '[' :: rest => [error, warn, info, debug, trace].find? fun level =>
      level.name.toList == rest.takeWhile (· != ' ')
  | _ => none

/-- The line of the log names a level that is shown. -/
def Verbosity.showsLine (verbosity : Verbosity) (line : List Char) : Bool :=
  (Level.ofLine? line).any verbosity.shows

namespace Event

variable {event : Event}

theorem spaced_record (h : Text.Spaced event.message) : Text.Spaced event.record := by
  have hcolumn : Text.Spaced event.level.column := by cases event.level <;> decide
  have hsource : Text.Spaced event.source := by
    unfold source
    split <;> decide
  exact ((((Text.Spaced.append (by decide) hcolumn).append (by decide)).append hsource).append
    (by decide)).append h

theorem exists_record_eq (event : Event) :
    ∃ rest, event.record = "[" ++ event.level.name ++ " " ++ rest := by
  have hcolumn : ∃ pad, event.level.column ++ " " = event.level.name ++ " " ++ pad := by
    cases event.level
    · exact ⟨"", rfl⟩
    · exact ⟨" ", rfl⟩
    · exact ⟨" ", rfl⟩
    · exact ⟨"", rfl⟩
    · exact ⟨"", rfl⟩
  obtain ⟨pad, hpad⟩ := hcolumn
  have hrecord : event.record =
      "[" ++ (event.level.column ++ " ") ++ (event.source ++ "] " ++ event.message) := by
    simp only [← String.append_assoc]
    rfl
  refine ⟨pad ++ (event.source ++ "] " ++ event.message), ?_⟩
  rw [hrecord, hpad]
  simp only [String.append_assoc]

/-- The level that a record names is the level of its event, whatever the message is. -/
theorem ofLine?_record (event : Event) (rest : List Char) :
    Level.ofLine? (event.record.toList ++ rest) = some event.level := by
  obtain ⟨text, htext⟩ := event.exists_record_eq
  have hlist : event.record.toList ++ rest =
      '[' :: (event.level.name.toList ++ ' ' :: (text.toList ++ rest)) := by
    simp [htext]
  rw [hlist]
  cases event.level <;> rfl

theorem showsLine_record (event : Event) (verbosity : Verbosity) :
    verbosity.showsLine (event.record.toList ++ ['\n']) = verbosity.shows event.level := by
  rw [Verbosity.showsLine, ofLine?_record]
  rfl

end Event

end RiscvGloss
