import RiscvGloss.Proofs.Answer
import RiscvGloss.Proofs.Events
import RiscvGloss.Proofs.Text.Quoted

/-! The record of a rejected line. Its message is on one line and quotes the rejected line so that
the line can be read out of it again, whatever the line and the reason hold. -/

namespace RiscvGloss

/-- What the log says about a rejected line. Inside the quotes, characters without an escape of
their own stand as they are if `plain` holds of them. -/
def rejectedMessage (plain : Char → Bool) (line : String) (reason : Rejection) : String :=
  "Rejected \"" ++ String.ofList (Text.Quoted.encode plain line.toList) ++ "\": " ++ reason.message

/-- The line that a message quotes: what stands after its first double quote, with the escapes read
back, up to the next double quote without a backslash. -/
def quotedLine? (message : String) : Option String :=
  (Text.Quoted.decode (message.toList.dropWhile (· != '"')).tail).map fun (text, _) =>
    String.ofList text

/-- The messages of the records for debugging. -/
def Logged.debugMessages {α : Type} (x : Logged α) : List String :=
  (x.events.filter (·.level == .debug)).map Event.message

section

variable {plain plain' : Char → Bool} {settings settings' : Settings} {line line' : String}
  {reason reason' : Rejection}

theorem message_rejected (line : String) (reason : Rejection) :
    (Event.rejected line reason).message = rejectedMessage Text.isPrintable line reason := by
  change "Rejected " ++ Text.Quoted.quote line ++ ": " ++ reason.message = _
  rw [← String.toList_inj]
  simp [rejectedMessage, Text.Quoted.quote]

theorem toList_rejectedMessage (plain : Char → Bool) (line : String) (reason : Rejection) :
    (rejectedMessage plain line reason).toList = "Rejected ".toList ++ '"' ::
      (Text.Quoted.encode plain line.toList ++ '"' :: (": " ++ reason.message).toList) := by
  simp [rejectedMessage]

theorem quotedLine?_rejectedMessage (plain : Char → Bool) (line : String) (reason : Rejection) :
    quotedLine? (rejectedMessage plain line reason) = some line := by
  have hbefore : ∀ c ∈ "Rejected ".toList, (c != '"') = true := List.all_eq_true.1 (by decide)
  have hquote : ¬('"' != '"') = true := by decide
  rw [quotedLine?, toList_rejectedMessage, List.dropWhile_append_of_pos hbefore,
    List.dropWhile_cons_of_neg (p := (· != '"')) hquote, List.tail_cons,
    Text.Quoted.decode_encode, Option.map_some]
  exact congrArg some String.ofList_toList

theorem rejectedMessage_inj
    (h : rejectedMessage plain line reason = rejectedMessage plain' line' reason') :
    line = line' := by
  rw [← Option.some_inj, ← quotedLine?_rejectedMessage plain line reason, h,
    quotedLine?_rejectedMessage]

/-- A line break has an escape of its own, and the reason quotes no blanks of the line. -/
theorem break_not_mem_rejectedMessage (h : (explain settings line).run.value = .error reason)
    {c : Char} (hc : c = '\n' ∨ c = '\r') : c ∉ (rejectedMessage plain line reason).toList := by
  obtain ⟨hblank, hspace, hquote⟩ : Text.isBlank c = true ∧ c ≠ ' ' ∧ c ≠ '"' := by
    rcases hc with rfl | rfl <;> decide
  have hbefore : c ∉ "Rejected ".toList := by rcases hc with rfl | rfl <;> decide
  have hencode : c ∉ Text.Quoted.encode plain line.toList := by
    rcases hc with rfl | rfl <;>
      exact Text.Quoted.not_mem_encode (by decide) (by decide) (by decide)
  have hafter : Text.Spaced (": " ++ reason.message) :=
    Text.Spaced.append (by decide) (Rejection.spaced_message (blankless_quoted h))
  rw [toList_rejectedMessage, List.mem_append, List.mem_cons, List.mem_append, List.mem_cons]
  rintro (hmem | rfl | hmem | rfl | hmem)
  · exact hbefore hmem
  · exact hquote rfl
  · exact hencode hmem
  · exact hquote rfl
  · exact hspace (hafter c hmem hblank)

theorem debugMessages_gloss (h : (explain settings line).run.value = .error reason) :
    (gloss settings line).debugMessages = [rejectedMessage Text.isPrintable line reason] := by
  have hexplain : (explain settings line).run.events.filter (·.level == .debug) = [] := by
    rw [List.filter_eq_nil_iff]
    exact forall_mem_events_explain (fun _ _ => Bool.false_ne_true) (fun _ => Bool.false_ne_true)
      (fun _ _ => Bool.false_ne_true) settings line
  rw [Logged.debugMessages, events_gloss, h, List.filter_append, hexplain, ← message_rejected]
  rfl

end

/-- A rejected line has one record for debugging. Whatever stands as it is in its quotes, its
message is on one line, and the line is read out of it again. So the messages about two lines, under
any settings, are equal only if the lines are the same. -/
theorem rejected_message_gives_line :
    (∀ settings line reason, (explain settings line).run.value = .error reason →
      (gloss settings line).debugMessages = [rejectedMessage Text.isPrintable line reason] ∧
      ∀ plain, '\n' ∉ (rejectedMessage plain line reason).toList ∧
        '\r' ∉ (rejectedMessage plain line reason).toList ∧
        quotedLine? (rejectedMessage plain line reason) = some line) ∧
    (∀ settings settings' line line' reason reason',
      (explain settings line).run.value = .error reason →
      (explain settings' line').run.value = .error reason' →
      (gloss settings line).debugMessages = (gloss settings' line').debugMessages →
      line = line') ∧
    ∀ plain plain' line line' reason reason',
      rejectedMessage plain line reason = rejectedMessage plain' line' reason' → line = line' := by
  refine ⟨fun settings line reason h => ⟨debugMessages_gloss h, fun plain => ?_⟩, ?_, ?_⟩
  · exact ⟨break_not_mem_rejectedMessage h (.inl rfl), break_not_mem_rejectedMessage h (.inr rfl),
      quotedLine?_rejectedMessage plain line reason⟩
  · intro settings settings' line line' reason reason' h h' heq
    rw [debugMessages_gloss h, debugMessages_gloss h'] at heq
    exact rejectedMessage_inj (List.singleton_inj.1 heq)
  · intro plain plain' line line' reason reason' heq
    exact rejectedMessage_inj heq

/-- A line with a double quote, text that looks like an escape, and a line break. The reason has the
first two as they are. -/
theorem rejected_message_gives_line_of_escapes :
    (explain {} "\"\\u\x7b41\x7d\n").run.value =
      .error (.unknownInstruction "\"\\u\x7b41\x7d") ∧
    (explain ⟨true⟩ "\"\\u\x7b41\x7d\n").run.value =
      .error (.unknownInstruction "\"\\u\x7b41\x7d") ∧
    (gloss {} "\"\\u\x7b41\x7d\n").debugMessages =
      [rejectedMessage Text.isPrintable "\"\\u\x7b41\x7d\n"
        (.unknownInstruction "\"\\u\x7b41\x7d")] ∧
    quotedLine? (rejectedMessage Text.isPrintable "\"\\u\x7b41\x7d\n"
      (.unknownInstruction "\"\\u\x7b41\x7d")) = some "\"\\u\x7b41\x7d\n" ∧
    (gloss {} "\"\\u\x7b41\x7d\n").debugMessages =
      (gloss ⟨true⟩ "\"\\u\x7b41\x7d\n").debugMessages ∧
    "\"\\u\x7b41\x7d\n" = "\"\\u\x7b41\x7d\n" := by
  have h : (explain {} "\"\\u\x7b41\x7d\n").run.value =
      .error (.unknownInstruction "\"\\u\x7b41\x7d") := by decide +kernel
  have h' : (explain ⟨true⟩ "\"\\u\x7b41\x7d\n").run.value =
      .error (.unknownInstruction "\"\\u\x7b41\x7d") := by decide +kernel
  obtain ⟨hmessages, hgives⟩ := rejected_message_gives_line.1 {} _ _ h
  have heq := hmessages.trans (rejected_message_gives_line.1 ⟨true⟩ _ _ h').1.symm
  exact ⟨h, h', hmessages, (hgives Text.isPrintable).2.2, heq,
    rejected_message_gives_line.2.1 _ _ _ _ _ _ h h' heq⟩

-- What the record of a line with each kind of escape says.
example : (gloss {} "a\t\u200b\\ (\r").debugMessages =
    ["Rejected \"a\\t\\u\x7b200b\x7d\\\\ (\\r\": Invalid memory operand: ("] := by
  decide +kernel

end RiscvGloss
