import RiscvGloss.Proofs.Events
import RiscvGloss.Proofs.Language

/-! The log of a line. Its entries are the warnings about the operands before the first malformed
one, then, once all operands are read, an entry for each of them and one for the format of a known
mnemonic, and last the rejection if there is one. The settings have no part in it before that. -/

namespace RiscvGloss

section

variable {settings : Settings} {line first token : String} {before rest after : List String}
  {operands : List Operand}

/-- A malformed operand cuts the events off after the warnings about those before it. -/
theorem events_run_explain_of_malformed
    (h : tokens line = first :: (before ++ token :: after)) (bad : Operand.IsMalformed token)
    (hreads : List.Forall₂ Operand.Reads before operands) :
    (explain settings line).run.events = operands.flatMap Operand.warnings := by
  have hread := (forall₂_read_iff h (List.subset_append_left _ _)).2 hreads
  have hbad : Operand.read token = .error (.malformedMemory token) :=
    (Operand.read_eq_error_iff (trim_of_mem_rest h (by simp))).2 ⟨bad, rfl⟩
  have herror : (before ++ token :: after).mapM Operand.read = .error (.malformedMemory token) :=
    (mapM_read_eq_error_iff h).2
      ⟨before, token, after, rfl, bad, plain_iff_exists_reads.2 ⟨operands, hreads⟩, rfl⟩
  rw [events_run_explain, h]
  simp only
  rw [herror, events_run_mapM_append hread, List.mapM_cons, Logged.events_run_bind,
    events_run_readOperand, value_run_readOperand, hbad]
  simp

theorem events_run_explain_of_reads (h : tokens line = first :: rest)
    (hreads : List.Forall₂ Operand.Reads rest operands) :
    (explain settings line).run.events = operands.flatMap Operand.warnings ++
      (operands.map .operand ++ formatEvents (Text.lower first)) := by
  have hread := (forall₂_read_iff h (List.Subset.refl rest)).2 hreads
  have hwarnings : (rest.mapM readOperand).run.events = operands.flatMap Operand.warnings := by
    simpa using events_run_mapM_append hread []
  rw [events_run_explain, h]
  simp only
  rw [(mapM_read_eq_ok_iff h).2 hreads, hwarnings]

end

/-- An entry of the log: its level and what it says. -/
structure Entry where
  level : Level
  text : String
  deriving DecidableEq, Repr

def Event.entry (event : Event) : Entry :=
  ⟨event.level, event.message⟩

def Logged.entries {α : Type} (x : Logged α) : List Entry :=
  x.events.map Event.entry

/-- What reading a token adds to the log: a warning about a memory reference whose base is no ABI
name, and nothing about any other token. -/
inductive Warns (token : String) : List Entry → Prop
  | unknownBase (offset base : List Char)
      (reference : Operand.IsReference offset base token.toList)
      (noName : String.ofList base ∉ Register.names) :
      Warns token
        [⟨.warn, s!"Memory operand {token} uses unknown base register {String.ofList base}"⟩]
  | nothing (known : ∀ offset base, Operand.IsReference offset base token.toList →
      String.ofList base ∈ Register.names) : Warns token []

/-- The entry about an operand token: the number of the register with that ABI name, or else the
kind of the operand. -/
inductive Traces (token : String) : Entry → Prop
  | register (name : token ∈ Register.names) :
      Traces token ⟨.trace, s!"{token}: register x{Register.names.idxOf token}"⟩
  | other (operand : Operand) (reads : Operand.Reads token operand)
      (noName : token ∉ Register.names) : Traces token ⟨.trace, s!"{token}: {operand.kind.name}"⟩

/-- What explaining a line adds to the log. Only the warnings before the leftmost malformed operand
are there if there is one, and there is an entry about the format only of a known mnemonic. -/
inductive LineLog (line : String) : List Entry → Prop
  | empty (none : tokens line = []) : LineLog line []
  | malformed (first : String) (before : List String) (token : String) (after : List String)
      (split : tokens line = first :: (before ++ token :: after))
      (plain : ∀ t ∈ before, ¬Operand.IsMalformed t) (bad : Operand.IsMalformed token)
      (warnings : List (List Entry)) (warns : List.Forall₂ Warns before warnings) :
      LineLog line warnings.flatten
  | unknown (first : String) (rest : List String) (split : tokens line = first :: rest)
      (plain : ∀ t ∈ rest, ¬Operand.IsMalformed t) (warnings : List (List Entry))
      (warns : List.Forall₂ Warns rest warnings) (traces : List Entry)
      (traced : List.Forall₂ Traces rest traces)
      (unknown : ∀ instruction ∈ Instruction.table, instruction.mnemonic ≠ Text.lower first) :
      LineLog line (warnings.flatten ++ traces)
  | known (first : String) (rest : List String) (split : tokens line = first :: rest)
      (plain : ∀ t ∈ rest, ¬Operand.IsMalformed t) (warnings : List (List Entry))
      (warns : List.Forall₂ Warns rest warnings) (traces : List Entry)
      (traced : List.Forall₂ Traces rest traces) (instruction : Instruction)
      (known : instruction ∈ Instruction.table) (named : instruction.mnemonic = Text.lower first) :
      LineLog line (warnings.flatten ++ (traces ++
        [⟨.trace, s!"{Text.lower first} has format {instruction.format.letter}"⟩]))

section

variable {token : String} {operand : Operand}

theorem warns_iff_of_not_paren (h : '(' ∉ token.toList) {entries : List Entry} :
    Warns token entries ↔ entries = [] := by
  constructor
  · intro hwarns
    cases hwarns with
    | unknownBase offset base reference => exact absurd reference.paren_mem h
    | nothing => rfl
  · rintro rfl
    exact .nothing fun offset base reference => absurd reference.paren_mem h

theorem warns_iff_of_reads (h : Operand.Reads token operand) {entries : List Entry} :
    Warns token entries ↔ entries = operand.warnings.map Event.entry := by
  cases h with
  | register r name =>
    have hname := Register.mem_names_iff.2 ⟨r, name⟩
    exact warns_iff_of_not_paren (Register.no_literal_of_mem_names hname).1
  | immediate plain | label plain => exact warns_iff_of_not_paren plain
  | memory offset base reference =>
    -- the token falls into an offset and a base in one way only
    rw [Operand.warnings]
    constructor
    · intro hwarns
      cases hwarns with
      | unknownBase offset' base' reference' noName =>
        obtain ⟨-, rfl⟩ := reference.unique reference'
        rw [if_neg (noName ∘ Register.isSome_ofName?_iff.1)]
        rfl
      | nothing known =>
        rw [if_pos (Register.isSome_ofName?_iff.2 (known offset base reference))]
        rfl
    · rintro rfl
      split
      · rename_i hname
        refine .nothing fun offset' base' reference' => ?_
        obtain ⟨-, rfl⟩ := reference.unique reference'
        exact Register.isSome_ofName?_iff.1 hname
      · rename_i hname
        exact .unknownBase offset base reference (hname ∘ Register.isSome_ofName?_iff.2)

theorem traces_iff_of_not_mem_names (ht : String.ofList (Text.trim token.toList) = token)
    (h : Operand.Reads token operand) (hno : token ∉ Register.names) {entry : Entry} :
    Traces token entry ↔ entry = ⟨.trace, s!"{token}: {operand.kind.name}"⟩ := by
  constructor
  · intro htraces
    cases htraces with
    | register name => exact absurd name hno
    | other operand' reads' =>
      have hread := (Operand.read_eq_ok_iff ht).2 h
      cases hread.symm.trans ((Operand.read_eq_ok_iff ht).2 reads')
      rfl
  · rintro rfl
    exact .other operand h hno

theorem traces_iff_of_reads (ht : String.ofList (Text.trim token.toList) = token)
    (h : Operand.Reads token operand) {entry : Entry} :
    Traces token entry ↔ entry = (Event.operand operand).entry := by
  have hname := h.mem_names_iff
  obtain rfl := h.text_eq
  cases operand with
  | register text r =>
    have hindex : Register.names.idxOf text = r.number := by
      cases h with
      | register _ name =>
        obtain rfl : r.name = text := name
        exact r.idxOf_name
    have hentry : (Event.operand (.register text r)).entry =
        ⟨.trace, s!"{text}: register x{Register.names.idxOf text}"⟩ := by
      rw [hindex]
      rfl
    rw [hentry]
    constructor
    · intro htraces
      cases htraces with
      | register name => rfl
      | other operand' reads' noName => exact absurd (hname.2 rfl) noName
    · rintro rfl
      exact .register (hname.2 rfl)
  | immediate text | memory text offset base | label text =>
    exact traces_iff_of_not_mem_names ht h fun hmem => nomatch hname.1 hmem

end

theorem forall₂_iff_eq_map {α β γ : Type} {R : α → γ → Prop} {f : β → γ} {as : List α}
    {bs : List β} {cs : List γ} (h : List.Forall₂ (fun a b => ∀ c, R a c ↔ c = f b) as bs) :
    List.Forall₂ R as cs ↔ cs = bs.map f := by
  induction h generalizing cs with
  | nil => rw [List.forall₂_nil_left_iff, List.map_nil]
  | cons hab _ ih =>
    rw [List.forall₂_cons_left_iff, List.map_cons]
    simp only [hab, ih]
    constructor
    · rintro ⟨c, rest, rfl, rfl, rfl⟩
      rfl
    · rintro rfl
      exact ⟨_, _, rfl, rfl, rfl⟩

theorem forall₂_warns_iff {before : List String} {operands : List Operand}
    {warnings : List (List Entry)} (h : List.Forall₂ Operand.Reads before operands) :
    List.Forall₂ Warns before warnings ↔
      warnings = operands.map fun operand => operand.warnings.map Event.entry :=
  forall₂_iff_eq_map (h.imp fun _ _ hreads _ => warns_iff_of_reads hreads)

theorem flatten_eq_of_warns {before : List String} {operands : List Operand}
    {warnings : List (List Entry)} (h : List.Forall₂ Operand.Reads before operands)
    (hwarns : List.Forall₂ Warns before warnings) :
    warnings.flatten = (operands.flatMap Operand.warnings).map Event.entry := by
  rw [(forall₂_warns_iff h).1 hwarns, List.map_flatMap, List.flatMap_def]

theorem forall₂_traces_iff {line first : String} {rest : List String} {operands : List Operand}
    {traces : List Entry} (htokens : tokens line = first :: rest)
    (h : List.Forall₂ Operand.Reads rest operands) :
    List.Forall₂ Traces rest traces ↔ traces = (operands.map .operand).map Event.entry := by
  have htrim : ∀ token ∈ rest, String.ofList (Text.trim token.toList) = token :=
    fun _ => trim_of_mem_rest htokens
  rw [List.map_map]
  refine forall₂_iff_eq_map (((List.forall₂_and_left _ _).2 ⟨htrim, h⟩).imp ?_)
  exact fun _ _ ht _ => traces_iff_of_reads ht.1 ht.2

section

variable {line : String} {entries : List Entry}

theorem LineLog.entries_eq (h : LineLog line entries) (settings : Settings) :
    (explain settings line).run.entries = entries := by
  rw [Logged.entries]
  cases h with
  | empty none =>
    rw [events_run_explain, none]
    rfl
  | malformed first before token after split plain bad warnings warns =>
    obtain ⟨operands, hreads⟩ := plain_iff_exists_reads.1 plain
    rw [events_run_explain_of_malformed split bad hreads, flatten_eq_of_warns hreads warns]
  | unknown first rest split plain warnings warns traces traced unknown =>
    obtain ⟨operands, hreads⟩ := plain_iff_exists_reads.1 plain
    rw [events_run_explain_of_reads split hreads, flatten_eq_of_warns hreads warns,
      (forall₂_traces_iff split hreads).1 traced, formatEvents,
      Instruction.find_eq_error_iff.2 ⟨unknown, rfl⟩]
    simp only [List.map_append, List.append_nil]
  | known first rest split plain warnings warns traces traced instruction known named =>
    obtain ⟨operands, hreads⟩ := plain_iff_exists_reads.1 plain
    rw [events_run_explain_of_reads split hreads, flatten_eq_of_warns hreads warns,
      (forall₂_traces_iff split hreads).1 traced, formatEvents,
      Instruction.find_eq_ok_iff.2 ⟨known, named⟩]
    simp only [List.map_append]
    rfl

theorem exists_lineLog (line : String) : ∃ entries, LineLog line entries := by
  cases htokens : tokens line with
  | nil => exact ⟨[], .empty htokens⟩
  | cons first rest =>
    cases hread : rest.mapM Operand.read with
    | error reason =>
      obtain ⟨before, token, after, rfl, bad, plain, -⟩ := (mapM_read_eq_error_iff htokens).1 hread
      obtain ⟨operands, hreads⟩ := plain_iff_exists_reads.1 plain
      exact ⟨_, .malformed first before token after htokens plain bad _
        ((forall₂_warns_iff hreads).2 rfl)⟩
    | ok operands =>
      have hreads := (mapM_read_eq_ok_iff htokens).1 hread
      have plain := plain_iff_exists_reads.2 ⟨operands, hreads⟩
      have warns := (forall₂_warns_iff hreads).2 rfl
      have traced := (forall₂_traces_iff htokens hreads).2 rfl
      cases hfind : Instruction.find (Text.lower first) with
      | error reason =>
        obtain ⟨unknown, -⟩ := Instruction.find_eq_error_iff.1 hfind
        exact ⟨_, .unknown first rest htokens plain _ warns _ traced unknown⟩
      | ok instruction =>
        obtain ⟨known, named⟩ := Instruction.find_eq_ok_iff.1 hfind
        exact ⟨_, .known first rest htokens plain _ warns _ traced instruction known named⟩

/-- A line has one log, and explaining it under any settings adds that one. -/
theorem entries_run_explain_eq_iff (settings : Settings) :
    (explain settings line).run.entries = entries ↔ LineLog line entries := by
  obtain ⟨logged, h⟩ := exists_lineLog line
  -- some log of the line exists and is what was added, so nothing else can be its log
  refine ⟨fun heq => ?_, fun h' => h'.entries_eq settings⟩
  rw [← heq, h.entries_eq settings]
  exact h

end

/-- Explaining a line adds exactly the entries of its log, whatever the settings are. The answer to
a line adds the same, and then an entry with the line and the reason if it is rejected. -/
theorem log_of_line (settings : Settings) (line : String) :
    (∀ entries, (explain settings line).run.entries = entries ↔ LineLog line entries) ∧
    (∀ sentence, (explain settings line).run.value = .ok sentence →
      (gloss settings line).entries = (explain settings line).run.entries) ∧
    ∀ reason, (explain settings line).run.value = .error reason →
      (gloss settings line).entries = (explain settings line).run.entries ++
        [⟨.debug, s!"Rejected {Text.Quoted.quote line}: {reason.message}"⟩] := by
  refine ⟨fun _ => entries_run_explain_eq_iff settings, fun sentence h => ?_, fun reason h => ?_⟩
  · rw [Logged.entries, events_gloss, h, List.append_nil, Logged.entries]
  · rw [Logged.entries, events_gloss, h, List.map_append, Logged.entries]
    rfl

-- The warning about `0(r)` is cut off by the malformed operand before it.
example : (explain {} "lw 0(q) 4( 0(r)").run.entries =
    [⟨.warn, "Memory operand 0(q) uses unknown base register q"⟩] := by
  decide +kernel

end RiscvGloss
