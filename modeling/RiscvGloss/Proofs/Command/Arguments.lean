import RiscvGloss.Command.Options
import RiscvGloss.Proofs.Explanation

/-! Arguments that hold flags. What comes before the first `--` is read on its own, flags that
differ are taken in any order, and one more flag for quiet errors changes nothing else that is
asked for. -/

namespace RiscvGloss.Command

/-- The ways to write the flags that lines can go with. -/
inductive Flag.Written : Flag → String → Prop
  | quietErrors : Written .quietErrors "-q"
  | quietErrorsLong : Written .quietErrors "--quiet-errors"
  | upperFallthrough : Written .upperFallthrough "--legacy-upper-fallthrough"

/-- The arguments are some of the flags that lines can go with, in any order and none twice. -/
structure Flag.Choice (flags : List Flag) (arguments : List String) : Prop where
  written : List.Forall₂ Flag.Written flags arguments
  nodup : flags.Nodup

namespace Options

variable {options options' : Options} {flag : Flag} {flags : List Flag} {argument : String}
  {arguments before after : List String}

theorem readFrom_cons_of_line (hplain : argument ≠ "--") (h : Flag.named? argument = none)
    (options : Options) (rest : List String) :
    options.readFrom (argument :: rest) = (options.addLines [argument]).readFrom rest := by
  rw [readFrom, if_neg hplain, h]

theorem readFrom_cons_of_flags {named : List (Option Flag)} (hplain : argument ≠ "--")
    (h : Flag.named? argument = some named) (options : Options) (rest : List String) :
    options.readFrom (argument :: rest) = named.foldlM set options >>= (·.readFrom rest) := by
  rw [readFrom, if_neg hplain, h]
  simp only
  cases named.foldlM set options <;> rfl

/-- What comes before the first `--` is read as if nothing followed it. -/
theorem readFrom_append (h : "--" ∉ before) (options : Options) (after : List String) :
    options.readFrom (before ++ after) = options.readFrom before >>= (·.readFrom after) := by
  induction before generalizing options with
  | nil => rfl
  | cons argument before ih =>
    obtain ⟨hplain, hbefore⟩ := not_or.1 (List.mem_cons.not.1 h)
    cases hnamed : Flag.named? argument with
    | none =>
      rw [List.cons_append, readFrom_cons_of_line (Ne.symm hplain) hnamed,
        readFrom_cons_of_line (Ne.symm hplain) hnamed, ih hbefore]
    | some named =>
      rw [List.cons_append, readFrom_cons_of_flags (Ne.symm hplain) hnamed,
        readFrom_cons_of_flags (Ne.symm hplain) hnamed, bind_assoc]
      exact bind_congr fun options => ih hbefore options

theorem readFrom_cons_of_written (h : Flag.Written flag argument) (options : Options)
    (rest : List String) :
    options.readFrom (argument :: rest) = options.set (some flag) >>= (·.readFrom rest) := by
  have hplain : argument ≠ "--" := by
    cases h <;> decide
  have hnamed : Flag.named? argument = some [some flag] := by
    cases h <;> rfl
  rw [readFrom_cons_of_flags hplain hnamed, List.foldlM_cons, bind_assoc]
  rfl

theorem readFrom_dashes (options : Options) (lines : List String) :
    options.readFrom ("--" :: lines) = .ok (options.addLines lines) :=
  rfl

/-- What the flags ask for, in addition to what was asked for before. -/
def choose (options : Options) (flags : List Flag) : Options where
  quietErrors := options.quietErrors || flags.contains .quietErrors
  settings := ⟨options.settings.upperFallthrough || flags.contains .upperFallthrough⟩
  lines := options.lines

/-- The flag was given. -/
def has (options : Options) : Flag → Bool
  | .quietErrors => options.quietErrors
  | .upperFallthrough => options.settings.upperFallthrough
  | .help | .version => false

theorem choose_nil (options : Options) : options.choose [] = options := by
  simp [choose]

theorem choose_cons (options : Options) (flag : Flag) (flags : List Flag) :
    options.choose (flag :: flags) = (options.choose [flag]).choose flags := by
  simp [choose, Bool.or_assoc]

theorem has_choose_of_ne {flag' : Flag} (hne : flag' ≠ flag) (h : options.has flag' = false) :
    (options.choose [flag]).has flag' = false := by
  cases flag' <;> cases flag <;> simp_all [choose, has]

theorem set_of_written (h : Flag.Written flag argument) (hfresh : options.has flag = false) :
    options.set (some flag) = .ok (options.choose [flag]) := by
  cases h with
  | quietErrors | quietErrorsLong =>
    have hfresh : options.quietErrors = false := hfresh
    simp [set, hfresh, choose]
  | upperFallthrough =>
    have hfresh : options.settings.upperFallthrough = false := hfresh
    simp [set, hfresh, choose]

/-- Flags of which none was given before are all taken. -/
theorem readFrom_append_of_written (h : List.Forall₂ Flag.Written flags arguments)
    (hnodup : flags.Nodup) (options : Options) (hfresh : ∀ flag ∈ flags, options.has flag = false)
    (rest : List String) :
    options.readFrom (arguments ++ rest) = (options.choose flags).readFrom rest := by
  induction h generalizing options with
  | nil => rw [choose_nil, List.nil_append]
  | @cons flag argument flags arguments hwritten _ ih =>
    obtain ⟨hflag, hflags⟩ := List.forall_mem_cons.1 hfresh
    obtain ⟨hnot, hnodup⟩ := List.nodup_cons.1 hnodup
    -- the flags that are still to come differ from the one just taken, so they stay fresh
    have hrest : ∀ flag' ∈ flags, (options.choose [flag]).has flag' = false :=
      fun flag' hmem => has_choose_of_ne (ne_of_mem_of_not_mem hmem hnot) (hflags flag' hmem)
    rw [List.cons_append, readFrom_cons_of_written hwritten, set_of_written hwritten hflag]
    exact (ih hnodup _ hrest).trans (by rw [← choose_cons])

/-- Flags are read as what they ask for, and what follows them is read after that. -/
theorem read_append_of_choice (h : Flag.Choice flags arguments) (rest : List String) :
    read (arguments ++ rest) = (choose {} flags).readFrom rest := by
  refine readFrom_append_of_written h.written h.nodup {} (fun flag _ => ?_) rest
  cases flag <;> rfl

/-- The options with quiet errors, whether or not they were asked for. -/
def quieted (options : Options) : Options :=
  { options with quietErrors := true }

theorem choose_quietErrors (options : Options) :
    options.choose [.quietErrors] = options.quieted := by
  simp [choose, quieted]

/-- A flag that leaves errors loud says nothing about them, and can be taken with quiet errors
too. -/
theorem set_quieted {flag? : Option Flag} (h : options.set flag? = .ok options')
    (hloud : options'.quietErrors = false) :
    options.quietErrors = false ∧ options.quieted.set flag? = .ok options'.quieted := by
  cases flag? with
  | none => cases h
  | some flag =>
    cases flag with
    | help | version => cases h
    | quietErrors =>
      rw [set] at h
      split at h
      · cases h
      · cases h
        -- the flag asks for quiet errors, but they are loud in the end
        cases hloud
    | upperFallthrough =>
      rw [set] at h ⊢
      split at h
      · cases h
      · rename_i hfresh
        cases h
        exact ⟨hloud, if_neg hfresh⟩

theorem foldlM_set_quieted {flags : List (Option Flag)}
    (h : flags.foldlM set options = .ok options') (hloud : options'.quietErrors = false) :
    options.quietErrors = false ∧ flags.foldlM set options.quieted = .ok options'.quieted := by
  induction flags generalizing options with
  | nil =>
    cases h
    exact ⟨hloud, rfl⟩
  | cons flag? flags ih =>
    rw [List.foldlM_cons] at h ⊢
    obtain ⟨next, hset, hrest⟩ := bind_eq_ok_iff.1 h
    obtain ⟨hnext, hrest⟩ := ih hrest
    obtain ⟨hfirst, hset⟩ := set_quieted hset hnext
    exact ⟨hfirst, bind_eq_ok_iff.2 ⟨_, hset, hrest⟩⟩

/-- Quiet errors can be asked for beforehand. -/
theorem readFrom_quieted (h : options.readFrom arguments = .ok options')
    (hloud : options'.quietErrors = false) :
    options.quietErrors = false ∧ options.quieted.readFrom arguments = .ok options'.quieted := by
  induction arguments generalizing options with
  | nil =>
    cases h
    exact ⟨hloud, rfl⟩
  | cons argument arguments ih =>
    by_cases hplain : argument = "--"
    · subst hplain
      rw [readFrom_dashes] at h
      cases h
      exact ⟨hloud, rfl⟩
    · cases hnamed : Flag.named? argument with
      | none =>
        rw [readFrom_cons_of_line hplain hnamed] at h ⊢
        exact ih h
      | some named =>
        rw [readFrom_cons_of_flags hplain hnamed] at h ⊢
        obtain ⟨next, hset, hrest⟩ := bind_eq_ok_iff.1 h
        obtain ⟨hnext, hrest⟩ := ih hrest
        obtain ⟨hfirst, hset⟩ := foldlM_set_quieted hset hnext
        exact ⟨hfirst, bind_eq_ok_iff.2 ⟨_, hset, hrest⟩⟩

/-- The flag for quiet errors can stand anywhere before the first `--`, and changes nothing else
that is asked for. -/
theorem read_insert_quietErrors (hwritten : Flag.Written .quietErrors argument)
    (hbefore : "--" ∉ before) (h : read (before ++ after) = .ok options)
    (hloud : options.quietErrors = false) :
    read (before ++ argument :: after) = .ok options.quieted := by
  rw [read, readFrom_append hbefore] at h ⊢
  obtain ⟨next, hfirst, hrest⟩ := bind_eq_ok_iff.1 h
  obtain ⟨hnext, hrest⟩ := readFrom_quieted hrest hloud
  refine bind_eq_ok_iff.2 ⟨next, hfirst, ?_⟩
  rw [readFrom_cons_of_written hwritten, set_of_written hwritten hnext, choose_quietErrors]
  exact hrest

end Options

end RiscvGloss.Command
