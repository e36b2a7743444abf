import Mathlib.Data.List.TakeWhile
import RiscvGloss.Text.Blank

/-! Texts without the blanks at their ends. -/

namespace RiscvGloss.Text

variable {before us after cs : List Char}

/-- The text `us` is what is left of `cs` without the blanks at its ends. -/
def IsTrimOf (us cs : List Char) : Prop :=
  ∃ before after, cs = before ++ us ++ after ∧ (∀ c ∈ before ++ after, isBlank c = true) ∧
    (∀ c ∈ us.head?, isBlank c = false) ∧ ∀ c ∈ us.getLast?, isBlank c = false

theorem dropWhile_isBlank_append (hbefore : ∀ c ∈ before, isBlank c = true)
    (hhead : ∀ c ∈ us.head?, isBlank c = false) : (before ++ us).dropWhile isBlank = us := by
  rw [List.dropWhile_append_of_pos hbefore]
  cases us with
  | nil => rfl
  | cons c us => exact List.dropWhile_cons_of_neg (by simp [hhead c rfl])

theorem head?_dropWhile_isBlank (cs : List Char) :
    ∀ c ∈ (cs.dropWhile isBlank).head?, isBlank c = false := by
  intro c hc
  simpa [Option.mem_def.1 hc] using List.head?_dropWhile_not isBlank cs

theorem trim_eq_of_isTrimOf (h : IsTrimOf us cs) : trim cs = us := by
  obtain ⟨before, after, rfl, hblank, hhead, hlast⟩ := h
  obtain ⟨hbefore, hafter⟩ := List.forall_mem_append.1 hblank
  cases us with
  | nil =>
    have hall : (before ++ [] ++ after).dropWhile isBlank = [] := by
      rw [List.append_nil]
      exact List.dropWhile_eq_nil_iff.2 hblank
    rw [trim, hall]
    rfl
  | cons c us =>
    have hafter' : ∀ c ∈ after.reverse, isBlank c = true :=
      fun c hc => hafter c (List.mem_reverse.1 hc)
    have hfirst : ∀ d ∈ (c :: us ++ after).head?, isBlank d = false := hhead
    rw [trim, List.append_assoc, dropWhile_isBlank_append hbefore hfirst, List.reverse_append,
      dropWhile_isBlank_append hafter' (by rwa [List.head?_reverse]), List.reverse_reverse]

theorem isTrimOf_trim (cs : List Char) : IsTrimOf (trim cs) cs := by
  set rest := cs.dropWhile isBlank with hrest
  have hsplit : rest = trim cs ++ (rest.reverse.takeWhile isBlank).reverse := by
    rw [trim, ← List.reverse_append, List.takeWhile_append_dropWhile, List.reverse_reverse]
  refine ⟨cs.takeWhile isBlank, (rest.reverse.takeWhile isBlank).reverse, ?_, ?_, ?_, ?_⟩
  · rw [List.append_assoc, ← hsplit, hrest, List.takeWhile_append_dropWhile]
  · intro c hc
    simp only [List.mem_append, List.mem_reverse] at hc
    rcases hc with hc | hc <;> exact List.mem_takeWhile_imp hc
  · -- the first character that is left is the one at which the blanks before it end
    intro c hc
    apply head?_dropWhile_isBlank cs
    rw [← hrest, hsplit, List.head?_append, Option.mem_def.1 hc]
    rfl
  · intro c hc
    rw [trim, List.getLast?_reverse] at hc
    exact head?_dropWhile_isBlank _ c hc

/-- Trimming leaves exactly the part of a text between the blanks at its ends. -/
theorem trim_eq_iff : trim cs = us ↔ IsTrimOf us cs :=
  ⟨fun h => h ▸ isTrimOf_trim cs, trim_eq_of_isTrimOf⟩

theorem trim_eq_self (h : ∀ c ∈ cs, isBlank c = false) : trim cs = cs :=
  trim_eq_iff.2 ⟨[], [], by simp, by simp, fun c hc => h c (List.mem_of_mem_head? hc),
    fun c hc => h c (List.mem_of_mem_getLast? hc)⟩

theorem ofList_trim_eq_iff {token text : String} :
    String.ofList (trim token.toList) = text ↔ IsTrimOf text.toList token.toList := by
  rw [← trim_eq_iff]
  constructor
  · rintro rfl
    rw [String.toList_ofList]
  · intro h
    rw [h, String.ofList_toList]

/-- The text without the blanks at its ends. -/
def trimmed (text : String) : String :=
  String.ofList (trim text.toList)

theorem isTrimOf_trimmed (text : String) : IsTrimOf (trimmed text).toList text.toList :=
  ofList_trim_eq_iff.1 rfl

theorem IsTrimOf.self (h : IsTrimOf us cs) : IsTrimOf us us := by
  obtain ⟨-, -, -, -, hhead, hlast⟩ := h
  exact ⟨[], [], by simp, nofun, hhead, hlast⟩

theorem IsTrimOf.append_blanks (h : IsTrimOf us cs)
    (hblank : ∀ c ∈ before ++ after, isBlank c = true) :
    IsTrimOf us (before ++ cs ++ after) := by
  obtain ⟨front, back, rfl, hinner, hhead, hlast⟩ := h
  refine ⟨before ++ front, back ++ after, by simp, ?_, hhead, hlast⟩
  simp only [List.forall_mem_append] at hblank hinner ⊢
  exact ⟨⟨hblank.1, hinner.1⟩, hinner.2, hblank.2⟩

theorem IsTrimOf.mem {c : Char} (h : IsTrimOf us cs) (hc : c ∈ us) : c ∈ cs := by
  obtain ⟨before, after, rfl, -⟩ := h
  simp [hc]

end RiscvGloss.Text
