/-! The integer registers, their numbers and their ABI names. -/

namespace RiscvGloss

structure Register where
  number : Fin 32
  deriving DecidableEq, Repr

namespace Register

/-- The ABI names, in the order of the numbers. -/
def names : List String :=
  ["zero", "ra", "sp", "gp", "tp", "t0", "t1", "t2", "s0", "s1", "a0", "a1", "a2", "a3", "a4", "a5",
   "a6", "a7", "s2", "s3", "s4", "s5", "s6", "s7", "s8", "s9", "s10", "s11", "t3", "t4", "t5", "t6"]

theorem length_names : names.length = 32 := rfl

def name (r : Register) : String :=
  names.get (r.number.cast length_names.symm)

/-- The register with this ABI name, letter case included. The form `x5` is no ABI name. -/
def ofName? (name : String) : Option Register :=
  (names.finIdxOf? name).map fun i => ⟨i.cast length_names⟩

/-- A number that no register has. -/
structure UnknownNumber where
  number : Nat
  deriving DecidableEq, Repr

def UnknownNumber.message (e : UnknownNumber) : String :=
  s!"No discriminant in enum `Register` matches the value `{e.number}`"

def ofNumber (n : Nat) : Except UnknownNumber Register :=
  if h : n < 32 then .ok ⟨⟨n, h⟩⟩ else .error ⟨n⟩

theorem ofNumber_number (r : Register) : ofNumber r.number = .ok r := by
  simp [ofNumber]

theorem nodup_names : names.Nodup := by
  decide

/-- A name is found as the register that has it, and no other text is. -/
theorem ofName?_eq_some_iff {text : String} {r : Register} :
    ofName? text = some r ↔ r.name = text := by
  obtain ⟨n, hn⟩ := r
  simp only [ofName?, Option.map_eq_some_iff, List.finIdxOf?_eq_some_iff, Register.mk.injEq]
  constructor
  · rintro ⟨i, ⟨hi, _⟩, hr⟩
    cases Fin.val_eq_of_eq hr
    exact hi
  · intro h
    refine ⟨⟨n, hn⟩, ⟨h, fun j hj heq => ?_⟩, rfl⟩
    have := List.pairwise_iff_getElem.1 nodup_names j n j.isLt hn hj
    exact this (heq.trans h.symm)

@[simp] theorem ofName?_name (r : Register) : ofName? r.name = some r :=
  ofName?_eq_some_iff.2 rfl

end Register

end RiscvGloss
