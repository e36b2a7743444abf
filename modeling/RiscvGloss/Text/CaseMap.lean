/-! Case mappings: what each character becomes, as runs of code points that move together and as
single characters that become several. -/

namespace RiscvGloss.Text

/-- Every `step`th code point from `first` to `last` moves by the distance from `first` to
`image`. -/
structure CaseRun where
  first : Nat
  last : Nat
  step : Nat
  image : Nat
  deriving DecidableEq, Repr

/-- What the code point `n` becomes, if it belongs to the run. -/
def CaseRun.image? (run : CaseRun) (n : Nat) : Option Nat :=
  if run.first ≤ n ∧ n ≤ run.last ∧ (n - run.first) % run.step = 0 then
    some (run.image + (n - run.first))
  else
    none

/-- A full case mapping: the code points that become several, and the runs of those that become
one. A code point in neither stays as it is. -/
structure CaseMap where
  expansions : List (Nat × List Nat)
  runs : List CaseRun

/-- What a character becomes. -/
def CaseMap.apply (m : CaseMap) (c : Char) : List Char :=
  match m.expansions.lookup c.toNat with
  | some images => images.map Char.ofNat
  | none =>
    match m.runs.findSome? (·.image? c.toNat) with
    | some n => [Char.ofNat n]
    | none => [c]

end RiscvGloss.Text
