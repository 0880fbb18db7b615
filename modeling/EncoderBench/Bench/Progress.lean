/-
Progress of a run for display: trials done out of the grid's total, and how far the current
trial has come in percent.
-/
namespace EncoderBench

/-- A progress snapshot. -/
structure Progress where
  testsDone : Nat := 0
  testsTotal : Nat := 0
  partialPercent : Nat := 0
  deriving Repr, DecidableEq, Inhabited

namespace Progress

def clampFloat (x lo hi : Float) : Float := if x < lo then lo else if hi < x then hi else x

def fraction (p : Progress) : Float :=
  if p.testsTotal = 0 then 1.0
  else
    let done := Float.ofNat p.testsDone * 100.0 + Float.ofNat p.partialPercent
    clampFloat (done / (Float.ofNat p.testsTotal * 100.0)) 0.0 1.0

end Progress

end EncoderBench
