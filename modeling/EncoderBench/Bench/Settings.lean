import EncoderBench.Bench.Budget
import EncoderBench.Bench.Trial
/-
Output settings from a chosen result, and the outcome of a finished run: its budget, the
accepted results in completion order, and the recommended one.
-/
namespace EncoderBench

structure VideoOptions where
  bitrateKbps : Nat
  preset : Preset
  keyIntervalSecs : Nat
  deriving Repr, DecidableEq, Inhabited

/-- Output settings derived from a result. -/
structure Settings where
  canvas : Resolution
  outputSize : Resolution
  frameRate : FrameRate
  video : VideoOptions
  audioBitrateKbps : Nat
  deriving Repr, DecidableEq, Inhabited

namespace Settings

def ofResult (r : TrialResult) (b : Budget) : Settings :=
  let canvas := if r.size.height ≤ 720 then Resolution.hd720 else Resolution.hd1080
  ⟨canvas, r.size, r.frameRate, ⟨r.bitrateKbps, r.preset, 0⟩, b.maxAudioKbps⟩

end Settings

structure NoSuchResult where
  index : Nat
  len : Nat
  deriving Repr, DecidableEq

def NoSuchResult.message (e : NoSuchResult) : String :=
  "Trial result index " ++ toString e.index ++ " out of range (" ++ toString e.len ++ " results)"

/-- The final state of a run. -/
structure Outcome where
  budget : Budget
  results : List TrialResult
  recommended : Option Nat
  deriving Inhabited

namespace Outcome

def isEmpty (o : Outcome) : Bool := o.results.isEmpty

def select (o : Outcome) (index : Nat) : Except NoSuchResult Settings :=
  match o.results[index]? with
  | some r => .ok (Settings.ofResult r o.budget)
  | none => .error ⟨index, o.results.length⟩

def recommendedSettings (o : Outcome) : Option Settings :=
  o.recommended.bind fun i => (o.select i).toOption

end Outcome

end EncoderBench
