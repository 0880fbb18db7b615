import EncoderBench.Video.Preset
import EncoderBench.Video.FrameRate
import EncoderBench.Video.Resolution
/-
Trials: the parameters of one encoder run, the CPU usage measured during it, and the record of
a trial that stayed within budget, with its one-line description.
-/
namespace EncoderBench

/-- Parameters of one trial. -/
structure TrialSpec where
  preset : Preset
  size : Resolution
  frameRate : FrameRate
  bitrateKbps : Nat
  deriving Repr, DecidableEq, Inhabited

def TrialSpec.same (a b : TrialSpec) : Bool :=
  a.preset == b.preset && a.size == b.size && a.frameRate.same b.frameRate &&
    a.bitrateKbps == b.bitrateKbps

structure CpuUsage where
  own : Float := 0.0
  system : Float := 0.0
  deriving Inhabited

/-- A trial that stayed within the budget. -/
structure TrialResult where
  preset : Preset
  size : Resolution
  frameRate : FrameRate
  bitrateKbps : Nat
  systemAvgCpu : Float
  ownAvgCpu : Float
  recommended : Bool
  deriving Inhabited

def groupThousands (n : Nat) : String :=
  let ds := (toString n).toList
  let len := ds.length
  let marked := ds.zipIdx.flatMap fun (c, i) =>
    if 0 < i ∧ (len - i) % 3 = 0 then [',', c] else [c]
  String.ofList marked

def roundToInt (x : Float) : Int := x.round.toInt64.toInt

namespace TrialResult

/-- One line such as `720p, 30 fps, 1,700 Kb/s, Great quality - 30% CPU usage`.  The reserved
share is added back so that the figure covers the whole application. -/
def describe (r : TrialResult) (reservedCpu : Float) : String :=
  let cpu := roundToInt ((r.ownAvgCpu + reservedCpu) * 100.0)
  let line := toString r.size.height ++ "p, " ++ toString (roundToInt r.frameRate.toFloat) ++
    " fps, " ++ groupThousands r.bitrateKbps ++ " Kb/s, " ++ r.preset.qualityLabel ++ " - " ++
    toString cpu ++ "% CPU usage"
  if r.recommended then line ++ " (Recommended)" else line

end TrialResult

end EncoderBench
