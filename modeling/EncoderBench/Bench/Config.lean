import EncoderBench.Decimal.Text
import EncoderBench.Video.Preset
import EncoderBench.Video.FrameRate
import EncoderBench.Video.Resolution
/-
The tunables of a benchmark run and the checks that make them a searchable grid.  The checks run
in a fixed order and the first that fails is the one reported.
-/
namespace EncoderBench

/-- Tunables of a benchmark run. -/
structure Config where
  trialDurationSecs : Float := 6.1
  warmupSecs : Float := 1.0
  reservedCpu : Float := 0.05
  maxSystemCpu : Float := 0.9
  keyIntervalSecs : Nat := 2
  presets : List Preset := [.faster, .veryfast, .superfast, .ultrafast]
  sizes : List Resolution := Resolution.standard
  frameRates : List FrameRate := [FrameRate.fps30, FrameRate.fps60]
  recommendMinPreset : Preset := .veryfast
  deriving Inhabited

inductive ConfigProblem where
  | noPresets
  | noSizes
  | noFrameRates
  | rateNotPositive (rate : FrameRate)
  | durationNotPositive
  | warmupOutOfRange (warmup duration : Float)
  | reservedOutOfRange
  | ceilingOutOfRange
  deriving Inhabited

namespace ConfigProblem

def reason : ConfigProblem → String
  | noPresets => "preset table is empty"
  | noSizes => "size table is empty"
  | noFrameRates => "frame rate table is empty"
  | rateNotPositive r => "frame rate " ++ r.display ++ " is not positive"
  | durationNotPositive => "trial duration must be positive"
  | warmupOutOfRange w d =>
    "warm-up of " ++ plainText w ++ "s must be shorter than the " ++ plainText d ++ "s trial"
  | reservedOutOfRange => "reserved CPU must be in [0, 1)"
  | ceilingOutOfRange => "system CPU ceiling must be in (0, 1]"

def message (p : ConfigProblem) : String := "Invalid configuration: " ++ p.reason

end ConfigProblem

namespace Config

def totalTests (c : Config) : Nat := (c.presets.length * c.sizes.length * c.frameRates.length) % Nat.pow 2 32

/-- The first check the configuration fails, in the order: presets, sizes and frame rates
present; every frame rate positive; duration positive; warm-up in `[0, duration)`; reserved
share in `[0, 1)`; system ceiling in `(0, 1]`. -/
def problem? (c : Config) : Option ConfigProblem :=
  if c.presets.isEmpty then some .noPresets
  else if c.sizes.isEmpty then some .noSizes
  else if c.frameRates.isEmpty then some .noFrameRates
  else match c.frameRates.find? (fun r => r.toFloat ≤ 0.0) with
    | some r => some (.rateNotPositive r)
    | none =>
      if !(0.0 < c.trialDurationSecs) then some .durationNotPositive
      else if !(0.0 ≤ c.warmupSecs && c.warmupSecs < c.trialDurationSecs) then
        some (.warmupOutOfRange c.warmupSecs c.trialDurationSecs)
      else if !(0.0 ≤ c.reservedCpu && c.reservedCpu < 1.0) then some .reservedOutOfRange
      else if !(0.0 < c.maxSystemCpu && c.maxSystemCpu ≤ 1.0) then some .ceilingOutOfRange
      else none

def validate (c : Config) : Except ConfigProblem Config :=
  match c.problem? with
  | some p => .error p
  | none => .ok c

end Config

end EncoderBench
