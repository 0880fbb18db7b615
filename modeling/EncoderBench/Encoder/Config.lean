import EncoderBench.Bench.Trial
/-
What a trial encoder is built from: the output size, how source frames are fitted into it, the
frame rate, and the rate-control options; and the reasons an encoder can refuse to come up.
-/
namespace EncoderBench

inductive Scaling
  | snapToInnerScale
  | stretch
  deriving Repr, DecidableEq, Inhabited

def Scaling.name : Scaling → String
  | .snapToInnerScale => "SnapToInnerScale"
  | .stretch => "Stretch"

inductive ScaleFilter
  | nearest
  | bilinear
  | bicubic
  deriving Repr, DecidableEq, Inhabited

def ScaleFilter.name : ScaleFilter → String
  | .nearest => "Nearest"
  | .bilinear => "Bilinear"
  | .bicubic => "Bicubic"

structure EncoderOptions where
  bitrateKbps : Nat
  preset : Preset
  keyIntervalSecs : Nat
  deriving Repr, DecidableEq, Inhabited

/-- Everything needed to build a trial encoder. -/
structure EncoderConfig where
  size : Resolution
  scaling : Scaling := .snapToInnerScale
  filter : ScaleFilter := .bilinear
  frameRate : FrameRate
  options : EncoderOptions
  deriving Repr, DecidableEq, Inhabited

namespace EncoderConfig

def ofSpec (spec : TrialSpec) (keyIntervalSecs : Nat) : EncoderConfig :=
  { size := spec.size, frameRate := spec.frameRate,
    options := ⟨spec.bitrateKbps, spec.preset, keyIntervalSecs⟩ }

def spec (c : EncoderConfig) : TrialSpec :=
  ⟨c.options.preset, c.size, c.frameRate, c.options.bitrateKbps⟩

theorem spec_ofSpec (s : TrialSpec) (k : Nat) : (ofSpec s k).spec = s := rfl

end EncoderConfig

/-- Why a trial encoder could not be brought up, or refused a frame. -/
inductive ActivationError
  | unsupportedSize (width height : Nat)
  | invalidBitrate (kbps : Nat)
  | init (message : String)
  deriving Repr, DecidableEq, Inhabited

namespace ActivationError

def kind : ActivationError → String
  | .unsupportedSize .. => "UnsupportedSize"
  | .invalidBitrate _ => "InvalidBitrate"
  | .init _ => "Init"

def message : ActivationError → String
  | .unsupportedSize w h => "Unsupported output size " ++ toString w ++ "x" ++ toString h
  | .invalidBitrate k => "Invalid bitrate: " ++ toString k ++ " kbps"
  | .init m => "Encoder initialization failed: " ++ m

end ActivationError

end EncoderBench
