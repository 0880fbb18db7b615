import EncoderBench.Encoder.Config
/-
The collaborators of a benchmark run, seen as functions (`Rig`), and the record of what a run
asks of them (`Effect`): encoders built, activated, refused, fed and taken down, samples started
and frame-rate switches asked for, in order.
-/
namespace EncoderBench

/-- A CPU sample in progress: how many samples were started before it, and the trial that was
live when it started. -/
structure Sample where
  index : Nat
  trial : Option TrialSpec
  deriving Repr, DecidableEq, Inhabited

/-- The behaviour of the collaborators of a run. -/
structure Rig where
  activation : EncoderConfig → Except ActivationError Unit
  frameError : EncoderConfig → Option ActivationError
  bitrate : EncoderConfig → Nat
  usage : Sample → CpuUsage
  refusal : FrameRate → Option String

/-- One thing a call asked of the collaborators. -/
inductive Effect
  | created (config : EncoderConfig)
  | activated (spec : TrialSpec)
  | refused (spec : TrialSpec) (error : ActivationError)
  | fed (frame : Nat) (error : Option ActivationError)
  | deactivated (spec : TrialSpec)
  | sampleStarted (sample : Sample)
  | rateSwitch (rate : FrameRate) (accepted : Bool)
  deriving Repr, DecidableEq, Inhabited

end EncoderBench
