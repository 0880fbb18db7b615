import EncoderBench.Bench.Rig
/-
The trial harness: it owns at most one live trial encoder.  Beginning a trial first ends the
one still live, then builds an encoder for the new trial and activates it; an encoder that does
not come up is taken down at once and leaves no trial live.  Frames go to the live encoder only,
and ending a trial takes its encoder down and returns the bitrate it reports.
-/
namespace EncoderBench

def trialKeyIntervalSecs : Nat := 2

/-- The harness: the keyframe interval its encoders get, and the live trial, if any. -/
structure Harness where
  keyIntervalSecs : Nat := trialKeyIntervalSecs
  live : Option TrialSpec := none
  deriving Repr, DecidableEq, Inhabited

namespace Harness

def configFor (h : Harness) (spec : TrialSpec) : EncoderConfig :=
  EncoderConfig.ofSpec spec h.keyIntervalSecs

def endTrial (rig : Rig) (h : Harness) : Harness × Option Nat × List Effect :=
  match h.live with
  | none => (h, none, [])
  | some spec => ({ h with live := none }, some (rig.bitrate (h.configFor spec)), [.deactivated spec])

/-- Ends any live trial, then builds and activates an encoder for `spec`. -/
def beginTrial (rig : Rig) (h : Harness) (spec : TrialSpec) :
    Harness × Except ActivationError Unit × List Effect :=
  let (h, _, ended) := h.endTrial rig
  let config := h.configFor spec
  match rig.activation config with
  | .error e => (h, .error e, ended ++ [.created config, .refused spec e])
  | .ok () => ({ h with live := some spec }, .ok (), ended ++ [.created config, .activated spec])

def feed (rig : Rig) (h : Harness) (frame : Nat) : List Effect :=
  match h.live with
  | none => []
  | some spec => [.fed frame (rig.frameError (h.configFor spec))]

end Harness

end EncoderBench
