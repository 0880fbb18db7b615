import EncoderBench.Bench.Rig
/-
Counters over the effects of a run: encoders built and activated, encoders live now and at
most, samples started, frames fed and refused, and frame-rate switches asked for.
-/
namespace EncoderBench

namespace Scenario

/-- What the collaborators have seen so far. -/
structure Tally where
  created : List EncoderConfig := []
  activated : List TrialSpec := []
  live : Nat := 0
  maxLive : Nat := 0
  samples : Nat := 0
  framesFed : Nat := 0
  encodeErrors : Nat := 0
  switches : List (FrameRate × Bool) := []
  deriving Repr, Inhabited

namespace Tally

/-- Counts one effect. -/
def record (t : Tally) : Effect → Tally
  | .created c => { t with created := t.created ++ [c] }
  | .activated s =>
    { t with
      activated := t.activated ++ [s]
      live := t.live + 1
      maxLive := max t.maxLive (t.live + 1) }
  | .refused _ _ => t
  | .fed _ err =>
    { t with
      framesFed := t.framesFed + 1
      encodeErrors := if err.isSome then t.encodeErrors + 1 else t.encodeErrors }
  | .deactivated _ => { t with live := t.live - 1 }
  | .sampleStarted _ => { t with samples := t.samples + 1 }
  | .rateSwitch r ok => { t with switches := t.switches ++ [(r, ok)] }

def recordAll (t : Tally) (effects : List Effect) : Tally := effects.foldl record t

end Tally

end Scenario

end EncoderBench
