import EncoderBench.Bench.Trial
/-
Choosing the recommended result.  Quality tiers are scanned from the lowest preset good enough
down to the fastest; at a tier the 30 Hz results with that preset or a better one compete, the
greatest height winning, then the better preset, then the earlier result.  The first tier with a
candidate decides.  No 30 Hz result means no recommendation.
-/
namespace EncoderBench

namespace Rank

def beats (r best : TrialResult) : Bool :=
  r.size.height > best.size.height ||
    (r.size.height == best.size.height && best.preset < r.preset)

/-- One step of the scan of a tier: a 30 Hz result at the tier's preset or a better one becomes
the candidate when there is none yet or when it beats the one there is. -/
def tierStep (results : List TrialResult) (tier : Preset) (best : Option Nat) :
    TrialResult × Nat → Option Nat
  | (r, i) =>
    if !(r.frameRate.same FrameRate.fps30) || r.preset < tier then best
    else match best with
      | none => some i
      | some b => if beats r (results.getD b r) then some i else best

def bestAtTier (results : List TrialResult) (tier : Preset) : Option Nat :=
  results.zipIdx.foldl (tierStep results tier) none

def tiers (minPreset : Preset) : List Preset := Preset.all.reverse.filter (· ≤ minPreset)

def pick (results : List TrialResult) (minPreset : Preset) : Option Nat :=
  (tiers minPreset).findSome? (bestAtTier results)

end Rank

def rank (results : List TrialResult) (minPreset : Preset) : List TrialResult × Option Nat :=
  let best := Rank.pick results minPreset
  (results.zipIdx.map fun (r, i) => { r with recommended := best == some i }, best)

end EncoderBench
