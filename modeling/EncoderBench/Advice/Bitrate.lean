import EncoderBench.Video.FrameRate
import EncoderBench.Video.Resolution
/-
Bitrate advice as pure functions.  The model is a number of bits per pixel per frame that
shrinks a little as frames grow and as the frame rate rises, since larger frames and smaller
motion between frames compress better.  Bitrates are whole Kb/s in 32 bits: a double is
converted by rounding to a human-readable step and saturating at the ends.
-/
namespace EncoderBench

inductive Target where
  | file
  | stream
  deriving Repr, DecidableEq, Inhabited

namespace Target

def name : Target → String
  | file => "file"
  | stream => "stream"

end Target

namespace Bitrate

def minVideoKbps : Nat := 100

def noTranscoderMaxKbps : Nat := 2500

def toU32 (x : Float) : Nat := x.toUInt32.toNat

def roundHalfUp (x : Float) : Float := Float.ofNat (((x * 2.0).toUInt64.toNat + 1) / 2)

def round (kbps : Float) : Nat :=
  if !kbps.isFinite || kbps ≤ 0.0 then 0
  else
    let step : Float := if kbps ≤ 1000.0 then 50.0 else 100.0
    toU32 (roundHalfUp (kbps / step) * step)

/-- Recommended video bitrate for a size, frame rate and kind of content. -/
def ideal (size : Resolution) (rate : FrameRate) (highAction : Bool) : Nat :=
  let area := Float.ofNat size.pixels
  let base := area * (if highAction then 0.090 else 0.055)
  let fps := FrameRate.maxFloat rate.toFloat 15.0
  let sizeFactor := 1.0 - (area - 230400.0) / (2073600.0 - 230400.0) * 0.25
  let rateFactor := (fps - 15.0) * (0.75 - 1.5) / (60.0 - 15.0) + 1.5
  let perFrame := base * sizeFactor * rateFactor
  round (perFrame * fps * 0.001)

def audioFor (videoKbps : Nat) : Nat :=
  if videoKbps ≤ 299 then 32
  else if videoKbps ≤ 549 then 64
  else if videoKbps ≤ 699 then 96
  else 128

/-- Video and audio ceilings for an upload budget. -/
structure Split where
  videoKbps : Nat
  audioKbps : Nat
  deriving Repr, DecidableEq

def split (uploadKbps : Float) (interactive : Bool) : Split :=
  let share : Float := if interactive then 0.55 else 0.70
  let video := max (round (uploadKbps * share)) minVideoKbps
  ⟨video, audioFor video⟩

def floorNonneg (x : Float) : Float := Float.ofNat x.toUInt64.toNat

/-- Clamps a video bitrate to one that still shows a benefit: 105% of the 1080p
recommendation, and without a transcoder no more than `noTranscoderMaxKbps`. -/
def capToSane (kbps : Nat) (rate : FrameRate) (highAction hasTranscoder : Bool) : Nat :=
  let k := if hasTranscoder then kbps else min kbps noTranscoderMaxKbps
  let top := ideal Resolution.hd1080 rate highAction
  let ceiling := round (floorNonneg (Float.ofNat top * 1.05))
  min k ceiling

def bestSize (kbps : Nat) (rate : FrameRate) (highAction : Bool) : Resolution :=
  let fits (size : Resolution) : Bool :=
    Float.ofNat kbps > Float.ofNat (ideal size rate highAction) * 0.8
  (Resolution.standard.reverse.find? fits).getD Resolution.smallest

inductive TrialChoice where
  | use (kbps : Nat)
  | skip
  deriving Repr, DecidableEq

/-- The bitrate a trial runs at: three times the ideal for a file; for a stream 145% at the
smallest size and 125% above, where a size is skipped when even 75% of its ideal exceeds the
ceiling.  Rounded, then clamped to the ceiling. -/
def forTrial (idealKbps : Nat) (smallestSize : Bool) (target : Target) (maxVideoKbps : Nat) :
    TrialChoice :=
  let ideal := Float.ofNat idealKbps
  match target with
  | .file => .use (min (round (ideal * 3.0)) maxVideoKbps)
  | .stream =>
    if smallestSize then .use (min (round (ideal * 1.45)) maxVideoKbps)
    else if ideal * 0.75 > Float.ofNat maxVideoKbps then .skip
    else .use (min (round (ideal * 1.25)) maxVideoKbps)

end Bitrate

end EncoderBench
