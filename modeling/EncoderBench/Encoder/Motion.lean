import EncoderBench.Encoder.Software
/-
The software encoder's frames: two luma planes of `width · height` bytes, swapped each frame, and
a block motion search of every non-key frame against the previous plane. The search's cost only
reaches a trace, so the counters are exactly those of `SoftwareEncoder`; a read past a plane
would panic.
-/
namespace EncoderBench

def blockSize : Nat := 16

def sampleStep : Nat := 4

def u64Max : Nat := Nat.pow 2 64 - 1

def stepsBelow (bound step : Nat) : List Nat :=
  List.range' 0 ((bound + step - 1) / step) step

def absDiff (a b : UInt8) : Nat := (a.toNat - b.toNat) + (b.toNat - a.toNat)

def patternPixel (frameIndex x y : Nat) : UInt8 :=
  let shift := frameIndex % 256
  UInt8.ofNat ((x + shift) ^^^ (y + shift / 2))

def render (width frameIndex : Nat) (plane : Array UInt8) : Array UInt8 :=
  plane.mapIdx fun i px =>
    if i < plane.size / width * width then patternPixel frameIndex (i % width) (i / width) else px

/-- The encoder's two luma planes: the frame being encoded and the one before it. -/
structure Planes where
  current : Array UInt8 := #[]
  previous : Array UInt8 := #[]
  deriving Repr, DecidableEq, Inhabited

namespace Planes

def allocate (size : Resolution) : Planes :=
  ⟨Array.replicate size.pixels 0, Array.replicate size.pixels 0⟩

def advance (p : Planes) (width frameIndex : Nat) : Planes :=
  ⟨render width frameIndex p.previous, p.current⟩

end Planes

def sampleOffsets : List (Nat × Nat) :=
  (stepsBelow blockSize sampleStep).flatMap fun y =>
    (stepsBelow blockSize sampleStep).map fun x => (x, y)

def blockReads (width : Nat) (block ref : Nat × Nat) : List (Nat × Nat) :=
  sampleOffsets.map fun o =>
    ((block.2 + o.2) * width + block.1 + o.1, (ref.2 + o.2) * width + ref.1 + o.1)

def blockSad (p : Planes) (width : Nat) (block ref : Nat × Nat) : Nat :=
  (blockReads width block ref).foldl (fun sad r => sad + absDiff p.current[r.1]! p.previous[r.2]!) 0

def blockOrigins (size : Resolution) : List (Nat × Nat) :=
  (stepsBelow (size.height - (blockSize - 1)) blockSize).flatMap fun y =>
    (stepsBelow (size.width - (blockSize - 1)) blockSize).map fun x => (x, y)

def displacements (radius : Nat) : List Int :=
  (List.range (2 * radius + 1)).map fun k : Nat => (k : Int) - radius

/-- The corner of the reference block that displacement `(dx, dy)` names for the block at
`block`, if that block lies inside a plane of `size`: the corner is not left of or above the
plane, and a whole block fits from it. -/
def reference (size : Resolution) (block : Nat × Nat) (dx dy : Int) : Option (Nat × Nat) :=
  let ry := (block.2 : Int) + dy
  let rx := (block.1 : Int) + dx
  if ry < 0 ∨ rx < 0 then none
  else if ry.toNat + blockSize > size.height ∨ rx.toNat + blockSize > size.width then none
  else some (rx.toNat, ry.toNat)

def candidates (size : Resolution) (radius : Nat) (block : Nat × Nat) : List (Nat × Nat) :=
  (displacements radius).flatMap fun dy =>
    (displacements radius).filterMap fun dx => reference size block dx dy

def bestSad (c : EncoderConfig) (p : Planes) (block : Nat × Nat) : Nat :=
  ((candidates c.size c.options.preset.searchRadius block).map
    (blockSad p c.size.width block)).foldl min u64Max

def motionSearch (c : EncoderConfig) (p : Planes) : Nat :=
  ((blockOrigins c.size).map (bestSad c p)).foldl
    (fun total best => (total + best) % Nat.pow 2 64) 0

/-- The software encoder as it runs: its configuration and counters, and its planes. -/
structure FramedEncoder where
  encoder : SoftwareEncoder
  planes : Planes := {}
  deriving Repr, Inhabited

namespace FramedEncoder

def create (c : EncoderConfig) : FramedEncoder := ⟨SoftwareEncoder.create c, {}⟩

def activate (e : FramedEncoder) : Except ActivationError FramedEncoder :=
  match e.encoder.activate with
  | .error err => .error err
  | .ok up => .ok ⟨up, Planes.allocate up.config.size⟩

/-- Encodes frame `frameIndex`: the counters move as `SoftwareEncoder.encodeFrame` moves them,
the planes advance, and a frame that is not a keyframe is searched.  The frame's cost comes
back with the encoder; an encoder that is down refuses the frame and stays as it was. -/
def encodeFrame (e : FramedEncoder) (frameIndex : Nat) :
    Except ActivationError (FramedEncoder × Nat) :=
  match e.encoder.encodeFrame with
  | .error err => .error err
  | .ok next =>
    let planes := e.planes.advance e.encoder.config.size.width frameIndex
    let key := e.encoder.framesEncoded % SoftwareEncoder.keyframePeriod e.encoder.config == 0
    .ok (⟨next, planes⟩, if key then 0 else motionSearch e.encoder.config planes)

def deactivate (e : FramedEncoder) : FramedEncoder := ⟨e.encoder.deactivate, {}⟩

end FramedEncoder

end EncoderBench
