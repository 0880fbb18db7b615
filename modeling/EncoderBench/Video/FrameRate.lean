/-
Frame rates as fractions `num / den` of 32-bit counts.  Two rates are equal when their
cross products agree, so `60/2` equals `30/1`; a zero denominator makes a rate equal to every
rate with a zero numerator or denominator cross product.  The rate as a double is zero for a
zero denominator.
-/
namespace EncoderBench

/-- A frame rate of `num / den` frames per second. -/
structure FrameRate where
  num : Nat
  den : Nat
  deriving Repr, DecidableEq, Inhabited

namespace FrameRate

def ofNat (n : Nat) : FrameRate := ⟨n, 1⟩

def fps30 : FrameRate := ofNat 30
def fps60 : FrameRate := ofNat 60

def toFloat (r : FrameRate) : Float :=
  if r.den = 0 then 0.0 else Float.ofNat r.num / Float.ofNat r.den

def same (a b : FrameRate) : Bool := a.num * b.den == b.num * a.den

def maxFloat (a b : Float) : Float :=
  if a.isNaN then b else if b.isNaN then a else if a < b then b else a

def framesIn (r : FrameRate) (secs : Float) : Nat :=
  (maxFloat (secs * r.toFloat).ceil 0.0).toUInt64.toNat

def display (r : FrameRate) : String :=
  if r.den = 1 then toString r.num else toString r.num ++ "/" ++ toString r.den

def debugText (r : FrameRate) : String :=
  "FrameRate(" ++ toString r.num ++ "/" ++ toString r.den ++ ")"

def elapsed (r : FrameRate) (frames : Nat) : Float :=
  let fps := r.toFloat
  if fps ≤ 0.0 then 0.0 else Float.ofNat frames / fps

end FrameRate

end EncoderBench
