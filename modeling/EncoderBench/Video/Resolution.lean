/-
Output sizes in pixels, and the six standard sizes from 240p to 1080p that the advisor and
the benchmark consider, smallest first.
-/
namespace EncoderBench

/-- An output size of `width × height` pixels. -/
structure Resolution where
  width : Nat
  height : Nat
  deriving Repr, DecidableEq, Inhabited

namespace Resolution

def pixels (r : Resolution) : Nat := r.width * r.height

def display (r : Resolution) : String := toString r.width ++ "x" ++ toString r.height

def standard : List Resolution :=
  [⟨426, 240⟩, ⟨640, 360⟩, ⟨854, 480⟩, ⟨960, 540⟩, ⟨1280, 720⟩, ⟨1920, 1080⟩]

def hd720 : Resolution := ⟨1280, 720⟩
def hd1080 : Resolution := ⟨1920, 1080⟩
def smallest : Resolution := ⟨426, 240⟩

def heightTier? (r : Resolution) : Option Nat := standard.idxOf? r

end Resolution

end EncoderBench
