import EncoderBench.Text.Blank
import EncoderBench.Text.Lower
/-
Encoder speed presets, from the fastest (lowest quality at a given bitrate) to the slowest
(highest quality).  The quality order is the order of `index`; each preset has a name, a
label for people, a cost relative to `faster`, and the motion search radius of the software
trial encoder.
-/
namespace EncoderBench

/-- A speed/quality preset, declared from the fastest to the slowest. -/
inductive Preset where
  | ultrafast | superfast | veryfast | faster | fast | medium | slow | slower | veryslow
  deriving Repr, DecidableEq, Inhabited

namespace Preset

def all : List Preset := [ultrafast, superfast, veryfast, faster, fast, medium, slow, slower, veryslow]

def index : Preset → Nat
  | ultrafast => 0 | superfast => 1 | veryfast => 2 | faster => 3 | fast => 4
  | medium => 5 | slow => 6 | slower => 7 | veryslow => 8

instance : LT Preset := ⟨fun a b => a.index < b.index⟩
instance : LE Preset := ⟨fun a b => a.index ≤ b.index⟩
instance (a b : Preset) : Decidable (a < b) := inferInstanceAs (Decidable (a.index < b.index))
instance (a b : Preset) : Decidable (a ≤ b) := inferInstanceAs (Decidable (a.index ≤ b.index))

def compareQuality (a b : Preset) : Ordering := compare a.index b.index

def name : Preset → String
  | ultrafast => "ultrafast" | superfast => "superfast" | veryfast => "veryfast"
  | faster => "faster" | fast => "fast" | medium => "medium" | slow => "slow"
  | slower => "slower" | veryslow => "veryslow"

def qualityLabel : Preset → String
  | ultrafast => "Very low quality" | superfast => "Low quality" | veryfast => "Good quality"
  | faster => "Great quality" | fast => "High quality" | medium => "Very high quality"
  | slow => "Super high quality" | slower => "Extreme quality" | veryslow => "Best quality"

def relativeCost : Preset → Float
  | ultrafast => 0.43 | superfast => 0.50 | veryfast => 0.64 | faster => 1.0 | fast => 1.38
  | medium => 1.58 | slow => 2.29 | slower => 5.83 | veryslow => 8.78

def searchRadius : Preset → Nat
  | ultrafast => 1 | superfast => 2 | veryfast => 3 | faster => 4 | fast => 5
  | medium => 6 | slow => 8 | slower => 12 | veryslow => 16

def ofName? (s : String) : Option Preset := all.find? (·.name == s)

def parse (s : String) : Except String Preset :=
  let key := Lower.lower (Blank.trim s)
  match ofName? key with
  | some p => .ok p
  | none => .error ("unknown preset: " ++ key)

end Preset

end EncoderBench
