import EncoderBench.Cli.Advise
import EncoderBench.Bench.Config
/-
The `presets` command: the encoder speed presets, fastest first, with their quality labels,
costs relative to `faster`, motion search radii, and whether the default benchmark tries them.
-/
namespace EncoderBench

namespace Cli

/-- What is shown of a preset. -/
structure PresetInfo where
  preset : Preset
  benchmarked : Bool

def PresetInfo.of (p : Preset) : PresetInfo := ⟨p, ({} : Config).presets.contains p⟩

namespace PresetInfo

def toJson (i : PresetInfo) : Json.Value := .object [
  ("name", .string i.preset.name), ("quality", .string i.preset.qualityLabel),
  ("relative_cost", .ofFloat i.preset.relativeCost), ("search_radius", .ofNat i.preset.searchRadius),
  ("benchmarked", .bool i.benchmarked)]

def costText (i : PresetInfo) : String := fixedText 2 i.preset.relativeCost ++ "x"

/-- The details of one preset. -/
def details (i : PresetInfo) : String :=
  "\nPreset: " ++ i.preset.name ++ "\n\n" ++
  Advice.field "Quality:" i.preset.qualityLabel ++
  Advice.field "Relative cost:" i.costText ++
  Advice.field "Search radius:" (toString i.preset.searchRadius ++ " px") ++
  Advice.field "Benchmarked:" (if i.benchmarked then "yes" else "no") ++
  "\n"

end PresetInfo

def presetInfos : List PresetInfo := Preset.all.map PresetInfo.of

/-- The table of presets. -/
def presetTable : String :=
  "\nEncoder Presets\n\n" ++
  Pad.right "NAME" 12 ++ " " ++ Pad.right "QUALITY" 20 ++ " " ++ Pad.right "COST" 8 ++ " BENCHMARKED\n" ++
  Pad.rule '-' 56 ++ "\n" ++
  String.join (presetInfos.map fun i =>
    Pad.right i.preset.name 12 ++ " " ++ Pad.right i.preset.qualityLabel 20 ++ " " ++
      Pad.right i.costText 8 ++ " " ++ (if i.benchmarked then "yes" else "") ++ "\n") ++
  "\nUse --show <preset> to see details for a specific preset.\n"

end Cli

end EncoderBench
