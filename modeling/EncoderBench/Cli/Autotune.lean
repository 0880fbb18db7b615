import EncoderBench.Cli.Presets
import EncoderBench.Bench.Config.Json
/-
The `autotune` command: benchmark the encoder on this machine and recommend output settings.
The budget comes from the upload speed or, for a local recording, a generous fixed bandwidth; the
plan is shown first, then the accepted trials, then the settings chosen.
-/
namespace EncoderBench

namespace Cli

def autotuneBudget (t : AutotuneArgs) (config : Config) : Budget :=
  if t.localFile then Budget.forLocalFile t.cpu config
  else Budget.fromUpload ⟨t.unit.toKbps (t.upload.getD 0.0), t.interactive, t.highAction, t.transcoder⟩
    t.cpu config

/-- The plan of a run. -/
def planText (config : Config) (b : Budget) : String :=
  "\nSystem Benchmark\n" ++
  Advice.field "CPU budget:" (plainText (b.maxOwnCpu * 100.0).round ++ "%") ++
  (if b.isLocalFile then Advice.field "Target:" "local file"
   else Advice.field "Bandwidth:" (toString b.maxVideoKbps ++ " Kb/s video, " ++
     toString b.maxAudioKbps ++ " Kb/s audio")) ++
  Advice.field "Plan:" ("up to " ++ toString config.totalTests ++ " trials of " ++
    fixedText 1 config.trialDurationSecs ++ "s") ++
  "\n"

def resultsText (results : List TrialResult) (reservedCpu : Float) : String :=
  "\nResults\n" ++
  if results.isEmpty then "  (none)\n"
  else String.join (results.zipIdx.map fun (r, i) =>
    "  " ++ Pad.left (toString i) 2 ++ "  " ++ r.describe reservedCpu ++ "\n")

/-- The settings chosen, or why there are none. -/
def settingsText : Option Settings → String
  | some s =>
    "\nRecommended Settings\n" ++
    Advice.field "Canvas:" s.canvas.display ++
    Advice.field "Output size:" s.outputSize.display ++
    Advice.field "Frame rate:" (s.frameRate.display ++ " fps") ++
    Advice.field "Preset:" s.video.preset.name ++
    Advice.field "Video bitrate:" (toString s.video.bitrateKbps ++ " Kb/s") ++
    Advice.field "Audio bitrate:" (toString s.audioBitrateKbps ++ " Kb/s") ++
    "\n"
  | none => "\nNo settings fit this budget. Try a higher CPU limit or a faster connection.\n"

def autotuneJson (o : Outcome) (s : Option Settings) : Json.Value := .object [
  ("type", .string "autotune_complete"), ("budget", Report.budget o.budget),
  ("results", .array (o.results.map Report.trialResult)),
  ("recommended", Json.Value.ofOption Json.Value.ofNat o.recommended),
  ("settings", Json.Value.ofOption Report.settings s)]

def chosenSettings (o : Outcome) (select : Option Nat) : Except NoSuchResult (Option Settings) :=
  match select with
  | some i => (o.select i).map some
  | none => .ok o.recommendedSettings

def configLoadError (path : String) (e : LoadError) : String :=
  "Failed to load config from " ++ path ++ "\n\nCaused by:\n    " ++ e.message

end Cli

end EncoderBench
