import EncoderBench.Cli.Autotune
import EncoderBench.Cli.Help
import EncoderBench.Bench.Drive
import EncoderBench.Encoder.Software
/-
What `transcode` answers for a command line: an exit status with standard output and standard
error (0 with the report, 1 for a request that cannot be met, 2 for a line that does not read).
The host provides files and runs benchmarks, so one answer serves a real run and a replay.
-/
namespace EncoderBench

namespace Cli

structure Reply where
  exit : Nat
  stdout : String := ""
  document : Option Json.Value := none
  stderr : String := ""

/-- What the program needs from the machine it runs on, in the monad `m`. -/
structure Host (m : Type → Type) where
  readFile : String → m (Except String String)
  benchmark : Config → Budget → m (Except String Outcome)

def failure (printed message : String) : Reply :=
  { exit := 1, stdout := printed, stderr := "Error: " ++ message ++ "\n" }

def usageError : String :=
  "error: the command line could not be read\n\nFor more information, try '--help'.\n"

def document (v : Json.Value) : Reply := { exit := 0, stdout := v.pretty 0 ++ "\n", document := some v }

def hostRig (usage : Sample → CpuUsage) : Rig where
  activation := SoftwareEncoder.check
  frameError _ := none
  bitrate c := c.options.bitrateKbps
  usage := usage
  refusal _ := none

/-- A benchmark run to its end with every tick delivered at once; the output profile starts at
30 Hz. -/
def benchmarkAtOnce (usage : Sample → CpuUsage) (config : Config) (budget : Budget) :
    Except String Outcome :=
  match Engine.new config FrameRate.fps30 with
  | .error p => .error p.message
  | .ok e =>
    let rig := hostRig usage
    let started := e.start rig budget
    match started.value with
    | .error err => .error err.message
    | .ok () =>
      match started.engine.drive rig (Clock.instant none 0) (0, 0) with
      | none => .error "Benchmark did not finish"
      | some d =>
        match d.result, d.engine.outcome with
        | .error err, _ => .error err.message
        | .ok (), some o => .ok o
        | .ok (), none => .error "Benchmark ended without producing an outcome"

def loadConfig [Monad m] (host : Host m) : Option String → m (Except String Config)
  | none => pure (.ok {})
  | some path => do
    let loaded := Config.ofRead (← host.readFile path)
    return match loaded with
      | .ok c => .ok c
      | .error e => .error (configLoadError path e)

def runAutotune [Monad m] (host : Host m) (quiet : Bool) (header : String) (t : AutotuneArgs) :
    m Reply := do
  match ← loadConfig host t.config with
  | .error msg => return failure header msg
  | .ok config =>
    let budget := autotuneBudget t config
    let plan := if quiet || t.json then "" else planText config budget
    match ← host.benchmark config budget with
    | .error msg => return failure (header ++ plan) msg
    | .ok o =>
      match chosenSettings o t.select with
      | .error e => return failure (header ++ plan) e.message
      | .ok s =>
        if t.json then return document (autotuneJson o s)
        else
          return { exit := 0,
                   stdout := header ++ plan ++ resultsText o.results config.reservedCpu ++ settingsText s }

/-- The answer to a command line, given without the program's name. -/
def respond [Monad m] (host : Host m) (args : List String) : m Reply :=
  match parse args with
  | .misuse => pure { exit := 2, stderr := usageError }
  | .version => pure { exit := 0, stdout := versionLine ++ "\n" }
  | .help topic long => pure { exit := 0, stdout := helpText topic long }
  | .run inv =>
    let header := if inv.command.json || inv.quiet then "" else versionLine ++ "\n"
    match inv.command with
    | .advise a =>
      match uploadProblem? a.upload with
      | some msg => pure (failure header msg)
      | none =>
        let adv := advice a
        pure (if a.json then document adv.toJson else { exit := 0, stdout := header ++ adv.text })
    | .presets p =>
      match p.detail with
      | some preset =>
        let info := PresetInfo.of preset
        pure (if p.json then document info.toJson else { exit := 0, stdout := header ++ info.details })
      | none =>
        pure (if p.json then document (.object [("presets", .array (presetInfos.map (·.toJson)))])
          else { exit := 0, stdout := header ++ presetTable })
    | .autotune t => runAutotune host inv.quiet header t

end Cli

end EncoderBench
