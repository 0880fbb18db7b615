import EncoderBench.Cli.Run
import EncoderBench.Bench.Usage
import EncoderBench.Bench.PacedClock
/-
The `transcode` program on a real machine. Everything it decides is in `Cli.respond`; this layer
reads files, runs the engine from a paced clock that sleeps until each frame is due, measures
samples with the kernel's counters, and prints the answer.
-/
namespace EncoderBench

namespace Machine

def ticksPerSecond : Float := 100.0

def systemMessage (code : UInt32) (details : String) : String :=
  let code := if code ≥ 0x80000000 then (0 - code) else code
  let details := match details.toList with
    | c :: cs => String.ofList (c.toUpper :: cs)
    | [] => details
  details ++ " (os error " ++ toString code ++ ")"

def errorMessage : IO.Error → String
  | .alreadyExists _ code details | .otherError code details | .resourceBusy code details
  | .resourceVanished code details | .unsupportedOperation code details
  | .hardwareFault code details | .unsatisfiedConstraints code details
  | .illegalOperation code details | .protocolError code details | .timeExpired code details
  | .interrupted _ code details | .noFileOrDirectory _ code details
  | .invalidArgument _ code details | .permissionDenied _ code details
  | .resourceExhausted _ code details | .inappropriateType _ code details
  | .noSuchThing _ code details =>
    systemMessage code details
  | .unexpectedEof => "failed to fill whole buffer"
  | .userError message => message

def readText (path : String) : IO (Except String String) := do
  try
    let bytes ← IO.FS.readBinFile path
    match String.fromUTF8? bytes with
    | some text => return .ok text
    | none => return .error "stream did not contain valid UTF-8"
  catch e => return .error (errorMessage e)

def readCounters : IO Usage.Reading := do
  let system := match ← readText "/proc/stat" with
    | .ok text => Usage.SystemTimes.parse text
    | .error _ => none
  let jiffies := match ← readText "/proc/self/stat" with
    | .ok text => (Usage.processJiffies? text).getD 0
    | .error _ => 0
  return { system, processSecs := Float.ofNat jiffies / ticksPerSecond }

def rigAt (starts : List (Nat × Usage.Reading)) (now : Usage.Reading) : Rig :=
  Cli.hostRig fun s => match starts.lookup s.index with
    | some start => start.usageSince ticksPerSecond now
    | none => {}

def started (effects : List Effect) (now : Usage.Reading) (starts : List (Nat × Usage.Reading)) :
    List (Nat × Usage.Reading) :=
  effects.foldl (fun acc eff => match eff with
    | .sampleStarted s => (s.index, now) :: acc
    | _ => acc) starts

def waitUntil (due : Nat) : IO Unit := do
  let now ← IO.monoNanosNow
  if now < due then IO.sleep ((due - now + 999999) / 1000000).toUInt32

/-- Feeds paced frame ticks to the engine until the run ends; a clock that stops first cancels
the run. -/
partial def pace (e : Engine) (clock : PacedClock) (starts : List (Nat × Usage.Reading)) :
    IO (Engine × Except EngineError Unit) := do
  if !e.isRunning then return (e, .ok ())
  let rate := e.frameRate
  match clock.deadline rate (← IO.monoNanosNow) with
  | none =>
    let t := e.stop (rigAt starts (← readCounters))
    return (t.engine, t.value)
  | some (clock, due) =>
    waitUntil due
    let (clock, _) := clock.deliver rate due (← IO.monoNanosNow)
    let now ← readCounters
    let (e, effects) := e.tick (rigAt starts now)
    pace e clock (started effects now starts)

def benchmark (config : Config) (budget : Budget) : IO (Except String Outcome) := do
  let first ← readCounters
  if first.system.isNone then
    return .error "CPU usage sampling unavailable: cannot read /proc/stat"
  match Engine.new config FrameRate.fps30 with
  | .error p => return .error p.message
  | .ok e =>
    let t := e.start (rigAt [] first) budget
    match t.value with
    | .error err => return .error err.message
    | .ok () =>
      let (e, result) ← pace t.engine {} (started t.effects first [])
      match result, e.outcome with
      | .error err, _ => return .error err.message
      | .ok (), some o => return .ok o
      | .ok (), none => return .error "Benchmark ended without producing an outcome"

def host : Cli.Host IO := ⟨readText, benchmark⟩

end Machine

end EncoderBench

/-- Answers the command line, writing the answer out and exiting with its status. -/
def main (args : List String) : IO UInt32 := do
  let reply ← EncoderBench.Cli.respond EncoderBench.Machine.host args
  let out ← IO.getStdout
  out.putStr reply.stdout
  out.flush
  let err ← IO.getStderr
  err.putStr reply.stderr
  err.flush
  return reply.exit.toUInt32
