import EncoderBench.Bench.Trial
import EncoderBench.Bench.Progress
import EncoderBench.Text.Blank
/-
CPU usage from host readings, as shares of the whole machine clamped to `[0, 1]`: from the
process CPU time against wall time over all cores, or from the kernel's aggregate jiffy counters,
where the system figure is the share of jiffies that were not idle.
-/
namespace EncoderBench

namespace Usage

def ratio (part whole : Float) : Float :=
  if whole ≤ 0.0 then 0.0 else Progress.clampFloat (part / whole) 0.0 1.0

def fromProcessTime (cores processSecs wallSecs : Float) : CpuUsage :=
  let own := ratio processSecs (wallSecs * cores)
  ⟨own, own⟩

structure SystemTimes where
  idle : Nat := 0
  total : Nat := 0
  deriving Repr, DecidableEq, Inhabited

def counter? (s : String) : Option Nat :=
  let ds := match s.toList with
    | '+' :: rest => rest
    | cs => cs
  if ds.isEmpty || !ds.all Char.isDigit then none
  else
    let n := ds.foldl (fun acc c => acc * 10 + (c.toNat - '0'.toNat)) 0
    if n < Nat.pow 2 64 then some n else none

/-- The counters of the first line starting `cpu ` of the kernel's statistics: idle is the
fourth and fifth column, the total sums the first eight, and at least four are needed. -/
def SystemTimes.parse (stat : String) : Option SystemTimes := do
  let line ← (stat.splitOn "\n").find? (·.startsWith "cpu ")
  let words := ((line.split Blank.isBlank).toList.map (·.toString)).filter (!·.isEmpty)
    |>.drop 1 |>.take 8
  let fields ← words.mapM counter?
  if fields.length < 4 then none
  else some ⟨fields.getD 3 0 + fields.getD 4 0, fields.foldl (· + ·) 0⟩

def SystemTimes.since (now earlier : SystemTimes) : SystemTimes :=
  ⟨now.idle - earlier.idle, now.total - earlier.total⟩

def fromKernelTimes (ticksPerSec processSecs : Float) (start now : SystemTimes) : CpuUsage :=
  let delta := now.since start
  let totalSecs := Float.ofNat delta.total / ticksPerSec
  ⟨ratio processSecs totalSecs, 1.0 - ratio (Float.ofNat delta.idle) (Float.ofNat delta.total)⟩

def processJiffies? (stat : String) : Option Nat := do
  let rest ← (stat.splitOn ")").getLast?
  let words := ((rest.split Blank.isBlank).toList.map (·.toString)).filter (!·.isEmpty)
  let user ← counter? (words.getD 11 "")
  let system ← counter? (words.getD 12 "")
  return user + system

structure Reading where
  system : Option SystemTimes := none
  processSecs : Float := 0.0
  deriving Inhabited

/-- Usage over the interval from `start` to `now`.  A start without kernel counters counts from
zero; an end without them reports zero usage, as nothing can be said of the interval. -/
def Reading.usageSince (ticksPerSec : Float) (start now : Reading) : CpuUsage :=
  match now.system with
  | none => {}
  | some later =>
    let process := now.processSecs - start.processSecs
    fromKernelTimes ticksPerSec (if process < 0.0 then 0.0 else process) (start.system.getD {}) later

def inRange (x : Float) : Bool := 0.0 ≤ x && x ≤ 1.0

end Usage

end EncoderBench
