import EncoderBench.Bench.Harness
import EncoderBench.Bench.Config
import EncoderBench.Bench.Budget
import EncoderBench.Bench.Rank
import EncoderBench.Bench.Settings
import EncoderBench.Bench.Progress
/-
The benchmark engine: a search over the (preset, size) grid, once per frame rate. For a preset
the output size grows while trials fit the budget; when one does not, the same size is retried
with the next faster preset. The engine has no clock: trial time is counted in frame ticks, and
every call returns the engine after it and the effects it had on the collaborators.
-/
namespace EncoderBench

inductive Phase
  | idle
  | preparing
  | sampling
  | finished
  deriving Repr, DecidableEq, Inhabited

namespace Phase

def isRunning : Phase → Bool
  | .preparing | .sampling => true
  | .idle | .finished => false

def name : Phase → String
  | .idle => "Idle"
  | .preparing => "Preparing"
  | .sampling => "Sampling"
  | .finished => "Finished"

end Phase

/-- Position of the search in the grid. -/
structure Cursor where
  presetIndex : Option Nat
  sizeIndex : Nat
  frameRate : FrameRate
  testsCompleted : Nat
  testsTotal : Nat
  deriving Repr, DecidableEq, Inhabited

namespace Cursor

def initial (rate : FrameRate) (total : Nat) : Cursor := ⟨none, 0, rate, 0, total⟩

/-- One move of the search.  The first move enters the grid at its corner.  After a trial that
broke the budget the next faster preset is tried at the same size, counting one grid point as
done; otherwise the next size is tried with the same preset, counting the whole column of
presets at the passed size as done. -/
def next (exceeded : Bool) (presets : Nat) (c : Cursor) : Cursor :=
  match c.presetIndex with
  | none => { c with presetIndex := some 0, sizeIndex := 0 }
  | some p =>
    if exceeded then { c with presetIndex := some (p + 1), testsCompleted := c.testsCompleted + 1 }
    else { c with sizeIndex := c.sizeIndex + 1, testsCompleted := c.testsCompleted + presets }

end Cursor

inductive EngineError
  | notReady (reason : String)
  | notRunning
  deriving Repr, DecidableEq, Inhabited

namespace EngineError

def kind : EngineError → String
  | .notReady _ => "NotReady"
  | .notRunning => "NotRunning"

def message : EngineError → String
  | .notReady r => "Benchmark not ready: " ++ r
  | .notRunning => "No benchmark is running"

end EngineError

def rateRefusalMessage (rate : FrameRate) (reason : String) : String :=
  "Cannot switch output frame rate to " ++ rate.display ++ ": " ++ reason

/-- The benchmark engine. -/
structure Engine where
  config : Config
  harness : Harness
  profileRate : FrameRate
  phase : Phase
  budget : Option Budget
  cursor : Cursor
  rateIndex : Nat
  sample : Option Sample
  frameInTrial : UInt64
  results : List TrialResult
  recommended : Option Nat
  samplesStarted : Nat
  deriving Inhabited

structure Transition (α : Type) where
  engine : Engine
  effects : List Effect
  value : α

namespace Engine

def firstRate (c : Config) : FrameRate := c.frameRates.headD FrameRate.fps30

def initial (config : Config) (profileRate : FrameRate) : Engine :=
  { config, harness := { keyIntervalSecs := config.keyIntervalSecs }, profileRate,
    phase := .idle, budget := none,
    cursor := Cursor.initial (firstRate config) config.totalTests,
    rateIndex := 0, sample := none, frameInTrial := 0, results := [], recommended := none,
    samplesStarted := 0 }

def new (config : Config) (profileRate : FrameRate) : Except ConfigProblem Engine := do
  let config ← config.validate
  return initial config profileRate

def isRunning (e : Engine) : Bool := e.phase.isRunning

def currentTrial (e : Engine) : Option TrialSpec := e.harness.live

def frameRate (e : Engine) : FrameRate := e.cursor.frameRate

def finish (rig : Rig) (e : Engine) : Engine × List Effect :=
  let (h, _, effs) := e.harness.endTrial rig
  let (results, best) := rank e.results e.config.recommendMinPreset
  ({ e with harness := h, sample := none, results, recommended := best, phase := .finished }, effs)

/-- Takes the live trial down and records it if it kept to the budget.  Returns whether the
budget was broken; `false` when no trial was live.  A trial never sampled counts as using no
CPU. -/
def judge (rig : Rig) (budget : Budget) (e : Engine) : Engine × List Effect × Bool :=
  let usage : CpuUsage := match e.sample with
    | some s => rig.usage s
    | none => {}
  let e := { e with sample := none }
  match e.harness.live with
  | none => (e, [], false)
  | some spec =>
    let (h, reported, effs) := e.harness.endTrial rig
    let bitrate := reported.getD spec.bitrateKbps
    let exceeded := budget.exceededBy usage.own usage.system
    let results := if exceeded then e.results
      else e.results ++ [⟨spec.preset, spec.size, spec.frameRate, bitrate, usage.system, usage.own, false⟩]
    ({ e with harness := h, results }, effs, exceeded)

def advanceRate (rig : Rig) (e : Engine) : Option Engine × List Effect :=
  let index := e.rateIndex + 1
  match e.config.frameRates[index]? with
  | none => (none, [])
  | some rate =>
    match rig.refusal rate with
    | some _ => (none, [.rateSwitch rate false])
    | none =>
      let cursor := { e.cursor with frameRate := rate, presetIndex := some 0, sizeIndex := 0 }
      (some { e with profileRate := rate, rateIndex := index, cursor }, [.rateSwitch rate true])

def shift (rig : Rig) (exceeded : Bool) (e : Engine) : Engine × Option Engine × List Effect :=
  let e := { e with cursor := e.cursor.next exceeded e.config.presets.length }
  if e.cursor.presetIndex.getD 0 < e.config.presets.length ∧
      e.cursor.sizeIndex < e.config.sizes.length then (e, some e, [])
  else
    let (moved, switched) := advanceRate rig e
    (e, moved, switched)

/-- Moves through the grid until a trial encoder comes up, or ends the run when the grid and
the frame rates are used up.  A grid point whose bitrate the budget cannot carry, or whose
encoder does not come up, is passed as a trial that broke or kept to the budget just as the
judged trial did.  Each pass moves the cursor or the frame rate on, so `fuel` passes at least
the grid's width plus height per frame rate suffice. -/
def seek (rig : Rig) (budget : Budget) (exceeded : Bool) :
    (fuel : Nat) → Engine → List Effect → Engine × List Effect
  | 0, e, acc =>
    let (e, effs) := finish rig e
    (e, acc ++ effs)
  | fuel + 1, e, acc =>
    match shift rig exceeded e with
    | (e, none, switched) =>
      let (e, effs) := finish rig e
      (e, acc ++ switched ++ effs)
    | (_, some e, switched) =>
      let sizeIndex := e.cursor.sizeIndex
      match e.config.presets[e.cursor.presetIndex.getD 0]?, e.config.sizes[sizeIndex]? with
      | some preset, some size =>
        let rate := e.cursor.frameRate
        let ideal := Bitrate.ideal size rate budget.highAction
        match Bitrate.forTrial ideal (sizeIndex == 0) budget.target budget.maxVideoKbps with
        | .skip => seek rig budget exceeded fuel e (acc ++ switched)
        | .use kbps =>
          let (h, began, effs) := e.harness.beginTrial rig ⟨preset, size, rate, kbps⟩
          let e := { e with harness := h }
          match began with
          | .ok () => ({ e with frameInTrial := 0, phase := .preparing }, acc ++ switched ++ effs)
          | .error _ => seek rig budget exceeded fuel e (acc ++ switched ++ effs)
      | _, _ =>
        let (e, effs) := finish rig e
        (e, acc ++ switched ++ effs)

def seekFuel (c : Config) : Nat :=
  (c.frameRates.length + 1) * (c.presets.length + c.sizes.length + 1)

def nextTrial (rig : Rig) (e : Engine) : Engine × List Effect :=
  match e.budget with
  | none => finish rig e
  | some budget =>
    let (e, judged, exceeded) := judge rig budget e
    let (e, effs) := seek rig budget exceeded (seekFuel e.config) e []
    (e, judged ++ effs)

/-- Starts a run under `budget`.  Refused while a run is in progress, and when the output
profile does not switch to the first configured frame rate; a refused start changes nothing. -/
def start (rig : Rig) (budget : Budget) (e : Engine) : Transition (Except EngineError Unit) :=
  if e.isRunning then ⟨e, [], .error (.notReady "a benchmark is already running")⟩
  else
    let first := firstRate e.config
    let switch : List Effect × Option String :=
      if e.profileRate.same first then ([], none)
      else match rig.refusal first with
        | some reason => ([.rateSwitch first false], some reason)
        | none => ([.rateSwitch first true], none)
    match switch.2 with
    | some reason => ⟨e, switch.1, .error (.notReady (rateRefusalMessage first reason))⟩
    | none =>
      let e := { e with
        profileRate := if e.profileRate.same first then e.profileRate else first,
        budget := some budget, results := [], recommended := none, sample := none,
        frameInTrial := 0, rateIndex := 0, cursor := Cursor.initial first e.config.totalTests,
        phase := .preparing }
      let (e, effs) := nextTrial rig e
      ⟨e, switch.1 ++ effs, .ok ()⟩

def stop (rig : Rig) (e : Engine) : Transition (Except EngineError Unit) :=
  if e.isRunning then
    let (e, effs) := finish rig e
    ⟨e, effs, .ok ()⟩
  else ⟨e, [], .error .notRunning⟩

/-- Advances the run by one output frame: the live encoder gets the trial's next frame; a trial
whose frames cover the trial duration is judged and the next one started; and sampling starts
at the first tick whose elapsed time reaches the warm-up.  Ignored when no run is in progress. -/
def tick (rig : Rig) (e : Engine) : Engine × List Effect :=
  if !e.isRunning then (e, [])
  else
    let fed := e.harness.feed rig e.frameInTrial.toNat
    let e := { e with frameInTrial := e.frameInTrial + 1 }
    let elapsed := e.cursor.frameRate.elapsed e.frameInTrial.toNat
    let (e, moved, elapsed) :=
      if elapsed ≥ e.config.trialDurationSecs then
        let (e, effs) := nextTrial rig e
        (e, effs, 0.0)
      else (e, [], elapsed)
    if !e.isRunning then (e, fed ++ moved)
    else if e.sample.isNone && elapsed ≥ e.config.warmupSecs then
      let s : Sample := ⟨e.samplesStarted, e.harness.live⟩
      ({ e with sample := some s, samplesStarted := e.samplesStarted + 1, phase := .sampling },
        fed ++ moved ++ [.sampleStarted s])
    else (e, fed ++ moved)

def progress (e : Engine) : Progress :=
  let elapsed := e.cursor.frameRate.elapsed e.frameInTrial.toNat
  let part := if e.isRunning then
      (Progress.clampFloat (elapsed / e.config.trialDurationSecs * 100.0).round 0.0 100.0).toUInt32.toNat
    else 0
  ⟨min e.cursor.testsCompleted e.cursor.testsTotal, e.cursor.testsTotal, part⟩

def outcome (e : Engine) : Option Outcome :=
  if e.phase = .finished then e.budget.map fun b => ⟨b, e.results, e.recommended⟩ else none

def intoOutcome (rig : Rig) (e : Engine) : Transition (Option Outcome) :=
  if e.isRunning then
    let (e, effs) := finish rig e
    ⟨e, effs, e.outcome⟩
  else ⟨e, [], e.outcome⟩

end Engine

end EncoderBench
