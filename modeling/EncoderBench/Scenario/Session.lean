import EncoderBench.Bench.Drive
import EncoderBench.Scenario.Script
import EncoderBench.Scenario.Tally
/-
Replaying calls against scripted collaborators: an engine session, a harness session and a
software encoder session, each keeping the tally of what the collaborators saw.
-/
namespace EncoderBench

namespace Scenario

/-- An engine over scripted collaborators, with the tally of their effects. -/
structure Session where
  rig : Rig
  engine : Engine
  tally : Tally := {}

namespace Session

def new (script : Script) (config : Config) (initialRate : FrameRate) : Except ConfigProblem Session :=
  (Engine.new config initialRate).map fun e => ⟨script.rig, e, {}⟩

def apply (s : Session) (t : Transition α) : Session × α :=
  ({ s with engine := t.engine, tally := s.tally.recordAll t.effects }, t.value)

def start (s : Session) (budget : Budget) : Session × Except EngineError Unit :=
  s.apply (s.engine.start s.rig budget)

def stop (s : Session) : Session × Except EngineError Unit := s.apply (s.engine.stop s.rig)

def tick (s : Session) : Session :=
  let (e, effs) := s.engine.tick s.rig
  { s with engine := e, tally := s.tally.recordAll effs }

def ticks (s : Session) : (count : Nat) → Session
  | 0 => s
  | n + 1 => ticks s.tick n

def sameTrial : Option TrialSpec → Option TrialSpec → Bool
  | none, none => true
  | some a, some b => a.same b
  | _, _ => false

def tickUntilChangeFrom (before : Option TrialSpec) : (budget : Nat) → Session → Nat → Session × Nat
  | 0, s, sent => (s, sent)
  | n + 1, s, sent =>
    if !s.engine.isRunning then (s, sent)
    else
      let s := s.tick
      if sameTrial s.engine.currentTrial before then tickUntilChangeFrom before n s (sent + 1)
      else (s, sent + 1)

def tickUntilChange (s : Session) (most : Nat) : Session × Nat :=
  tickUntilChangeFrom s.engine.currentTrial most s 0

def monotone : List Progress → Bool
  | a :: b :: rest => a.fraction ≤ b.fraction && monotone (b :: rest)
  | _ => true

structure RunReport where
  ticks : Nat
  progressCalls : Nat
  monotonic : Bool
  lastProgress : Progress
  result : Except EngineError Unit

/-- Drives the run with an instant clock, stopping after `limit` ticks if a limit is given;
`none` for a run the drive does not return from. -/
def run (s : Session) (limit : Option Nat) (dropped : Nat) : Session × Option RunReport :=
  match s.engine.drive s.rig (Clock.instant limit dropped) (0, 0) with
  | none => (s, none)
  | some d =>
    let last := d.progress.getLast?.getD { testsTotal := 0 }
    ({ s with engine := d.engine, tally := s.tally.recordAll d.effects },
      some ⟨d.clock.1, d.progress.length, monotone d.progress, last, d.result⟩)

def intoOutcome (s : Session) : Tally × Option Outcome :=
  let (s, o) := s.apply (s.engine.intoOutcome s.rig)
  (s.tally, o)

end Session

/-- A trial harness over scripted collaborators, with the tally of their effects. -/
structure HarnessSession where
  rig : Rig
  harness : Harness
  tally : Tally := {}

namespace HarnessSession

def new (script : Script) (keyIntervalSecs : Nat) : HarnessSession :=
  ⟨script.rig, { keyIntervalSecs }, {}⟩

def beginTrial (s : HarnessSession) (spec : TrialSpec) : HarnessSession × Except ActivationError Unit :=
  let (h, r, effs) := s.harness.beginTrial s.rig spec
  ({ s with harness := h, tally := s.tally.recordAll effs }, r)

def feed (s : HarnessSession) (first : Nat) : (count : Nat) → HarnessSession
  | 0 => s
  | n + 1 =>
    let effs := s.harness.feed s.rig first
    feed { s with tally := s.tally.recordAll effs } (first + 1) n

def endTrial (s : HarnessSession) : HarnessSession × Option Nat :=
  let (h, r, effs) := s.harness.endTrial s.rig
  ({ s with harness := h, tally := s.tally.recordAll effs }, r)

end HarnessSession

def encodeFrames (e : SoftwareEncoder) :
    (count failed : Nat) → Option ActivationError → SoftwareEncoder × Nat × Option ActivationError
  | 0, failed, err => (e, failed, err)
  | n + 1, failed, err =>
    match e.encodeFrame with
    | .ok e => encodeFrames e n failed err
    | .error x => encodeFrames e n (failed + 1) (err.orElse fun _ => some x)

end Scenario

end EncoderBench
