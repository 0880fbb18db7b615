import EncoderBench.Bench.Rig
import EncoderBench.Encoder.Software
/-
Scripted collaborators, for replaying a benchmark deterministically: which encoder backs the
trials, what each CPU sample reports, and which frame rates the output profile accepts.
-/
namespace EncoderBench

namespace Scenario

structure Matcher where
  preset : Option Preset := none
  width : Option Nat := none
  height : Option Nat := none
  fps : Option FrameRate := none
  bitrateKbps : Option Nat := none
  deriving Repr, DecidableEq, Inhabited

def fits (wanted : Option α) (ok : α → Bool) : Bool :=
  match wanted with
  | none => true
  | some w => ok w

def Matcher.matches (m : Matcher) (s : TrialSpec) : Bool :=
  fits m.preset (· == s.preset) && fits m.width (· == s.size.width) &&
    fits m.height (· == s.size.height) && fits m.fps (·.same s.frameRate) &&
    fits m.bitrateKbps (· == s.bitrateKbps)

def idleUsage : CpuUsage := ⟨0.1, 0.1⟩

/-- What CPU samples report. -/
inductive UsageScript
  | rules (rules : List (Matcher × CpuUsage)) (fallback : CpuUsage)
  | sequence (usages : List CpuUsage)
  deriving Inhabited

def UsageScript.usage : UsageScript → Sample → CpuUsage
  | .rules rs fallback, s =>
    match s.trial with
    | none => fallback
    | some spec => ((rs.find? (·.1.matches spec)).map (·.2)).getD fallback
  | .sequence us, s => if us.isEmpty then idleUsage else us.getD (s.index % us.length) idleUsage

/-- Which encoder backs the trials. -/
inductive Backing
  | standIn
  | software
  deriving Repr, DecidableEq, Inhabited

/-- A scripted set of collaborators. -/
structure Script where
  backing : Backing := .standIn
  fail : List Matcher := []
  failEncode : List Matcher := []
  usage : UsageScript := .rules [] idleUsage
  accept : Option (List FrameRate) := none
  deriving Inhabited

def scriptedFailure : ActivationError := .init "scripted failure"

def scriptedEncodeFailure : ActivationError := .init "scripted encode failure"

def Script.rig (s : Script) : Rig where
  activation c := match s.backing with
    | .software => SoftwareEncoder.check c
    | .standIn => if s.fail.any (·.matches c.spec) then .error scriptedFailure else .ok ()
  frameError c := match s.backing with
    | .software => none
    | .standIn => if s.failEncode.any (·.matches c.spec) then some scriptedEncodeFailure else none
  bitrate c := c.options.bitrateKbps
  usage := s.usage.usage
  refusal r := match s.accept with
    | none => none
    | some rates => if rates.any (·.same r) then none else some "locked"

end Scenario

end EncoderBench
