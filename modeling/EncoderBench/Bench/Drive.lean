import EncoderBench.Bench.Engine
/-
Running the engine from a frame clock.  `drive` feeds ticks to the engine until the run ends,
reporting progress after every tick; a clock that stops first cancels the run.  On a clock that
never stops, a run whose trials never end keeps the loop going for ever.
-/
namespace EncoderBench

structure FrameTick where
  frameNumber : Nat := 0
  dropped : Nat := 0
  deriving Repr, DecidableEq, Inhabited

/-- A source of frame ticks with state `σ`: the next tick at a rate, or `none` once stopped. -/
structure Clock (σ : Type) where
  next : σ → FrameRate → Option (FrameTick × σ)

def Clock.instant (limit : Option Nat) (dropped : Nat) : Clock (Nat × Nat) where
  next st _ :=
    let (delivered, frame) := st
    if limit.any (delivered ≥ ·) then none
    else
      let frame := frame + 1 + dropped
      some (⟨frame, dropped⟩, (delivered + 1, frame))

/-- What a drive ends with: the engine, the clock, the progress reported after each tick, the
effects in order, and the value of the call. -/
structure Drive (σ : Type) where
  engine : Engine
  clock : σ
  progress : List Progress
  effects : List Effect
  result : Except EngineError Unit

namespace Engine

def trialTicks (c : Config) (rate : FrameRate) : Nat :=
  2 * (c.trialDurationSecs * rate.toFloat).ceil.toUInt64.toNat + 2

def runTicks (c : Config) : Nat :=
  c.frameRates.foldl (fun acc r => acc + (c.presets.length + c.sizes.length) * trialTicks c r) 1

/-- Feeds ticks from the clock while the run goes on, for at most `fuel` ticks; a clock that
stops while the run goes on cancels it.  `none` when the ticks are spent with the run still going
and the clock still ticking: the drive has not returned within them.  The progress list and the
effect list are kept newest first while running. -/
def driveFor (rig : Rig) (clock : Clock σ) (fuel : Nat) (e : Engine) (s : σ)
    (ps : List Progress) (es : List Effect) : Option (Drive σ) :=
  if !e.isRunning then some ⟨e, s, ps.reverse, es.reverse, .ok ()⟩
  else
    match clock.next s e.frameRate with
    | none =>
      let t := e.stop rig
      some ⟨t.engine, s, ps.reverse, (t.effects.reverse ++ es).reverse, t.value⟩
    | some (_, s) =>
      match fuel with
      | 0 => none
      | fuel + 1 =>
        let (e, effs) := e.tick rig
        driveFor rig clock fuel e s (e.progress :: ps) (effs.reverse ++ es)

/-- The drive from `e` returns `d`: the loop of ticks, followed with no bound, ends because the
run ended or because the clock stopped and the run was cancelled. -/
inductive Drives (rig : Rig) (clock : Clock σ) :
    Engine → σ → List Progress → List Effect → Drive σ → Prop
  | stopped {e : Engine} {s : σ} {ps : List Progress} {es : List Effect} :
      e.isRunning = false → Drives rig clock e s ps es ⟨e, s, ps.reverse, es.reverse, .ok ()⟩
  | halted {e : Engine} {s : σ} {ps : List Progress} {es : List Effect} :
      e.isRunning = true → clock.next s e.frameRate = none →
      Drives rig clock e s ps es ⟨(e.stop rig).engine, s, ps.reverse,
        ((e.stop rig).effects.reverse ++ es).reverse, (e.stop rig).value⟩
  | ticked {e : Engine} {s s' : σ} {ps : List Progress} {es : List Effect} {t : FrameTick}
      {d : Drive σ} :
      e.isRunning = true → clock.next s e.frameRate = some (t, s') →
      Drives rig clock (e.tick rig).1 s' ((e.tick rig).1.progress :: ps)
        ((e.tick rig).2.reverse ++ es) d →
      Drives rig clock e s ps es d

def drive (rig : Rig) (clock : Clock σ) (e : Engine) (s : σ) : Option (Drive σ) :=
  driveFor rig clock (runTicks e.config) e s [] []

end Engine

end EncoderBench
