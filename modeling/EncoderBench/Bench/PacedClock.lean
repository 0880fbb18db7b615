import EncoderBench.Bench.Drive
/-
A real-time frame clock, as a pure schedule over readings of a monotonic clock in nanoseconds.
A tick is due one frame interval after the previous deadline, or after it is asked for at a new
rate; deadlines missed while the caller was late are reported as dropped and never delivered.
-/
namespace EncoderBench

/-- The paced clock's state: the rate it is scheduled at, the next deadline, and the number of
the last frame delivered. -/
structure PacedClock where
  rate : Option FrameRate := none
  nextDeadline : Option Nat := none
  frameNumber : Nat := 0
  deriving Repr, DecidableEq, Inhabited

namespace PacedClock

def intervalNanos (rate : FrameRate) : Nat := (1.0e9 / rate.toFloat).round.toUInt64.toNat

def scheduledAt (c : PacedClock) (rate : FrameRate) : Bool :=
  match c.rate with
  | some r => r.same rate
  | none => false

/-- Asked at `now` for a tick at `rate`: the clock with its schedule set and the deadline to
wait for; `none`, stopping, for a rate that is not positive. -/
def deadline (c : PacedClock) (rate : FrameRate) (now : Nat) : Option (PacedClock × Nat) :=
  if rate.toFloat ≤ 0.0 then none
  else
    let c := if c.scheduledAt rate then c
      else { c with rate := some rate, nextDeadline := some (now + intervalNanos rate) }
    some (c, c.nextDeadline.getD now)

/-- Woken at `now` for the tick due at `due`: the frames missed in between are dropped. -/
def deliver (c : PacedClock) (rate : FrameRate) (due now : Nat) : PacedClock × FrameTick :=
  let interval := intervalNanos rate
  let late := now - due
  let dropped := if interval = 0 then (if late = 0 then 0 else Nat.pow 2 32 - 1)
    else min (late / interval) (Nat.pow 2 32 - 1)
  let frame := c.frameNumber + 1 + dropped
  ({ c with frameNumber := frame, nextDeadline := some (due + interval * (dropped + 1)) },
    ⟨frame, dropped⟩)

def follows (previous : Nat) (t : FrameTick) : Bool := t.frameNumber == previous + 1 + t.dropped

end PacedClock

end EncoderBench
