import Mathlib.Algebra.BigOperators.Intervals
import EncoderBench.Proofs.Engine.Staircase
import EncoderBench.Proofs.Doubles.Exactness
import EncoderBench.Bench.Drive
/-!
When a run ends. A trial ends at the first tick whose 64-bit frame count covers its duration, and
`ticksToGo` falls at every tick, so a run ends within the sum over the rates of `span * T f`
ticks; a trial that no 64-bit count covers never ends, and its drive never returns.
-/
namespace EncoderBench

namespace Grid

variable (c : Config) (T : Nat → Nat)

def span : Nat := c.presets.length + c.sizes.length - 1

def ticksLeft (q : GridPoint) : Nat :=
  (span c - q.preset - q.size) * T q.rate +
    ∑ f ∈ Finset.Ico (q.rate + 1) c.frameRates.length, span c * T f

/-- Trials at the `f`-th configured frame rate end by their `T f`-th frame: `T f` is at least one,
a 64-bit frame count, and that many frames cover the trial duration. -/
def TrialsEndBy : Prop :=
  ∀ f r, c.frameRates[f]? = some r →
    1 ≤ T f ∧ T f < Nat.pow 2 64 ∧ c.trialDurationSecs ≤ r.elapsed (T f)

variable {c T}

theorem switch_lt {rig : Rig} {rate : Nat} {q : GridPoint} (switched : switch rig c rate = some q) :
    rate + 1 < c.frameRates.length := by
  simp only [switch] at switched
  split at switched
  · rename_i next atNext
    exact (List.getElem?_eq_some_iff.mp atNext).1
  · cases switched

theorem step_cases {rig : Rig} {x : Bool} {q q' : GridPoint} (stepped : step rig c x q = some q') :
    (q'.rate = q.rate ∧ q'.preset + q'.size = q.preset + q.size + 1) ∨
      (q' = ⟨q.rate + 1, 0, 0⟩ ∧ q.rate + 1 < c.frameRates.length) := by
  cases x with
  | false =>
    simp only [step, Bool.false_eq_true, ite_false] at stepped
    split at stepped
    · cases stepped
      exact .inl ⟨rfl, by dsimp only; omega⟩
    · exact .inr ⟨Engine.Grid.switch_eq stepped, switch_lt stepped⟩
  | true =>
    simp only [step, ite_true] at stepped
    split at stepped
    · cases stepped
      exact .inl ⟨rfl, by dsimp only; omega⟩
    · exact .inr ⟨Engine.Grid.switch_eq stepped, switch_lt stepped⟩

theorem ticksLeft_corner {f : Nat} (rate : f < c.frameRates.length) :
    ticksLeft c T ⟨f, 0, 0⟩ = ∑ k ∈ Finset.Ico f c.frameRates.length, span c * T k := by
  rw [ticksLeft, Finset.sum_eq_sum_Ico_succ_bot rate, Nat.sub_zero, Nat.sub_zero]

section Inside

variable {q : GridPoint} (inside : q.preset < c.presets.length ∧ q.size < c.sizes.length)
include inside

theorem le_ticksLeft : T q.rate ≤ ticksLeft c T q := by
  have own : 1 ≤ span c - q.preset - q.size := by
    simp only [span]
    omega
  calc T q.rate = 1 * T q.rate := (Nat.one_mul _).symm
    _ ≤ (span c - q.preset - q.size) * T q.rate := Nat.mul_le_mul_right _ own
    _ ≤ ticksLeft c T q := Nat.le_add_right _ _

theorem ticksLeft_step {rig : Rig} {x : Bool} {q' : GridPoint} (stepped : step rig c x q = some q') :
    ticksLeft c T q' + T q.rate ≤ ticksLeft c T q := by
  obtain ⟨k, left⟩ : ∃ k, span c - q.preset - q.size = k + 1 :=
    ⟨span c - q.preset - q.size - 1, by simp only [span]; omega⟩
  have own : ticksLeft c T q = k * T q.rate + T q.rate +
      ∑ f ∈ Finset.Ico (q.rate + 1) c.frameRates.length, span c * T f := by
    rw [ticksLeft, left, Nat.succ_mul]
  rcases step_cases stepped with ⟨sameRate, further⟩ | ⟨rfl, next⟩
  · have fewer : span c - q'.preset - q'.size = k := by omega
    rw [own, ticksLeft, fewer, sameRate]
    omega
  · rw [own, ticksLeft_corner next]
    omega

end Inside

theorem ticksLeft_settle {rig : Rig} {b : Budget} {x : Bool} {q q₁ : GridPoint} {spec : TrialSpec}
    (presets : 0 < c.presets.length) (sizes : 0 < c.sizes.length)
    (inside : q.preset < c.presets.length ∧ q.size < c.sizes.length)
    (settled : settle rig c b x q = some (q₁, spec)) : ticksLeft c T q₁ ≤ ticksLeft c T q := by
  fun_induction settle rig c b x q with
  | case1 q spec₀ found =>
    cases settled
    exact Nat.le_refl _
  | case2 q _ _ => cases settled
  | case3 q q' _ moved ih =>
    have fewer := ticksLeft_step (T := T) inside moved
    have further := ih (Engine.Grid.step_inside presets sizes moved) settled
    omega

theorem ticksLeft_next {rig : Rig} {b : Budget} {x : Bool} {q q₁ : GridPoint} {spec : TrialSpec}
    (presets : 0 < c.presets.length) (sizes : 0 < c.sizes.length)
    (inside : q.preset < c.presets.length ∧ q.size < c.sizes.length)
    (next : (step rig c x q).bind (settle rig c b x) = some (q₁, spec)) :
    ticksLeft c T q₁ + T q.rate ≤ ticksLeft c T q := by
  obtain ⟨q', stepped, settled⟩ := Option.bind_eq_some_iff.mp next
  have fewer := ticksLeft_step (T := T) inside stepped
  have further := ticksLeft_settle (T := T) presets sizes
    (Engine.Grid.step_inside presets sizes stepped) settled
  omega

theorem TrialsEndBy.pos_of_settle {rig : Rig} {b : Budget} {x : Bool} {q q₁ : GridPoint}
    {spec : TrialSpec} (lasts : TrialsEndBy c T) (settled : settle rig c b x q = some (q₁, spec)) :
    1 ≤ T q₁.rate :=
  (lasts q₁.rate _ (trialAt_spec c b (Option.filter_eq_some_iff.mp (settle_spec rig c b settled)).1).2.2.1).1

end Grid

namespace Engine

variable {rig : Rig} {b : Budget} {c : Config} {T : Nat → Nat}

/-- Ticks the run in progress can still take: what is left from the start of the trial in
flight, less the frames it has had. -/
def ticksToGo (c : Config) (T : Nat → Nat) (e : Engine) : Nat :=
  match e.walk with
  | some w => Grid.ticksLeft c T w.point - w.frames.toNat
  | none => 0

def Paced (T : Nat → Nat) (e : Engine) : Prop :=
  ∀ w, e.walk = some w → w.frames.toNat < T w.point.rate

def afterTicks (rig : Rig) (k : Nat) (e : Engine) : Engine :=
  (runCalls perform e ((List.replicate k rig).map fun rig => (rig, Call.tick))).1

theorem afterTicks_succ (k : Nat) (e : Engine) :
    afterTicks rig (k + 1) e = afterTicks rig k (tick rig e).1 := rfl

theorem ticksToGo_of_stopped {e : Engine} (stopped : e.isRunning = false) : ticksToGo c T e = 0 := by
  simp [ticksToGo, walk_of_stopped stopped]

section Running

variable {e : Engine} {b' : Budget} {q : GridPoint} {spec : TrialSpec} (coherent : Coherent e)
  (configured : e.config = c) (lasts : Grid.TrialsEndBy c T) (paced : Paced T e)
  (running : e.isRunning = true) (inTrial : InTrial e b' q spec)

include configured inTrial in
theorem inside_of_inTrial : q.preset < c.presets.length ∧ q.size < c.sizes.length :=
  (Grid.inside_of_trialAt (configured ▸ inTrial.trial)).2

include configured inTrial in
theorem rate_of_inTrial : c.frameRates[q.rate]? = some e.cursor.frameRate := by
  rw [(Grid.trialAt_spec c b' (configured ▸ inTrial.trial)).2.2.1, inTrial.frameRate]

include configured paced running inTrial in
theorem ticksToGo_of_inTrial :
    ticksToGo c T e = Grid.ticksLeft c T q - e.frameInTrial.toNat ∧ e.frameInTrial.toNat < T q.rate ∧
      T q.rate ≤ Grid.ticksLeft c T q := by
  have now := walk_of_inTrial running inTrial
  refine ⟨by simp [ticksToGo, now], paced _ now, ?_⟩
  exact Grid.le_ticksLeft (inside_of_inTrial configured inTrial)

include coherent configured lasts paced running in
theorem ticksToGo_tick (rig : Rig) :
    Paced T (tick rig e).1 ∧ ticksToGo c T (tick rig e).1 < ticksToGo c T e := by
  obtain ⟨b, q, spec, inTrial⟩ := coherent.trial running
  obtain ⟨before, early, whole⟩ := ticksToGo_of_inTrial configured paced running inTrial
  obtain ⟨-, counted, covers⟩ := lasts q.rate _ (rate_of_inTrial configured inTrial)
  -- short of `T`, the trial's count has room below `2 ^ 64`
  have room : (e.frameInTrial + 1).toNat = e.frameInTrial.toNat + 1 := succ_toNat_of_lt (by omega)
  by_cases ends : e.cursor.frameRate.elapsed (e.frameInTrial + 1).toNat ≥ e.config.trialDurationSecs
  · have moved : (tick rig e).1.walk = _ := walk_tick_of_ends coherent running inTrial ends
    generalize broke rig b { e with frameInTrial := e.frameInTrial + 1 } = x at moved
    rw [configured] at moved
    rcases next : (Grid.step rig c x q).bind (Grid.settle rig c b x) with _ | ⟨q₁, spec₁⟩
    · rw [next, Option.map_none] at moved
      refine ⟨fun w atW => (by rw [moved] at atW; cases atW), ?_⟩
      rw [before]
      simp only [ticksToGo, moved]
      omega
    · obtain ⟨presets, sizes, -⟩ := Config.nonempty_of_valid (configured ▸ coherent.valid)
      have fewer := Grid.ticksLeft_next (T := T) presets sizes
        (inside_of_inTrial configured inTrial) next
      obtain ⟨q', -, settled⟩ := Option.bind_eq_some_iff.mp next
      have positive := lasts.pos_of_settle settled
      rw [next, Option.map_some] at moved
      refine ⟨fun w atW => ?_, ?_⟩
      · rw [moved] at atW
        cases atW
        exact positive
      · rw [before]
        simp only [ticksToGo, moved, Walk.fresh]
        omega
  · have moved : (tick rig e).1.walk = _ := walk_tick_of_continues running inTrial ends
    have notLast : e.frameInTrial.toNat + 1 ≠ T q.rate := by
      intro last
      rw [← last, ← room] at covers
      exact ends (configured ▸ covers)
    refine ⟨fun w atW => ?_, ?_⟩
    · rw [moved] at atW
      cases atW
      show (e.frameInTrial + 1).toNat < T q.rate
      omega
    · rw [before]
      simp only [ticksToGo, moved]
      omega

end Running

theorem stopped_of_ticks (rigs : List Rig) {e : Engine} (coherent : Coherent e)
    (configured : e.config = c) (lasts : Grid.TrialsEndBy c T) (paced : Paced T e)
    (enough : ticksToGo c T e ≤ rigs.length) :
    (runCalls perform e (rigs.map fun rig => (rig, Call.tick))).1.isRunning = false := by
  induction rigs generalizing e with
  | nil =>
    cases running : e.isRunning
    · exact running
    · obtain ⟨b, q, spec, inTrial⟩ := coherent.trial running
      obtain ⟨before, early, whole⟩ := ticksToGo_of_inTrial configured paced running inTrial
      simp only [List.length_nil] at enough
      omega
  | cons rig rest ih =>
    show (runCalls perform (tick rig e).1 (rest.map fun rig => (rig, Call.tick))).1.isRunning = false
    cases running : e.isRunning
    · rw [tick_of_stopped running]
      exact ih coherent configured paced (by rw [ticksToGo_of_stopped running]; omega)
    · obtain ⟨paced', fewer⟩ := ticksToGo_tick coherent configured lasts paced running rig
      simp only [List.length_cons] at enough
      exact ih (coherent_tick coherent) ((config_perform coherent rig .tick).trans configured)
        paced' (by omega)

theorem ticksToGo_start {e : Engine} (coherent : Coherent e) (configured : e.config = c)
    (lasts : Grid.TrialsEndBy c T) (started : (e.start rig b).value = .ok ()) :
    Paced T (e.start rig b).engine ∧
      ticksToGo c T (e.start rig b).engine ≤
        ∑ f ∈ Finset.range c.frameRates.length, Grid.span c * T f := by
  obtain ⟨presets, sizes, rates⟩ := Config.nonempty_of_valid (configured ▸ coherent.valid)
  have first : (e.start rig b).engine.walk = Walk.first rig c b := by
    rw [(start_onWalk coherent started).2, configured]
  have corner : Grid.ticksLeft c T ⟨0, 0, 0⟩ =
      ∑ f ∈ Finset.range c.frameRates.length, Grid.span c * T f := by
    rw [Grid.ticksLeft_corner rates, Finset.range_eq_Ico]
  rcases settled : Grid.settle rig c b false ⟨0, 0, 0⟩ with _ | ⟨q, spec⟩
  · have gone : (e.start rig b).engine.walk = none := by
      rw [first, Walk.first, settled, Option.map_none]
    exact ⟨fun w atW => (by rw [gone] at atW; cases atW), by simp [ticksToGo, gone]⟩
  · have there : (e.start rig b).engine.walk = some ⟨q, spec, 0⟩ := by
      rw [first, Walk.first, settled, Option.map_some]
      rfl
    have positive := lasts.pos_of_settle settled
    have lower := Grid.ticksLeft_settle (T := T) presets sizes ⟨presets, sizes⟩ settled
    refine ⟨fun w atW => ?_, ?_⟩
    · rw [there] at atW
      cases atW
      exact positive
    · simp only [ticksToGo, there]
      omega

theorem finished_of_stopped {e : Engine} (begun : e.phase ≠ .idle) (stopped : e.isRunning = false) :
    e.phase = .finished := by
  cases phase : e.phase with
  | idle => exact absurd phase begun
  | preparing => simp [Engine.isRunning, phase, Phase.isRunning] at stopped
  | sampling => simp [Engine.isRunning, phase, Phase.isRunning] at stopped
  | finished => rfl

section Drive

variable {σ : Type} (clock : Clock σ) (e : Engine) (s : σ) (ps : List Progress)
  (es : List Effect)

theorem driveFor_of_stopped (fuel : Nat) (stopped : e.isRunning = false) :
    driveFor rig clock fuel e s ps es = some ⟨e, s, ps.reverse, es.reverse, .ok ()⟩ := by
  rw [driveFor.eq_def]
  simp [stopped]

theorem driveFor_of_halted (fuel : Nat) (running : e.isRunning = true)
    (halted : clock.next s e.frameRate = none) :
    driveFor rig clock fuel e s ps es =
      some ⟨(e.stop rig).engine, s, ps.reverse, ((e.stop rig).effects.reverse ++ es).reverse,
        (e.stop rig).value⟩ := by
  rw [driveFor.eq_def]
  simp [running, halted]

theorem driveFor_of_spent {s' : σ} {t : FrameTick} (running : e.isRunning = true)
    (next : clock.next s e.frameRate = some (t, s')) : driveFor rig clock 0 e s ps es = none := by
  rw [driveFor.eq_def]
  simp [running, next]

theorem driveFor_of_ticked (fuel : Nat) {s' : σ} {t : FrameTick} (running : e.isRunning = true)
    (next : clock.next s e.frameRate = some (t, s')) :
    driveFor rig clock (fuel + 1) e s ps es =
      driveFor rig clock fuel (tick rig e).1 s' ((tick rig e).1.progress :: ps)
        ((tick rig e).2.reverse ++ es) := by
  rw [driveFor.eq_def]
  simp only [running, next, Bool.not_true, Bool.false_eq_true, ite_false]

end Drive

theorem drives_of_driveFor {σ : Type} (clock : Clock σ) :
    ∀ (fuel : Nat) (e : Engine) (s : σ) (ps : List Progress) (es : List Effect) (d : Drive σ),
      driveFor rig clock fuel e s ps es = some d → Drives rig clock e s ps es d
  | fuel, e, s, ps, es, d, returned => by
    cases running : e.isRunning
    · rw [driveFor_of_stopped clock e s ps es fuel running] at returned
      cases returned
      exact .stopped running
    · rcases next : clock.next s e.frameRate with _ | ⟨t, s'⟩
      · rw [driveFor_of_halted clock e s ps es fuel running next] at returned
        cases returned
        exact .halted running next
      · cases fuel with
        | zero =>
          rw [driveFor_of_spent clock e s ps es running next] at returned
          cases returned
        | succ fuel =>
          rw [driveFor_of_ticked clock e s ps es fuel running next] at returned
          exact .ticked running next (drives_of_driveFor clock fuel _ _ _ _ _ returned)

theorem driveFor_of_drives {σ : Type} {clock : Clock σ} {e : Engine} {s : σ} {ps : List Progress}
    {es : List Effect} {d : Drive σ} (drives : Drives rig clock e s ps es d) :
    ∃ fuel, driveFor rig clock fuel e s ps es = some d := by
  induction drives with
  | stopped stopped => exact ⟨0, driveFor_of_stopped _ _ _ _ _ 0 stopped⟩
  | halted running halted => exact ⟨0, driveFor_of_halted _ _ _ _ _ 0 running halted⟩
  | ticked running next _ ih =>
    obtain ⟨fuel, returned⟩ := ih
    exact ⟨fuel + 1, (driveFor_of_ticked _ _ _ _ _ fuel running next).trans returned⟩

/-- Following the drive for ticks enough gives exactly the returns of the loop. -/
theorem drives_iff_driveFor {σ : Type} (clock : Clock σ) (e : Engine) (s : σ) (ps : List Progress)
    (es : List Effect) (d : Drive σ) :
    Drives rig clock e s ps es d ↔ ∃ fuel, driveFor rig clock fuel e s ps es = some d :=
  ⟨driveFor_of_drives, fun ⟨fuel, returned⟩ => drives_of_driveFor clock fuel e s ps es d returned⟩

theorem Drives.ends {σ : Type} {clock : Clock σ} {e : Engine} {s : σ} {ps : List Progress}
    {es : List Effect} {d : Drive σ} (drives : Drives rig clock e s ps es d) :
    ∃ k, d.progress.length = ps.length + k ∧ (∀ j < k, (afterTicks rig j e).isRunning = true) ∧
      d.result = .ok () ∧
      ((afterTicks rig k e).isRunning = false ∧ d.engine = afterTicks rig k e ∨
        (afterTicks rig k e).isRunning = true ∧
          d.engine = ((afterTicks rig k e).stop rig).engine) := by
  induction drives with
  | stopped stopped =>
    exact ⟨0, by simp, fun j early => absurd early (Nat.not_lt_zero j), rfl, .inl ⟨stopped, rfl⟩⟩
  | halted running _ =>
    exact ⟨0, by simp, fun j early => absurd early (Nat.not_lt_zero j),
      stop_of_running running ▸ rfl, .inr ⟨running, rfl⟩⟩
  | ticked running _ _ ih =>
    obtain ⟨k, reported, going, value, ended⟩ := ih
    refine ⟨k + 1, ?_, fun j early => ?_, value, ?_⟩
    · rw [reported, List.length_cons]
      omega
    · cases j with
      | zero => exact running
      | succ j => exact going j (by omega)
    · rw [afterTicks_succ]
      exact ended

theorem drives_of_stopped_after {σ : Type} (clock : Clock σ) :
    ∀ (n : Nat) (e : Engine) (s : σ) (ps : List Progress) (es : List Effect),
      (afterTicks rig n e).isRunning = false → ∃ d, Drives rig clock e s ps es d
  | n, e, s, ps, es, stops => by
    cases running : e.isRunning
    · exact ⟨_, .stopped running⟩
    · rcases next : clock.next s e.frameRate with _ | ⟨t, s'⟩
      · exact ⟨_, .halted running next⟩
      · cases n with
        | zero =>
          change e.isRunning = false at stops
          rw [running] at stops
          cases stops
        | succ n =>
          rw [afterTicks_succ] at stops
          obtain ⟨d, drives⟩ := drives_of_stopped_after clock n (tick rig e).1 s' _ _ stops
          exact ⟨d, .ticked running next drives⟩

/-- A run whose trial in flight no 64-bit frame count covers: every tick continues it. -/
structure Endless (e : Engine) : Prop where
  coherent : Coherent e
  running : e.isRunning = true
  short : ∀ n : UInt64, ¬ e.cursor.frameRate.elapsed n.toNat ≥ e.config.trialDurationSecs

theorem Endless.tick (rig : Rig) {e : Engine} (endless : Endless e) :
    Endless (Engine.tick rig e).1 := by
  have continues : Engine.tick rig e = _ := tick_of_continues endless.running (endless.short _)
  have warmed := warm_fst { e with frameInTrial := e.frameInTrial + 1 }
    (e.cursor.frameRate.elapsed (e.frameInTrial + 1).toNat)
  refine ⟨coherent_tick endless.coherent, ?_, fun n => ?_⟩
  · rw [continues]
    exact warmed.2.trans endless.running
  · rw [continues, warmed.1]
    exact endless.short n

theorem Endless.ticks (rigs : List Rig) {e : Engine} (endless : Endless e) :
    Endless (runCalls perform e (rigs.map fun rig => (rig, Call.tick))).1 := by
  induction rigs generalizing e with
  | nil => exact endless
  | cons rig rest ih => exact ih (endless.tick rig)

theorem Endless.not_drives {σ : Type} {clock : Clock σ} (never : ∀ s r, (clock.next s r).isSome)
    {e : Engine} {s : σ} {ps : List Progress} {es : List Effect} {d : Drive σ}
    (drives : Drives rig clock e s ps es d) : ¬ Endless e := by
  induction drives with
  | stopped stopped => exact fun endless => by rw [endless.running] at stopped; cases stopped
  | halted _ halted => exact absurd halted (Option.ne_none_iff_isSome.mpr (never _ _))
  | ticked _ _ _ ih => exact fun endless => ih (endless.tick rig)

end Engine

namespace FrameRate

open Doubles

theorem not_le_of_lt {x y : Float} (nx : x.isNaN = false) (ny : y.isNaN = false) (lt : x < y) :
    ¬ y ≤ x := by
  rw [le_iff_toEReal ny nx]
  rw [lt_iff_toEReal nx ny] at lt
  exact not_le.mpr lt

theorem elapsed_short {r : FrameRate} {d : Float} (finite : r.toFloat.isFinite = true)
    (nd : d.isNaN = false) (beyond : r.elapsed (Nat.pow 2 64) < d) (n : UInt64) :
    ¬ r.elapsed n.toNat ≥ d := by
  by_cases still : r.toFloat ≤ 0.0
  · simp only [elapsed, still, ite_true] at beyond ⊢
    exact not_le_of_lt (by decide) nd beyond
  · have zero : (0.0 : Float).isNaN = false := by decide
    have pos : 0.0 < r.toFloat := by
      rw [lt_iff_toEReal zero (isNaN_of_isFinite finite)]
      rw [le_iff_toEReal (isNaN_of_isFinite finite) zero] at still
      exact not_le.mp still
    have divides := roundsMonotone_div_right finite (value_pos_of_lt finite pos)
    have fewer : toEReal (Float.ofNat n.toNat) ≤ toEReal (Float.ofNat (Nat.pow 2 64)) :=
      (roundsTo_ofNat _).le (roundsTo_ofNat _) (by exact_mod_cast (UInt64.toNat_lt n).le)
    have shorter := divides.le (roundsTo_ofNat _).isNaN (roundsTo_ofNat _).isNaN fewer
    simp only [elapsed, still, ite_false] at beyond ⊢
    have nq : (Float.ofNat n.toNat / r.toFloat).isNaN = false :=
      divides.isNaN (roundsTo_ofNat _).isNaN
    have nb : (Float.ofNat (Nat.pow 2 64) / r.toFloat).isNaN = false :=
      divides.isNaN (roundsTo_ofNat _).isNaN
    rw [lt_iff_toEReal nb nd] at beyond
    rw [ge_iff_le, le_iff_toEReal nd nq]
    exact not_le.mpr (lt_of_le_of_lt shorter beyond)

end FrameRate

open Engine in
/-- Runs whose trials end within a 64-bit frame count finish, and within a bound. Take a new
engine, any calls, and a start that succeeds. Whatever the clock does, a drive that returns
returns with no error and the run finished: either the ticks it made ended the run, or the clock
stopped and the drive cancelled the run through a stop, as those ticks left it. If trials at the
`f`-th frame rate end by their `T f`-th frame, `T f` below `2 ^ 64`, then the sum over the frame
rates of `span * T f` ticks, with any collaborators, ends the run, and on every clock the drive
returns, having made no more ticks than that. -/
theorem runs_finish_when_trials_end_within_counts {config : Config} {rate : FrameRate}
    {e₀ : Engine} (built : Engine.new config rate = .ok e₀) (calls : List (Rig × Call)) (rig : Rig)
    (b : Budget) :
    let e := (runCalls Engine.perform e₀ calls).1
    (e.start rig b).value = .ok () →
    let e₁ := (e.start rig b).engine
    (∀ {σ : Type} (clock : Clock σ) (s : σ) (d : Drive σ), Drives rig clock e₁ s [] [] d →
      d.result = .ok () ∧ d.engine.phase = .finished ∧
        (d.engine = afterTicks rig d.progress.length e₁ ∨
          (afterTicks rig d.progress.length e₁).isRunning = true ∧
            d.engine = ((afterTicks rig d.progress.length e₁).stop rig).engine)) ∧
    ∀ T, Grid.TrialsEndBy config T →
      (∀ rigs : List Rig,
        ∑ f ∈ Finset.range config.frameRates.length, Grid.span config * T f ≤ rigs.length →
          (runCalls Engine.perform e₁ (rigs.map fun rig => (rig, Call.tick))).1.phase = .finished) ∧
      ∀ {σ : Type} (clock : Clock σ) (s : σ), (∃ d, Drives rig clock e₁ s [] [] d) ∧
        ∀ d, Drives rig clock e₁ s [] [] d →
          d.progress.length ≤ ∑ f ∈ Finset.range config.frameRates.length, Grid.span config * T f := by
  intro e started e₁
  have coherent : Coherent e := coherent_runCalls built calls
  have configured : e.config = config := config_runCalls_new built calls
  have coherent₁ : Coherent e₁ := coherent_start coherent
  have configured₁ : e₁.config = config := (config_perform coherent rig (.start b)).trans configured
  have begun : ∀ later : List (Rig × Call), (runCalls Engine.perform e₁ later).1.phase ≠ .idle :=
    fun later idle => ((idle_perform coherent rig (.start b)).mp
      ((idle_runCalls coherent₁ later).mp idle).1).2 started
  have ticksEnd : ∀ T, Grid.TrialsEndBy config T → ∀ rigs : List Rig,
      ∑ f ∈ Finset.range config.frameRates.length, Grid.span config * T f ≤ rigs.length →
      (runCalls Engine.perform e₁ (rigs.map fun rig => (rig, Call.tick))).1.isRunning = false := by
    intro T lasts rigs enough
    obtain ⟨paced, toGo⟩ := ticksToGo_start coherent configured lasts started
    exact stopped_of_ticks rigs coherent₁ configured₁ lasts paced (toGo.trans enough)
  refine ⟨fun clock s d drives => ?_, fun T lasts => ⟨fun rigs enough => ?_, fun clock s => ⟨?_, ?_⟩⟩⟩
  · obtain ⟨k, reported, -, value, ended⟩ := drives.ends
    rw [List.length_nil, Nat.zero_add] at reported
    rw [reported]
    rcases ended with ⟨stopped, ticked⟩ | ⟨running, cancelled⟩
    · refine ⟨value, ?_, .inl ticked⟩
      rw [ticked]
      exact finished_of_stopped (begun _) stopped
    · refine ⟨value, ?_, .inr ⟨running, cancelled⟩⟩
      rw [cancelled, stop_of_running running, finish_fst]
  · exact finished_of_stopped (begun _) (ticksEnd T lasts rigs enough)
  · exact drives_of_stopped_after clock _ e₁ s [] [] (ticksEnd T lasts _ (by rw [List.length_replicate]))
  · intro d drives
    obtain ⟨k, reported, going, -, -⟩ := drives.ends
    rw [List.length_nil, Nat.zero_add] at reported
    rw [reported]
    refine Nat.le_of_not_lt fun more => ?_
    have still := going _ more
    rw [afterTicks, ticksEnd T lasts _ (by rw [List.length_replicate])] at still
    cases still

/-- A run of one trial at 30 Hz lasting 0.03 s, which ends at its first tick. -/
theorem runs_finish_when_trials_end_within_counts_at_one_trial :
    let config : Config := {
      trialDurationSecs := 0.03, warmupSecs := 0.0, presets := [.ultrafast],
      sizes := [⟨640, 360⟩], frameRates := [FrameRate.fps30] }
    let rig : Rig := ⟨fun _ => .ok (), fun _ => none, fun c => c.options.bitrateKbps,
      fun _ => {}, fun _ => none⟩
    let b : Budget := ⟨0.5, 0.9, 5000, 128, false, .file⟩
    Engine.new config FrameRate.fps30 = .ok (Engine.initial config FrameRate.fps30) ∧
      Grid.TrialsEndBy config (fun _ => 1) ∧
      let e := (runCalls Engine.perform (Engine.initial config FrameRate.fps30) []).1
      (e.start rig b).value = .ok () ∧
      let e₁ := (e.start rig b).engine
      (∀ {σ : Type} (clock : Clock σ) (s : σ) (d : Drive σ), Engine.Drives rig clock e₁ s [] [] d →
        d.result = .ok () ∧ d.engine.phase = .finished ∧
          (d.engine = Engine.afterTicks rig d.progress.length e₁ ∨
            (Engine.afterTicks rig d.progress.length e₁).isRunning = true ∧
              d.engine = ((Engine.afterTicks rig d.progress.length e₁).stop rig).engine)) ∧
      ∀ T, Grid.TrialsEndBy config T →
        (∀ rigs : List Rig,
          ∑ f ∈ Finset.range config.frameRates.length, Grid.span config * T f ≤ rigs.length →
            (runCalls Engine.perform e₁ (rigs.map fun rig => (rig, Call.tick))).1.phase =
              .finished) ∧
        ∀ {σ : Type} (clock : Clock σ) (s : σ), (∃ d, Engine.Drives rig clock e₁ s [] [] d) ∧
          ∀ d, Engine.Drives rig clock e₁ s [] [] d →
            d.progress.length ≤
              ∑ f ∈ Finset.range config.frameRates.length, Grid.span config * T f := by
  intro config rig b
  have built : Engine.new config FrameRate.fps30 = .ok (Engine.initial config FrameRate.fps30) := by
    simp only [config]
    rfl
  have oneFrame : Grid.TrialsEndBy config (fun _ => 1) := by
    intro f r atF
    cases f with
    | zero =>
      cases atF
      exact ⟨Nat.le_refl 1, by decide, by decide⟩
    | succ f => cases atF
  have started :
      (Engine.start rig b (runCalls Engine.perform (Engine.initial config FrameRate.fps30) []).1).value =
        .ok () := by
    simp only [config]
    rfl
  exact ⟨built, oneFrame, started, runs_finish_when_trials_end_within_counts built [] rig b started⟩

/-- Trials of 1e19 s at 30 Hz never end: `2 ^ 64` frames cover about 6.1e17 s, so no 64-bit frame
count reaches the trial duration. After a start that succeeds no number of ticks, with any
collaborators, ends the run, and on a clock that never stops the drive does not return. -/
theorem trials_beyond_frame_counts_never_end :
    let config : Config := {
      trialDurationSecs := 1e19, warmupSecs := 0.0, presets := [.ultrafast],
      sizes := [⟨640, 360⟩], frameRates := [FrameRate.fps30] }
    let rig : Rig := ⟨fun _ => .ok (), fun _ => none, fun c => c.options.bitrateKbps,
      fun _ => {}, fun _ => none⟩
    let b : Budget := ⟨0.5, 0.9, 5000, 128, false, .file⟩
    let e₁ := ((Engine.initial config FrameRate.fps30).start rig b).engine
    Engine.new config FrameRate.fps30 = .ok (Engine.initial config FrameRate.fps30) ∧
      ((Engine.initial config FrameRate.fps30).start rig b).value = .ok () ∧
      (∀ n : UInt64, ¬ FrameRate.fps30.elapsed n.toNat ≥ config.trialDurationSecs) ∧
      (∀ rigs : List Rig,
        (runCalls Engine.perform e₁ (rigs.map fun rig => (rig, Call.tick))).1.isRunning = true) ∧
      ∀ d, ¬ Engine.Drives rig (Clock.instant none 0) e₁ (0, 0) [] [] d := by
  intro config rig b e₁
  have built : Engine.new config FrameRate.fps30 = .ok (Engine.initial config FrameRate.fps30) := by
    simp only [config]
    rfl
  have started : ((Engine.initial config FrameRate.fps30).start rig b).value = .ok () := by
    simp only [config]
    rfl
  have short : ∀ n : UInt64, ¬ FrameRate.fps30.elapsed n.toNat ≥ config.trialDurationSecs :=
    FrameRate.elapsed_short (by decide) (by decide) (by decide)
  have endless : Engine.Endless e₁ :=
    ⟨Engine.coherent_start (Engine.coherent_new built), by decide, short⟩
  refine ⟨built, started, short, fun rigs => (endless.ticks rigs).running, fun d drives => ?_⟩
  exact Engine.Endless.not_drives (fun _ _ => rfl) drives endless

end EncoderBench
