import EncoderBench.Proofs.Engine.Outcome
/-!
When a trial's CPU sample starts, and what a trial ending without one is judged on. A tick judges
the trial its frame completes before it checks the warm-up, and a start checks none, so a trial
can end unsampled; it is then judged on zero usage. Main statements:
`trial_sampled_when_due_else_judged_idle` and `first_trial_judged_unsampled`.
-/
namespace EncoderBench

namespace Engine

variable {rig : Rig} {b : Budget}

/-- Whether the next tick ends the trial in flight: the frames it brings cover the trial. -/
def EndsTrial (e : Engine) : Prop :=
  e.isRunning = true ∧
    e.cursor.frameRate.elapsed (e.frameInTrial + 1).toNat ≥ e.config.trialDurationSecs

/-- Whether some tick among `rigs`, made in order from `e`, ends the trial in flight. -/
def endsTrialAlong (e : Engine) : List Rig → Prop
  | [] => False
  | rig :: rest => e.EndsTrial ∨ endsTrialAlong (tick rig e).1 rest

/-- Whether the trial in flight is due a sample by now: one of its ticks so far reached the
warm-up, the tick it began in, if `began` inside one, counting as elapsed time 0. -/
def SampleDue (e : Engine) (began : Prop) : Prop :=
  (began ∧ 0.0 ≥ e.config.warmupSecs) ∨
    ∃ j, 1 ≤ j ∧ j ≤ e.frameInTrial.toNat ∧ e.cursor.frameRate.elapsed j ≥ e.config.warmupSecs

theorem sampleDue_of_fresh {e : Engine} {began : Prop} (fresh : e.frameInTrial = 0) :
    e.SampleDue began ↔ began ∧ 0.0 ≥ e.config.warmupSecs := by
  simp only [SampleDue, fresh, UInt64.toNat_zero]
  constructor
  · rintro (atBegin | ⟨j, first, last, -⟩)
    · exact atBegin
    · omega
  · exact .inl

/-- The sample of the trial in flight: there exactly when due, started for this trial, and the
last sample started. -/
structure SampledAsDue (e : Engine) (began : Prop) : Prop where
  due : e.isRunning = true → (e.sample.isSome ↔ e.SampleDue began)
  own : ∀ s, e.sample = some s → s.trial = e.harness.live ∧ s.index + 1 = e.samplesStarted

theorem sampleDue_counted {e : Engine} {began : Prop} (room : e.frameInTrial.toNat + 1 < Nat.pow 2 64) :
    SampleDue { e with frameInTrial := e.frameInTrial + 1 } began ↔
      e.SampleDue began ∨
        e.cursor.frameRate.elapsed (e.frameInTrial + 1).toNat ≥ e.config.warmupSecs := by
  simp only [SampleDue, succ_toNat_of_lt room]
  constructor
  · rintro (atBegin | ⟨j, first, last, reached⟩)
    · exact .inl (.inl atBegin)
    · by_cases earlier : j ≤ e.frameInTrial.toNat
      · exact .inl (.inr ⟨j, first, earlier, reached⟩)
      · have now : j = e.frameInTrial.toNat + 1 := by omega
        exact .inr (now ▸ reached)
  · rintro ((atBegin | ⟨j, first, last, reached⟩) | reached)
    · exact .inl atBegin
    · exact .inr ⟨j, first, by omega, reached⟩
    · exact .inr ⟨e.frameInTrial.toNat + 1, by omega, Nat.le_refl _, reached⟩

theorem warm_spec (e : Engine) (elapsed : Float) :
    (warm e elapsed).1 =
      if e.isRunning = true ∧ e.sample = none ∧ elapsed ≥ e.config.warmupSecs then
        { e with
          sample := some ⟨e.samplesStarted, e.harness.live⟩,
          samplesStarted := e.samplesStarted + 1, phase := .sampling }
      else e := by
  unfold warm
  by_cases starts : e.isRunning = true ∧ e.sample = none ∧ elapsed ≥ e.config.warmupSecs
  · have flag : (e.isRunning && e.sample.isNone && decide (elapsed ≥ e.config.warmupSecs)) = true := by
      simp [starts.1, starts.2.1, starts.2.2]
    rw [if_pos flag, if_pos starts]
  · have flag : ¬ (e.isRunning && e.sample.isNone && decide (elapsed ≥ e.config.warmupSecs)) = true := by
      simpa [Option.isNone_iff_eq_none, and_assoc] using starts
    rw [if_neg flag, if_neg starts]

theorem sampledAsDue_warm {x : Engine} {began : Prop} (before : Prop) {elapsed : Float}
    (own : ∀ s, x.sample = some s → s.trial = x.harness.live ∧ s.index + 1 = x.samplesStarted)
    (sampled : x.isRunning = true → (x.sample.isSome ↔ before))
    (check : x.isRunning = true →
      (x.SampleDue began ↔ before ∨ elapsed ≥ x.config.warmupSecs)) :
    SampledAsDue (warm x elapsed).1 began := by
  rw [warm_spec]
  by_cases starts : x.isRunning = true ∧ x.sample = none ∧ elapsed ≥ x.config.warmupSecs
  · rw [if_pos starts]
    obtain ⟨running, -, reached⟩ := starts
    refine ⟨fun _ => ?_, fun s started => ?_⟩
    · simpa [SampleDue] using (check running).mpr (.inr reached)
    · cases started
      exact ⟨rfl, rfl⟩
  · rw [if_neg starts]
    refine ⟨fun running => ?_, own⟩
    rw [check running, ← sampled running]
    cases sample : x.sample with
    | none =>
      have short : ¬ elapsed ≥ x.config.warmupSecs := fun reached => starts ⟨running, sample, reached⟩
      simp [short]
    | some s => simp

theorem SampledAsDue.of_iff {e : Engine} {began began' : Prop} (same : began ↔ began')
    (sampled : SampledAsDue e began) : SampledAsDue e began' :=
  propext same ▸ sampled

theorem fresh_of_lands {x : Bool} {e : Engine} {acc : List Effect} {result : Engine × List Effect}
    (lands : Lands rig b x e acc result) (unsampled : e.sample = none) :
    result.1.sample = none ∧ (result.1.isRunning = true → result.1.frameInTrial = 0) := by
  obtain ⟨e', probes, -, landed⟩ := lands
  split at landed
  · obtain ⟨moved, rfl⟩ := landed
    have same : e'.sample = e.sample := by rw [moved.shifted.1]
    exact ⟨same.trans unsampled, fun _ => rfl⟩
  · obtain ⟨-, rfl⟩ := landed
    simp [Engine.isRunning, Phase.isRunning]

theorem fresh_nextTrial (rig : Rig) {e : Engine} (budget : e.budget = some b)
    (valid : e.config.problem? = none)
    (keyInterval : e.harness.keyIntervalSecs = e.config.keyIntervalSecs)
    (rate : e.config.frameRates[e.rateIndex]? = some e.cursor.frameRate) :
    (nextTrial rig e).1.sample = none ∧
      ((nextTrial rig e).1.isRunning = true → (nextTrial rig e).1.frameInTrial = 0) := by
  obtain ⟨-, lands⟩ := nextTrial_lands rig (b := b) valid keyInterval rate
  rw [nextTrial_eq budget]
  dsimp only
  exact fresh_of_lands lands (by rw [judge_fst])

theorem Coherent.fresh_nextTrial (rig : Rig) {e : Engine} (coherent : Coherent e)
    (running : e.isRunning = true) :
    (nextTrial rig { e with frameInTrial := e.frameInTrial + 1 }).1.sample = none ∧
      ((nextTrial rig { e with frameInTrial := e.frameInTrial + 1 }).1.isRunning = true →
        (nextTrial rig { e with frameInTrial := e.frameInTrial + 1 }).1.frameInTrial = 0) := by
  obtain ⟨b, q, spec, inTrial⟩ := coherent.trial running
  exact Engine.fresh_nextTrial rig inTrial.counted.budget coherent.valid coherent.keyInterval
    inTrial.counted.rate

theorem fresh_start {e : Engine} (coherent : Coherent e) (started : (e.start rig b).value = .ok ()) :
    (e.start rig b).engine.sample = none ∧
      ((e.start rig b).engine.isRunning = true → (e.start rig b).engine.frameInTrial = 0) := by
  obtain ⟨stopped, ready⟩ := ready_of_started started
  rw [start_of_ready stopped ready]
  exact fresh_nextTrial rig (e := reset b e) rfl coherent.valid coherent.keyInterval
    coherent.firstRate

theorem sampledAsDue_start {e : Engine} (coherent : Coherent e)
    (started : (e.start rig b).value = .ok ()) : SampledAsDue (e.start rig b).engine False := by
  obtain ⟨unsampled, empty⟩ := fresh_start coherent started
  refine ⟨fun running => ?_, fun s sampled => ?_⟩
  · simp [sampleDue_of_fresh (empty running), unsampled]
  · rw [unsampled] at sampled
    cases sampled

theorem counted_tick (rig : Rig) {e : Engine} (coherent : Coherent e)
    (running' : (tick rig e).1.isRunning = true) :
    e.isRunning = true ∧ (tick rig e).1.frameInTrial.toNat ≤ e.frameInTrial.toNat + 1 := by
  cases running : e.isRunning
  · rw [tick_of_stopped running, running] at running'
    cases running'
  · refine ⟨rfl, ?_⟩
    by_cases ends : e.cursor.frameRate.elapsed (e.frameInTrial + 1).toNat ≥ e.config.trialDurationSecs
    · rw [tick_of_ends running ends] at running' ⊢
      rw [(warm_fst _ _).2] at running'
      rw [(warm_fst _ _).1]
      simp [(coherent.fresh_nextTrial rig running).2 running']
    · rw [tick_of_continues running ends, (warm_fst _ _).1]
      exact succ_toNat_le e.frameInTrial

theorem sampledAsDue_tick (rig : Rig) {e : Engine} {began : Prop} (coherent : Coherent e)
    (room : e.isRunning = true → e.frameInTrial.toNat + 1 < Nat.pow 2 64)
    (sampled : SampledAsDue e began) : SampledAsDue (tick rig e).1 (began ∨ e.EndsTrial) := by
  cases running : e.isRunning
  · rw [tick_of_stopped running]
    refine ⟨fun running' => ?_, sampled.own⟩
    rw [running] at running'
    cases running'
  · by_cases ends : e.cursor.frameRate.elapsed (e.frameInTrial + 1).toNat ≥ e.config.trialDurationSecs
    · rw [tick_of_ends running ends]
      dsimp only
      obtain ⟨unsampled, empty⟩ := coherent.fresh_nextTrial rig running
      have checked : SampledAsDue (warm (nextTrial rig
          { e with frameInTrial := e.frameInTrial + 1 }).1 0.0).1 True := by
        refine sampledAsDue_warm False (fun s started => ?_) (fun _ => ?_) (fun running' => ?_)
        · rw [unsampled] at started
          cases started
        · simp [unsampled]
        · simp [sampleDue_of_fresh (empty running')]
      exact checked.of_iff (iff_of_true trivial (.inr ⟨running, ends⟩))
    · rw [tick_of_continues running ends]
      dsimp only
      have checked := sampledAsDue_warm (x := { e with frameInTrial := e.frameInTrial + 1 }) _
        sampled.own sampled.due (fun _ => sampleDue_counted (room running))
      exact checked.of_iff (or_iff_left fun ended => ends ended.2).symm

theorem room_tick (rig : Rig) {e : Engine} {n : Nat} (coherent : Coherent e)
    (room : e.isRunning = true → e.frameInTrial.toNat + (n + 1) < Nat.pow 2 64) :
    (tick rig e).1.isRunning = true → (tick rig e).1.frameInTrial.toNat + n < Nat.pow 2 64 :=
  fun running' => by
    obtain ⟨running, counted⟩ := counted_tick rig coherent running'
    have := room running
    omega

theorem sampledAsDue_ticks (rigs : List Rig) {e : Engine} {began : Prop} (coherent : Coherent e)
    (room : e.isRunning = true → e.frameInTrial.toNat + rigs.length < Nat.pow 2 64)
    (sampled : SampledAsDue e began) :
    SampledAsDue (runCalls perform e (rigs.map fun rig => (rig, Call.tick))).1
      (began ∨ e.endsTrialAlong rigs) := by
  induction rigs generalizing e began with
  | nil => exact sampled.of_iff (by simp [endsTrialAlong])
  | cons rig rest ih =>
    have first := sampledAsDue_tick rig coherent
      (fun running => Nat.lt_of_le_of_lt (Nat.add_le_add_left (Nat.le_add_left 1 rest.length) _)
        (room running)) sampled
    have later := ih (coherent_tick coherent) (room_tick rig coherent room) first
    exact later.of_iff (by simp [endsTrialAlong, or_assoc])

theorem budget_ticks (rigs : List Rig) {e : Engine} (coherent : Coherent e) :
    (runCalls perform e (rigs.map fun rig => (rig, Call.tick))).1.budget = e.budget := by
  induction rigs generalizing e with
  | nil => rfl
  | cons rig rest ih =>
    have kept : (e.perform rig .tick).1.budget = e.budget :=
      budget_perform coherent rig fun _ => Call.noConfusion
    exact (ih (coherent_tick coherent)).trans kept

theorem results_tick_of_unsampled (rig : Rig) {e : Engine} (coherent : Coherent e)
    (flagged : Flagged e) (budget : e.budget = some b) (unsampled : e.sample = none)
    (ends : e.EndsTrial) :
    ∃ spec, e.currentTrial = some spec ∧
      (tick rig e).1.results.map TrialResult.unflagged =
        if b.maxOwnCpu < 0.0 ∨ b.maxSystemCpu < 0.0 then e.results
        else e.results ++ [⟨spec.preset, spec.size, spec.frameRate,
          rig.bitrate (e.harness.configFor spec), 0.0, 0.0, false⟩] := by
  obtain ⟨running, reached⟩ := ends
  obtain ⟨b', q, spec, inTrial⟩ := coherent.trial running
  obtain rfl : b' = b := Option.some.inj (inTrial.budget.symm.trans budget)
  refine ⟨spec, inTrial.live, ?_⟩
  have kept := results_nextTrial rig inTrial.counted coherent.valid coherent.keyInterval
  -- with no sample the trial is judged on the default, zero usage
  have idle : broke rig b' { e with frameInTrial := e.frameInTrial + 1 } =
      decide (b'.maxOwnCpu < 0.0 ∨ b'.maxSystemCpu < 0.0) := by
    simp [broke, judgedUsage, unsampled, Budget.exceededBy]
  have clear : e.results.map TrialResult.unflagged = e.results := (flagged.running running).1
  rw [tick_of_ends running reached, (warm_fst _ _).1]
  dsimp only
  rw [kept, idle]
  by_cases refused : b'.maxOwnCpu < 0.0 ∨ b'.maxSystemCpu < 0.0
  · simp [refused, clear]
  · simp [refused, clear, record, judgedUsage, unsampled, TrialResult.unflagged]

end Engine

open Engine in
/-- After a start and fewer than `2 ^ 64` ticks, the trial in flight has a sample exactly when
one of its ticks so far reached the warm-up: a tick after its first frame, or the tick it began
in, which counts as elapsed time 0 and exists once some tick has ended a trial. The sample is
the trial's own and the last one started. A trial the next tick ends with no sample is judged
on zero usage: recorded with no CPU use exactly when neither of the budget's CPU maxima is
negative (a NaN maximum admits it). -/
theorem trial_sampled_when_due_else_judged_idle {config : Config} {rate : FrameRate}
    {e₀ : Engine} (built : new config rate = .ok e₀) (calls : List (Rig × Call)) (rig₀ : Rig)
    (b : Budget) (started : ((runCalls perform e₀ calls).1.start rig₀ b).value = .ok ())
    (rigs : List Rig) (fewer : rigs.length < Nat.pow 2 64) :
    let e₁ := ((runCalls perform e₀ calls).1.start rig₀ b).engine
    let e := (runCalls perform e₁ (rigs.map fun rig => (rig, Call.tick))).1
    e.isRunning = true →
      (e.sample.isSome ↔ (e₁.endsTrialAlong rigs ∧ 0.0 ≥ config.warmupSecs) ∨
        ∃ j, 1 ≤ j ∧ j ≤ e.frameInTrial.toNat ∧
          e.cursor.frameRate.elapsed j ≥ config.warmupSecs) ∧
      (∀ s, e.sample = some s → s.trial = e.currentTrial ∧ s.index + 1 = e.samplesStarted) ∧
      (e.sample = none →
        e.cursor.frameRate.elapsed (e.frameInTrial + 1).toNat ≥ config.trialDurationSecs →
        ∀ rig, ∃ spec, e.currentTrial = some spec ∧
          (tick rig e).1.results.map TrialResult.unflagged =
            if b.maxOwnCpu < 0.0 ∨ b.maxSystemCpu < 0.0 then e.results
            else e.results ++ [⟨spec.preset, spec.size, spec.frameRate,
              rig.bitrate (e.harness.configFor spec), 0.0, 0.0, false⟩]) := by
  intro e₁ e running
  have before := consistent_runCalls built calls
  have consistent₁ : Consistent config e₁ := before.perform rig₀ (.start b)
  have consistent : Consistent config e :=
    runCalls_keeps (Consistent config) (fun _ rig call kept => kept.perform rig call) _ e₁
      consistent₁
  have room : e₁.isRunning = true → e₁.frameInTrial.toNat + rigs.length < Nat.pow 2 64 :=
    fun running₁ => by
      rw [(fresh_start before.coherent started).2 running₁]
      simpa using fewer
  have sampled := sampledAsDue_ticks rigs consistent₁.coherent room
    (sampledAsDue_start before.coherent started)
  have due : e.sample.isSome ↔ e.SampleDue (False ∨ e₁.endsTrialAlong rigs) :=
    sampled.due running
  simp only [SampleDue, false_or, consistent.config] at due
  have budget : e.budget = some b :=
    (budget_ticks rigs consistent₁.coherent).trans (start_clears before.coherent started).1
  refine ⟨due, sampled.own, fun unsampled ends rig => ?_⟩
  rw [← consistent.config] at ends
  exact results_tick_of_unsampled rig consistent.coherent consistent.flagged budget unsampled
    ⟨running, ends⟩

/-- A run of one 0.03 s trial at 30 Hz, right after its start: the trial in flight has no
sample, and the tick that ends it judges it on zero usage. -/
theorem trial_sampled_when_due_else_judged_idle_at_start :
    let config : Config := {
      trialDurationSecs := 0.03, warmupSecs := 0.0, presets := [.ultrafast],
      sizes := [⟨640, 360⟩], frameRates := [FrameRate.fps30] }
    let rig₀ : Rig := ⟨fun _ => .ok (), fun _ => none, fun c => c.options.bitrateKbps,
      fun _ => ⟨0.9, 0.9⟩, fun _ => none⟩
    let b : Budget := ⟨0.5, 0.9, 5000, 128, false, .file⟩
    Engine.new config FrameRate.fps30 = .ok (Engine.initial config FrameRate.fps30) ∧
      ((runCalls Engine.perform (Engine.initial config FrameRate.fps30) []).1.start rig₀ b).value =
        .ok () ∧
      ([] : List Rig).length < Nat.pow 2 64 ∧
      let e₁ := ((runCalls Engine.perform (Engine.initial config FrameRate.fps30) []).1.start
        rig₀ b).engine
      let e := (runCalls Engine.perform e₁ (([] : List Rig).map fun rig => (rig, Call.tick))).1
      (e.isRunning = true →
        (e.sample.isSome ↔ (e₁.endsTrialAlong [] ∧ 0.0 ≥ config.warmupSecs) ∨
          ∃ j, 1 ≤ j ∧ j ≤ e.frameInTrial.toNat ∧
            e.cursor.frameRate.elapsed j ≥ config.warmupSecs) ∧
        (∀ s, e.sample = some s → s.trial = e.currentTrial ∧ s.index + 1 = e.samplesStarted) ∧
        (e.sample = none →
          e.cursor.frameRate.elapsed (e.frameInTrial + 1).toNat ≥ config.trialDurationSecs →
          ∀ rig, ∃ spec, e.currentTrial = some spec ∧
            (Engine.tick rig e).1.results.map TrialResult.unflagged =
              if b.maxOwnCpu < 0.0 ∨ b.maxSystemCpu < 0.0 then e.results
              else e.results ++ [⟨spec.preset, spec.size, spec.frameRate,
                rig.bitrate (e.harness.configFor spec), 0.0, 0.0, false⟩])) :=
  ⟨rfl, rfl, by decide, trial_sampled_when_due_else_judged_idle rfl [] _ _ rfl [] (by decide)⟩

/-- A trial can be judged with no sample. Here every trial lasts a single tick, which ends the
first trial before any check of the warm-up: that trial is judged on zero usage and kept,
although the rig would have reported usage over the budget. -/
theorem first_trial_judged_unsampled :
    ∃ e, Engine.new {
        trialDurationSecs := 0.03, warmupSecs := 0.0, presets := [.ultrafast],
        sizes := [⟨640, 360⟩], frameRates := [FrameRate.fps30] } FrameRate.fps30 = .ok e ∧
      let rig : Rig := ⟨fun _ => .ok (), fun _ => none, fun c => c.options.bitrateKbps,
        fun _ => ⟨0.9, 0.9⟩, fun _ => none⟩
      let judged := (Engine.tick rig (e.start rig ⟨0.5, 0.9, 5000, 128, false, .file⟩).engine).1
      judged.samplesStarted = 0 ∧ judged.results.length = 1 ∧
        judged.results.all (fun r => r.ownAvgCpu == 0.0) = true :=
  ⟨_, rfl, by decide⟩

end EncoderBench
