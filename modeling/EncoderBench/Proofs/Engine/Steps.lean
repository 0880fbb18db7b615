import EncoderBench.Proofs.Engine.Search
/-!
One equation for each step the engine takes inside a call: ending a run, judging the trial in
flight, choosing the next trial, a frame tick and a start. Later proofs rewrite with these and
never unfold the engine's definitions.
-/
namespace EncoderBench

namespace Engine

variable {rig : Rig} {b : Budget}

@[simp] theorem finish_fst (e : Engine) :
    (finish rig e).1 =
      { e with
        harness := { e.harness with live := none }, sample := none,
        results := (rank e.results e.config.recommendMinPreset).1,
        recommended := (rank e.results e.config.recommendMinPreset).2, phase := .finished } := by
  obtain ⟨config, ⟨keyIntervalSecs, live⟩, profileRate, phase, budget, cursor, rateIndex, sample,
    frameInTrial, results, recommended, samplesStarted⟩ := e
  cases live <;> rfl

theorem finish_snd (e : Engine) :
    (finish rig e).2 = (e.harness.live.map Effect.deactivated).toList := by
  simp only [finish, Harness.endTrial]
  split <;> simp_all

/-- The usage a trial is judged on: what its sample reports, or nothing if it was never
sampled. -/
def judgedUsage (rig : Rig) (e : Engine) : CpuUsage :=
  match e.sample with
  | some s => rig.usage s
  | none => {}

def broke (rig : Rig) (b : Budget) (e : Engine) : Bool :=
  b.exceededBy (judgedUsage rig e).own (judgedUsage rig e).system

def record (rig : Rig) (e : Engine) (spec : TrialSpec) : TrialResult :=
  ⟨spec.preset, spec.size, spec.frameRate, rig.bitrate (e.harness.configFor spec),
    (judgedUsage rig e).system, (judgedUsage rig e).own, false⟩

theorem judge_idle {e : Engine} (idle : e.harness.live = none) :
    judge rig b e = ({ e with sample := none }, [], false) := by
  simp [judge, idle]

theorem judge_live {e : Engine} {spec : TrialSpec} (live : e.harness.live = some spec) :
    judge rig b e =
      ({ e with
          sample := none, harness := { e.harness with live := none },
          results := if broke rig b e then e.results else e.results ++ [record rig e spec] },
        [.deactivated spec], broke rig b e) := by
  simp only [judge, live, Harness.endTrial, Option.getD_some]
  cases sample : e.sample <;> simp [broke, record, judgedUsage, sample]

theorem room_lt_seekFuel {e : Engine} (rates : 0 < e.config.frameRates.length) :
    e.room < seekFuel e.config := by
  have grids : ∀ rate, (e.config.frameRates.length - (rate + 1)) *
      (e.config.presets.length + e.config.sizes.length + 1) ≤
      e.config.frameRates.length * (e.config.presets.length + e.config.sizes.length + 1) :=
    fun rate => Nat.mul_le_mul_right _ (Nat.sub_le _ _)
  simp only [room, seekFuel, Nat.succ_mul]
  split
  · have fewer : (e.config.frameRates.length - (e.rateIndex + 1)) *
        (e.config.presets.length + e.config.sizes.length + 1) +
        (e.config.presets.length + e.config.sizes.length + 1) ≤
        e.config.frameRates.length * (e.config.presets.length + e.config.sizes.length + 1) := by
      rw [← Nat.succ_mul]
      exact Nat.mul_le_mul_right _ (by omega)
    simp only [Grid.rank]
    omega
  · rename_i q _
    have := grids q.rate
    simp only [Grid.rank]
    omega

theorem nextTrial_eq {e : Engine} (budget : e.budget = some b) :
    nextTrial rig e =
      ((seek rig b (judge rig b e).2.2 (seekFuel e.config) (judge rig b e).1 []).1,
        (judge rig b e).2.1 ++
          (seek rig b (judge rig b e).2.2 (seekFuel e.config) (judge rig b e).1 []).2) := by
  have config : (judge rig b e).1.config = e.config := by
    simp only [judge]
    split <;> rfl
  simp only [nextTrial, budget]
  rw [← config]

def warm (e : Engine) (elapsed : Float) : Engine × List Effect :=
  if e.isRunning && e.sample.isNone && elapsed ≥ e.config.warmupSecs then
    let s : Sample := ⟨e.samplesStarted, e.harness.live⟩
    ({ e with sample := some s, samplesStarted := e.samplesStarted + 1, phase := .sampling },
      [.sampleStarted s])
  else (e, [])

theorem tick_of_ends {e : Engine} (running : e.isRunning = true)
    (ends : e.cursor.frameRate.elapsed (e.frameInTrial + 1).toNat ≥ e.config.trialDurationSecs) :
    tick rig e =
      ((warm (nextTrial rig { e with frameInTrial := e.frameInTrial + 1 }).1 0.0).1,
        e.harness.feed rig e.frameInTrial.toNat ++
          (nextTrial rig { e with frameInTrial := e.frameInTrial + 1 }).2 ++
          (warm (nextTrial rig { e with frameInTrial := e.frameInTrial + 1 }).1 0.0).2) := by
  simp only [tick, running, Bool.not_true, Bool.false_eq_true, ite_false, ends, ite_true, warm]
  generalize nextTrial rig { e with frameInTrial := e.frameInTrial + 1 } = next
  obtain ⟨e₂, moved⟩ := next
  by_cases warmed : (0.0 : Float) ≥ e₂.config.warmupSecs <;>
    cases running₂ : e₂.isRunning <;> cases sampled : e₂.sample.isNone <;> simp_all

theorem tick_of_continues {e : Engine} (running : e.isRunning = true)
    (continues : ¬ e.cursor.frameRate.elapsed (e.frameInTrial + 1).toNat ≥ e.config.trialDurationSecs) :
    tick rig e =
      ((warm { e with frameInTrial := e.frameInTrial + 1 }
          (e.cursor.frameRate.elapsed (e.frameInTrial + 1).toNat)).1,
        e.harness.feed rig e.frameInTrial.toNat ++
          (warm { e with frameInTrial := e.frameInTrial + 1 }
            (e.cursor.frameRate.elapsed (e.frameInTrial + 1).toNat)).2) := by
  simp only [tick, running, Bool.not_true, Bool.false_eq_true, ite_false, continues, warm]
  by_cases warmed : e.cursor.frameRate.elapsed (e.frameInTrial + 1).toNat ≥ e.config.warmupSecs <;>
    cases sampled : e.sample.isNone <;> simp_all [Engine.isRunning]

theorem tick_of_stopped {e : Engine} (stopped : e.isRunning = false) : tick rig e = (e, []) := by
  simp [tick, stopped]

theorem succ_toNat_le (n : UInt64) : (n + 1).toNat ≤ n.toNat + 1 := by
  rw [UInt64.toNat_add, UInt64.toNat_one]
  exact Nat.mod_le _ _

theorem succ_toNat_of_lt {n : UInt64} (room : n.toNat + 1 < Nat.pow 2 64) :
    (n + 1).toNat = n.toNat + 1 := by
  rw [UInt64.toNat_add, UInt64.toNat_one]
  exact Nat.mod_eq_of_lt room

def reset (b : Budget) (e : Engine) : Engine :=
  { e with
    profileRate :=
      if e.profileRate.same (firstRate e.config) then e.profileRate else firstRate e.config,
    budget := some b, results := [], recommended := none, sample := none, frameInTrial := 0,
    rateIndex := 0, cursor := Cursor.initial (firstRate e.config) e.config.totalTests,
    phase := .preparing }

def profileReady (rig : Rig) (e : Engine) : Bool :=
  e.profileRate.same (firstRate e.config) || (rig.refusal (firstRate e.config)).isNone

def startSwitch (rig : Rig) (e : Engine) : List Effect :=
  if e.profileRate.same (firstRate e.config) then []
  else [.rateSwitch (firstRate e.config) (rig.refusal (firstRate e.config)).isNone]

theorem start_of_running {e : Engine} (running : e.isRunning = true) :
    e.start rig b = ⟨e, [], .error (.notReady "a benchmark is already running")⟩ := by
  simp [start, running]

theorem start_of_refused {e : Engine} (stopped : e.isRunning = false)
    (refused : profileReady rig e = false) :
    (e.start rig b).engine = e ∧ (e.start rig b).effects = startSwitch rig e ∧
      ∃ reason, (e.start rig b).value =
        .error (.notReady (rateRefusalMessage (firstRate e.config) reason)) := by
  simp only [profileReady, Bool.or_eq_false_iff] at refused
  obtain ⟨notThere, notSwitched⟩ := refused
  obtain ⟨reason, refusal⟩ := Option.isSome_iff_exists.mp (by simpa using notSwitched)
  simp only [start, stopped, notThere, refusal, startSwitch]
  exact ⟨rfl, by simp, reason, rfl⟩

theorem start_of_ready {e : Engine} (stopped : e.isRunning = false)
    (ready : profileReady rig e = true) :
    e.start rig b = ⟨(nextTrial rig (reset b e)).1,
      startSwitch rig e ++ (nextTrial rig (reset b e)).2, .ok ()⟩ := by
  simp only [profileReady, Bool.or_eq_true] at ready
  by_cases there : e.profileRate.same (firstRate e.config) = true
  · simp [start, stopped, there, startSwitch, reset]
  · have switches : rig.refusal (firstRate e.config) = none := by simpa [there] using ready
    simp [start, stopped, there, switches, startSwitch, reset]

theorem ready_of_started {e : Engine} (started : (e.start rig b).value = .ok ()) :
    e.isRunning = false ∧ profileReady rig e = true := by
  cases running : e.isRunning
  · cases ready : profileReady rig e
    · obtain ⟨-, -, reason, refused⟩ := start_of_refused (b := b) running ready
      rw [refused] at started
      cases started
    · exact ⟨rfl, rfl⟩
  · rw [start_of_running running] at started
    cases started

theorem stop_of_running {e : Engine} (running : e.isRunning = true) :
    e.stop rig = ⟨(finish rig e).1, (finish rig e).2, .ok ()⟩ := by
  simp [stop, running]

theorem stop_of_stopped {e : Engine} (stopped : e.isRunning = false) :
    e.stop rig = ⟨e, [], .error .notRunning⟩ := by
  simp [stop, stopped]

theorem intoOutcome_of_running {e : Engine} (running : e.isRunning = true) :
    e.intoOutcome rig = ⟨(finish rig e).1, (finish rig e).2, (finish rig e).1.outcome⟩ := by
  simp [intoOutcome, running]

theorem intoOutcome_of_stopped {e : Engine} (stopped : e.isRunning = false) :
    e.intoOutcome rig = ⟨e, [], e.outcome⟩ := by
  simp [intoOutcome, stopped]

end Engine

end EncoderBench
