import EncoderBench.Proofs.Engine.Outcome
/-!
Calls a run does not accept, and starting again. A refused start, and a stop or a tick between
runs, change no field of the engine; a start reads only the configuration, the harness, the
profile's rate and the count of samples started, so a restart is a fresh start.
-/
namespace EncoderBench

namespace Engine

variable {rig : Rig} {b : Budget}

theorem new_of_valid {config : Config} (valid : config.problem? = none) (rate : FrameRate) :
    new config rate = .ok (initial config rate) := by
  simp only [new, Config.validate, valid]
  rfl

theorem start_of_switch_refused {e : Engine} {reason : String}
    (away : e.profileRate.same (firstRate e.config) = false)
    (refused : rig.refusal (firstRate e.config) = some reason) :
    e.start rig b =
      if e.isRunning then ⟨e, [], .error (.notReady "a benchmark is already running")⟩
      else ⟨e, [.rateSwitch (firstRate e.config) false],
        .error (.notReady (rateRefusalMessage (firstRate e.config) reason))⟩ := by
  cases running : e.isRunning
  · simp [start, running, away, refused]
  · exact start_of_running running

theorem start_failed {e : Engine} (failed : (e.start rig b).value ≠ .ok ()) :
    (e.start rig b).engine = e := by
  cases running : e.isRunning
  · cases ready : profileReady rig e
    · exact (start_of_refused running ready).1
    · rw [start_of_ready running ready] at failed
      exact absurd rfl failed
  · rw [start_of_running running]

/-- What a start reads of an engine between runs. -/
structure SameForStart (e e' : Engine) : Prop where
  config : e.config = e'.config
  harness : e.harness = e'.harness
  profileRate : e.profileRate = e'.profileRate
  samplesStarted : e.samplesStarted = e'.samplesStarted

theorem reset_eq_of_same {e e' : Engine} (same : SameForStart e e') : reset b e = reset b e' := by
  obtain ⟨config, harness, profileRate, phase, budget, cursor, rateIndex, sample, frameInTrial,
    results, recommended, samplesStarted⟩ := e
  obtain ⟨config', harness', profileRate', phase', budget', cursor', rateIndex', sample',
    frameInTrial', results', recommended', samplesStarted'⟩ := e'
  obtain ⟨rfl, rfl, rfl, rfl⟩ := same
  rfl

theorem start_eq_of_same {e e' : Engine} (same : SameForStart e e') (stopped : e.isRunning = false)
    (stopped' : e'.isRunning = false) (ready : profileReady rig e = true) :
    e.start rig b = e'.start rig b := by
  have ready' : profileReady rig e' = true := by
    rw [← ready, profileReady, profileReady, same.config, same.profileRate]
  have switch : startSwitch rig e = startSwitch rig e' := by
    rw [startSwitch, startSwitch, same.config, same.profileRate]
  rw [start_of_ready stopped ready, start_of_ready stopped' ready', reset_eq_of_same same, switch]

theorem sameForStart_fresh {config : Config} {e : Engine} (coherent : Coherent e)
    (configured : e.config = config) (stopped : e.isRunning = false) :
    SameForStart e {
      config, harness := { keyIntervalSecs := config.keyIntervalSecs }, profileRate := e.profileRate,
      phase := .idle, budget := none,
      cursor := Cursor.initial (firstRate config) config.totalTests, rateIndex := 0,
      sample := none, frameInTrial := 0, results := [], recommended := none,
      samplesStarted := e.samplesStarted } := by
  have keyInterval := coherent.keyInterval
  have idle := coherent.idle stopped
  refine ⟨configured, ?_, rfl, rfl⟩
  show e.harness = { keyIntervalSecs := config.keyIntervalSecs }
  rw [← configured, ← keyInterval, ← idle]

end Engine

open Engine in
/-- Calls a run does not accept change nothing. After any calls on a new engine: a start while
a run is in progress is refused as such; a start the output profile refuses, its rate differing
from the first configured one, is refused after asking for the switch; a stop and a tick between
runs are refused or ignored. Each leaves every field of the engine as it was, builds, feeds and
takes down no encoder and starts no sample, so a finished engine whose restart fails still gives
its outcome. -/
theorem misapplied_calls_change_nothing {config : Config} {rate : FrameRate} {e₀ : Engine}
    (built : Engine.new config rate = .ok e₀) (calls : List (Rig × Call)) (rig : Rig)
    (b : Budget) :
    let e := (runCalls Engine.perform e₀ calls).1
    (e.isRunning = true →
      e.start rig b = ⟨e, [], .error (.notReady "a benchmark is already running")⟩) ∧
    (∀ first reason, config.frameRates[0]? = some first → e.profileRate.same first = false →
      rig.refusal first = some reason →
      e.start rig b =
        if e.isRunning then ⟨e, [], .error (.notReady "a benchmark is already running")⟩
        else ⟨e, [.rateSwitch first false], .error (.notReady (rateRefusalMessage first reason))⟩) ∧
    (e.isRunning = false → e.stop rig = ⟨e, [], .error .notRunning⟩) ∧
    (e.isRunning = false → Engine.tick rig e = (e, [])) ∧
    ((e.start rig b).value ≠ .ok () → (e.start rig b).engine.outcome = e.outcome) := by
  intro e
  have coherent : Coherent e := coherent_runCalls built calls
  have configured : e.config = config := config_runCalls_new built calls
  refine ⟨start_of_running, fun first reason atFirst away refused => ?_, stop_of_stopped,
    tick_of_stopped, fun failed => by rw [start_failed failed]⟩
  have isFirst : first = firstRate e.config := by
    rw [← configured] at atFirst
    exact Option.some.inj (atFirst.symm.trans coherent.firstRate)
  subst isFirst
  exact start_of_switch_refused away refused

/-- Calls a run does not accept, at a new engine of the default configuration. -/
theorem misapplied_calls_change_nothing_at_default :
    let e₀ : Engine := (Engine.initial {} FrameRate.fps30)
    let rig : Rig := ⟨fun _ => .ok (), fun _ => none, fun c => c.options.bitrateKbps,
      fun _ => {}, fun _ => some "locked"⟩
    let b : Budget := ⟨0.5, 0.9, 5000, 128, false, .file⟩
    Engine.new {} FrameRate.fps30 = .ok e₀ ∧
      let e := (runCalls Engine.perform e₀ []).1
      (e.isRunning = true →
        e.start rig b = ⟨e, [], .error (.notReady "a benchmark is already running")⟩) ∧
      (∀ first reason, ({} : Config).frameRates[0]? = some first →
        e.profileRate.same first = false → rig.refusal first = some reason →
        e.start rig b =
          if e.isRunning then ⟨e, [], .error (.notReady "a benchmark is already running")⟩
          else ⟨e, [.rateSwitch first false],
            .error (.notReady (rateRefusalMessage first reason))⟩) ∧
      (e.isRunning = false → e.stop rig = ⟨e, [], .error .notRunning⟩) ∧
      (e.isRunning = false → Engine.tick rig e = (e, [])) ∧
      ((e.start rig b).value ≠ .ok () → (e.start rig b).engine.outcome = e.outcome) :=
  ⟨rfl, misapplied_calls_change_nothing rfl [] _ _⟩

open Engine in
/-- Starting again is starting afresh. After any calls on a new engine, a start that succeeds
does exactly what it does on an engine newly built with the same configuration, its output
profile at the same rate and its sampler having started as many samples: the same engine, the
same effects, the same answer. So the runs that follow, under the same collaborators, activate
the same encoders and end with the same results and recommendation. -/
theorem restart_is_fresh_start {config : Config} {rate : FrameRate} {e₀ : Engine}
    (built : Engine.new config rate = .ok e₀) (calls : List (Rig × Call)) (rig : Rig)
    (b : Budget) :
    let e := (runCalls Engine.perform e₀ calls).1
    (e.start rig b).value = .ok () →
      ∃ fresh, Engine.new config e.profileRate = .ok fresh ∧
        e.start rig b = { fresh with samplesStarted := e.samplesStarted }.start rig b ∧
        ∀ later : List (Rig × Call),
          runCalls Engine.perform (e.start rig b).engine later =
            runCalls Engine.perform ({ fresh with samplesStarted := e.samplesStarted }.start rig b).engine
              later := by
  intro e started
  have coherent : Coherent e := coherent_runCalls built calls
  have valid : config.problem? = none := (new_eq built).1
  have configured : e.config = config := config_runCalls_new built calls
  obtain ⟨stopped, ready⟩ := ready_of_started started
  refine ⟨_, new_of_valid valid e.profileRate, ?_⟩
  have same := start_eq_of_same (b := b) (sameForStart_fresh coherent configured stopped) stopped
    rfl ready
  exact ⟨same, fun later => congrArg (fun t => runCalls perform t.engine later) same⟩

/-- A restart after a finished run of the default configuration, with a rig whose encoders all
come up and whose trials each end at their first tick. -/
theorem restart_is_fresh_start_after_run :
    let e₀ := Engine.initial {
        trialDurationSecs := 0.03, warmupSecs := 0.0, presets := [.ultrafast],
        sizes := [⟨640, 360⟩], frameRates := [FrameRate.fps30] } FrameRate.fps30
    let rig : Rig := ⟨fun _ => .ok (), fun _ => none, fun c => c.options.bitrateKbps,
      fun _ => {}, fun _ => none⟩
    let b : Budget := ⟨0.5, 0.9, 5000, 128, false, .file⟩
    let calls : List (Rig × Call) := [(rig, .start b), (rig, .tick)]
    Engine.new e₀.config FrameRate.fps30 = .ok e₀ ∧
      let e := (runCalls Engine.perform e₀ calls).1
      (e.start rig b).value = .ok () ∧
      ∃ fresh, Engine.new e₀.config e.profileRate = .ok fresh ∧
        e.start rig b = { fresh with samplesStarted := e.samplesStarted }.start rig b ∧
        ∀ later : List (Rig × Call),
          runCalls Engine.perform (e.start rig b).engine later =
            runCalls Engine.perform ({ fresh with samplesStarted := e.samplesStarted }.start rig b).engine
              later :=
  ⟨rfl, rfl, restart_is_fresh_start rfl _ _ _ rfl⟩

end EncoderBench
