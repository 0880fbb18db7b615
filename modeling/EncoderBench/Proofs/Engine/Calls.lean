import EncoderBench.Proofs.Engine.Steps
/-!
The calls a caller makes on an engine, each meeting the collaborators as a `Rig` of its own, and
the invariant every engine reached by them keeps (`Coherent`): a trial is live exactly while a
run is in progress, at the cursor's grid point. `Performs` lists the ways a call can go.
-/
namespace EncoderBench

inductive Call
  | start (budget : Budget)
  | stop
  | tick
  | progress
  | intoOutcome

theorem Config.nonempty_of_valid {c : Config} (valid : c.problem? = none) :
    0 < c.presets.length ∧ 0 < c.sizes.length ∧ 0 < c.frameRates.length := by
  unfold Config.problem? at valid
  cases presets : c.presets.isEmpty <;> cases sizes : c.sizes.isEmpty <;>
    cases rates : c.frameRates.isEmpty <;> simp_all [List.length_pos_iff]

/-- Calls made in order, each meeting the collaborators as they behave then: the state after
them all, and their effects in order. -/
def runCalls {σ κ : Type} (perform : Rig → σ → κ → σ × List Effect) (s : σ) :
    List (Rig × κ) → σ × List Effect
  | [] => (s, [])
  | (rig, call) :: rest =>
    ((runCalls perform (perform rig s call).1 rest).1,
      (perform rig s call).2 ++ (runCalls perform (perform rig s call).1 rest).2)

theorem runCalls_keeps_of {σ κ : Type} {perform : Rig → σ → κ → σ × List Effect}
    (allowed : Rig → Prop) (keeps : σ → Prop)
    (step : ∀ s rig call, allowed rig → keeps s → keeps (perform rig s call).1) :
    ∀ (calls : List (Rig × κ)) (s : σ), (∀ p ∈ calls, allowed p.1) → keeps s →
      keeps (runCalls perform s calls).1
  | [], _, _, kept => kept
  | (rig, call) :: rest, s, each, kept =>
    runCalls_keeps_of allowed keeps step rest _ (fun p member => each p (.tail _ member))
      (step s rig call (each (rig, call) (.head _)) kept)

theorem runCalls_keeps {σ κ : Type} {perform : Rig → σ → κ → σ × List Effect} (keeps : σ → Prop)
    (step : ∀ s rig call, keeps s → keeps (perform rig s call).1) (calls : List (Rig × κ))
    (s : σ) (kept : keeps s) : keeps (runCalls perform s calls).1 :=
  runCalls_keeps_of (fun _ => True) keeps (fun s rig call _ => step s rig call) calls s
    (fun _ _ => trivial) kept

namespace Engine

variable {rig : Rig} {b : Budget}

def perform (rig : Rig) (e : Engine) : Call → Engine × List Effect
  | .start b => ((e.start rig b).engine, (e.start rig b).effects)
  | .stop => ((e.stop rig).engine, (e.stop rig).effects)
  | .tick => tick rig e
  | .progress => (e, [])
  | .intoOutcome => ((e.intoOutcome rig).engine, (e.intoOutcome rig).effects)

/-- Every way a call can go, with the engine and the effects it leaves. A start is refused
during a run, and when the output profile will not switch; a stop, a tick or a request for the
outcome does nothing between runs; and a tick during a run either ends the trial in flight or
counts one more of its frames. -/
inductive Performs (rig : Rig) (e : Engine) : Call → Engine × List Effect → Prop
  | poll : Performs rig e .progress (e, [])
  | busy (b : Budget) : e.isRunning = true → Performs rig e (.start b) (e, [])
  | refused (b : Budget) : e.isRunning = false → profileReady rig e = false →
      Performs rig e (.start b) (e, startSwitch rig e)
  | started (b : Budget) : e.isRunning = false → profileReady rig e = true →
      Performs rig e (.start b)
        ((nextTrial rig (reset b e)).1, startSwitch rig e ++ (nextTrial rig (reset b e)).2)
  | notRunning {call : Call} : e.isRunning = false → (∀ b, call ≠ .start b) →
      Performs rig e call (e, [])
  | ended {call : Call} : e.isRunning = true → call = .stop ∨ call = .intoOutcome →
      Performs rig e call (finish rig e)
  | trialEnds : e.isRunning = true →
      e.cursor.frameRate.elapsed (e.frameInTrial + 1).toNat ≥ e.config.trialDurationSecs →
      Performs rig e .tick
        ((warm (nextTrial rig { e with frameInTrial := e.frameInTrial + 1 }).1 0.0).1,
          e.harness.feed rig e.frameInTrial.toNat ++
            (nextTrial rig { e with frameInTrial := e.frameInTrial + 1 }).2 ++
            (warm (nextTrial rig { e with frameInTrial := e.frameInTrial + 1 }).1 0.0).2)
  | trialGoes : e.isRunning = true →
      ¬ e.cursor.frameRate.elapsed (e.frameInTrial + 1).toNat ≥ e.config.trialDurationSecs →
      Performs rig e .tick
        ((warm { e with frameInTrial := e.frameInTrial + 1 }
            (e.cursor.frameRate.elapsed (e.frameInTrial + 1).toNat)).1,
          e.harness.feed rig e.frameInTrial.toNat ++
            (warm { e with frameInTrial := e.frameInTrial + 1 }
              (e.cursor.frameRate.elapsed (e.frameInTrial + 1).toNat)).2)

theorem performs_perform (rig : Rig) (e : Engine) (call : Call) :
    Performs rig e call (e.perform rig call) := by
  cases call with
  | start b =>
    show Performs rig e (.start b) ((e.start rig b).engine, (e.start rig b).effects)
    cases running : e.isRunning
    · cases ready : profileReady rig e
      · obtain ⟨engine, effects, -⟩ := start_of_refused (b := b) running ready
        rw [engine, effects]
        exact .refused b running ready
      · rw [start_of_ready running ready]
        exact .started b running ready
    · rw [start_of_running running]
      exact .busy b running
  | stop =>
    show Performs rig e .stop ((e.stop rig).engine, (e.stop rig).effects)
    cases running : e.isRunning
    · rw [stop_of_stopped running]
      exact .notRunning running nofun
    · rw [stop_of_running running]
      exact .ended running (.inl rfl)
  | tick =>
    show Performs rig e .tick (tick rig e)
    cases running : e.isRunning
    · rw [tick_of_stopped running]
      exact .notRunning running nofun
    · by_cases ends : e.cursor.frameRate.elapsed (e.frameInTrial + 1).toNat ≥ e.config.trialDurationSecs
      · rw [tick_of_ends running ends]
        exact .trialEnds running ends
      · rw [tick_of_continues running ends]
        exact .trialGoes running ends
  | progress => exact .poll
  | intoOutcome =>
    show Performs rig e .intoOutcome ((e.intoOutcome rig).engine, (e.intoOutcome rig).effects)
    cases running : e.isRunning
    · rw [intoOutcome_of_stopped running]
      exact .notRunning running nofun
    · rw [intoOutcome_of_running running]
      exact .ended running (.inr rfl)

theorem new_eq {config : Config} {rate : FrameRate} {e : Engine} (built : new config rate = .ok e) :
    config.problem? = none ∧ e = initial config rate := by
  simp only [new, Config.validate] at built
  split at built
  · cases built
  · rename_i valid
    exact ⟨valid, (Except.ok.inj built).symm⟩

@[simp] theorem initial_config (config : Config) (rate : FrameRate) :
    (initial config rate).config = config := rfl

@[simp] theorem initial_phase (config : Config) (rate : FrameRate) :
    (initial config rate).phase = .idle := rfl

@[simp] theorem initial_isRunning (config : Config) (rate : FrameRate) :
    (initial config rate).isRunning = false := rfl

@[simp] theorem initial_results (config : Config) (rate : FrameRate) :
    (initial config rate).results = [] := rfl

/-- A run in progress under budget `b`, with `spec` live at grid point `q`: the trial the
walk's grid gives there. -/
structure InTrial (e : Engine) (b : Budget) (q : GridPoint) (spec : TrialSpec) : Prop where
  budget : e.budget = some b
  point : e.point = some q
  live : e.harness.live = some spec
  trial : Grid.trialAt e.config b q = some spec
  rate : e.config.frameRates[e.rateIndex]? = some e.cursor.frameRate

/-- What every engine a caller can reach keeps. -/
structure Coherent (e : Engine) : Prop where
  valid : e.config.problem? = none
  keyInterval : e.harness.keyIntervalSecs = e.config.keyIntervalSecs
  live : e.harness.live.isSome = e.isRunning
  unsampled : e.isRunning = false → e.sample = none
  budget : e.phase ≠ .idle → e.budget.isSome
  trial : e.isRunning = true → ∃ b q spec, InTrial e b q spec

theorem Coherent.idle {e : Engine} (coherent : Coherent e) (stopped : e.isRunning = false) :
    e.harness.live = none := by
  simpa [stopped] using coherent.live

theorem firstRate_eq {c : Config} (rates : 0 < c.frameRates.length) :
    c.frameRates[0]? = some (firstRate c) := by
  cases frameRates : c.frameRates with
  | nil => simp [frameRates] at rates
  | cons rate _ => simp [firstRate, frameRates]

theorem Coherent.firstRate {e : Engine} (coherent : Coherent e) :
    e.config.frameRates[0]? = some (firstRate e.config) :=
  firstRate_eq (Config.nonempty_of_valid coherent.valid).2.2

theorem InTrial.counted {e : Engine} {b : Budget} {q : GridPoint} {spec : TrialSpec}
    (inTrial : InTrial e b q spec) :
    InTrial { e with frameInTrial := e.frameInTrial + 1 } b q spec :=
  ⟨inTrial.budget, inTrial.point, inTrial.live, inTrial.trial, inTrial.rate⟩

theorem Coherent.counted {e : Engine} (coherent : Coherent e) :
    Coherent { e with frameInTrial := e.frameInTrial + 1 } := by
  refine ⟨coherent.valid, coherent.keyInterval, coherent.live, coherent.unsampled, coherent.budget,
    fun running => ?_⟩
  obtain ⟨b, q, spec, inTrial⟩ := coherent.trial running
  exact ⟨b, q, spec, inTrial.counted⟩

theorem coherent_new {config : Config} {rate : FrameRate} {e : Engine}
    (built : new config rate = .ok e) : Coherent e := by
  obtain ⟨valid, rfl⟩ := new_eq built
  exact ⟨valid, rfl, rfl, fun _ => rfl, fun idle => absurd rfl idle, fun running => by
    simp at running⟩

theorem coherent_finish {e : Engine} (valid : e.config.problem? = none)
    (keyInterval : e.harness.keyIntervalSecs = e.config.keyIntervalSecs)
    (started : e.budget.isSome) : Coherent (finish rig e).1 := by
  rw [finish_fst]
  exact ⟨valid, keyInterval, rfl, fun _ => rfl, fun _ => started,
    fun running => by simp [Engine.isRunning, Phase.isRunning] at running⟩

theorem coherent_of_lands {x : Bool} {e : Engine} {acc : List Effect}
    {result : Engine × List Effect} (lands : Lands rig b x e acc result) (ready : Searchable e)
    (valid : e.config.problem? = none) (budget : e.budget = some b) :
    Coherent result.1 := by
  obtain ⟨e', probes, -, landed⟩ := lands
  split at landed
  · rename_i q spec target
    obtain ⟨moved, rfl⟩ := landed
    simp only [Engine.target, Option.bind_eq_some_iff] at target
    obtain ⟨q₀, -, settled⟩ := target
    have found := Grid.settle_spec rig e.config b settled
    have trial : Grid.trialAt e.config b q = some spec := by
      obtain ⟨trial, -⟩ := Option.filter_eq_some_iff.mp found
      exact trial
    have same := moved.shifted.1
    refine ⟨?_, ?_, rfl, fun running => by simp [Engine.isRunning, Phase.isRunning] at running,
      fun _ => ?_, fun _ => ⟨b, q, spec, ?_, ?_, rfl, ?_, ?_⟩⟩
    · rw [moved.config]; exact valid
    · simp [moved.config, ready.keyInterval]
    · rw [same]; simp [budget]
    · rw [same]; exact budget
    · simpa [Engine.point] using moved.point
    · simpa [moved.config] using trial
    · simpa [moved.rate, moved.config] using moved.frameRate
  · obtain ⟨shifted, rfl⟩ := landed
    have same := shifted.1
    refine coherent_finish ?_ ?_ ?_ <;> rw [same] <;> simp [budget, valid, ready.keyInterval]

theorem judge_fst (rig : Rig) (e : Engine) :
    (judge rig b e).1 = { e with
      sample := none, harness := { e.harness with live := none },
      results := (judge rig b e).1.results } := by
  cases live : e.harness.live with
  | none =>
    rw [judge_idle live]
    obtain ⟨config, ⟨keyIntervalSecs, live'⟩, profileRate, phase, budget, cursor, rateIndex,
      sample, frameInTrial, results, recommended, samplesStarted⟩ := e
    cases live
    rfl
  | some spec => rw [judge_live live]

theorem nextTrial_lands (rig : Rig) {e : Engine} (valid : e.config.problem? = none)
    (keyInterval : e.harness.keyIntervalSecs = e.config.keyIntervalSecs)
    (rate : e.config.frameRates[e.rateIndex]? = some e.cursor.frameRate) :
    Searchable (judge rig b e).1 ∧
      Lands rig b (judge rig b e).2.2 (judge rig b e).1 []
        (seek rig b (judge rig b e).2.2 (seekFuel e.config) (judge rig b e).1 []) := by
  obtain ⟨presets, sizes, rates⟩ := Config.nonempty_of_valid valid
  have judged := judge_fst rig (b := b) e
  have ready : Searchable (judge rig b e).1 := by
    rw [judged]
    exact ⟨presets, sizes, rfl, keyInterval, rate⟩
  have enough : (judge rig b e).1.room < seekFuel (judge rig b e).1.config :=
    room_lt_seekFuel (by rw [judged]; exact rates)
  have lands := seek_lands rig (b := b) (x := (judge rig b e).2.2) [] ready enough
  rw [show (judge rig b e).1.config = e.config by rw [judged]] at lands
  exact ⟨ready, lands⟩

theorem coherent_nextTrial (rig : Rig) {e : Engine} (budget : e.budget = some b)
    (valid : e.config.problem? = none)
    (keyInterval : e.harness.keyIntervalSecs = e.config.keyIntervalSecs)
    (rate : e.config.frameRates[e.rateIndex]? = some e.cursor.frameRate) :
    Coherent (nextTrial rig e).1 := by
  obtain ⟨ready, lands⟩ := nextTrial_lands rig (b := b) valid keyInterval rate
  have judged := judge_fst rig (b := b) e
  rw [nextTrial_eq budget]
  dsimp only
  exact coherent_of_lands lands ready (by rw [judged]; exact valid) (by rw [judged]; exact budget)

theorem Lands.config {x : Bool} {e : Engine} {acc : List Effect} {result : Engine × List Effect}
    (lands : Lands rig b x e acc result) : result.1.config = e.config := by
  obtain ⟨e', probes, -, landed⟩ := lands
  split at landed
  · obtain ⟨moved, rfl⟩ := landed
    exact moved.config
  · obtain ⟨shifted, rfl⟩ := landed
    rw [finish_fst, shifted.1]

theorem config_nextTrial {e : Engine} (budget : e.budget = some b)
    (valid : e.config.problem? = none)
    (keyInterval : e.harness.keyIntervalSecs = e.config.keyIntervalSecs)
    (rate : e.config.frameRates[e.rateIndex]? = some e.cursor.frameRate) :
    (nextTrial rig e).1.config = e.config := by
  obtain ⟨-, lands⟩ := nextTrial_lands rig (b := b) valid keyInterval rate
  rw [nextTrial_eq budget]
  dsimp only
  rw [lands.config, judge_fst]

theorem warm_config (e : Engine) (elapsed : Float) : (warm e elapsed).1.config = e.config := by
  unfold warm
  split <;> rfl

theorem coherent_warm {e : Engine} (coherent : Coherent e) (elapsed : Float) :
    Coherent (warm e elapsed).1 := by
  unfold warm
  split
  · rename_i starts
    have running : e.isRunning = true := by simp_all
    obtain ⟨b, q, spec, inTrial⟩ := coherent.trial running
    refine ⟨coherent.valid, coherent.keyInterval, ?_, fun stopped => ?_, fun _ => ?_,
      fun _ => ⟨b, q, spec, inTrial.budget, inTrial.point, inTrial.live, inTrial.trial,
        inTrial.rate⟩⟩
    · simpa [coherent.live, Engine.isRunning, Phase.isRunning] using running
    · simp [Engine.isRunning, Phase.isRunning] at stopped
    · simp [inTrial.budget]
  · exact coherent

theorem Coherent.started {e : Engine} (coherent : Coherent e) (running : e.isRunning = true) :
    e.budget.isSome :=
  coherent.budget fun idle => by simp [Engine.isRunning, idle, Phase.isRunning] at running

theorem coherent_perform {e : Engine} (coherent : Coherent e) (rig : Rig) (call : Call) :
    Coherent (e.perform rig call).1 := by
  have performs := performs_perform rig e call
  generalize e.perform rig call = after at performs ⊢
  cases performs with
  | poll | busy | refused | notRunning => exact coherent
  | started b =>
    exact coherent_nextTrial rig rfl coherent.valid coherent.keyInterval coherent.firstRate
  | ended running =>
    exact coherent_finish coherent.valid coherent.keyInterval (coherent.started running)
  | trialEnds running =>
    obtain ⟨b, q, spec, inTrial⟩ := coherent.trial running
    exact coherent_warm (coherent_nextTrial rig inTrial.counted.budget coherent.valid
      coherent.keyInterval inTrial.counted.rate) 0.0
  | trialGoes => exact coherent_warm coherent.counted _

theorem coherent_start {e : Engine} (coherent : Coherent e) : Coherent (e.start rig b).engine :=
  coherent_perform coherent rig (.start b)

theorem coherent_tick {e : Engine} (coherent : Coherent e) : Coherent (tick rig e).1 :=
  coherent_perform coherent rig .tick

theorem config_perform {e : Engine} (coherent : Coherent e) (rig : Rig) (call : Call) :
    (e.perform rig call).1.config = e.config := by
  have performs := performs_perform rig e call
  generalize e.perform rig call = after at performs ⊢
  cases performs with
  | poll | busy | refused | notRunning => rfl
  | started b => exact config_nextTrial rfl coherent.valid coherent.keyInterval coherent.firstRate
  | ended => rw [finish_fst]
  | trialEnds running =>
    obtain ⟨b, q, spec, inTrial⟩ := coherent.trial running
    rw [warm_config, config_nextTrial inTrial.counted.budget coherent.valid coherent.keyInterval
      inTrial.counted.rate]
  | trialGoes => rw [warm_config]

theorem coherent_runCalls {config : Config} {rate : FrameRate} {e : Engine}
    (built : new config rate = .ok e) (calls : List (Rig × Call)) :
    Coherent (runCalls perform e calls).1 :=
  runCalls_keeps Coherent (fun _ rig call coherent => coherent_perform coherent rig call) calls e
    (coherent_new built)

theorem config_runCalls {e : Engine} (coherent : Coherent e) (calls : List (Rig × Call)) :
    (runCalls perform e calls).1.config = e.config :=
  (runCalls_keeps (fun x => Coherent x ∧ x.config = e.config)
    (fun _ rig call kept => ⟨coherent_perform kept.1 rig call,
      (config_perform kept.1 rig call).trans kept.2⟩)
    calls e ⟨coherent, rfl⟩).2

theorem config_runCalls_new {config : Config} {rate : FrameRate} {e : Engine}
    (built : new config rate = .ok e) (calls : List (Rig × Call)) :
    (runCalls perform e calls).1.config = config :=
  (config_runCalls (coherent_new built) calls).trans (by rw [(new_eq built).2, initial_config])

end Engine

end EncoderBench
