import EncoderBench.Proofs.Engine.Calls
import EncoderBench.Proofs.Rank
/-!
What an engine's results and outcome say after any calls. The results move in three ways only
(`ResultsMove`): a start clears them, judging a trial that kept to the budget adds its record, and
anything else keeps them up to their flags; what is said of every result follows from that.
-/
namespace EncoderBench

theorem Bitrate.forTrial_le {ideal : Nat} {smallest : Bool} {target : Target}
    {maxVideoKbps kbps : Nat} (chosen : forTrial ideal smallest target maxVideoKbps = .use kbps) :
    kbps ≤ maxVideoKbps := by
  unfold forTrial at chosen
  dsimp only at chosen
  split at chosen
  · cases chosen
    exact Nat.min_le_right _ _
  · split at chosen
    · cases chosen
      exact Nat.min_le_right _ _
    · split at chosen
      · cases chosen
      · cases chosen
        exact Nat.min_le_right _ _

def Rig.Reports (rig : Rig) : Prop := ∀ c, rig.bitrate c = c.options.bitrateKbps

namespace Engine

variable {rig : Rig} {b : Budget}

theorem Lands.results {x : Bool} {e : Engine} {acc : List Effect} {result : Engine × List Effect}
    (lands : Lands rig b x e acc result) :
    result.1.budget = e.budget ∧
      ((result.1.isRunning = true ∧ result.1.results = e.results ∧
          result.1.recommended = e.recommended) ∨
        (result.1.phase = .finished ∧
          result.1.results = (rank e.results e.config.recommendMinPreset).1 ∧
          result.1.recommended = (rank e.results e.config.recommendMinPreset).2)) := by
  obtain ⟨e', probes, -, landed⟩ := lands
  split at landed
  · obtain ⟨moved, rfl⟩ := landed
    have same := moved.shifted.1
    exact ⟨by rw [same], .inl ⟨rfl, by rw [same], by rw [same]⟩⟩
  · obtain ⟨shifted, rfl⟩ := landed
    have same := shifted.1
    rw [finish_fst]
    exact ⟨by rw [same], .inr ⟨rfl, by rw [same], by rw [same]⟩⟩

theorem warm_fst (e : Engine) (elapsed : Float) :
    (warm e elapsed).1 = { e with
      sample := (warm e elapsed).1.sample, samplesStarted := (warm e elapsed).1.samplesStarted,
      phase := (warm e elapsed).1.phase } ∧
      (warm e elapsed).1.isRunning = e.isRunning := by
  unfold warm
  split
  · rename_i starts
    have running : e.isRunning = true := by simp_all
    exact ⟨rfl, running.symm⟩
  · exact ⟨rfl, rfl⟩

/-- How a call moves the results: a start clears them for the run it starts; otherwise they
stay, up to their flags, and judging a trial that kept to the budget adds its record. -/
inductive ResultsMove (rig : Rig) (e e' : Engine) : Prop
  | restart (b : Budget) (budget : e'.budget = some b) (cleared : e'.results = [])
  | keep (budget : e'.budget = e.budget)
      (kept : e'.results.map TrialResult.unflagged = e.results.map TrialResult.unflagged)
  | add (b : Budget) (q : GridPoint) (spec : TrialSpec) (inTrial : InTrial e b q spec)
      (within : broke rig b e = false) (budget : e'.budget = e.budget)
      (added : e'.results.map TrialResult.unflagged =
        e.results.map TrialResult.unflagged ++ [record rig e spec])

theorem ResultsMove.stay {e e' : Engine} (budget : e'.budget = e.budget)
    (results : e'.results = e.results) : ResultsMove rig e e' :=
  .keep budget (by rw [results])

theorem budget_nextTrial (rig : Rig) {e : Engine} (budget : e.budget = some b)
    (valid : e.config.problem? = none)
    (keyInterval : e.harness.keyIntervalSecs = e.config.keyIntervalSecs)
    (rate : e.config.frameRates[e.rateIndex]? = some e.cursor.frameRate) :
    (nextTrial rig e).1.budget = e.budget := by
  obtain ⟨-, lands⟩ := nextTrial_lands rig (b := b) valid keyInterval rate
  rw [nextTrial_eq budget]
  dsimp only
  rw [lands.results.1, judge_fst]

theorem budget_warm (e : Engine) (elapsed : Float) : (warm e elapsed).1.budget = e.budget := by
  rw [(warm_fst e elapsed).1]

theorem budget_perform {e : Engine} (coherent : Coherent e) (rig : Rig) {call : Call}
    (notStart : ∀ b', call ≠ .start b') : (e.perform rig call).1.budget = e.budget := by
  have performs := performs_perform rig e call
  generalize e.perform rig call = after at performs ⊢
  cases performs with
  | poll | notRunning => rfl
  | busy b' | refused b' | started b' => exact absurd rfl (notStart b')
  | ended => rw [finish_fst]
  | trialEnds running =>
    obtain ⟨b, q, spec, inTrial⟩ := coherent.trial running
    dsimp only
    rw [budget_warm]
    exact budget_nextTrial rig inTrial.counted.budget coherent.valid coherent.keyInterval
      inTrial.counted.rate
  | trialGoes =>
    dsimp only
    rw [budget_warm]

theorem results_nextTrial (rig : Rig) {e : Engine} {q : GridPoint} {spec : TrialSpec}
    (inTrial : InTrial e b q spec) (valid : e.config.problem? = none)
    (keyInterval : e.harness.keyIntervalSecs = e.config.keyIntervalSecs) :
    (nextTrial rig e).1.results.map TrialResult.unflagged =
      (if broke rig b e then e.results else e.results ++ [record rig e spec]).map
        TrialResult.unflagged := by
  obtain ⟨-, lands⟩ := nextTrial_lands rig (b := b) valid keyInterval inTrial.rate
  obtain ⟨-, landed⟩ := lands.results
  have judged : (judge rig b e).1.results =
      if broke rig b e then e.results else e.results ++ [record rig e spec] := by
    rw [judge_live inTrial.live]
  rw [nextTrial_eq inTrial.budget, ← judged]
  dsimp only
  rcases landed with ⟨-, results, -⟩ | ⟨-, results, -⟩
  · rw [results]
  · rw [results, rank_fst_unflagged]

theorem resultsMove_nextTrial (rig : Rig) {e : Engine} {q : GridPoint} {spec : TrialSpec}
    (inTrial : InTrial e b q spec) (valid : e.config.problem? = none)
    (keyInterval : e.harness.keyIntervalSecs = e.config.keyIntervalSecs) :
    ResultsMove rig e (nextTrial rig e).1 := by
  have kept := results_nextTrial rig inTrial valid keyInterval
  have budget' := budget_nextTrial rig inTrial.budget valid keyInterval inTrial.rate
  cases within : broke rig b e
  · refine .add b q spec inTrial within budget' ?_
    simpa [within, TrialResult.unflagged, record] using kept
  · exact .keep budget' (by simpa [within] using kept)

theorem start_clears {e : Engine} (coherent : Coherent e) (started : (e.start rig b).value = .ok ()) :
    (e.start rig b).engine.budget = some b ∧ (e.start rig b).engine.results = [] := by
  obtain ⟨stopped, ready⟩ := ready_of_started started
  obtain ⟨-, lands⟩ := nextTrial_lands rig (b := b) (e := reset b e) coherent.valid
    coherent.keyInterval coherent.firstRate
  obtain ⟨budget, landed⟩ := lands.results
  have judged : judge rig b (reset b e) = (reset b e, [], false) := judge_idle (coherent.idle stopped)
  rw [judged] at budget landed
  rw [start_of_ready stopped ready, nextTrial_eq rfl]
  dsimp only
  rw [judged]
  refine ⟨budget, ?_⟩
  rcases landed with ⟨-, results, -⟩ | ⟨-, results, -⟩
  · exact results
  · rw [results]
    rfl

theorem resultsMove_perform {e : Engine} (coherent : Coherent e) (rig : Rig) (call : Call) :
    ResultsMove rig e (e.perform rig call).1 := by
  have performs := performs_perform rig e call
  generalize e.perform rig call = after at performs ⊢
  cases performs with
  | poll | busy | refused | notRunning => exact .stay rfl rfl
  | started b stopped ready =>
    have started : (e.start rig b).value = .ok () := by rw [start_of_ready stopped ready]
    obtain ⟨budget, cleared⟩ := start_clears coherent started
    rw [start_of_ready stopped ready] at budget cleared
    exact .restart b budget cleared
  | ended =>
    rw [finish_fst]
    exact .keep rfl (rank_fst_unflagged _ _)
  | trialEnds running =>
    obtain ⟨b, q, spec, inTrial⟩ := coherent.trial running
    have move := resultsMove_nextTrial rig inTrial.counted coherent.valid coherent.keyInterval
    dsimp only
    rw [(warm_fst (nextTrial rig { e with frameInTrial := e.frameInTrial + 1 }).1 0.0).1]
    cases move with
    | restart b' budget cleared => exact .restart b' budget cleared
    | keep budget kept => exact .keep budget kept
    | add b' q' spec' inTrial' within budget added =>
      exact .add b' q' spec' ⟨inTrial'.budget, inTrial'.point, inTrial'.live, inTrial'.trial,
        inTrial'.rate⟩ within budget added
  | trialGoes =>
    dsimp only
    rw [(warm_fst _ _).1]
    exact .stay rfl rfl

def AllResults (holds : Config → Budget → TrialResult → Prop) (e : Engine) : Prop :=
  ∀ r ∈ e.results, ∃ b, e.budget = some b ∧ holds e.config b r.unflagged

theorem ResultsMove.allResults {holds : Config → Budget → TrialResult → Prop} {e e' : Engine}
    (move : ResultsMove rig e e') (config : e'.config = e.config) (before : AllResults holds e)
    (judged : ∀ b q spec, InTrial e b q spec → broke rig b e = false →
      holds e.config b (record rig e spec)) :
    AllResults holds e' := by
  have kept : ∀ r : TrialResult, r.unflagged ∈ e.results.map TrialResult.unflagged →
      ∃ b, e.budget = some b ∧ holds e.config b r.unflagged := by
    intro r listed
    obtain ⟨r₀, member, same⟩ := List.mem_map.mp listed
    obtain ⟨b, budget, holds₀⟩ := before r₀ member
    exact ⟨b, budget, same ▸ holds₀⟩
  intro r member
  have listed : r.unflagged ∈ e'.results.map TrialResult.unflagged := List.mem_map_of_mem member
  rw [config]
  cases move with
  | restart b budget cleared => simp [cleared] at member
  | keep budget same =>
    rw [budget]
    exact kept r (same ▸ listed)
  | add b q spec inTrial within budget added =>
    rw [budget]
    rw [added, List.mem_append, List.mem_singleton] at listed
    rcases listed with listed | recorded
    · exact kept r listed
    · exact ⟨b, inTrial.budget, recorded ▸ judged b q spec inTrial within⟩

def KeptTrial (c : Config) (b : Budget) (r : TrialResult) : Prop :=
  b.exceededBy r.ownAvgCpu r.systemAvgCpu = false ∧
    ∃ q spec, Grid.trialAt c b q = some spec ∧ r.preset = spec.preset ∧ r.size = spec.size ∧
      r.frameRate = spec.frameRate

def GridTrial (c : Config) (b : Budget) (r : TrialResult) : Prop :=
  ∃ q, Grid.trialAt c b q = some ⟨r.preset, r.size, r.frameRate, r.bitrateKbps⟩

theorem allResults_keptTrial_perform {e : Engine} (coherent : Coherent e)
    (before : AllResults KeptTrial e) (rig : Rig) (call : Call) :
    AllResults KeptTrial (e.perform rig call).1 :=
  (resultsMove_perform coherent rig call).allResults (config_perform coherent rig call) before
    fun _ q spec inTrial within => ⟨within, q, spec, inTrial.trial, rfl, rfl, rfl⟩

theorem allResults_gridTrial_perform {e : Engine} (coherent : Coherent e)
    (before : AllResults GridTrial e) {rig : Rig} (reports : rig.Reports) (call : Call) :
    AllResults GridTrial (e.perform rig call).1 :=
  (resultsMove_perform coherent rig call).allResults (config_perform coherent rig call) before
    fun _ q spec inTrial _ => ⟨q, by
      rw [inTrial.trial, record, reports]
      rfl⟩

/-- The recommendation: none while a run is in progress, and once it has finished, the ranking
of its results. -/
structure Flagged (e : Engine) : Prop where
  running : e.isRunning = true →
    e.results.map TrialResult.unflagged = e.results ∧ e.recommended = none
  finished : e.phase = .finished →
    rank (e.results.map TrialResult.unflagged) e.config.recommendMinPreset =
      (e.results, e.recommended)

theorem flagged_finish {e : Engine} (clear : e.results.map TrialResult.unflagged = e.results) :
    Flagged (finish rig e).1 := by
  rw [finish_fst]
  exact ⟨fun running => by simp [Engine.isRunning, Phase.isRunning] at running,
    fun _ => rank_rank_fst _ clear⟩

theorem flagged_of_lands {x : Bool} {e : Engine} {acc : List Effect}
    {result : Engine × List Effect} (lands : Lands rig b x e acc result)
    (config : result.1.config = e.config)
    (clear : e.results.map TrialResult.unflagged = e.results) (none : e.recommended = none) :
    Flagged result.1 := by
  obtain ⟨-, landed⟩ := lands.results
  rcases landed with ⟨running, results, recommended⟩ | ⟨finished, ranked⟩
  · refine ⟨fun _ => ⟨by rw [results, clear], by rw [recommended, none]⟩, fun finished => ?_⟩
    simp [Engine.isRunning, finished, Phase.isRunning] at running
  · refine ⟨fun running => by simp [Engine.isRunning, finished, Phase.isRunning] at running,
      fun _ => ?_⟩
    rw [config, ranked.1, ranked.2, rank_rank_fst _ clear]

theorem warm_of_finished {e : Engine} {elapsed : Float}
    (finished : (warm e elapsed).1.phase = .finished) : (warm e elapsed).1 = e := by
  unfold warm at finished ⊢
  split
  · rename_i starts
    rw [if_pos starts] at finished
    simp at finished
  · rfl

theorem flagged_warm {e : Engine} (flagged : Flagged e) (elapsed : Float) :
    Flagged (warm e elapsed).1 := by
  obtain ⟨same, running⟩ := warm_fst e elapsed
  refine ⟨fun warmRunning => ?_, fun finished => ?_⟩
  · rw [same]
    exact flagged.running (running ▸ warmRunning)
  · have unchanged := warm_of_finished finished
    rw [unchanged] at finished ⊢
    exact flagged.finished finished

theorem flagged_nextTrial {e : Engine} (budget : e.budget = some b)
    (valid : e.config.problem? = none)
    (keyInterval : e.harness.keyIntervalSecs = e.config.keyIntervalSecs)
    (rate : e.config.frameRates[e.rateIndex]? = some e.cursor.frameRate)
    (clear : e.results.map TrialResult.unflagged = e.results) (none : e.recommended = none) :
    Flagged (nextTrial rig e).1 := by
  obtain ⟨-, lands⟩ := nextTrial_lands rig (b := b) valid keyInterval rate
  have judgedClear : (judge rig b e).1.results.map TrialResult.unflagged =
      (judge rig b e).1.results := by
    cases live : e.harness.live with
    | none => rw [judge_idle live]; exact clear
    | some spec =>
      rw [judge_live live]
      split
      · exact clear
      · rw [List.map_append, clear]
        rfl
  rw [nextTrial_eq budget]
  dsimp only
  exact flagged_of_lands lands lands.config judgedClear (by rw [judge_fst]; exact none)

theorem flagged_perform {e : Engine} (coherent : Coherent e) (flagged : Flagged e) (rig : Rig)
    (call : Call) : Flagged (e.perform rig call).1 := by
  have performs := performs_perform rig e call
  generalize e.perform rig call = after at performs ⊢
  cases performs with
  | poll | busy | refused | notRunning => exact flagged
  | started b =>
    exact flagged_nextTrial (e := reset b e) rfl coherent.valid coherent.keyInterval
      coherent.firstRate rfl rfl
  | ended running => exact flagged_finish (flagged.running running).1
  | trialEnds running =>
    obtain ⟨b, q, spec, inTrial⟩ := coherent.trial running
    obtain ⟨clear, none⟩ := flagged.running running
    exact flagged_warm (flagged_nextTrial inTrial.counted.budget coherent.valid
      coherent.keyInterval inTrial.counted.rate clear none) 0.0
  | trialGoes =>
    exact flagged_warm (e := { e with frameInTrial := e.frameInTrial + 1 })
      ⟨flagged.running, flagged.finished⟩ _

def StartsRun (e : Engine) (rig : Rig) : Call → Prop
  | .start b => (e.start rig b).value = .ok ()
  | _ => False

/-- Whether some call among `calls` is a start that succeeds, each call made on the engine the
calls before it left. -/
def StartedBy (e : Engine) : List (Rig × Call) → Prop
  | [] => False
  | (rig, call) :: rest => e.StartsRun rig call ∨ StartedBy (e.perform rig call).1 rest

theorem phase_of_lands {x : Bool} {e : Engine} {acc : List Effect}
    {result : Engine × List Effect} (lands : Lands rig b x e acc result) :
    result.1.phase ≠ .idle := by
  obtain ⟨-, landed⟩ := lands.results
  intro idle
  rcases landed with ⟨running, -⟩ | ⟨finished, -⟩
  · simp [Engine.isRunning, idle, Phase.isRunning] at running
  · rw [idle] at finished
    cases finished

theorem phase_nextTrial (rig : Rig) {e : Engine} (budget : e.budget = some b)
    (valid : e.config.problem? = none)
    (keyInterval : e.harness.keyIntervalSecs = e.config.keyIntervalSecs)
    (rate : e.config.frameRates[e.rateIndex]? = some e.cursor.frameRate) :
    (nextTrial rig e).1.phase ≠ .idle := by
  obtain ⟨-, lands⟩ := nextTrial_lands rig (b := b) valid keyInterval rate
  rw [nextTrial_eq budget]
  dsimp only
  exact phase_of_lands lands

theorem phase_warm {e : Engine} {elapsed : Float} (idle : (warm e elapsed).1.phase = .idle) :
    e.phase = .idle := by
  unfold warm at idle
  split at idle
  · cases idle
  · exact idle

theorem idle_perform {e : Engine} (coherent : Coherent e) (rig : Rig) (call : Call) :
    (e.perform rig call).1.phase = .idle ↔ e.phase = .idle ∧ ¬ e.StartsRun rig call := by
  have busy : e.isRunning = true → e.phase ≠ .idle := fun running idle => by
    simp [Engine.isRunning, idle, Phase.isRunning] at running
  have performs := performs_perform rig e call
  generalize e.perform rig call = after at performs ⊢
  cases performs with
  | poll => simp [StartsRun]
  | busy b running => simp [StartsRun, start_of_running running, busy running]
  | refused b running ready =>
    obtain ⟨-, -, reason, refused⟩ := start_of_refused (b := b) running ready
    simp [StartsRun, refused]
  | started b running ready =>
    simp [StartsRun, start_of_ready running ready, phase_nextTrial rig (e := reset b e) rfl
      coherent.valid coherent.keyInterval coherent.firstRate]
  | notRunning running notStart =>
    cases call with
    | start b => exact absurd rfl (notStart b)
    | stop | tick | progress | intoOutcome => simp [StartsRun]
  | ended running which =>
    rw [finish_fst]
    rcases which with rfl | rfl <;> simp [StartsRun, busy running]
  | trialEnds running =>
    obtain ⟨b, q, spec, inTrial⟩ := coherent.trial running
    simp only [StartsRun, not_false_eq_true, and_true, busy running, iff_false]
    exact fun idle => phase_nextTrial rig inTrial.counted.budget coherent.valid
      coherent.keyInterval inTrial.counted.rate (phase_warm idle)
  | trialGoes running =>
    simp only [StartsRun, not_false_eq_true, and_true, busy running, iff_false]
    exact fun idle => busy running
      (phase_warm (e := { e with frameInTrial := e.frameInTrial + 1 }) idle)

theorem idle_runCalls {e : Engine} (coherent : Coherent e) (calls : List (Rig × Call)) :
    (runCalls perform e calls).1.phase = .idle ↔ e.phase = .idle ∧ ¬ e.StartedBy calls := by
  induction calls generalizing e with
  | nil => simp [runCalls, StartedBy]
  | cons first rest ih =>
    obtain ⟨rig, call⟩ := first
    rw [runCalls, ih (coherent_perform coherent rig call), idle_perform coherent rig call]
    simp only [StartedBy, not_or]
    constructor
    · rintro ⟨⟨idle, notStart⟩, notLater⟩
      exact ⟨idle, notStart, notLater⟩
    · rintro ⟨idle, notStart, notLater⟩
      exact ⟨⟨idle, notStart⟩, notLater⟩

theorem outcome_of_finished {e : Engine} (coherent : Coherent e) (finished : e.phase = .finished) :
    ∃ b, e.budget = some b ∧ e.outcome = some ⟨b, e.results, e.recommended⟩ := by
  obtain ⟨b, budget⟩ := Option.isSome_iff_exists.mp
    (coherent.budget fun idle => by rw [idle] at finished; cases finished)
  exact ⟨b, budget, by simp [outcome, finished, budget]⟩

theorem outcome_of_not_finished {e : Engine} (unfinished : e.phase ≠ .finished) :
    e.outcome = none := by
  simp [outcome, unfinished]

theorem intoOutcome_eq_none_iff {e : Engine} (coherent : Coherent e) (rig : Rig) :
    (e.intoOutcome rig).value = none ↔ e.phase = .idle := by
  cases running : e.isRunning
  · rw [intoOutcome_of_stopped running]
    show e.outcome = none ↔ _
    cases phase : e.phase with
    | idle => simp [outcome, phase]
    | finished =>
      obtain ⟨b, -, given⟩ := outcome_of_finished coherent phase
      simp [given]
    | preparing => simp [Engine.isRunning, phase, Phase.isRunning] at running
    | sampling => simp [Engine.isRunning, phase, Phase.isRunning] at running
  · rw [intoOutcome_of_running running]
    have finished : (finish rig e).1.phase = .finished := by rw [finish_fst]
    have started : (finish rig e).1.budget.isSome := by
      rw [finish_fst]
      exact coherent.started running
    obtain ⟨b, budget⟩ := Option.isSome_iff_exists.mp started
    have given : (finish rig e).1.outcome =
        some ⟨b, (finish rig e).1.results, (finish rig e).1.recommended⟩ := by
      unfold outcome
      rw [if_pos finished, budget]
      rfl
    show (finish rig e).1.outcome = none ↔ e.phase = .idle
    rw [given]
    constructor
    · intro given
      cases given
    · intro idle
      simp [Engine.isRunning, idle, Phase.isRunning] at running

end Engine

theorem Grid.trialAt_mem {c : Config} {b : Budget} {q : GridPoint} {spec : TrialSpec}
    (h : Grid.trialAt c b q = some spec) :
    spec.preset ∈ c.presets ∧ spec.size ∈ c.sizes ∧ spec.frameRate ∈ c.frameRates ∧
      spec.bitrateKbps ≤ b.maxVideoKbps := by
  obtain ⟨preset, size, rate, chosen⟩ := Grid.trialAt_spec c b h
  exact ⟨List.mem_of_getElem? preset, List.mem_of_getElem? size, List.mem_of_getElem? rate,
    Bitrate.forTrial_le chosen⟩

theorem recommended_iff_of_rank {rs results : List TrialResult} {minPreset : Preset}
    {best : Option Nat} (ranked : rank rs minPreset = (results, best)) (i : Nat)
    (inside : i < results.length) : results[i].recommended = true ↔ best = some i := by
  have flagged : results = (rank rs minPreset).1 := by rw [ranked]
  have chosen : best = (rank rs minPreset).2 := by rw [ranked]
  subst flagged chosen
  rw [recommended_rank_fst, rank_snd]
  simp

theorem Outcome.recommendedSettings_isSome_iff {o : Outcome} (minPreset : Preset)
    (picked : o.recommended = Rank.pick (o.results.map TrialResult.unflagged) minPreset) :
    o.recommendedSettings.isSome ↔ ∃ r ∈ o.results, r.frameRate.same FrameRate.fps30 = true := by
  have thirty : (∃ r ∈ o.results.map TrialResult.unflagged,
      r.frameRate.same FrameRate.fps30 = true) ↔
      ∃ r ∈ o.results, r.frameRate.same FrameRate.fps30 = true := by
    constructor
    · rintro ⟨u, listed, same⟩
      obtain ⟨r, member, rfl⟩ := List.mem_map.mp listed
      exact ⟨r, member, same⟩
    · rintro ⟨r, member, same⟩
      exact ⟨r.unflagged, List.mem_map_of_mem member, same⟩
  rw [← thirty, ← Rank.pick_isSome_iff, ← picked]
  unfold Outcome.recommendedSettings
  cases recommended : o.recommended with
  | none => rfl
  | some i =>
    have inside : i < o.results.length := by
      have := Rank.pick_lt (picked ▸ recommended)
      simpa using this
    simp [Outcome.select, List.getElem?_eq_getElem inside, Except.toOption]

namespace Engine

/-- What any calls on a new engine keep: the invariant, the configuration, every result a kept
trial of the grid, and the ranking's flags. -/
structure Consistent (config : Config) (e : Engine) : Prop where
  coherent : Coherent e
  config : e.config = config
  kept : AllResults KeptTrial e
  flagged : Flagged e

theorem consistent_new {config : Config} {rate : FrameRate} {e : Engine}
    (built : new config rate = .ok e) : Consistent config e := by
  obtain ⟨-, fresh⟩ := new_eq built
  refine ⟨coherent_new built, by rw [fresh, initial_config], ?_, ?_⟩ <;> rw [fresh]
  · intro r member
    cases member
  · exact ⟨fun running => by simp at running,
      fun finished => by cases finished⟩

theorem Consistent.perform {config : Config} {e : Engine} (kept : Consistent config e) (rig : Rig)
    (call : Call) : Consistent config (e.perform rig call).1 :=
  ⟨coherent_perform kept.coherent rig call, (config_perform kept.coherent rig call).trans kept.config,
    allResults_keptTrial_perform kept.coherent kept.kept rig call,
    flagged_perform kept.coherent kept.flagged rig call⟩

theorem consistent_runCalls {config : Config} {rate : FrameRate} {e₀ : Engine}
    (built : new config rate = .ok e₀) (calls : List (Rig × Call)) :
    Consistent config (runCalls perform e₀ calls).1 :=
  runCalls_keeps (Consistent config) (fun _ rig call kept => kept.perform rig call) calls e₀
    (consistent_new built)

theorem gridTrial_runCalls {config : Config} {rate : FrameRate} {e₀ : Engine}
    (built : new config rate = .ok e₀) (calls : List (Rig × Call))
    (reports : ∀ p ∈ calls, p.1.Reports) :
    AllResults GridTrial (runCalls perform e₀ calls).1 := by
  obtain ⟨-, fresh⟩ := new_eq built
  refine (runCalls_keeps_of Rig.Reports (fun e => Coherent e ∧ AllResults GridTrial e)
    (fun _ _ call reports kept => ⟨coherent_perform kept.1 _ call,
      allResults_gridTrial_perform kept.1 kept.2 reports call⟩)
    calls e₀ reports ⟨coherent_new built, ?_⟩).2
  rw [fresh]
  intro r member
  cases member

end Engine

/-- After any calls on a new engine its results and outcome agree. Every result kept to the
run's budget, with a preset, size and frame rate of the configuration; with encoders that
report their configured bitrate it is the trial of a grid point, bitrate included, and within
the budget's video bitrate. While a run is in progress nothing is flagged or recommended. Once
it has finished, the recommendation is the ranking of the results, the flags mark it and no
other, there is an outcome, and it recommends settings exactly when some result is at 30 Hz.
There is no outcome before a run has finished, and taking the outcome gives nothing exactly
when no start has succeeded. -/
theorem results_and_outcome_agree {config : Config} {rate : FrameRate} {e₀ : Engine}
    (built : Engine.new config rate = .ok e₀) (calls : List (Rig × Call)) :
    let e := (runCalls Engine.perform e₀ calls).1
    (∀ r ∈ e.results, ∃ b, e.budget = some b ∧ b.exceededBy r.ownAvgCpu r.systemAvgCpu = false ∧
      r.preset ∈ config.presets ∧ r.size ∈ config.sizes ∧ r.frameRate ∈ config.frameRates) ∧
    ((∀ p ∈ calls, p.1.Reports) → ∀ r ∈ e.results, ∃ b q, e.budget = some b ∧
      Grid.trialAt config b q = some ⟨r.preset, r.size, r.frameRate, r.bitrateKbps⟩ ∧
      r.bitrateKbps ≤ b.maxVideoKbps) ∧
    (e.isRunning = true → (∀ r ∈ e.results, r.recommended = false) ∧ e.recommended = none) ∧
    (e.phase = .finished →
      e.recommended = (rank (e.results.map TrialResult.unflagged) config.recommendMinPreset).2 ∧
      (∀ i (inside : i < e.results.length), e.results[i].recommended = true ↔
        e.recommended = some i) ∧
      e.outcome.isSome ∧
      ((e.outcome.bind Outcome.recommendedSettings).isSome ↔
        ∃ r ∈ e.results, r.frameRate.same FrameRate.fps30 = true)) ∧
    (e.phase ≠ .finished → e.outcome = none) ∧
    ∀ rig, (e.intoOutcome rig).value = none ↔ ¬ e₀.StartedBy calls := by
  intro e
  have kept := Engine.consistent_runCalls built calls
  obtain ⟨coherent, sameConfig, keptTrials, flagged⟩ := kept
  refine ⟨fun r member => ?_, fun reports r member => ?_, fun running => ?_, fun finished => ?_,
    Engine.outcome_of_not_finished, fun rig => ?_⟩
  · obtain ⟨b, budget, within, q, spec, trial, preset, size, frameRate⟩ := keptTrials r member
    obtain ⟨presets, sizes, rates, -⟩ := Grid.trialAt_mem trial
    rw [sameConfig] at presets sizes rates
    exact ⟨b, budget, within, preset ▸ presets, size ▸ sizes, frameRate ▸ rates⟩
  · obtain ⟨b, budget, q, trial⟩ := Engine.gridTrial_runCalls built calls reports r member
    rw [sameConfig] at trial
    exact ⟨b, q, budget, trial, (Grid.trialAt_mem trial).2.2.2⟩
  · obtain ⟨clear, none⟩ := flagged.running running
    refine ⟨fun r member => ?_, none⟩
    rw [← clear] at member
    obtain ⟨r₀, -, rfl⟩ := List.mem_map.mp member
    rfl
  · have ranked := flagged.finished finished
    rw [sameConfig] at ranked
    obtain ⟨b, -, given⟩ := Engine.outcome_of_finished coherent finished
    refine ⟨by rw [ranked], recommended_iff_of_rank ranked, by rw [given]; rfl, ?_⟩
    rw [given]
    exact Outcome.recommendedSettings_isSome_iff config.recommendMinPreset (by
      show e.recommended = Rank.pick (e.results.map TrialResult.unflagged) config.recommendMinPreset
      rw [← rank_snd, ranked])
  · have idle : e₀.phase = .idle := by rw [(Engine.new_eq built).2, Engine.initial_phase]
    rw [Engine.intoOutcome_eq_none_iff coherent, Engine.idle_runCalls (Engine.coherent_new built)]
    simp [idle]

/-- Results and outcome at a new engine of the default configuration, before any call. -/
theorem results_and_outcome_agree_at_default :
    Engine.new {} FrameRate.fps30 = .ok (Engine.initial {} FrameRate.fps30) ∧
    (let e := (runCalls Engine.perform (Engine.initial {} FrameRate.fps30)
        ([] : List (Rig × Call))).1
    (∀ r ∈ e.results, ∃ b, e.budget = some b ∧ b.exceededBy r.ownAvgCpu r.systemAvgCpu = false ∧
      r.preset ∈ ({} : Config).presets ∧ r.size ∈ ({} : Config).sizes ∧
      r.frameRate ∈ ({} : Config).frameRates) ∧
    ((∀ p ∈ ([] : List (Rig × Call)), p.1.Reports) → ∀ r ∈ e.results, ∃ b q, e.budget = some b ∧
      Grid.trialAt {} b q = some ⟨r.preset, r.size, r.frameRate, r.bitrateKbps⟩ ∧
      r.bitrateKbps ≤ b.maxVideoKbps) ∧
    (e.isRunning = true → (∀ r ∈ e.results, r.recommended = false) ∧ e.recommended = none) ∧
    (e.phase = .finished →
      e.recommended =
        (rank (e.results.map TrialResult.unflagged) ({} : Config).recommendMinPreset).2 ∧
      (∀ i (inside : i < e.results.length), e.results[i].recommended = true ↔
        e.recommended = some i) ∧
      e.outcome.isSome ∧
      ((e.outcome.bind Outcome.recommendedSettings).isSome ↔
        ∃ r ∈ e.results, r.frameRate.same FrameRate.fps30 = true)) ∧
    (e.phase ≠ .finished → e.outcome = none) ∧
    ∀ rig, (e.intoOutcome rig).value = none ↔ ¬ Engine.StartedBy (Engine.initial {} FrameRate.fps30) []) :=
  ⟨rfl, results_and_outcome_agree rfl []⟩

end EncoderBench
