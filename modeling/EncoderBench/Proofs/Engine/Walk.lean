import EncoderBench.Proofs.Engine.Outcome
/-!
The engine follows a reference walk over the grid, call by call. A `Walk` is the grid point of
the trial in flight, the trial and the frames it has had; the tick that covers the trial's
duration judges it and the walk settles from the next point. The collaborators enter only through
the encoders that come up, the switches taken and the usages trials are judged on.
-/
namespace EncoderBench

/-- Two rigs walk the same grid: the same encoders come up and the output profile takes the
same switches. -/
def Rig.WalksLike (rig rig₀ : Rig) : Prop :=
  rig.activation = rig₀.activation ∧ rig.refusal = rig₀.refusal

namespace Grid

variable {rig rig₀ : Rig} {c : Config} {b : Budget} {x : Bool}

theorem step_of_walksLike (same : rig.WalksLike rig₀) (q : GridPoint) :
    step rig c x q = step rig₀ c x q := by
  simp only [step, switch, same.2]

theorem settle_of_walksLike (same : rig.WalksLike rig₀) (q : GridPoint) :
    settle rig c b x q = settle rig₀ c b x q := by
  have comes : comesUp rig c = comesUp rig₀ c := by
    funext spec
    simp only [comesUp, same.1]
  fun_induction settle rig c b x q with
  | case1 q spec found => rw [settle_found rig₀ c b (comes ▸ found)]
  | case2 q passed stopped =>
    rw [settle_passed rig₀ c b (comes ▸ passed), ← step_of_walksLike same, stopped]
    rfl
  | case3 q passed q' moved ih =>
    rw [settle_passed rig₀ c b (comes ▸ passed), ← step_of_walksLike same, moved,
      Option.bind_some, ih]

end Grid

/-- Where the reference walk is while a run is going. -/
structure Walk where
  point : GridPoint
  spec : TrialSpec
  frames : UInt64

namespace Walk

variable (rig : Rig) (c : Config) (b : Budget)

def fresh (found : GridPoint × TrialSpec) : Walk := ⟨found.1, found.2, 0⟩

def first : Option Walk := (Grid.settle rig c b false ⟨0, 0, 0⟩).map fresh

def ends (w : Walk) : Bool := decide (w.spec.frameRate.elapsed (w.frames + 1).toNat ≥ c.trialDurationSecs)

/-- The trial after `w`, judged on `usage`: one step by the verdict, then on to the first point
whose trial is kept and comes up; nothing once the walk runs out. -/
def next (w : Walk) (usage : CpuUsage) : Option Walk :=
  let exceeded := b.exceededBy usage.own usage.system
  ((Grid.step rig c exceeded w.point).bind (Grid.settle rig c b exceeded)).map fresh

def perform : Option Walk × List CpuUsage → Call → Option Walk × List CpuUsage
  | (some w, usages), .tick =>
    if w.ends c then (w.next rig c b (usages.headD {}), usages.tail)
    else (some { w with frames := w.frames + 1 }, usages)
  | (some w, usages), .progress => (some w, usages)
  | (some w, usages), .start _ => (some w, usages)
  | (_, usages), _ => (none, usages)

def run (calls : List Call) (usages : List CpuUsage) : Option Walk :=
  (calls.foldl (perform rig c b) (first rig c b, usages)).1

end Walk

namespace Engine

variable {rig rig₀ : Rig} {b : Budget}

/-- Where the engine is on the walk: while a run is going, the grid point of its cursor, the
live trial, and the frames that trial has had. -/
def walk (e : Engine) : Option Walk :=
  if e.isRunning then e.point.bind fun q => e.currentTrial.map fun spec => ⟨q, spec, e.frameInTrial⟩
  else none

def judgedIn (rig : Rig) (e : Engine) : Call → List CpuUsage
  | .tick =>
    if e.isRunning && decide (e.cursor.frameRate.elapsed (e.frameInTrial + 1).toNat ≥
        e.config.trialDurationSecs) then
      [judgedUsage rig { e with frameInTrial := e.frameInTrial + 1 }]
    else []
  | .start _ | .stop | .progress | .intoOutcome => []

def judgedAlong : Engine → List (Rig × Call) → List CpuUsage
  | _, [] => []
  | e, p :: rest => judgedIn p.1 e p.2 ++ judgedAlong (e.perform p.1 p.2).1 rest

theorem walk_of_stopped {e : Engine} (stopped : e.isRunning = false) : e.walk = none := by
  simp [walk, stopped]

theorem walk_of_inTrial {e : Engine} {q : GridPoint} {spec : TrialSpec}
    (running : e.isRunning = true) (inTrial : InTrial e b q spec) :
    e.walk = some ⟨q, spec, e.frameInTrial⟩ := by
  simp [walk, running, inTrial.point, currentTrial, inTrial.live]

theorem walk_warm (e : Engine) (elapsed : Float) : (warm e elapsed).1.walk = e.walk := by
  obtain ⟨fields, running⟩ := warm_fst e elapsed
  simp only [walk, running]
  rw [fields]
  rfl

theorem walk_finish (e : Engine) : (finish rig e).1.walk = none :=
  walk_of_stopped (by simp [Engine.isRunning, Phase.isRunning])

theorem target_of_point {x : Bool} {e : Engine} {q : GridPoint} (point : e.point = some q) :
    e.target rig b x = (Grid.step rig e.config x q).bind (Grid.settle rig e.config b x) := by
  simp only [target, firstProbe, point]

theorem target_judge {x : Bool} (e : Engine) :
    (judge rig b e).1.target rig b x = e.target rig b x := by
  rw [judge_fst]
  rfl

theorem walk_of_lands {x : Bool} {e : Engine} {acc : List Effect} {result : Engine × List Effect}
    (lands : Lands rig b x e acc result) : result.1.walk = (e.target rig b x).map Walk.fresh := by
  obtain ⟨e', probes, -, landed⟩ := lands
  split at landed
  · rename_i q spec target
    obtain ⟨moved, rfl⟩ := landed
    have point : Engine.point { e' with
        harness := { e.harness with live := some spec }, frameInTrial := 0,
        phase := .preparing } = some q := moved.point
    rw [target]
    simp [walk, Engine.isRunning, Phase.isRunning, currentTrial, point, Walk.fresh]
  · rename_i target
    obtain ⟨-, rfl⟩ := landed
    rw [target, walk_finish]
    rfl

theorem walk_nextTrial (rig : Rig) {e : Engine} (budget : e.budget = some b)
    (valid : e.config.problem? = none)
    (keyInterval : e.harness.keyIntervalSecs = e.config.keyIntervalSecs)
    (rate : e.config.frameRates[e.rateIndex]? = some e.cursor.frameRate) :
    (nextTrial rig e).1.walk = (e.target rig b (judge rig b e).2.2).map Walk.fresh := by
  obtain ⟨-, lands⟩ := nextTrial_lands rig (b := b) valid keyInterval rate
  rw [nextTrial_eq budget]
  dsimp only
  rw [walk_of_lands lands, target_judge]

theorem InTrial.frameRate {e : Engine} {q : GridPoint} {spec : TrialSpec}
    (inTrial : InTrial e b q spec) : spec.frameRate = e.cursor.frameRate := by
  have atRate := (Grid.trialAt_spec e.config b inTrial.trial).2.2.1
  have rate : q.rate = e.rateIndex := by
    have point := inTrial.point
    simp only [Engine.point, Option.map_eq_some_iff] at point
    obtain ⟨p, -, rfl⟩ := point
    rfl
  rw [rate, inTrial.rate] at atRate
  exact (Option.some.inj atRate).symm

theorem walk_tick_of_continues {e : Engine} {q : GridPoint} {spec : TrialSpec}
    (running : e.isRunning = true) (inTrial : InTrial e b q spec)
    (continues : ¬ e.cursor.frameRate.elapsed (e.frameInTrial + 1).toNat ≥ e.config.trialDurationSecs) :
    (tick rig e).1.walk = some ⟨q, spec, e.frameInTrial + 1⟩ := by
  rw [tick_of_continues running continues]
  dsimp only
  rw [walk_warm]
  exact walk_of_inTrial running inTrial.counted

theorem walk_tick_of_ends {e : Engine} {q : GridPoint} {spec : TrialSpec} (coherent : Coherent e)
    (running : e.isRunning = true) (inTrial : InTrial e b q spec)
    (ends : e.cursor.frameRate.elapsed (e.frameInTrial + 1).toNat ≥ e.config.trialDurationSecs) :
    (tick rig e).1.walk =
      ((Grid.step rig e.config (broke rig b { e with frameInTrial := e.frameInTrial + 1 }) q).bind
        (Grid.settle rig e.config b
          (broke rig b { e with frameInTrial := e.frameInTrial + 1 }))).map Walk.fresh := by
  have counted := inTrial.counted
  rw [tick_of_ends running ends]
  dsimp only
  rw [walk_warm, walk_nextTrial rig counted.budget coherent.valid coherent.keyInterval counted.rate,
    judge_live counted.live]
  dsimp only
  rw [target_of_point counted.point]

theorem perform_of_stopped {e : Engine} (stopped : e.isRunning = false) (rig : Rig) {call : Call}
    (notStart : ∀ b', call ≠ .start b') : (e.perform rig call).1 = e := by
  cases call with
  | start b' => exact absurd rfl (notStart b')
  | stop => exact congrArg Transition.engine (stop_of_stopped stopped)
  | tick => exact congrArg Prod.fst (tick_of_stopped stopped)
  | progress => rfl
  | intoOutcome => exact congrArg Transition.engine (intoOutcome_of_stopped stopped)

theorem walk_perform {e : Engine} (coherent : Coherent e) (budget : e.budget = some b)
    (same : rig.WalksLike rig₀) {call : Call} (notStart : ∀ b', call ≠ .start b')
    (usages : List CpuUsage) :
    Walk.perform rig₀ e.config b (e.walk, e.judgedIn rig call ++ usages) call =
      ((e.perform rig call).1.walk, usages) := by
  cases running : e.isRunning
  · have unjudged : e.judgedIn rig call = [] := by
      cases call <;> simp [judgedIn, running]
    rw [perform_of_stopped running rig notStart, walk_of_stopped running, unjudged,
      List.nil_append]
    cases call <;> rfl
  · obtain ⟨b', q, spec, inTrial⟩ := coherent.trial running
    have sameBudget : b = b' := Option.some.inj (budget.symm.trans inTrial.budget)
    subst sameBudget
    rw [walk_of_inTrial running inTrial]
    cases call with
    | start b' => exact absurd rfl (notStart b')
    | stop =>
      show _ = ((e.stop rig).engine.walk, usages)
      rw [stop_of_running running]
      dsimp only
      rw [walk_finish]
      simp [judgedIn, Walk.perform]
    | intoOutcome =>
      show _ = ((e.intoOutcome rig).engine.walk, usages)
      rw [intoOutcome_of_running running]
      dsimp only
      rw [walk_finish]
      simp [judgedIn, Walk.perform]
    | progress => simp [judgedIn, Walk.perform, perform, walk_of_inTrial running inTrial]
    | tick =>
      show _ = ((tick rig e).1.walk, usages)
      by_cases ends : e.cursor.frameRate.elapsed (e.frameInTrial + 1).toNat ≥ e.config.trialDurationSecs
      · have judged : e.judgedIn rig .tick =
            [judgedUsage rig { e with frameInTrial := e.frameInTrial + 1 }] := by
          simp [judgedIn, running, ends, -UInt64.toNat_add]
        have walkEnds : Walk.ends e.config ⟨q, spec, e.frameInTrial⟩ = true := by
          simp [Walk.ends, inTrial.frameRate, ends, -UInt64.toNat_add]
        have settles : Grid.settle rig e.config b = Grid.settle rig₀ e.config b :=
          funext fun x => funext (Grid.settle_of_walksLike same)
        rw [judged, walk_tick_of_ends coherent running inTrial ends, Grid.step_of_walksLike same,
          settles]
        simp only [Walk.perform, walkEnds, if_true, List.cons_append, List.headD_cons,
          List.tail_cons]
        rfl
      · have walkGoes : Walk.ends e.config ⟨q, spec, e.frameInTrial⟩ = false := by
          simp [Walk.ends, inTrial.frameRate, ends, -UInt64.toNat_add]
        rw [walk_tick_of_continues running inTrial ends]
        simp [judgedIn, running, ends, Walk.perform, walkGoes, -UInt64.toNat_add]

theorem start_onWalk {e : Engine} (coherent : Coherent e)
    (started : (e.start rig b).value = .ok ()) :
    (e.start rig b).engine.budget = some b ∧
      (e.start rig b).engine.walk = Walk.first rig e.config b := by
  obtain ⟨stopped, ready⟩ := ready_of_started started
  rw [start_of_ready stopped ready]
  dsimp only
  refine ⟨budget_nextTrial rig (e := reset b e) rfl coherent.valid coherent.keyInterval
    coherent.firstRate, ?_⟩
  rw [walk_nextTrial rig (e := reset b e) rfl coherent.valid coherent.keyInterval
    coherent.firstRate, judge_idle (e := reset b e) (coherent.idle stopped)]
  rfl

theorem walk_runCalls {e : Engine} (coherent : Coherent e) (budget : e.budget = some b)
    (calls : List (Rig × Call)) (same : ∀ p ∈ calls, p.1.WalksLike rig₀)
    (noStart : ∀ p ∈ calls, ∀ b', p.2 ≠ .start b') (usages : List CpuUsage) :
    (calls.map Prod.snd).foldl (Walk.perform rig₀ e.config b)
        (e.walk, e.judgedAlong calls ++ usages) =
      ((runCalls perform e calls).1.walk, usages) := by
  -- induction on the calls; the engine after each call is coherent and keeps the budget and
  -- the configuration the walk reads
  induction calls generalizing e with
  | nil => rfl
  | cons p rest ih =>
    obtain ⟨rig, call⟩ := p
    have notStart : ∀ b', call ≠ .start b' := noStart (rig, call) List.mem_cons_self
    have walksLike : rig.WalksLike rig₀ := same (rig, call) List.mem_cons_self
    have moved := walk_perform coherent budget walksLike notStart
      ((e.perform rig call).1.judgedAlong rest ++ usages)
    have later := ih (coherent_perform coherent rig call)
      ((budget_perform coherent rig notStart).trans budget)
      (fun p member => same p (List.mem_cons_of_mem _ member))
      (fun p member => noStart p (List.mem_cons_of_mem _ member))
    rw [config_perform coherent rig call] at later
    simp only [List.map_cons, List.foldl_cons, judgedAlong, List.append_assoc]
    rw [moved]
    exact later

end Engine

open Engine in
/-- After a start that succeeds, the engine follows the walk call by call: for any calls but
starts, made with rigs under which the same encoders come up and the output profile takes the
same switches, the engine is where the walk is, judging trials on the usages the engine judges
them on, in order. While the run goes on, that is the grid point and the trial in flight and its
frames; once the walk runs out, or a stop or an outcome taken ends the run, it is off the walk. -/
theorem engine_follows_walk {config : Config} {rate : FrameRate} {e₀ : Engine}
    (built : new config rate = .ok e₀) (before : List (Rig × Call)) (rig₀ : Rig) (b : Budget)
    (started : ((runCalls perform e₀ before).1.start rig₀ b).value = .ok ())
    (calls : List (Rig × Call)) (same : ∀ p ∈ calls, p.1.WalksLike rig₀)
    (noStart : ∀ p ∈ calls, ∀ b', p.2 ≠ .start b') :
    let e₁ := ((runCalls perform e₀ before).1.start rig₀ b).engine
    (runCalls perform e₁ calls).1.walk =
      Walk.run rig₀ config b (calls.map Prod.snd) (e₁.judgedAlong calls) := by
  intro e₁
  have ready := coherent_runCalls built before
  obtain ⟨budget, first⟩ := start_onWalk ready started
  have configured : (runCalls perform e₀ before).1.config = config :=
    calc (runCalls perform e₀ before).1.config = e₀.config :=
          config_runCalls (coherent_new built) before
      _ = config := by rw [(new_eq built).2, initial_config]
  have startConfig : e₁.config = (runCalls perform e₀ before).1.config :=
    config_perform ready rig₀ (.start b)
  have followed := walk_runCalls (coherent_start ready) budget calls same noStart []
  rw [List.append_nil, first, startConfig, configured] at followed
  exact (congrArg Prod.fst followed).symm

/-- The walk after a start and one tick at the default configuration, with a rig whose encoders
all come up. -/
theorem engine_follows_walk_at_default :
    let e₀ : Engine := (Engine.initial {} FrameRate.fps30)
    let rig : Rig := ⟨fun _ => .ok (), fun _ => none, fun c => c.options.bitrateKbps,
      fun _ => {}, fun _ => none⟩
    let b : Budget := ⟨0.5, 0.9, 5000, 128, false, .file⟩
    let calls : List (Rig × Call) := [(rig, .tick)]
    Engine.new {} FrameRate.fps30 = .ok e₀ ∧
      ((runCalls Engine.perform e₀ []).1.start rig b).value = .ok () ∧
      (∀ p ∈ calls, p.1.WalksLike rig) ∧ (∀ p ∈ calls, ∀ b', p.2 ≠ .start b') ∧
      let e₁ := ((runCalls Engine.perform e₀ []).1.start rig b).engine
      (runCalls Engine.perform e₁ calls).1.walk =
        Walk.run rig {} b (calls.map Prod.snd) (e₁.judgedAlong calls) := by
  intro e₀ rig b calls
  have same : ∀ p ∈ calls, p.1.WalksLike rig := by
    simp [calls, Rig.WalksLike]
  have noStart : ∀ p ∈ calls, ∀ b', p.2 ≠ .start b' := by
    simp [calls]
  exact ⟨rfl, rfl, same, noStart, engine_follows_walk rfl [] rig b rfl calls same noStart⟩

end EncoderBench
