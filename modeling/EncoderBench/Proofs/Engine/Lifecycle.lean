import EncoderBench.Proofs.Engine.Calls
/-!
The life of trial encoders as the collaborators see it: `Encoders.observe` follows the effects
and refuses any the lifecycle does not allow. An engine keeps the lifecycle under any calls, and
its live encoder has had the frames `0, 1, 2, …` of the trial's 64-bit count in order.
-/
namespace EncoderBench

/-- The encoders between two effects: none live, one just built and not yet up, or one live
for a trial, with the number of the frame in order next and whether every frame so far came in
order. -/
inductive Encoders
  | quiet
  | built (config : EncoderConfig)
  | live (spec : TrialSpec) (next : UInt64) (ordered : Bool)

def Effect.feeds : Effect → Bool
  | .fed _ _ => true
  | _ => false

namespace Encoders

/-- The encoders after one effect, or `none` if the lifecycle does not allow it. -/
def observe (keyIntervalSecs : Nat) : Encoders → Effect → Option Encoders
  | .quiet, .created config => some (.built config)
  | .built config, .activated spec =>
    if config = EncoderConfig.ofSpec spec keyIntervalSecs then some (.live spec 0 true) else none
  | .built config, .refused spec _ =>
    if config = EncoderConfig.ofSpec spec keyIntervalSecs then some .quiet else none
  | .live spec next ordered, .fed frame _ =>
    some (.live spec (next + 1) (ordered && frame == next.toNat))
  | .live spec _ _, .deactivated spec' => if spec' = spec then some .quiet else none
  | .live spec next ordered, .sampleStarted _ => some (.live spec next ordered)
  | .quiet, .rateSwitch _ _ => some .quiet
  | _, _ => none

def observeAll (keyIntervalSecs : Nat) (m : Encoders) (effects : List Effect) : Option Encoders :=
  effects.foldlM (observe keyIntervalSecs) m

def Settled : Encoders → Option TrialSpec → Prop
  | .quiet, none => True
  | .live spec _ _, some trial => spec = trial
  | _, _ => False

variable {k : Nat} {m n : Encoders}

@[simp] theorem observeAll_nil : observeAll k m [] = some m := rfl

theorem observeAll_cons_of {x : Effect} {xs : List Effect} (first : observe k m x = some n) :
    observeAll k m (x :: xs) = observeAll k n xs := by
  simp [observeAll, List.foldlM_cons, first]

theorem observeAll_append_of {xs ys : List Effect} (first : observeAll k m xs = some n) :
    observeAll k m (xs ++ ys) = observeAll k n ys := by
  simp only [observeAll] at first ⊢
  rw [List.foldlM_append, first]
  rfl

theorem observeAll_probes {effects : List Effect} (probes : Probes k effects) :
    observeAll k quiet effects = some quiet := by
  induction probes with
  | nil => rfl
  | switch rate accepted _ ih => rw [observeAll_cons_of (n := .quiet) rfl, ih]
  | refused spec error _ ih =>
    rw [observeAll_cons_of rfl, observeAll_cons_of (n := .quiet) (by simp [observe]), ih]

theorem observeAll_runCalls {σ κ : Type} {perform : Rig → σ → κ → σ × List Effect}
    (tracks : σ → Encoders → Prop)
    (step : ∀ s m rig call, tracks s m →
      ∃ m', observeAll k m (perform rig s call).2 = some m' ∧ tracks (perform rig s call).1 m') :
    ∀ (calls : List (Rig × κ)) (s : σ) (m : Encoders), tracks s m →
      ∃ m', observeAll k m (runCalls perform s calls).2 = some m' ∧
        tracks (runCalls perform s calls).1 m'
  | [], _, m, tracked => ⟨m, rfl, tracked⟩
  | (rig, call) :: rest, s, m, tracked => by
    obtain ⟨m₁, first, tracked₁⟩ := step s m rig call tracked
    obtain ⟨m₂, later, tracked₂⟩ := observeAll_runCalls tracks step rest _ m₁ tracked₁
    exact ⟨m₂, by rw [runCalls, observeAll_append_of first, later], tracked₂⟩

end Encoders

inductive HarnessCall
  | begin (spec : TrialSpec)
  | feed (frame : Nat)
  | finish

namespace Harness

def perform (rig : Rig) (h : Harness) : HarnessCall → Harness × List Effect
  | .begin spec => ((h.beginTrial rig spec).1, (h.beginTrial rig spec).2.2)
  | .feed frame => (h, h.feed rig frame)
  | .finish => ((h.endTrial rig).1, (h.endTrial rig).2.2)

variable {rig : Rig}

theorem endTrial_eq (h : Harness) :
    h.endTrial rig = ({ h with live := none }, h.live.map fun spec => rig.bitrate (h.configFor spec),
      (h.live.map Effect.deactivated).toList) := by
  cases live : h.live with
  | none =>
    obtain ⟨keyIntervalSecs, live'⟩ := h
    cases live
    rfl
  | some spec => simp [endTrial, live]

theorem observe_endTrial (rig : Rig) {h : Harness} {m : Encoders} (settled : m.Settled h.live) :
    Encoders.observeAll h.keyIntervalSecs m (h.endTrial rig).2.2 = some .quiet := by
  rw [endTrial_eq]
  cases live : h.live with
  | none =>
    rw [live] at settled
    cases m <;> simp_all [Encoders.Settled]
  | some spec =>
    rw [live] at settled
    cases m <;> simp_all [Encoders.Settled, Encoders.observeAll, Encoders.observe]

theorem keyIntervalSecs_perform (h : Harness) (call : HarnessCall) :
    (h.perform rig call).1.keyIntervalSecs = h.keyIntervalSecs := by
  cases call with
  | begin spec =>
    simp only [perform, beginTrial, endTrial_eq]
    split <;> rfl
  | feed frame => rfl
  | finish => simp [perform, endTrial_eq]

theorem observe_perform (rig : Rig) {h : Harness} {m : Encoders} (settled : m.Settled h.live)
    (call : HarnessCall) :
    ∃ m', Encoders.observeAll h.keyIntervalSecs m (h.perform rig call).2 = some m' ∧
      m'.Settled (h.perform rig call).1.live := by
  cases call with
  | begin spec =>
    have ended := observe_endTrial rig settled
    rw [endTrial_eq] at ended
    cases activation : rig.activation (({ h with live := none } : Harness).configFor spec) with
    | error err =>
      refine ⟨.quiet, ?_, ?_⟩
      · simp only [perform, beginTrial, endTrial_eq, activation]
        rw [Encoders.observeAll_append_of ended]
        simp [Encoders.observeAll, Encoders.observe, configFor]
      · simp [perform, beginTrial, endTrial_eq, activation, Encoders.Settled]
    | ok u =>
      refine ⟨.live spec 0 true, ?_, ?_⟩
      · simp only [perform, beginTrial, endTrial_eq, activation]
        rw [Encoders.observeAll_append_of ended]
        simp [Encoders.observeAll, Encoders.observe, configFor]
      · simp [perform, beginTrial, endTrial_eq, activation, Encoders.Settled]
  | feed frame =>
    show ∃ m', Encoders.observeAll h.keyIntervalSecs m (h.feed rig frame) = some m' ∧
      m'.Settled h.live
    cases live : h.live with
    | none => exact ⟨m, by simp [feed, live], live ▸ settled⟩
    | some spec =>
      rw [live] at settled
      cases m with
      | live spec' next ordered =>
        exact ⟨.live spec' (next + 1) (ordered && frame == next.toNat), by
          simp [feed, live, Encoders.observeAll, Encoders.observe], settled⟩
      | quiet => exact absurd settled id
      | built config => exact absurd settled id
  | finish =>
    refine ⟨.quiet, observe_endTrial rig settled, ?_⟩
    simp [perform, endTrial_eq, Encoders.Settled]

end Harness

namespace Engine

variable {rig : Rig} {b : Budget}

/-- The encoders an engine stands for: its current trial's, live, given the trial's frames so
far in order. -/
def encoders (e : Engine) : Encoders :=
  match e.currentTrial with
  | none => .quiet
  | some spec => .live spec e.frameInTrial true

theorem encoders_of_idle {e : Engine} (idle : e.harness.live = none) : e.encoders = .quiet := by
  simp [encoders, currentTrial, idle]

theorem encoders_of_live {e : Engine} {spec : TrialSpec} (live : e.harness.live = some spec) :
    e.encoders = .live spec e.frameInTrial true := by
  simp [encoders, currentTrial, live]

theorem observe_lands {x : Bool} {e : Engine} {result : Engine × List Effect}
    (lands : Lands rig b x e [] result) :
    Encoders.observeAll e.config.keyIntervalSecs .quiet result.2 = some result.1.encoders := by
  obtain ⟨e', probes, probed, landed⟩ := lands
  have passed := Encoders.observeAll_probes probed
  split at landed
  · rename_i q spec _
    obtain ⟨-, rfl⟩ := landed
    rw [List.nil_append, Encoders.observeAll_append_of passed]
    simp [encoders, currentTrial, Encoders.observeAll, Encoders.observe]
  · obtain ⟨shifted, rfl⟩ := landed
    have idle : (finish rig e').1.harness.live = none := by rw [finish_fst]
    rw [List.nil_append, passed, encoders_of_idle idle]

theorem observe_nextTrial (rig : Rig) {e : Engine} (budget : e.budget = some b)
    (valid : e.config.problem? = none)
    (keyInterval : e.harness.keyIntervalSecs = e.config.keyIntervalSecs)
    (rate : e.config.frameRates[e.rateIndex]? = some e.cursor.frameRate) :
    Encoders.observeAll e.config.keyIntervalSecs e.encoders (nextTrial rig e).2 =
      some (nextTrial rig e).1.encoders := by
  obtain ⟨-, lands⟩ := nextTrial_lands rig (b := b) valid keyInterval rate
  have searched := observe_lands lands
  rw [show (judge rig b e).1.config = e.config by rw [judge_fst]] at searched
  have judged : Encoders.observeAll e.config.keyIntervalSecs e.encoders (judge rig b e).2.1 =
      some .quiet := by
    cases live : e.harness.live with
    | none => rw [judge_idle live, encoders_of_idle live]; rfl
    | some spec =>
      rw [judge_live live, encoders_of_live live]
      simp [Encoders.observeAll, Encoders.observe]
  rw [nextTrial_eq budget]
  exact (Encoders.observeAll_append_of judged).trans searched

theorem observe_warm {e : Engine} (coherent : Coherent e) (elapsed : Float) :
    Encoders.observeAll e.config.keyIntervalSecs e.encoders (warm e elapsed).2 =
      some (warm e elapsed).1.encoders := by
  unfold warm
  split
  · rename_i starts
    have running : e.isRunning = true := by simp_all
    obtain ⟨b, q, spec, inTrial⟩ := coherent.trial running
    simp [inTrial.live, Encoders.observeAll, Encoders.observe, encoders, currentTrial]
  · rfl

theorem observe_finish (e : Engine) :
    Encoders.observeAll e.config.keyIntervalSecs e.encoders (finish rig e).2 =
      some (finish rig e).1.encoders := by
  have idle : (finish rig e).1.harness.live = none := by rw [finish_fst]
  rw [finish_snd, encoders_of_idle idle]
  cases live : e.harness.live with
  | none => rw [encoders_of_idle live]; rfl
  | some spec =>
    rw [encoders_of_live live]
    simp [Encoders.observeAll, Encoders.observe]

theorem observe_feed (rig : Rig) {e : Engine} (coherent : Coherent e) (running : e.isRunning = true) :
    Encoders.observeAll e.config.keyIntervalSecs e.encoders (e.harness.feed rig e.frameInTrial.toNat) =
      some ({ e with frameInTrial := e.frameInTrial + 1 } : Engine).encoders := by
  obtain ⟨b, q, spec, inTrial⟩ := coherent.trial running
  simp [encoders, currentTrial, Harness.feed, inTrial.live, Encoders.observeAll, Encoders.observe]

theorem observe_startSwitch (k : Nat) (rig : Rig) (e : Engine) :
    Encoders.observeAll k .quiet (startSwitch rig e) = some .quiet := by
  unfold startSwitch
  split <;> rfl

theorem observe_perform {e : Engine} (coherent : Coherent e) (call : Call) :
    Encoders.observeAll e.config.keyIntervalSecs e.encoders (e.perform rig call).2 =
      some (e.perform rig call).1.encoders := by
  have performs := performs_perform rig e call
  generalize e.perform rig call = after at performs ⊢
  cases performs with
  | poll | busy | notRunning => rfl
  | refused b running =>
    dsimp only
    rw [encoders_of_idle (coherent.idle running)]
    exact observe_startSwitch _ rig e
  | started b running =>
    have searched := observe_nextTrial rig (e := reset b e) rfl coherent.valid
      coherent.keyInterval coherent.firstRate
    have idle : (reset b e).encoders = .quiet := encoders_of_idle (coherent.idle running)
    rw [idle] at searched
    dsimp only
    rw [encoders_of_idle (coherent.idle running)]
    exact (Encoders.observeAll_append_of (observe_startSwitch _ rig e)).trans searched
  | ended => exact observe_finish e
  | trialEnds running =>
    obtain ⟨b, q, spec, inTrial⟩ := coherent.trial running
    have judged := observe_nextTrial rig
      inTrial.counted.budget coherent.valid coherent.keyInterval inTrial.counted.rate
    have next := coherent_nextTrial rig
      inTrial.counted.budget coherent.valid coherent.keyInterval inTrial.counted.rate
    have warmed := observe_warm next 0.0
    rw [config_nextTrial inTrial.counted.budget coherent.valid coherent.keyInterval
      inTrial.counted.rate] at warmed
    dsimp only
    rw [List.append_assoc, Encoders.observeAll_append_of (observe_feed rig coherent running),
      Encoders.observeAll_append_of judged, warmed]
  | trialGoes running =>
    dsimp only
    rw [Encoders.observeAll_append_of (observe_feed rig coherent running)]
    exact observe_warm coherent.counted _

theorem observe_runCalls {config : Config} {rate : FrameRate} {e₀ : Engine}
    (built : new config rate = .ok e₀) (calls : List (Rig × Call)) :
    Encoders.quiet.observeAll config.keyIntervalSecs (runCalls perform e₀ calls).2 =
      some (runCalls perform e₀ calls).1.encoders := by
  obtain ⟨-, fresh⟩ := new_eq built
  let tracks (e : Engine) (m : Encoders) : Prop :=
    Coherent e ∧ e.config.keyIntervalSecs = config.keyIntervalSecs ∧ m = e.encoders
  have step : ∀ e m rig call, tracks e m → ∃ m',
      Encoders.observeAll config.keyIntervalSecs m (e.perform rig call).2 = some m' ∧
        tracks (e.perform rig call).1 m' := by
    rintro e m rig call ⟨coherent, keyInterval, rfl⟩
    refine ⟨_, keyInterval ▸ observe_perform coherent call, coherent_perform coherent rig call, ?_,
      rfl⟩
    rw [config_perform coherent rig call, keyInterval]
  have start : tracks e₀ .quiet :=
    ⟨coherent_new built, by rw [fresh, initial_config], by rw [fresh]; rfl⟩
  obtain ⟨m, observed, -, -, rfl⟩ := Encoders.observeAll_runCalls tracks step calls e₀ _ start
  exact observed

theorem judge_effects (e : Engine) :
    (judge rig b e).2.1 = (e.harness.live.map Effect.deactivated).toList := by
  cases live : e.harness.live with
  | none => rw [judge_idle live]; rfl
  | some spec => rw [judge_live live]; rfl

theorem countP_feeds_probes {k : Nat} {effects : List Effect} (probes : Probes k effects) :
    effects.countP Effect.feeds = 0 := by
  induction probes <;> simp_all [Effect.feeds]

theorem countP_feeds_nextTrial (rig : Rig) {e : Engine} (budget : e.budget = some b)
    (valid : e.config.problem? = none)
    (keyInterval : e.harness.keyIntervalSecs = e.config.keyIntervalSecs)
    (rate : e.config.frameRates[e.rateIndex]? = some e.cursor.frameRate) :
    (nextTrial rig e).2.countP Effect.feeds = 0 := by
  obtain ⟨-, e', probes, probed, landed⟩ := nextTrial_lands rig (b := b) valid keyInterval
    rate
  have passed := countP_feeds_probes probed
  have judged : (judge rig b e).2.1.countP Effect.feeds = 0 := by
    rw [judge_effects]
    cases e.harness.live <;> rfl
  rw [nextTrial_eq budget]
  split at landed <;> obtain ⟨-, landed⟩ := landed <;>
    simp [landed, List.countP_append, judged, passed, Effect.feeds]

theorem countP_feeds_warm (e : Engine) (elapsed : Float) :
    (warm e elapsed).2.countP Effect.feeds = 0 := by
  unfold warm
  split <;> rfl

theorem countP_feeds_finish (e : Engine) : (finish rig e).2.countP Effect.feeds = 0 := by
  rw [finish_snd]
  cases e.harness.live <;> rfl

theorem countP_feeds_feed (rig : Rig) {e : Engine} (coherent : Coherent e)
    (running : e.isRunning = true) :
    (e.harness.feed rig e.frameInTrial.toNat).countP Effect.feeds = 1 := by
  obtain ⟨b, q, spec, inTrial⟩ := coherent.trial running
  simp [Harness.feed, inTrial.live, Effect.feeds]

theorem countP_feeds_perform {e : Engine} (coherent : Coherent e) (call : Call) :
    (e.perform rig call).2.countP Effect.feeds =
      match call with
      | .tick => if e.isRunning then 1 else 0
      | _ => 0 := by
  have switched : (startSwitch rig e).countP Effect.feeds = 0 := by
    unfold startSwitch
    split <;> rfl
  have performs := performs_perform rig e call
  generalize e.perform rig call = after at performs ⊢
  cases performs with
  | poll | busy => rfl
  | refused b => exact switched
  | started b =>
    simp only [List.countP_append, switched, countP_feeds_nextTrial rig
      (e := reset b e) rfl coherent.valid coherent.keyInterval coherent.firstRate]
  | notRunning running notStart =>
    cases call with
    | start b => exact absurd rfl (notStart b)
    | tick => simp [running]
    | stop | progress | intoOutcome => rfl
  | ended running which =>
    rcases which with rfl | rfl <;> exact countP_feeds_finish e
  | trialEnds running =>
    obtain ⟨b, q, spec, inTrial⟩ := coherent.trial running
    simp only [List.countP_append, countP_feeds_feed rig coherent running, countP_feeds_warm,
      countP_feeds_nextTrial rig inTrial.counted.budget coherent.valid coherent.keyInterval
        inTrial.counted.rate, running, ite_true]
  | trialGoes running =>
    simp only [List.countP_append, countP_feeds_feed rig coherent running, countP_feeds_warm,
      running, ite_true]

end Engine

namespace Harness

theorem observe_runCalls (keyIntervalSecs : Nat) (calls : List (Rig × HarnessCall)) :
    ∃ m, Encoders.quiet.observeAll keyIntervalSecs
        (runCalls perform ({ keyIntervalSecs } : Harness) calls).2 = some m ∧
      m.Settled (runCalls perform ({ keyIntervalSecs } : Harness) calls).1.live := by
  let tracks (h : Harness) (m : Encoders) : Prop :=
    h.keyIntervalSecs = keyIntervalSecs ∧ m.Settled h.live
  have step : ∀ h m rig call, tracks h m → ∃ m',
      Encoders.observeAll keyIntervalSecs m (h.perform rig call).2 = some m' ∧
        tracks (h.perform rig call).1 m' := by
    rintro h m rig call ⟨keyInterval, settled⟩
    obtain ⟨m', observed, settled'⟩ := observe_perform rig settled call
    exact ⟨m', keyInterval ▸ observed, (keyIntervalSecs_perform h call).trans keyInterval,
      settled'⟩
  obtain ⟨m, observed, -, settled⟩ :=
    Encoders.observeAll_runCalls tracks step calls { keyIntervalSecs } .quiet ⟨rfl, trivial⟩
  exact ⟨m, observed, settled⟩

end Harness

/-- Encoders live one at a time. On a harness alone, under any calls, an encoder is built only
when none is live, comes up for its trial or is taken down at once, takes frames only while
live, and is taken down once, its bitrate reported by the ending that takes it down. On a new
engine, under any calls, the same holds; between calls the live encoder is the current trial's,
present exactly while a run is in progress, and has been given the frames `0, 1, …` of its
trial in order, one per tick. -/
theorem encoders_live_one_at_a_time {config : Config} {rate : FrameRate} {e₀ : Engine}
    (built : Engine.new config rate = .ok e₀) (calls : List (Rig × Call))
    (keyIntervalSecs : Nat) (harnessCalls : List (Rig × HarnessCall)) :
    (∃ m, Encoders.quiet.observeAll keyIntervalSecs
        (runCalls Harness.perform ({ keyIntervalSecs } : Harness) harnessCalls).2 = some m ∧
      m.Settled (runCalls Harness.perform ({ keyIntervalSecs } : Harness) harnessCalls).1.live) ∧
    (∀ (h : Harness) (rig rig' : Rig),
      (h.endTrial rig).2.1 = h.live.map (fun spec => rig.bitrate (h.configFor spec)) ∧
        ((h.endTrial rig).1.endTrial rig').2.1 = none) ∧
    Encoders.quiet.observeAll config.keyIntervalSecs (runCalls Engine.perform e₀ calls).2 =
      some (runCalls Engine.perform e₀ calls).1.encoders ∧
    (runCalls Engine.perform e₀ calls).1.currentTrial.isSome =
      (runCalls Engine.perform e₀ calls).1.isRunning ∧
    ∀ (rig : Rig) (call : Call),
      ((runCalls Engine.perform e₀ calls).1.perform rig call).2.countP Effect.feeds =
        match call with
        | .tick => if (runCalls Engine.perform e₀ calls).1.isRunning then 1 else 0
        | _ => 0 := by
  have coherent := Engine.coherent_runCalls built calls
  refine ⟨Harness.observe_runCalls keyIntervalSecs harnessCalls, fun h rig rig' => ⟨?_, ?_⟩,
    Engine.observe_runCalls built calls, coherent.live,
    fun rig call => Engine.countP_feeds_perform coherent call⟩
  · rw [Harness.endTrial_eq]
  · rw [Harness.endTrial_eq, Harness.endTrial_eq]
    rfl

/-- The lifecycle at a new engine of the default configuration and a harness, before any call. -/
theorem encoders_live_one_at_a_time_at_default :
    Engine.new {} FrameRate.fps30 = .ok (Engine.initial {} FrameRate.fps30) ∧
    ((∃ m, Encoders.quiet.observeAll 2
        (runCalls Harness.perform ({ keyIntervalSecs := 2 } : Harness) []).2 = some m ∧
      m.Settled (runCalls Harness.perform ({ keyIntervalSecs := 2 } : Harness) []).1.live) ∧
    (∀ (h : Harness) (rig rig' : Rig),
      (h.endTrial rig).2.1 = h.live.map (fun spec => rig.bitrate (h.configFor spec)) ∧
        ((h.endTrial rig).1.endTrial rig').2.1 = none) ∧
    Encoders.quiet.observeAll ({} : Config).keyIntervalSecs
        (runCalls Engine.perform (Engine.initial {} FrameRate.fps30) []).2 =
      some (runCalls Engine.perform (Engine.initial {} FrameRate.fps30) []).1.encoders ∧
    (runCalls Engine.perform (Engine.initial {} FrameRate.fps30) []).1.currentTrial.isSome =
      (runCalls Engine.perform (Engine.initial {} FrameRate.fps30) []).1.isRunning ∧
    ∀ (rig : Rig) (call : Call),
      ((runCalls Engine.perform (Engine.initial {} FrameRate.fps30) []).1.perform rig
          call).2.countP Effect.feeds =
        match call with
        | .tick =>
          if (runCalls Engine.perform (Engine.initial {} FrameRate.fps30) []).1.isRunning then 1
          else 0
        | _ => 0) :=
  ⟨rfl, encoders_live_one_at_a_time rfl [] 2 []⟩

end EncoderBench
