import EncoderBench.Proofs.Engine.Walk
import EncoderBench.Proofs.Engine.Sampling
/-!
The search under a cost that grows with the output size. With cooperative collaborators, at each
frame rate the search climbs a staircase, and when a preset that fits a size fits every smaller
one it records each size below the first that nothing fits, once, with its first preset that
fits. The invariant `Climbing` carries this along the walk.
-/
namespace EncoderBench

def TrialResult.setting (r : TrialResult) : Preset × Resolution × FrameRate :=
  (r.preset, r.size, r.frameRate)

@[simp] theorem TrialResult.setting_unflagged (r : TrialResult) : r.unflagged.setting = r.setting :=
  rfl

namespace Grid

variable (c : Config) (b : Budget) (cost : TrialSpec → CpuUsage)

def fits (q : GridPoint) : Bool :=
  match trialAt c b q with
  | some spec => !b.exceededBy (cost spec).own (cost spec).system
  | none => false

def firstFit (f s : Nat) : Option Nat :=
  (List.range c.presets.length).find? fun p => fits c b cost ⟨f, p, s⟩

def fitSizes (f : Nat) : Nat :=
  ((List.range c.sizes.length).find? fun s => (firstFit c b cost f s).isNone).getD c.sizes.length

def stairs (f : Nat) : List GridPoint :=
  (List.range (fitSizes c b cost f)).map fun s => ⟨f, (firstFit c b cost f s).getD 0, s⟩

def label (q : GridPoint) : Preset × Resolution × FrameRate :=
  (c.presets[q.preset]!, c.sizes[q.size]!, c.frameRates[q.rate]!)

/-- The settings the search records over all frame rates, in order. -/
def staircase : List (Preset × Resolution × FrameRate) :=
  ((List.range c.frameRates.length).flatMap (stairs c b cost)).map (label c)

def recorded (q : GridPoint) : List GridPoint :=
  (List.range q.rate).flatMap (stairs c b cost) ++ (stairs c b cost q.rate).take q.size

/-- The search stands at `q` having recorded `settings`: no preset before its own fits its size,
every size before it has a preset that fits, and what it recorded is the staircase so far. -/
structure Climbing (q : GridPoint) (settings : List (Preset × Resolution × FrameRate)) : Prop where
  below : ∀ p < q.preset, fits c b cost ⟨q.rate, p, q.size⟩ = false
  reached : q.size ≤ fitSizes c b cost q.rate
  recorded : settings = (recorded c b cost q).map (label c)

def Continues : Option GridPoint → List (Preset × Resolution × FrameRate) → Prop
  | some q, settings => Climbing c b cost q settings
  | none, settings => settings = staircase c b cost

/-- Every encoder comes up and the output profile takes every configured frame rate. -/
def Cooperative (rig : Rig) : Prop :=
  (∀ config, rig.activation config = .ok ()) ∧ ∀ rate ∈ c.frameRates, rig.refusal rate = none

def Unskipped : Prop :=
  ∀ f (rate : f < c.frameRates.length) s (size : s < c.sizes.length),
    Bitrate.forTrial (Bitrate.ideal c.sizes[s] c.frameRates[f] b.highAction) (s == 0) b.target
      b.maxVideoKbps ≠ .skip

/-- A preset that fits a size fits every smaller one, at every frame rate. -/
def SizeMonotone : Prop :=
  ∀ f p s, fits c b cost ⟨f, p, s + 1⟩ = true → fits c b cost ⟨f, p, s⟩ = true

variable {c b cost}

theorem fits_of_trialAt {q : GridPoint} {spec : TrialSpec} (trial : trialAt c b q = some spec) :
    fits c b cost q = !b.exceededBy (cost spec).own (cost spec).system := by
  simp [fits, trial]

theorem inside_of_trialAt {q : GridPoint} {spec : TrialSpec} (trial : trialAt c b q = some spec) :
    q.rate < c.frameRates.length ∧ q.preset < c.presets.length ∧ q.size < c.sizes.length := by
  obtain ⟨preset, size, rate, -⟩ := trialAt_spec c b trial
  exact ⟨(List.getElem?_eq_some_iff.mp rate).1, (List.getElem?_eq_some_iff.mp preset).1,
    (List.getElem?_eq_some_iff.mp size).1⟩

theorem inside_of_fits {q : GridPoint} (fit : fits c b cost q = true) :
    q.preset < c.presets.length ∧ q.size < c.sizes.length := by
  unfold fits at fit
  split at fit
  · rename_i spec trial
    exact (inside_of_trialAt trial).2
  · cases fit

theorem label_of_trialAt {q : GridPoint} {spec : TrialSpec} (trial : trialAt c b q = some spec) :
    label c q = (spec.preset, spec.size, spec.frameRate) := by
  obtain ⟨preset, size, rate, -⟩ := trialAt_spec c b trial
  simp [label, getElem!_def, preset, size, rate]

theorem firstFit_eq_some {f p s : Nat} (fit : fits c b cost ⟨f, p, s⟩ = true)
    (below : ∀ p' < p, fits c b cost ⟨f, p', s⟩ = false) : firstFit c b cost f s = some p := by
  rw [firstFit, List.find?_range_eq_some]
  exact ⟨fit, List.mem_range.mpr (inside_of_fits fit).1, fun p' earlier => by simp [below p' earlier]⟩

theorem firstFit_eq_none {f s : Nat}
    (noFit : ∀ p < c.presets.length, fits c b cost ⟨f, p, s⟩ = false) :
    firstFit c b cost f s = none := by
  rw [firstFit, List.find?_range_eq_none]
  intro p inside
  simp [noFit p inside]

theorem fitSizes_le (f : Nat) : fitSizes c b cost f ≤ c.sizes.length := by
  unfold fitSizes
  cases first : (List.range c.sizes.length).find? fun s => (firstFit c b cost f s).isNone with
  | none => simp
  | some s =>
    have inside := (List.find?_range_eq_some.mp first).2.1
    simpa using Nat.le_of_lt (List.mem_range.mp inside)

theorem firstFit_isSome_of_lt {f s : Nat} (before : s < fitSizes c b cost f) :
    (firstFit c b cost f s).isSome := by
  unfold fitSizes at before
  cases first : (List.range c.sizes.length).find? fun s => (firstFit c b cost f s).isNone with
  | none =>
    rw [first, Option.getD_none] at before
    simpa using List.find?_range_eq_none.mp first s before
  | some k =>
    rw [first, Option.getD_some] at before
    simpa using (List.find?_range_eq_some.mp first).2.2 s before

theorem fitSizes_le_of_none {f s : Nat} (noFit : firstFit c b cost f s = none) :
    fitSizes c b cost f ≤ s := by
  apply Nat.le_of_not_lt
  intro after
  have := firstFit_isSome_of_lt after
  rw [noFit] at this
  cases this

theorem lt_fitSizes {f p s : Nat} (reached : s ≤ fitSizes c b cost f)
    (first : firstFit c b cost f s = some p) : s < fitSizes c b cost f := by
  have fit := (List.find?_range_eq_some.mp first).1
  have inside : s < c.sizes.length := (inside_of_fits fit).2
  rcases Nat.lt_or_eq_of_le reached with before | atEnd
  · exact before
  · unfold fitSizes at atEnd
    cases found : (List.range c.sizes.length).find? fun s => (firstFit c b cost f s).isNone with
    | none =>
      rw [found, Option.getD_none] at atEnd
      omega
    | some k =>
      rw [found, Option.getD_some] at atEnd
      have noFit := (List.find?_range_eq_some.mp found).1
      rw [← atEnd, first] at noFit
      cases noFit

theorem stairs_take_succ {f s : Nat} (before : s < fitSizes c b cost f) :
    (stairs c b cost f).take (s + 1) =
      (stairs c b cost f).take s ++ [⟨f, (firstFit c b cost f s).getD 0, s⟩] := by
  simp only [stairs, ← List.map_take, List.take_range, Nat.min_eq_left before,
    Nat.min_eq_left (Nat.le_of_lt before), List.range_succ, List.map_append, List.map_cons,
    List.map_nil]

theorem recorded_corner (f : Nat) :
    recorded c b cost ⟨f, 0, 0⟩ = (List.range f).flatMap (stairs c b cost) := by
  simp [recorded]

theorem recorded_next_rate (f : Nat) :
    recorded c b cost ⟨f + 1, 0, 0⟩ =
      (List.range f).flatMap (stairs c b cost) ++ stairs c b cost f := by
  simp [recorded_corner, List.range_succ]

theorem recorded_done {f p s : Nat} (done : s = fitSizes c b cost f) :
    recorded c b cost ⟨f, p, s⟩ = recorded c b cost ⟨f + 1, 0, 0⟩ := by
  rw [recorded_next_rate, recorded]
  dsimp only
  rw [List.take_of_length_le (by simp [stairs, done])]

theorem switch_of_cooperative {rig : Rig} (coop : Cooperative c rig) (f : Nat) :
    switch rig c f = if f + 1 < c.frameRates.length then some ⟨f + 1, 0, 0⟩ else none := by
  unfold switch
  cases next : c.frameRates[f + 1]? with
  | none =>
    have outside : ¬ f + 1 < c.frameRates.length := by
      simpa [List.getElem?_eq_none_iff] using next
    simp [outside]
  | some rate =>
    have inside : f + 1 < c.frameRates.length := (List.getElem?_eq_some_iff.mp next).1
    simp [inside, coop.2 rate (List.mem_of_getElem? next)]

theorem settle_inside {rig : Rig} {x : Bool} (coop : Cooperative c rig) (unskipped : Unskipped c b)
    {q : GridPoint} (rate : q.rate < c.frameRates.length) (preset : q.preset < c.presets.length)
    (size : q.size < c.sizes.length) :
    ∃ spec, trialAt c b q = some spec ∧ settle rig c b x q = some (q, spec) := by
  obtain ⟨kbps, choice⟩ : ∃ kbps, Bitrate.forTrial (Bitrate.ideal c.sizes[q.size]
      c.frameRates[q.rate] b.highAction) (q.size == 0) b.target b.maxVideoKbps = .use kbps := by
    cases chosen : Bitrate.forTrial (Bitrate.ideal c.sizes[q.size] c.frameRates[q.rate]
        b.highAction) (q.size == 0) b.target b.maxVideoKbps with
    | use kbps => exact ⟨kbps, rfl⟩
    | skip => exact absurd chosen (unskipped q.rate rate q.size size)
  have trial : trialAt c b q =
      some ⟨c.presets[q.preset], c.sizes[q.size], c.frameRates[q.rate], kbps⟩ := by
    simp [trialAt, List.getElem?_eq_getElem preset, List.getElem?_eq_getElem size,
      List.getElem?_eq_getElem rate, choice]
  refine ⟨_, trial, settle_found rig c b ?_⟩
  simp [trial, comesUp, coop.1, Except.toBool]

theorem continues_switch {rig : Rig} {x : Bool} (coop : Cooperative c rig)
    (unskipped : Unskipped c b) (presets : 0 < c.presets.length) (sizes : 0 < c.sizes.length)
    {f : Nat} (rate : f < c.frameRates.length) :
    Continues c b cost (((switch rig c f).bind (settle rig c b x)).map Prod.fst)
      ((recorded c b cost ⟨f + 1, 0, 0⟩).map (label c)) := by
  rw [switch_of_cooperative coop]
  by_cases next : f + 1 < c.frameRates.length
  · obtain ⟨spec, -, settled⟩ := settle_inside (x := x) coop unskipped (q := ⟨f + 1, 0, 0⟩) next
      presets sizes
    rw [if_pos next, Option.bind_some, settled]
    exact ⟨fun p earlier => absurd earlier (Nat.not_lt_zero p), Nat.zero_le _, rfl⟩
  · have last : f + 1 = c.frameRates.length := by omega
    rw [if_neg next]
    show _ = staircase c b cost
    rw [recorded_corner, last]
    rfl

section Climb

variable {rig : Rig} (coop : Cooperative c rig) (unskipped : Unskipped c b) {f p s : Nat}
  {settings : List (Preset × Resolution × FrameRate)} (climbing : Climbing c b cost ⟨f, p, s⟩ settings)
  (rate : f < c.frameRates.length) (preset : p < c.presets.length) (size : s < c.sizes.length)
include coop unskipped climbing rate preset size

theorem continues_kept (monotone : SizeMonotone c b cost) (fit : fits c b cost ⟨f, p, s⟩ = true) :
    Continues c b cost (((step rig c false ⟨f, p, s⟩).bind (settle rig c b false)).map Prod.fst)
      (settings ++ [label c ⟨f, p, s⟩]) := by
  have first := firstFit_eq_some fit climbing.below
  have before : s < fitSizes c b cost f := lt_fitSizes climbing.reached first
  have settings' : settings ++ [label c ⟨f, p, s⟩] =
      (recorded c b cost ⟨f, p, s + 1⟩).map (label c) := by
    simp [climbing.recorded, recorded, stairs_take_succ before, first]
  rw [settings']
  simp only [step, Bool.false_eq_true, ite_false]
  by_cases larger : p < c.presets.length ∧ s + 1 < c.sizes.length
  · obtain ⟨spec', -, settled⟩ := settle_inside (x := false) coop unskipped (q := ⟨f, p, s + 1⟩)
      rate larger.1 larger.2
    rw [if_pos larger, Option.bind_some, settled]
    refine ⟨fun p' earlier => ?_, before, rfl⟩
    cases larger' : fits c b cost ⟨f, p', s + 1⟩
    · rfl
    · have smaller := monotone f p' s larger'
      have notFit : fits c b cost ⟨f, p', s⟩ = false := climbing.below p' earlier
      rw [notFit] at smaller
      cases smaller
  · have done : s + 1 = fitSizes c b cost f := by
      have bounded : fitSizes c b cost f ≤ c.sizes.length := fitSizes_le f
      omega
    rw [if_neg larger, recorded_done done]
    exact continues_switch coop unskipped (by omega) (by omega) rate

theorem continues_broke (unfit : fits c b cost ⟨f, p, s⟩ = false) :
    Continues c b cost (((step rig c true ⟨f, p, s⟩).bind (settle rig c b true)).map Prod.fst)
      settings := by
  simp only [step, ite_true]
  by_cases faster : p + 1 < c.presets.length ∧ s < c.sizes.length
  · obtain ⟨spec', -, settled⟩ := settle_inside (x := true) coop unskipped (q := ⟨f, p + 1, s⟩)
      rate faster.1 faster.2
    rw [if_pos faster, Option.bind_some, settled]
    refine ⟨fun p' earlier => ?_, climbing.reached, climbing.recorded⟩
    rcases Nat.lt_succ_iff_lt_or_eq.mp earlier with earlier | rfl
    · exact climbing.below p' earlier
    · exact unfit
  · have noFit : firstFit c b cost f s = none := by
      apply firstFit_eq_none
      intro p' inside
      rcases Nat.lt_or_ge p' p with earlier | later
      · exact climbing.below p' earlier
      · have atLast : p' = p := by omega
        rw [atLast]
        exact unfit
    have done : s = fitSizes c b cost f :=
      Nat.le_antisymm climbing.reached (fitSizes_le_of_none noFit)
    rw [if_neg faster, climbing.recorded, recorded_done done]
    exact continues_switch coop unskipped (by omega) (by omega) rate

end Climb

theorem continues_step {rig : Rig} (coop : Cooperative c rig) (unskipped : Unskipped c b)
    (monotone : SizeMonotone c b cost) {q : GridPoint} {spec : TrialSpec}
    {settings : List (Preset × Resolution × FrameRate)} (climbing : Climbing c b cost q settings)
    (trial : trialAt c b q = some spec) :
    Continues c b cost
      (((step rig c (b.exceededBy (cost spec).own (cost spec).system) q).bind
        (settle rig c b (b.exceededBy (cost spec).own (cost spec).system))).map Prod.fst)
      (if b.exceededBy (cost spec).own (cost spec).system then settings
        else settings ++ [label c q]) := by
  obtain ⟨f, p, s⟩ := q
  obtain ⟨rate, preset, size⟩ : f < c.frameRates.length ∧ p < c.presets.length ∧
      s < c.sizes.length := inside_of_trialAt trial
  have verdict : fits c b cost ⟨f, p, s⟩ = !b.exceededBy (cost spec).own (cost spec).system :=
    fits_of_trialAt trial
  cases exceeded : b.exceededBy (cost spec).own (cost spec).system
  · rw [exceeded] at verdict
    rw [if_neg Bool.false_ne_true]
    exact continues_kept coop unskipped climbing rate preset size monotone verdict
  · rw [exceeded] at verdict
    rw [if_pos rfl]
    exact continues_broke coop unskipped climbing rate preset size verdict

end Grid

namespace Engine

variable {rig : Rig} {b : Budget} {c : Config} {cost : TrialSpec → CpuUsage}

/-- Where a run stands on the staircase, by the engine's place on the walk and its results. -/
def OnStaircase (c : Config) (b : Budget) (cost : TrialSpec → CpuUsage) (e : Engine) : Prop :=
  Grid.Continues c b cost (e.walk.map Walk.point) (e.results.map TrialResult.setting)

def JudgedOn (cost : TrialSpec → CpuUsage) : Engine → List Rig → Prop
  | _, [] => True
  | e, rig :: rest =>
    (e.EndsTrial → ∀ spec, e.harness.live = some spec → judgedUsage rig e = cost spec) ∧
      JudgedOn cost (tick rig e).1 rest

theorem results_tick_of_ends (rig : Rig) {e : Engine} {q : GridPoint} {spec : TrialSpec}
    (coherent : Coherent e) (running : e.isRunning = true) (inTrial : InTrial e b q spec)
    (ends : e.cursor.frameRate.elapsed (e.frameInTrial + 1).toNat ≥ e.config.trialDurationSecs) :
    (tick rig e).1.results.map TrialResult.setting =
      if broke rig b { e with frameInTrial := e.frameInTrial + 1 } then
        e.results.map TrialResult.setting
      else e.results.map TrialResult.setting ++ [(spec.preset, spec.size, spec.frameRate)] := by
  have recorded := results_nextTrial rig inTrial.counted coherent.valid coherent.keyInterval
  rw [tick_of_ends running ends]
  dsimp only
  rw [(warm_fst _ _).1]
  dsimp only
  have settings := congrArg (List.map TrialResult.setting) recorded
  simp only [List.map_map] at settings
  have forget : TrialResult.setting ∘ TrialResult.unflagged = TrialResult.setting := rfl
  rw [forget] at settings
  rw [settings]
  cases broke rig b { e with frameInTrial := e.frameInTrial + 1 } <;>
    simp [record, TrialResult.setting]

theorem onStaircase_tick (rig : Rig) {e : Engine} (coherent : Coherent e) (budget : e.budget = some b)
    (configured : e.config = c) (coop : Grid.Cooperative c rig) (unskipped : Grid.Unskipped c b)
    (monotone : Grid.SizeMonotone c b cost)
    (judged : e.EndsTrial → ∀ spec, e.harness.live = some spec → judgedUsage rig e = cost spec)
    (on : OnStaircase c b cost e) : OnStaircase c b cost (tick rig e).1 := by
  cases running : e.isRunning
  · rw [tick_of_stopped running]
    exact on
  · obtain ⟨b', q, spec, inTrial⟩ := coherent.trial running
    have same : b' = b := Option.some.inj (inTrial.budget.symm.trans budget)
    subst same
    have trial : Grid.trialAt c b' q = some spec := configured ▸ inTrial.trial
    have climbing : Grid.Climbing c b' cost q (e.results.map TrialResult.setting) := by
      have := on
      rw [OnStaircase, walk_of_inTrial running inTrial] at this
      exact this
    by_cases ends : e.cursor.frameRate.elapsed (e.frameInTrial + 1).toNat ≥ e.config.trialDurationSecs
    · have usage : judgedUsage rig e = cost spec := judged ⟨running, ends⟩ spec inTrial.live
      have verdict : broke rig b' { e with frameInTrial := e.frameInTrial + 1 } =
          b'.exceededBy (cost spec).own (cost spec).system := by
        simp only [broke]
        rw [← usage]
        rfl
      have results := results_tick_of_ends rig coherent running inTrial ends
      have moved : (tick rig e).1.walk = _ := walk_tick_of_ends coherent running inTrial ends
      have next := Grid.continues_step coop unskipped monotone climbing trial
      rw [OnStaircase, moved, results, Option.map_map, verdict, configured,
        ← Grid.label_of_trialAt trial]
      exact next
    · rw [OnStaircase, walk_tick_of_continues running inTrial ends]
      rw [tick_of_continues running ends]
      dsimp only
      rw [(warm_fst _ _).1]
      exact climbing

theorem onStaircase_ticks (rigs : List Rig) {e : Engine} (coherent : Coherent e)
    (budget : e.budget = some b) (configured : e.config = c)
    (coops : ∀ rig ∈ rigs, Grid.Cooperative c rig) (unskipped : Grid.Unskipped c b)
    (monotone : Grid.SizeMonotone c b cost) (judged : JudgedOn cost e rigs)
    (on : OnStaircase c b cost e) :
    OnStaircase c b cost (runCalls perform e (rigs.map fun rig => (rig, Call.tick))).1 := by
  -- induction on the ticks; each keeps the invariant, the budget and the configuration
  induction rigs generalizing e with
  | nil => exact on
  | cons rig rest ih =>
    have notStart : ∀ b', Call.tick ≠ .start b' := fun _ => nofun
    exact ih (coherent_perform coherent rig .tick)
      ((budget_perform coherent rig notStart).trans budget)
      ((config_perform coherent rig .tick).trans configured)
      (fun rig' member => coops rig' (List.mem_cons_of_mem _ member)) judged.2
      (onStaircase_tick rig coherent budget configured (coops rig List.mem_cons_self) unskipped
        monotone judged.1 on)

def sampledAlong : Engine → List Rig → Bool
  | _, [] => true
  | e, rig :: rest =>
    (!(e.isRunning && decide (e.cursor.frameRate.elapsed (e.frameInTrial + 1).toNat ≥
        e.config.trialDurationSecs)) || e.sample.isSome) &&
      sampledAlong (tick rig e).1 rest

theorem judgedOn_of_sampled (rigs : List Rig) {e : Engine} {began : Prop} (coherent : Coherent e)
    (room : e.isRunning = true → e.frameInTrial.toNat + rigs.length < Nat.pow 2 64)
    (sampled : SampledAsDue e began)
    (reads : ∀ rig ∈ rigs, ∀ s spec, s.trial = some spec → rig.usage s = cost spec)
    (along : sampledAlong e rigs = true) : JudgedOn cost e rigs := by
  induction rigs generalizing e began with
  | nil => trivial
  | cons rig rest ih =>
    simp only [sampledAlong, Bool.and_eq_true] at along
    obtain ⟨now, later⟩ := along
    refine ⟨fun ends spec live => ?_, ih (coherent_tick coherent) (room_tick rig coherent room)
      (sampledAsDue_tick rig coherent (fun running => Nat.lt_of_le_of_lt
        (Nat.add_le_add_left (Nat.le_add_left 1 rest.length) _) (room running)) sampled)
      (fun rig' member => reads rig' (List.mem_cons_of_mem _ member)) later⟩
    obtain ⟨running, reached⟩ := ends
    have present : e.sample.isSome = true := by simpa [running, reached, -UInt64.toNat_add] using now
    obtain ⟨s, sample⟩ := Option.isSome_iff_exists.mp present
    have own : s.trial = some spec := (sampled.own s sample).1.trans live
    simp [judgedUsage, sample, reads rig List.mem_cons_self s spec own]

theorem onStaircase_start {e : Engine} (coherent : Coherent e) (configured : e.config = c)
    (coop : Grid.Cooperative c rig) (unskipped : Grid.Unskipped c b)
    (started : (e.start rig b).value = .ok ()) : OnStaircase c b cost (e.start rig b).engine := by
  obtain ⟨presets, sizes, rates⟩ := Config.nonempty_of_valid (configured ▸ coherent.valid)
  obtain ⟨spec, -, settled⟩ := Grid.settle_inside (x := false) coop unskipped
    (q := ⟨0, 0, 0⟩) rates presets sizes
  rw [OnStaircase, (start_onWalk coherent started).2, (start_clears coherent started).2, configured,
    Walk.first, settled]
  exact ⟨fun p earlier => absurd earlier (Nat.not_lt_zero p), Nat.zero_le _, rfl⟩

end Engine

open Engine in
/-- The search is complete under a cost that grows with the size. Take a new engine, any calls,
then a start that succeeds and ticks until the run has finished, with every encoder coming up,
the output profile taking every configured frame rate and no size skipped by the bitrate
advice. If each trial is judged on `cost` of its parameters, and at each frame rate a preset
that fits a size fits every smaller one, the results are, in order and frame rate by frame rate,
each size before the first at which no preset fits, with its first preset that fits. -/
theorem staircase_search_is_complete {config : Config} {rate : FrameRate} {e₀ : Engine}
    (built : Engine.new config rate = .ok e₀) (before : List (Rig × Call)) (rig₀ : Rig)
    (b : Budget) (cost : TrialSpec → CpuUsage) (rigs : List Rig)
    (activates : ∀ rig ∈ rig₀ :: rigs, ∀ c, rig.activation c = .ok ())
    (switches : ∀ rig ∈ rig₀ :: rigs, ∀ r ∈ config.frameRates, rig.refusal r = none)
    (unskipped : ∀ f (hf : f < config.frameRates.length) s (hs : s < config.sizes.length),
      Bitrate.forTrial (Bitrate.ideal config.sizes[s] config.frameRates[f] b.highAction) (s == 0)
        b.target b.maxVideoKbps ≠ .skip)
    (monotone : ∀ f p s, Grid.fits config b cost ⟨f, p, s + 1⟩ = true →
      Grid.fits config b cost ⟨f, p, s⟩ = true)
    (started : ((runCalls perform e₀ before).1.start rig₀ b).value = .ok ()) :
    let e₁ := ((runCalls perform e₀ before).1.start rig₀ b).engine
    let e := (runCalls perform e₁ (rigs.map fun rig => (rig, Call.tick))).1
    JudgedOn cost e₁ rigs → e.phase = .finished →
      e.results.map TrialResult.setting = Grid.staircase config b cost := by
  intro e₁ e judged finished
  have coherent := coherent_runCalls built before
  have configured : (runCalls perform e₀ before).1.config = config :=
    config_runCalls_new built before
  have coops : ∀ rig ∈ rig₀ :: rigs, Grid.Cooperative config rig :=
    fun rig member => ⟨activates rig member, switches rig member⟩
  have onStart : OnStaircase config b cost e₁ :=
    onStaircase_start coherent configured (coops rig₀ List.mem_cons_self) unskipped started
  have atEnd := onStaircase_ticks rigs (coherent_start coherent) (start_clears coherent started).1
    ((config_perform coherent rig₀ (.start b)).trans configured)
    (fun rig member => coops rig (List.mem_cons_of_mem _ member)) unskipped monotone judged onStart
  have stopped : e.isRunning = false := by simp [Engine.isRunning, finished, Phase.isRunning]
  rw [OnStaircase, walk_of_stopped stopped] at atEnd
  exact atEnd

set_option maxRecDepth 10000 in
/-- The staircase on a grid of two presets and two sizes at 30 Hz, under a cost that grows with
the size and falls with the preset's speed, each trial sampled at its first tick and ended at
its second: `faster` fits 640x360 but not 1280x720, where the search climbs to `ultrafast`. -/
theorem staircase_search_is_complete_at_climb :
    let config : Config := {
      trialDurationSecs := 0.05, warmupSecs := 0.0, presets := [.faster, .ultrafast],
      sizes := [⟨640, 360⟩, ⟨1280, 720⟩], frameRates := [FrameRate.fps30] }
    let cost : TrialSpec → CpuUsage := fun spec =>
      let own := Float.ofNat ((if spec.preset = .faster then 6 else 3) *
        (if spec.size.height ≤ 360 then 25 else 50)) / 600.0
      ⟨own, own⟩
    let rig : Rig := ⟨fun _ => .ok (), fun _ => none, fun c => c.options.bitrateKbps,
      fun s => (s.trial.map cost).getD {}, fun _ => none⟩
    let b : Budget := ⟨0.35, 0.9, 10000, 128, false, .file⟩
    let rigs := List.replicate 6 rig
    Engine.new config FrameRate.fps30 = .ok (Engine.initial config FrameRate.fps30) ∧
      (∀ r ∈ rig :: rigs, ∀ c, r.activation c = .ok ()) ∧
      (∀ r ∈ rig :: rigs, ∀ x ∈ config.frameRates, r.refusal x = none) ∧
      (∀ f (hf : f < config.frameRates.length) s (hs : s < config.sizes.length),
        Bitrate.forTrial (Bitrate.ideal config.sizes[s] config.frameRates[f] b.highAction) (s == 0)
          b.target b.maxVideoKbps ≠ .skip) ∧
      (∀ f p s, Grid.fits config b cost ⟨f, p, s + 1⟩ = true →
        Grid.fits config b cost ⟨f, p, s⟩ = true) ∧
      ((runCalls Engine.perform (Engine.initial config FrameRate.fps30) []).1.start rig b).value =
        .ok () ∧
      let e₁ := ((runCalls Engine.perform (Engine.initial config FrameRate.fps30) []).1.start
        rig b).engine
      let e := (runCalls Engine.perform e₁ (rigs.map fun rig => (rig, Call.tick))).1
      Engine.JudgedOn cost e₁ rigs ∧ e.phase = .finished ∧
        e.results.map TrialResult.setting = Grid.staircase config b cost ∧
        Grid.staircase config b cost =
          [(.faster, ⟨640, 360⟩, FrameRate.fps30), (.ultrafast, ⟨1280, 720⟩, FrameRate.fps30)] := by
  intro config cost rig b rigs
  have built : Engine.new config FrameRate.fps30 = .ok (Engine.initial config FrameRate.fps30) := by
    simp only [config]
    rfl
  have activates : ∀ r ∈ rig :: rigs, ∀ c, r.activation c = .ok () := by simp [rig, rigs]
  have switches : ∀ r ∈ rig :: rigs, ∀ x ∈ config.frameRates, r.refusal x = none := by
    simp [rig, rigs]
  have unskipped : ∀ f (hf : f < config.frameRates.length) s (hs : s < config.sizes.length),
      Bitrate.forTrial (Bitrate.ideal config.sizes[s] config.frameRates[f] b.highAction) (s == 0)
        b.target b.maxVideoKbps ≠ .skip := by
    intro f hf s hs
    simp [config, Bitrate.forTrial, b]
  have monotone : ∀ f p s, Grid.fits config b cost ⟨f, p, s + 1⟩ = true →
      Grid.fits config b cost ⟨f, p, s⟩ = true := by
    intro f p s fit
    rcases f with _ | f
    · rcases s with _ | s
      · rcases p with _ | _ | p
        · exact absurd fit (by decide)
        · decide
        · simp [Grid.fits, Grid.trialAt, config] at fit
      · simp [Grid.fits, Grid.trialAt, config] at fit
    · simp [Grid.fits, Grid.trialAt, config] at fit
  have started :
      ((runCalls Engine.perform (Engine.initial config FrameRate.fps30) []).1.start rig b).value =
        .ok () := rfl
  have reads : ∀ r ∈ rigs, ∀ s spec, s.trial = some spec → r.usage s = cost spec := by
    intro r member s spec trial
    rw [List.eq_of_mem_replicate member]
    simp [rig, trial]
  have judged := Engine.judgedOn_of_sampled rigs (Engine.coherent_start (Engine.coherent_new built))
    (fun _ => by decide) (Engine.sampledAsDue_start (Engine.coherent_new built) started) reads
    (by decide)
  refine ⟨built, activates, switches, unskipped, monotone, started, judged, by decide, ?_, by decide⟩
  exact staircase_search_is_complete built [] rig b cost rigs activates switches unskipped monotone
    started judged (by decide)

end EncoderBench
