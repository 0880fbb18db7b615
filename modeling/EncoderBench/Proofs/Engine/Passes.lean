import EncoderBench.Proofs.Engine.Calls
/-!
The search loop counted pass by pass: `pass` is one turn of `seek`'s loop, and `seek_succ` says
`seek` repeats it while fuel lasts. Every pass returns or moves closer to the end of the walk, so
choosing the next trial returns within `(F - f) * (P + S)` passes, well inside the fuel.
-/
namespace EncoderBench

/-- What one pass of the search loop ends with: the loop returns `result`, or it goes on to
another pass from an engine, with the effects so far. -/
inductive Pass where
  | stop (result : Engine × List Effect)
  | next (e : Engine) (acc : List Effect)

namespace Engine

/-- One pass of `seek`'s loop, its call to itself left to the caller. -/
def pass (rig : Rig) (budget : Budget) (exceeded : Bool) (e : Engine) (acc : List Effect) :
    Pass :=
  match shift rig exceeded e with
  | (e, none, switched) =>
    let (e, effs) := finish rig e
    .stop (e, acc ++ switched ++ effs)
  | (_, some e, switched) =>
    let sizeIndex := e.cursor.sizeIndex
    match e.config.presets[e.cursor.presetIndex.getD 0]?, e.config.sizes[sizeIndex]? with
    | some preset, some size =>
      let rate := e.cursor.frameRate
      let ideal := Bitrate.ideal size rate budget.highAction
      match Bitrate.forTrial ideal (sizeIndex == 0) budget.target budget.maxVideoKbps with
      | .skip => .next e (acc ++ switched)
      | .use kbps =>
        let (h, began, effs) := e.harness.beginTrial rig ⟨preset, size, rate, kbps⟩
        let e := { e with harness := h }
        match began with
        | .ok () => .stop ({ e with frameInTrial := 0, phase := .preparing }, acc ++ switched ++ effs)
        | .error _ => .next e (acc ++ switched ++ effs)
    | _, _ =>
      let (e, effs) := finish rig e
      .stop (e, acc ++ switched ++ effs)

variable {rig : Rig} {b : Budget} {x : Bool}

theorem seek_succ (fuel : Nat) (e : Engine) (acc : List Effect) :
    seek rig b x (fuel + 1) e acc =
      match pass rig b x e acc with
      | .stop result => result
      | .next e' acc' => seek rig b x fuel e' acc' := by
  -- split on every test the pass makes, and read both sides off the outcomes
  rcases moved : shift rig x e with ⟨e₁, _ | e', switched⟩
  · simp only [seek, pass, moved]
  rcases atPreset : e'.config.presets[e'.cursor.presetIndex.getD 0]? with _ | preset
  · simp only [seek, pass, moved, atPreset]
  rcases atSize : e'.config.sizes[e'.cursor.sizeIndex]? with _ | size
  · simp only [seek, pass, moved, atPreset, atSize]
  rcases choice : Bitrate.forTrial (Bitrate.ideal size e'.cursor.frameRate b.highAction)
      (e'.cursor.sizeIndex == 0) b.target b.maxVideoKbps with kbps | _
  · rcases began : e'.harness.beginTrial rig ⟨preset, size, e'.cursor.frameRate, kbps⟩ with
      ⟨h, _ | _, effs⟩ <;> simp only [seek, pass, moved, atPreset, atSize, choice, began]
  · simp only [seek, pass, moved, atPreset, atSize, choice]

def InTables (e : Engine) : Prop :=
  e.cursor.presetIndex.getD 0 < e.config.presets.length ∧ e.cursor.sizeIndex < e.config.sizes.length

def LooksInside (rig : Rig) (x : Bool) (e : Engine) : Prop :=
  ∀ e', (shift rig x e).2.1 = some e' → InTables e'

/-- The search loop from `e` with effects `acc` returns `result` within `n` passes, and each of
its passes looks up the tables only inside them. -/
inductive Runs (rig : Rig) (b : Budget) (x : Bool) :
    Nat → Engine → List Effect → Engine × List Effect → Prop
  | stop {n : Nat} {e : Engine} {acc : List Effect} {result : Engine × List Effect} :
      LooksInside rig x e → pass rig b x e acc = .stop result → Runs rig b x (n + 1) e acc result
  | next {n : Nat} {e e' : Engine} {acc acc' : List Effect} {result : Engine × List Effect} :
      LooksInside rig x e → pass rig b x e acc = .next e' acc' → Runs rig b x n e' acc' result →
        Runs rig b x (n + 1) e acc result

theorem Runs.seek_eq {n : Nat} {e : Engine} {acc : List Effect} {result : Engine × List Effect}
    (runs : Runs rig b x n e acc result) {fuel : Nat} (enough : n ≤ fuel) :
    seek rig b x fuel e acc = result := by
  induction runs generalizing fuel with
  | stop _ passed =>
    obtain ⟨fuel, rfl⟩ : ∃ k, fuel = k + 1 := ⟨fuel - 1, by omega⟩
    rw [seek_succ, passed]
  | next _ passed _ ih =>
    obtain ⟨fuel, rfl⟩ : ∃ k, fuel = k + 1 := ⟨fuel - 1, by omega⟩
    rw [seek_succ, passed]
    exact ih (by omega)

end Engine

namespace Grid

def passes (c : Config) (q : GridPoint) : Nat :=
  (c.frameRates.length - (q.rate + 1)) * (c.presets.length + c.sizes.length) +
    (c.presets.length + c.sizes.length - q.preset - q.size - 1)

variable {rig : Rig} {c : Config} {x : Bool}

theorem passes_switch_lt {q : GridPoint} (inside : q.preset < c.presets.length ∧ q.size < c.sizes.length)
    (next : q.rate + 1 < c.frameRates.length) :
    passes c ⟨q.rate + 1, 0, 0⟩ < passes c q := by
  have split : c.frameRates.length - (q.rate + 1) = (c.frameRates.length - (q.rate + 1 + 1)) + 1 := by
    omega
  simp only [passes, split, Nat.succ_mul]
  omega

theorem passes_lt {q : GridPoint} (edge : q.preset + q.size < c.presets.length + c.sizes.length)
    (below : q.rate < c.frameRates.length) :
    passes c q < (c.frameRates.length - q.rate) * (c.presets.length + c.sizes.length) := by
  have split : c.frameRates.length - q.rate = (c.frameRates.length - (q.rate + 1)) + 1 := by omega
  simp only [passes, split, Nat.succ_mul]
  omega

theorem passes_step_lt {q q' : GridPoint}
    (inside : q.preset < c.presets.length ∧ q.size < c.sizes.length)
    (h : step rig c x q = some q') : passes c q' < passes c q := by
  cases x <;> simp only [step, Bool.false_eq_true, ite_true, ite_false] at h <;> split at h
  all_goals first
    | (cases h; simp only [passes]; omega)
    | (have next := h
       simp only [switch] at next
       split at next
       · rename_i rate atRate
         rw [Engine.Grid.switch_eq h]
         exact passes_switch_lt inside (List.getElem?_eq_some_iff.mp atRate).1
       · cases next)

end Grid

namespace Engine

variable {rig : Rig} {b : Budget} {x : Bool}

/-- Passes the search may still make from `e`: from the corner of the current grid on before
the first trial of a run, else from the cursor's point. -/
def passesLeft (e : Engine) : Nat :=
  match e.point with
  | none => (e.config.frameRates.length - e.rateIndex) * (e.config.presets.length + e.config.sizes.length)
  | some q => Grid.passes e.config q

structure Passing (e : Engine) : Prop extends Searchable e where
  onGrid : ∀ q, e.point = some q → q.preset < e.config.presets.length ∧ q.size < e.config.sizes.length

theorem Passing.rate_lt {e : Engine} (ready : Passing e) :
    e.rateIndex < e.config.frameRates.length :=
  (List.getElem?_eq_some_iff.mp ready.rate).1

theorem Passing.passesLeft_pos {e : Engine} (ready : Passing e) : 0 < e.passesLeft := by
  have below := ready.rate_lt
  unfold passesLeft
  cases point : e.point with
  | none => exact Nat.mul_pos (by omega) (by have := ready.presets; omega)
  | some q =>
    have inside := ready.onGrid q point
    simp only [Grid.passes]
    omega

theorem passesLeft_moved_lt {e e' : Engine} {q : GridPoint} (ready : Passing e)
    (moved : MovedTo e e' q) (h : firstProbe rig x e = some q) : e'.passesLeft < e.passesLeft := by
  have landed : e'.passesLeft = Grid.passes e.config q := by
    simp only [passesLeft, moved.point, moved.config]
  rw [landed]
  unfold firstProbe at h
  unfold passesLeft
  cases point : e.point with
  | none =>
    simp only [point, Option.some.injEq] at h
    subst h
    have presets := ready.presets
    exact Grid.passes_lt (by simp only; omega) ready.rate_lt
  | some from_ =>
    simp only [point] at h
    exact Grid.passes_step_lt (ready.onGrid from_ point) h

theorem Passing.of_moved {e e' : Engine} {q : GridPoint} (ready : Passing e)
    (moved : MovedTo e e' q) (h : firstProbe rig x e = some q) : Passing e' where
  toSearchable := moved.searchable ready.toSearchable
  onGrid q' point := by
    rw [moved.point] at point
    cases point
    rw [moved.config]
    exact firstProbe_inside ready.toSearchable h

def Settled (e : Engine) : Prop :=
  e.harness.live.isSome ∧ e.phase = .preparing ∨ e.phase = .finished

theorem pass_spec {e : Engine} (ready : Passing e) (acc : List Effect) :
    LooksInside rig x e ∧
      match pass rig b x e acc with
      | .stop result => Settled result.1
      | .next e' _ => Passing e' ∧ e'.passesLeft < e.passesLeft := by
  obtain ⟨-, switched, -, moved⟩ := shift_spec rig (x := x) ready.toSearchable
  cases probe : firstProbe rig x e with
  | none =>
    rw [probe] at moved
    refine ⟨fun e' h => (by rw [moved] at h; cases h), ?_⟩
    have shiftEq : shift rig x e = ((shift rig x e).1, none, switched) := by rw [← moved]
    rw [pass, shiftEq]
    simp [Settled]
  | some q =>
    rw [probe] at moved
    obtain ⟨e₂, movedTo, landed⟩ := moved
    obtain ⟨inPresets, inSizes⟩ := firstProbe_inside ready.toSearchable probe
    refine ⟨fun e' h => ?_, ?_⟩
    · rw [landed] at h
      cases h
      simp only [InTables, movedTo.preset, movedTo.size, movedTo.config, Option.getD_some]
      exact ⟨inPresets, inSizes⟩
    have passing := ready.of_moved movedTo probe
    have fewer := passesLeft_moved_lt ready movedTo probe
    have shiftEq : shift rig x e = ((shift rig x e).1, some e₂, switched) := by rw [← landed]
    obtain ⟨preset, atPreset⟩ : ∃ preset, e₂.config.presets[q.preset]? = some preset :=
      ⟨_, List.getElem?_eq_getElem (movedTo.config ▸ inPresets)⟩
    obtain ⟨size, atSize⟩ : ∃ size, e₂.config.sizes[q.size]? = some size :=
      ⟨_, List.getElem?_eq_getElem (movedTo.config ▸ inSizes)⟩
    have idle : e₂.harness.live = none := by rw [movedTo.shifted.1]; exact ready.idle
    rw [pass, shiftEq]
    simp only [movedTo.preset, movedTo.size, Option.getD_some, atPreset, atSize]
    cases Bitrate.forTrial (Bitrate.ideal size e₂.cursor.frameRate b.highAction)
        (q.size == 0) b.target b.maxVideoKbps with
    | skip => exact ⟨passing, fewer⟩
    | use kbps =>
      simp only [Harness.beginTrial_idle _ idle]
      cases rig.activation (e₂.harness.configFor ⟨preset, size, e₂.cursor.frameRate, kbps⟩) with
      | ok u => simp [Settled]
      | error err => exact ⟨passing, fewer⟩

theorem runs_within (n : Nat) {e : Engine} (ready : Passing e) (acc : List Effect)
    (enough : e.passesLeft ≤ n) : ∃ result, Runs rig b x n e acc result ∧ Settled result.1 := by
  induction n generalizing e acc with
  | zero => exact absurd enough (Nat.not_le.mpr ready.passesLeft_pos)
  | succ n ih =>
    obtain ⟨inside, spec⟩ := pass_spec (b := b) ready acc
    cases passed : pass rig b x e acc with
    | stop result =>
      rw [passed] at spec
      exact ⟨result, .stop inside passed, spec⟩
    | next e' acc' =>
      rw [passed] at spec
      obtain ⟨ready', fewer⟩ := spec
      obtain ⟨result, runs, settled⟩ := ih ready' acc' (by omega)
      exact ⟨result, .next inside passed runs, settled⟩

structure ChoosingNext (e : Engine) (b : Budget) : Prop where
  budget : e.budget = some b
  valid : e.config.problem? = none
  keyInterval : e.harness.keyIntervalSecs = e.config.keyIntervalSecs
  rate : e.config.frameRates[e.rateIndex]? = some e.cursor.frameRate
  onGrid : ∀ q, e.point = some q → q.preset < e.config.presets.length ∧ q.size < e.config.sizes.length

theorem ChoosingNext.passing {e : Engine} (entry : ChoosingNext e b) :
    Passing (judge rig b e).1 := by
  obtain ⟨presets, sizes, -⟩ := Config.nonempty_of_valid entry.valid
  rw [judge_fst]
  exact ⟨⟨presets, sizes, rfl, entry.keyInterval, entry.rate⟩, entry.onGrid⟩

theorem passesLeft_judge (e : Engine) : (judge rig b e).1.passesLeft = e.passesLeft := by
  rw [judge_fst]
  rfl

theorem ChoosingNext.passesLeft_le {e : Engine} (entry : ChoosingNext e b) :
    (judge rig b e).1.passesLeft ≤
      (e.config.frameRates.length - e.rateIndex) * (e.config.presets.length + e.config.sizes.length) := by
  rw [passesLeft_judge]
  unfold passesLeft
  cases point : e.point with
  | none => exact Nat.le_refl _
  | some q =>
    have rate : q.rate = e.rateIndex := by
      simp only [Engine.point, Option.map_eq_some_iff] at point
      obtain ⟨p, -, rfl⟩ := point
      rfl
    have inside := entry.onGrid q point
    have below : e.rateIndex < e.config.frameRates.length :=
      (List.getElem?_eq_some_iff.mp entry.rate).1
    rw [← rate] at below ⊢
    exact Nat.le_of_lt (Grid.passes_lt (by omega) below)

/-- A start chooses the first trial from before the corner of the first frame rate's grid. -/
theorem choosingNext_reset {e : Engine} (coherent : Coherent e) : ChoosingNext (reset b e) b where
  budget := rfl
  valid := coherent.valid
  keyInterval := coherent.keyInterval
  rate := coherent.firstRate
  onGrid q point := by simp [reset, Engine.point, Cursor.initial] at point

/-- A tick that ends the trial in flight chooses the next one from that trial's grid point. -/
theorem Coherent.choosingNext {e : Engine} (coherent : Coherent e) (running : e.isRunning = true) :
    ∃ b, ChoosingNext { e with frameInTrial := e.frameInTrial + 1 } b := by
  obtain ⟨b, q, spec, inTrial⟩ := coherent.trial running
  refine ⟨b, inTrial.budget, coherent.valid, coherent.keyInterval, inTrial.rate, fun q' point => ?_⟩
  have same : q' = q := Option.some.inj (point.symm.trans inTrial.point)
  subst same
  obtain ⟨atPreset, atSize, -⟩ := Grid.trialAt_spec _ _ inTrial.trial
  exact ⟨(List.getElem?_eq_some_iff.mp atPreset).1, (List.getElem?_eq_some_iff.mp atSize).1⟩

end Engine

open Engine

/-- Whenever a call chooses the next trial, under any budget, whatever the output profile
accepts, whichever sizes the bitrate advice skips and whichever encoders fail to come up: after
the judged trial, the search loop returns within `(F - f) * (P + S)` passes, `f` the index of
the frame rate on entry, every pass that looks up a preset and a size looks inside the tables,
the call returns what the loop returns, and it returns with a trial live and being prepared or
with the run ended. -/
theorem trial_search_returns_within_grid_passes (rig : Rig) {e : Engine} {b : Budget}
    (entry : ChoosingNext e b) :
    let judged := judge rig b e
    ∃ result, Runs rig b judged.2.2
        ((e.config.frameRates.length - e.rateIndex) *
          (e.config.presets.length + e.config.sizes.length)) judged.1 [] result ∧
      nextTrial rig e = (result.1, judged.2.1 ++ result.2) ∧ Settled result.1 := by
  intro judged
  obtain ⟨result, runs, settled⟩ := runs_within _ entry.passing [] entry.passesLeft_le
  refine ⟨result, runs, ?_, settled⟩
  have fuel : (e.config.frameRates.length - e.rateIndex) *
      (e.config.presets.length + e.config.sizes.length) ≤ seekFuel e.config :=
    Nat.mul_le_mul (by omega) (by omega)
  rw [nextTrial_eq entry.budget, runs.seek_eq fuel]

/-- The first choice of a run over the default configuration meets the loop's entry conditions,
and so returns within the bound. -/
theorem trial_search_returns_within_grid_passes_at_start :
    let e₀ : Engine := (Engine.initial {} FrameRate.fps30)
    let rig : Rig := ⟨fun _ => .ok (), fun _ => none, fun c => c.options.bitrateKbps,
      fun _ => {}, fun _ => none⟩
    let b : Budget := ⟨0.5, 0.9, 5000, 128, false, .file⟩
    let e := reset b e₀
    ChoosingNext e b ∧
      let judged := judge rig b e
      ∃ result, Runs rig b judged.2.2
          ((e.config.frameRates.length - e.rateIndex) *
            (e.config.presets.length + e.config.sizes.length)) judged.1 [] result ∧
        nextTrial rig e = (result.1, judged.2.1 ++ result.2) ∧ Settled result.1 := by
  intro e₀ rig b e
  have entry : ChoosingNext e b :=
    ⟨rfl, by decide, rfl, rfl, fun q point => by simp [e, reset, Engine.point, Cursor.initial] at point⟩
  exact ⟨entry, trial_search_returns_within_grid_passes rig entry⟩

end EncoderBench
