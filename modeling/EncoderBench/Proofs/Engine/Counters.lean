import EncoderBench.Proofs.Engine.Calls
/-!
The progress counters. The count of grid points done grows by at most `gridWidth = P * S + P - 1`
per frame rate (`Tally`) and only ever grows within a run, against a total that never changes;
the total is the grid's size cut to 32 bits.
-/
namespace EncoderBench

def Config.gridWidth (c : Config) : Nat := c.presets.length * c.sizes.length + c.presets.length - 1

def Cursor.passed (presets : Nat) (c : Cursor) : Nat := c.presetIndex.getD 0 + c.sizeIndex * presets

/-- The cursor is at the corner before the first trial, or at a point of the grid. -/
def Cursor.OnGrid (config : Config) (c : Cursor) : Prop :=
  c.presetIndex = none ∨ c.presetIndex.getD 0 < config.presets.length ∧
    c.sizeIndex < config.sizes.length

/-- The count of trials done, as the cursor at frame rate `rate` of `config` holds it: against
the configured total, at most a grid's width for each frame rate before this one, and the
points passed on this one's grid, which the cursor has left at most one step past its edge. -/
structure Tally (config : Config) (rate : Nat) (cursor : Cursor) : Prop where
  presets : 0 < config.presets.length
  sizes : 0 < config.sizes.length
  total : cursor.testsTotal = config.totalTests
  inRange : rate < config.frameRates.length
  unstarted : cursor.presetIndex = none → cursor.sizeIndex = 0
  edge : cursor.presetIndex.getD 0 ≤ config.presets.length ∧ cursor.sizeIndex < config.sizes.length ∨
    cursor.presetIndex.getD 0 < config.presets.length ∧ cursor.sizeIndex ≤ config.sizes.length
  counted : cursor.testsCompleted ≤ rate * config.gridWidth + cursor.passed config.presets.length

namespace Tally

variable {config : Config} {rate : Nat} {cursor : Cursor}

theorem passed_le (tally : Tally config rate cursor) :
    cursor.passed config.presets.length ≤ config.gridWidth := by
  have presets := tally.presets
  unfold Cursor.passed Config.gridWidth
  rcases tally.edge with ⟨preset, size⟩ | ⟨preset, size⟩
  · have columns : cursor.sizeIndex * config.presets.length + config.presets.length ≤
        config.presets.length * config.sizes.length := by
      rw [← Nat.succ_mul, Nat.mul_comm]
      exact Nat.mul_le_mul_left _ size
    omega
  · have columns : cursor.sizeIndex * config.presets.length ≤
        config.presets.length * config.sizes.length := by
      rw [Nat.mul_comm]
      exact Nat.mul_le_mul_left _ size
    omega

theorem completed_le (tally : Tally config rate cursor) :
    cursor.testsCompleted ≤ config.frameRates.length * config.gridWidth := by
  have below := tally.passed_le
  have rates : (rate + 1) * config.gridWidth ≤ config.frameRates.length * config.gridWidth :=
    Nat.mul_le_mul_right _ tally.inRange
  have counted := tally.counted
  rw [Nat.succ_mul] at rates
  omega

theorem next (tally : Tally config rate cursor) (onGrid : cursor.OnGrid config) (x : Bool) :
    Tally config rate (cursor.next x config.presets.length) ∧
      cursor.testsCompleted ≤ (cursor.next x config.presets.length).testsCompleted := by
  have counted := tally.counted
  unfold Cursor.next
  cases preset : cursor.presetIndex with
  | none =>
    have corner := tally.unstarted preset
    refine ⟨⟨tally.presets, tally.sizes, tally.total, tally.inRange, by simp,
      .inl ⟨by simp, tally.sizes⟩, ?_⟩, Nat.le_refl _⟩
    simpa [Cursor.passed, preset, corner] using counted
  | some p =>
    have inside : p < config.presets.length ∧ cursor.sizeIndex < config.sizes.length := by
      simpa [Cursor.OnGrid, preset] using onGrid
    simp only [Cursor.passed, preset, Option.getD_some] at counted
    cases x
    · refine ⟨⟨tally.presets, tally.sizes, tally.total, tally.inRange, by simp,
        .inr ⟨by simpa using inside.1, by simp; omega⟩, ?_⟩, by simp⟩
      simp only [Cursor.passed, Option.getD_some, Bool.false_eq_true, ite_false, Nat.succ_mul]
      omega
    · refine ⟨⟨tally.presets, tally.sizes, tally.total, tally.inRange, by simp,
        .inl ⟨by simp; omega, inside.2⟩, ?_⟩, by simp⟩
      simp only [Cursor.passed, Option.getD_some, ite_true]
      omega

theorem advance (tally : Tally config rate cursor) {next : FrameRate}
    (switch : config.frameRates[rate + 1]? = some next) :
    Tally config (rate + 1) { cursor with frameRate := next, presetIndex := some 0, sizeIndex := 0 } := by
  have below := tally.passed_le
  have counted := tally.counted
  refine ⟨tally.presets, tally.sizes, tally.total, (List.getElem?_eq_some_iff.mp switch).1,
    by simp, .inl ⟨by simp, tally.sizes⟩, ?_⟩
  simp only [Cursor.passed, Option.getD_some, Nat.zero_mul, Nat.add_zero, Nat.succ_mul]
  omega

end Tally

namespace Engine

variable {rig : Rig} {b : Budget} {x : Bool}

def Tallied (e : Engine) : Prop := Tally e.config e.rateIndex e.cursor

@[simp] theorem progress_testsDone (e : Engine) :
    e.progress.testsDone = min e.cursor.testsCompleted e.cursor.testsTotal := rfl

@[simp] theorem progress_testsTotal (e : Engine) : e.progress.testsTotal = e.cursor.testsTotal := rfl

theorem advanceRate_some {e e' : Engine} {switched : List Effect}
    (h : advanceRate rig e = (some e', switched)) :
    ∃ next, e.config.frameRates[e.rateIndex + 1]? = some next ∧
      e' = { e with
        profileRate := next, rateIndex := e.rateIndex + 1,
        cursor := { e.cursor with frameRate := next, presetIndex := some 0, sizeIndex := 0 } } := by
  simp only [advanceRate] at h
  split at h
  · cases h
  · rename_i next atNext
    split at h
    · cases h
    · exact ⟨next, atNext, (Option.some.inj (Prod.mk.inj h).1).symm⟩

theorem shift_fst (rig : Rig) (x : Bool) (e : Engine) :
    (shift rig x e).1 = { e with cursor := e.cursor.next x e.config.presets.length } := by
  simp only [shift]
  split <;> rfl

theorem shift_snd (rig : Rig) (x : Bool) (e : Engine) :
    (shift rig x e).2 =
      let e₁ := { e with cursor := e.cursor.next x e.config.presets.length }
      if e₁.cursor.presetIndex.getD 0 < e.config.presets.length ∧
          e₁.cursor.sizeIndex < e.config.sizes.length then (some e₁, [])
      else advanceRate rig e₁ := by
  simp only [shift]
  split <;> rfl

theorem tallied_shift {e e₁ e₂ : Engine} {switched : List Effect} (tallied : e.Tallied)
    (onGrid : e.cursor.OnGrid e.config) (h : shift rig x e = (e₁, some e₂, switched)) :
    e₂.Tallied ∧ e₂.cursor.OnGrid e₂.config ∧ e₂.config = e.config ∧
      e.cursor.testsCompleted ≤ e₂.cursor.testsCompleted := by
  obtain ⟨stepped, grown⟩ := Tally.next tallied onGrid x
  have second := congrArg Prod.snd h
  rw [shift_snd] at second
  dsimp only at second
  split at second
  · rename_i inside
    obtain rfl := Option.some.inj (Prod.mk.inj second).1
    exact ⟨stepped, .inr inside, rfl, grown⟩
  · obtain ⟨next, atNext, rfl⟩ := advanceRate_some second
    exact ⟨stepped.advance atNext, .inr ⟨by simpa using tallied.presets, by simpa using tallied.sizes⟩,
      rfl, grown⟩

theorem tallied_seek (rig : Rig) (b : Budget) (x : Bool) (fuel : Nat) {e : Engine}
    (acc : List Effect) (tallied : e.Tallied) (onGrid : e.cursor.OnGrid e.config) :
    (seek rig b x fuel e acc).1.Tallied ∧ (seek rig b x fuel e acc).1.config = e.config ∧
      e.cursor.testsCompleted ≤ (seek rig b x fuel e acc).1.cursor.testsCompleted := by
  induction fuel generalizing e acc with
  | zero =>
    simp only [seek]
    rw [finish_fst]
    exact ⟨tallied, rfl, Nat.le_refl _⟩
  | succ n ih =>
    obtain ⟨stepped, grown⟩ := Tally.next tallied onGrid x
    rw [seek]
    rcases shifted : shift rig x e with ⟨e₁, _ | e₂, switched⟩
    · have moved : e₁ = { e with cursor := e.cursor.next x e.config.presets.length } := by
        rw [← shift_fst, shifted]
      simp only []
      rw [finish_fst, moved]
      exact ⟨stepped, rfl, grown⟩
    · obtain ⟨tallied₂, onGrid₂, config₂, grown₂⟩ := tallied_shift tallied onGrid shifted
      have kept : ∀ e' : Engine, e'.config = e₂.config → e'.rateIndex = e₂.rateIndex →
          e'.cursor = e₂.cursor →
          e'.Tallied ∧ e'.config = e.config ∧ e.cursor.testsCompleted ≤ e'.cursor.testsCompleted := by
        intro e' config rate cursor
        refine ⟨?_, config.trans config₂, cursor ▸ grown₂⟩
        unfold Tallied
        rw [config, rate, cursor]
        exact tallied₂
      have further : ∀ (h : Harness) (acc' : List Effect),
          (seek rig b x n { e₂ with harness := h } acc').1.Tallied ∧
            (seek rig b x n { e₂ with harness := h } acc').1.config = e.config ∧
            e.cursor.testsCompleted ≤
              (seek rig b x n { e₂ with harness := h } acc').1.cursor.testsCompleted := by
        intro h acc'
        obtain ⟨talliedOn, configOn, grownOn⟩ := ih (e := { e₂ with harness := h }) acc' tallied₂ onGrid₂
        exact ⟨talliedOn, configOn.trans config₂, Nat.le_trans grown₂ grownOn⟩
      simp only []
      split
      · split
        · exact further e₂.harness (acc ++ switched)
        · split
          · exact kept _ rfl rfl rfl
          · exact further _ _
      · rw [finish_fst]
        exact kept _ rfl rfl rfl

theorem tallied_nextTrial (rig : Rig) {e : Engine} (budget : e.budget = some b)
    (tallied : e.Tallied) (onGrid : e.cursor.OnGrid e.config) :
    (nextTrial rig e).1.Tallied ∧ e.cursor.testsCompleted ≤ (nextTrial rig e).1.cursor.testsCompleted := by
  have judged := judge_fst rig (b := b) e
  have talliedJudged : (judge rig b e).1.Tallied := by rw [judged]; exact tallied
  have onGridJudged : (judge rig b e).1.cursor.OnGrid (judge rig b e).1.config := by
    rw [judged]; exact onGrid
  obtain ⟨talliedNext, -, grown⟩ := tallied_seek rig b (judge rig b e).2.2 (seekFuel e.config) []
    talliedJudged onGridJudged
  have kept : (judge rig b e).1.cursor = e.cursor := by rw [judged]
  rw [nextTrial_eq budget]
  rw [kept] at grown
  exact ⟨talliedNext, grown⟩

theorem warm_fst_cursor (e : Engine) (elapsed : Float) :
    (warm e elapsed).1.cursor = e.cursor ∧ (warm e elapsed).1.rateIndex = e.rateIndex := by
  unfold warm
  split <;> exact ⟨rfl, rfl⟩

theorem Tallied.warm {e : Engine} (tallied : e.Tallied) (elapsed : Float) :
    (warm e elapsed).1.Tallied := by
  unfold Tallied
  rw [warm_config, (warm_fst_cursor e elapsed).1, (warm_fst_cursor e elapsed).2]
  exact tallied

theorem InTrial.onGrid {e : Engine} {q : GridPoint} {spec : TrialSpec} (inTrial : InTrial e b q spec) :
    e.cursor.OnGrid e.config := by
  obtain ⟨atPreset, atSize, -, -⟩ := Grid.trialAt_spec e.config b inTrial.trial
  have point := inTrial.point
  simp only [Engine.point, Option.map_eq_some_iff] at point
  obtain ⟨p, preset, rfl⟩ := point
  refine .inr ⟨?_, ?_⟩
  · simpa [preset] using (List.getElem?_eq_some_iff.mp atPreset).1
  · exact (List.getElem?_eq_some_iff.mp atSize).1

theorem Tallied.reset {e : Engine} (valid : e.config.problem? = none) (b : Budget) :
    (reset b e).Tallied := by
  obtain ⟨presets, sizes, rates⟩ := Config.nonempty_of_valid valid
  exact ⟨presets, sizes, rfl, rates, fun _ => rfl, .inl ⟨Nat.zero_le _, sizes⟩, Nat.zero_le _⟩

theorem tallied_perform {e : Engine} (coherent : Coherent e) (tallied : e.Tallied) (rig : Rig)
    (call : Call) :
    (e.perform rig call).1.Tallied ∧
      ((∀ b, call ≠ .start b) → e.cursor.testsCompleted ≤ (e.perform rig call).1.cursor.testsCompleted) := by
  have performs := performs_perform rig e call
  generalize e.perform rig call = after at performs ⊢
  cases performs with
  | poll | notRunning => exact ⟨tallied, fun _ => Nat.le_refl _⟩
  | busy b | refused b => exact ⟨tallied, fun notStart => absurd rfl (notStart b)⟩
  | started b =>
    exact ⟨(tallied_nextTrial rig rfl (Tallied.reset coherent.valid b) (.inl rfl)).1,
      fun notStart => absurd rfl (notStart b)⟩
  | ended =>
    rw [finish_fst]
    exact ⟨tallied, fun _ => Nat.le_refl _⟩
  | trialEnds running =>
    obtain ⟨b, q, spec, inTrial⟩ := coherent.trial running
    obtain ⟨talliedNext, grown⟩ :=
      tallied_nextTrial rig inTrial.counted.budget (e := { e with frameInTrial := e.frameInTrial + 1 })
        tallied inTrial.onGrid
    dsimp only
    refine ⟨talliedNext.warm 0.0, fun _ => ?_⟩
    rw [(warm_fst_cursor _ _).1]
    exact grown
  | trialGoes =>
    dsimp only
    refine ⟨Tallied.warm (e := { e with frameInTrial := e.frameInTrial + 1 }) tallied _,
      fun _ => Nat.le_of_eq ?_⟩
    rw [(warm_fst_cursor _ _).1]

theorem tallied_runCalls {config : Config} {rate : FrameRate} {e₀ : Engine}
    (built : new config rate = .ok e₀) (calls : List (Rig × Call)) :
    Coherent (runCalls perform e₀ calls).1 ∧ (runCalls perform e₀ calls).1.Tallied := by
  obtain ⟨valid, rfl⟩ := new_eq built
  obtain ⟨presets, sizes, rates⟩ := Config.nonempty_of_valid valid
  have fresh : Tally config 0 (Cursor.initial (firstRate config) config.totalTests) :=
    ⟨presets, sizes, rfl, rates, fun _ => rfl, .inl ⟨Nat.zero_le _, sizes⟩, Nat.zero_le _⟩
  exact runCalls_keeps (fun e => Coherent e ∧ e.Tallied)
    (fun _ rig call kept => ⟨coherent_perform kept.1 rig call, (tallied_perform kept.1 kept.2 rig call).1⟩)
    calls _ ⟨coherent_new built, fresh⟩

end Engine

open Engine in
/-- The progress counters of every run on a configuration whose count fits in 32 bits: the
total is the grid's size exactly; the count stays within a grid's width per frame rate, and so
within 32 bits, which no addition to it passes since it only grows within a call; the progress
shown never passes its total; and no call but a start moves it back. -/
theorem progress_counters_stay_exact_and_monotone {config : Config} {rate : FrameRate}
    {e₀ : Engine} (built : new config rate = .ok e₀)
    (fits : config.frameRates.length * config.gridWidth < Nat.pow 2 32) (calls : List (Rig × Call)) :
    let e := (runCalls perform e₀ calls).1
    config.totalTests = config.presets.length * config.sizes.length * config.frameRates.length ∧
      e.cursor.testsCompleted ≤ config.frameRates.length * config.gridWidth ∧
      e.cursor.testsCompleted < Nat.pow 2 32 ∧
      e.progress.testsTotal = config.totalTests ∧
      e.progress.testsDone ≤ e.progress.testsTotal ∧
      ∀ rig call, (∀ b, call ≠ .start b) →
        e.progress.testsDone ≤ (e.perform rig call).1.progress.testsDone := by
  intro e
  obtain ⟨coherent, tallied⟩ : Coherent e ∧ e.Tallied := tallied_runCalls built calls
  have configured : e.config = config := config_runCalls_new built calls
  have bound : e.cursor.testsCompleted ≤ config.frameRates.length * config.gridWidth := by
    rw [← configured]
    exact tallied.completed_le
  have exact : config.totalTests =
      config.presets.length * config.sizes.length * config.frameRates.length := by
    have presets := (Config.nonempty_of_valid (new_eq built).1).1
    have size : config.presets.length * config.sizes.length * config.frameRates.length ≤
        config.frameRates.length * config.gridWidth := by
      rw [Nat.mul_comm]
      apply Nat.mul_le_mul_left
      unfold Config.gridWidth
      omega
    exact Nat.mod_eq_of_lt (Nat.lt_of_le_of_lt size fits)
  have total : e.cursor.testsTotal = config.totalTests := by rw [tallied.total, configured]
  refine ⟨exact, bound, Nat.lt_of_le_of_lt bound fits, total, Nat.min_le_right _ _, ?_⟩
  intro rig call notStart
  obtain ⟨talliedAfter, grown⟩ := tallied_perform coherent tallied rig call
  have totalAfter : (e.perform rig call).1.cursor.testsTotal = e.cursor.testsTotal := by
    rw [talliedAfter.total, config_perform coherent rig call, tallied.total]
  have grown := grown notStart
  simp only [progress_testsDone, totalAfter]
  omega

/-- The counters after a start and a tick at the default configuration, whose count of at most
54 fits in 32 bits. -/
theorem progress_counters_at_default :
    let e₀ := Engine.initial {} FrameRate.fps30
    let rig : Rig := ⟨fun _ => .ok (), fun _ => none, fun c => c.options.bitrateKbps,
      fun _ => {}, fun _ => none⟩
    let b : Budget := ⟨0.5, 0.9, 5000, 128, false, .file⟩
    let calls : List (Rig × Call) := [(rig, .start b), (rig, .tick)]
    let e := (runCalls Engine.perform e₀ calls).1
    Engine.new {} FrameRate.fps30 = .ok e₀ ∧
      ({} : Config).frameRates.length * ({} : Config).gridWidth < Nat.pow 2 32 ∧
      ({} : Config).totalTests =
        ({} : Config).presets.length * ({} : Config).sizes.length * ({} : Config).frameRates.length ∧
      e.cursor.testsCompleted ≤ ({} : Config).frameRates.length * ({} : Config).gridWidth ∧
      e.cursor.testsCompleted < Nat.pow 2 32 ∧
      e.progress.testsTotal = ({} : Config).totalTests ∧
      e.progress.testsDone ≤ e.progress.testsTotal ∧
      ∀ rig call, (∀ b, call ≠ .start b) →
        e.progress.testsDone ≤ (e.perform rig call).1.progress.testsDone := by
  intro e₀ rig b calls e
  exact ⟨rfl, by decide, progress_counters_stay_exact_and_monotone rfl (by decide) calls⟩

/-- The total is cut to 32 bits: a grid of 2048 presets, 2048 sizes and 1024 frame rates, which
the validation accepts, has `2 ^ 32` points and a total of zero. -/
theorem total_tests_wraps_at_four_billion :
    let config : Config := {
      presets := List.replicate 2048 .fast, sizes := List.replicate 2048 ⟨2, 2⟩,
      frameRates := List.replicate 1024 FrameRate.fps30 }
    config.problem? = none ∧
      config.presets.length * config.sizes.length * config.frameRates.length = Nat.pow 2 32 ∧
      config.totalTests = 0 := by
  intro config
  have points : config.presets.length * config.sizes.length * config.frameRates.length =
      Nat.pow 2 32 := by
    simp only [config, List.length_replicate]
  have positive : ¬ FrameRate.fps30.toFloat ≤ 0.0 := by decide
  refine ⟨?_, points, by rw [Config.totalTests, points]⟩
  simp only [Config.problem?, config, List.isEmpty_replicate, List.find?_replicate, positive]
  decide

end EncoderBench
