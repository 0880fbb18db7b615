import EncoderBench.Proofs.Engine.Grid
/-!
The engine's search loop is the grid walk: from the cursor's grid point `seek` lands exactly
where `Grid.settle` says, moving only the cursor, the rate's index and the output profile. Every
pass lowers `Grid.rank` and `seekFuel` exceeds every rank, so fuel never stops the loop.
-/
namespace EncoderBench

inductive Probes (keyIntervalSecs : Nat) : List Effect → Prop
  | nil : Probes keyIntervalSecs []
  | switch (rate : FrameRate) (accepted : Bool) {rest : List Effect} :
      Probes keyIntervalSecs rest → Probes keyIntervalSecs (.rateSwitch rate accepted :: rest)
  | refused (spec : TrialSpec) (error : ActivationError) {rest : List Effect} :
      Probes keyIntervalSecs rest →
        Probes keyIntervalSecs
          (.created (EncoderConfig.ofSpec spec keyIntervalSecs) :: .refused spec error :: rest)

theorem Probes.append {k : Nat} {xs ys : List Effect} (left : Probes k xs) (right : Probes k ys) :
    Probes k (xs ++ ys) := by
  induction left with
  | nil => exact right
  | switch rate accepted _ ih => exact .switch rate accepted ih
  | refused spec error _ ih => exact .refused spec error ih

@[simp] theorem Cursor.next_frameRate (x : Bool) (presets : Nat) (c : Cursor) :
    (c.next x presets).frameRate = c.frameRate := by
  simp only [Cursor.next]
  split
  · rfl
  · split <;> rfl

@[simp] theorem Cursor.next_testsTotal (x : Bool) (presets : Nat) (c : Cursor) :
    (c.next x presets).testsTotal = c.testsTotal := by
  simp only [Cursor.next]
  split
  · rfl
  · split <;> rfl

namespace Engine

variable {rig : Rig} {b : Budget} {x : Bool}

def point (e : Engine) : Option GridPoint :=
  e.cursor.presetIndex.map fun p => ⟨e.rateIndex, p, e.cursor.sizeIndex⟩

def firstProbe (rig : Rig) (x : Bool) (e : Engine) : Option GridPoint :=
  match e.point with
  | none => some ⟨e.rateIndex, 0, 0⟩
  | some q => Grid.step rig e.config x q

def target (rig : Rig) (b : Budget) (x : Bool) (e : Engine) : Option (GridPoint × TrialSpec) :=
  (firstProbe rig x e).bind (Grid.settle rig e.config b x)

def room (e : Engine) : Nat :=
  match e.point with
  | none => Grid.rank e.config ⟨e.rateIndex, 0, 0⟩ + 1
  | some q => Grid.rank e.config q

/-- What the search needs of the engine it starts from: a grid with presets and sizes, no
live trial, encoders built with the configured keyframe interval, and the cursor's frame rate
the one its index names. -/
structure Searchable (e : Engine) : Prop where
  presets : 0 < e.config.presets.length
  sizes : 0 < e.config.sizes.length
  idle : e.harness.live = none
  keyInterval : e.harness.keyIntervalSecs = e.config.keyIntervalSecs
  rate : e.config.frameRates[e.rateIndex]? = some e.cursor.frameRate

def Shifted (e e' : Engine) : Prop :=
  e' = { e with cursor := e'.cursor, rateIndex := e'.rateIndex, profileRate := e'.profileRate } ∧
    e'.cursor.testsTotal = e.cursor.testsTotal

/-- `e'` is `e` with the search moved on to grid point `q`; the profile's rate has changed
exactly when the frame rate has. -/
structure MovedTo (e e' : Engine) (q : GridPoint) : Prop where
  shifted : Shifted e e'
  preset : e'.cursor.presetIndex = some q.preset
  size : e'.cursor.sizeIndex = q.size
  rate : e'.rateIndex = q.rate
  frameRate : e.config.frameRates[q.rate]? = some e'.cursor.frameRate
  ahead : e.rateIndex ≤ q.rate
  profile : e'.profileRate = if q.rate = e.rateIndex then e.profileRate else e'.cursor.frameRate

theorem Shifted.refl (e : Engine) : Shifted e e := ⟨rfl, rfl⟩

theorem Shifted.trans {e₁ e₂ e₃ : Engine} (first : Shifted e₁ e₂) (second : Shifted e₂ e₃) :
    Shifted e₁ e₃ := by
  obtain ⟨eq₂, total₂⟩ := first
  obtain ⟨eq₃, total₃⟩ := second
  refine ⟨?_, total₃.trans total₂⟩
  rw [eq₃, eq₂]

theorem MovedTo.config {e e' : Engine} {q : GridPoint} (moved : MovedTo e e' q) :
    e'.config = e.config := by
  rw [moved.shifted.1]

theorem MovedTo.point {e e' : Engine} {q : GridPoint} (moved : MovedTo e e' q) :
    e'.point = some q := by
  simp [Engine.point, moved.preset, moved.size, moved.rate]

theorem MovedTo.trans {e₁ e₂ e₃ : Engine} {q₂ q₃ : GridPoint} (first : MovedTo e₁ e₂ q₂)
    (second : MovedTo e₂ e₃ q₃) : MovedTo e₁ e₃ q₃ where
  shifted := first.shifted.trans second.shifted
  preset := second.preset
  size := second.size
  rate := second.rate
  frameRate := first.config ▸ second.frameRate
  ahead := by have := first.ahead; have := second.ahead; have := first.rate; omega
  profile := by
    have ahead₁ := first.ahead
    have ahead₂ := second.ahead
    have rate₂ := first.rate
    rw [second.profile, first.profile]
    by_cases same : q₃.rate = q₂.rate
    · have frames : e₂.cursor.frameRate = e₃.cursor.frameRate := by
        have h₂ := first.frameRate
        have h₃ := second.frameRate
        rw [first.config, same] at h₃
        exact Option.some.inj (h₂.symm.trans h₃)
      simp [same, rate₂, frames]
    · have differs : q₃.rate ≠ e₁.rateIndex := by omega
      have moved : q₃.rate ≠ e₂.rateIndex := by omega
      simp [differs, moved]

theorem advanceRate_spec (rig : Rig) (e : Engine) :
    ∃ switched, Probes e.config.keyIntervalSecs switched ∧
      match Grid.switch rig e.config e.rateIndex with
      | some q => ∃ e', MovedTo e e' q ∧ advanceRate rig e = (some e', switched)
      | none => advanceRate rig e = (none, switched) := by
  simp only [Grid.switch, advanceRate]
  cases next : e.config.frameRates[e.rateIndex + 1]? with
  | none => exact ⟨[], .nil, rfl⟩
  | some rate =>
    cases refusal : rig.refusal rate with
    | none =>
      refine ⟨[.rateSwitch rate true], .switch rate true .nil, ?_⟩
      simp only [refusal, Option.isNone_none, ite_true]
      let cursor := { e.cursor with frameRate := rate, presetIndex := some 0, sizeIndex := 0 }
      refine ⟨{ e with profileRate := rate, rateIndex := e.rateIndex + 1, cursor },
        ⟨⟨rfl, rfl⟩, rfl, rfl, rfl, next, by simp, by simp [cursor]⟩, rfl⟩
    | some reason =>
      exact ⟨[.rateSwitch rate false], .switch rate false .nil, by simp [refusal]⟩

theorem MovedTo.of_cursor {e e' : Engine} {cursor : Cursor} {q : GridPoint}
    (total : cursor.testsTotal = e.cursor.testsTotal) (moved : MovedTo { e with cursor } e' q) :
    MovedTo e e' q where
  shifted := (show Shifted e { e with cursor } from ⟨rfl, total⟩).trans moved.shifted
  preset := moved.preset
  size := moved.size
  rate := moved.rate
  frameRate := moved.frameRate
  ahead := moved.ahead
  profile := moved.profile

theorem shift_spec (rig : Rig) {e : Engine} (ready : Searchable e) :
    (shift rig x e).1 = { e with cursor := e.cursor.next x e.config.presets.length } ∧
    ∃ switched, Probes e.config.keyIntervalSecs switched ∧
      match firstProbe rig x e with
      | some q => ∃ e', MovedTo e e' q ∧ (shift rig x e).2 = (some e', switched)
      | none => (shift rig x e).2 = (none, switched) := by
  refine ⟨by simp only [shift]; split <;> rfl, ?_⟩
  have total := Cursor.next_testsTotal x e.config.presets.length e.cursor
  have pastEdge :
      ¬ ((e.cursor.next x e.config.presets.length).presetIndex.getD 0 < e.config.presets.length ∧
        (e.cursor.next x e.config.presets.length).sizeIndex < e.config.sizes.length) →
      ∃ switched, Probes e.config.keyIntervalSecs switched ∧
        match Grid.switch rig e.config e.rateIndex with
        | some q' => ∃ e', MovedTo e e' q' ∧ (shift rig x e).2 = (some e', switched)
        | none => (shift rig x e).2 = (none, switched) := by
    intro outside
    obtain ⟨switched, probes, spec⟩ :=
      advanceRate_spec rig { e with cursor := e.cursor.next x e.config.presets.length }
    refine ⟨switched, probes, ?_⟩
    have unfolded : (shift rig x e).2 =
        advanceRate rig { e with cursor := e.cursor.next x e.config.presets.length } := by
      simp only [shift, outside, ite_false]
    dsimp only at spec
    rw [unfolded]
    cases switch : Grid.switch rig e.config e.rateIndex with
    | none => simpa [switch] using spec
    | some q' =>
      rw [switch] at spec
      obtain ⟨e', moved, eq⟩ := spec
      exact ⟨e', moved.of_cursor total, eq⟩
  have inGrid : ∀ q : GridPoint, q.rate = e.rateIndex →
      (e.cursor.next x e.config.presets.length).presetIndex = some q.preset →
      (e.cursor.next x e.config.presets.length).sizeIndex = q.size →
      q.preset < e.config.presets.length ∧ q.size < e.config.sizes.length →
      ∃ switched, Probes e.config.keyIntervalSecs switched ∧
        ∃ e', MovedTo e e' q ∧ (shift rig x e).2 = (some e', switched) := by
    intro q rate preset size inside
    refine ⟨[], .nil, { e with cursor := e.cursor.next x e.config.presets.length },
      ⟨⟨rfl, total⟩, preset, size, rate.symm, by simpa [rate] using ready.rate, by omega,
        by simp [rate]⟩, ?_⟩
    simp only [shift, preset, size, Option.getD_some, inside, and_self, ite_true]
  cases preset : e.cursor.presetIndex with
  | none =>
    simp only [firstProbe, point, preset, Option.map_none]
    exact inGrid ⟨e.rateIndex, 0, 0⟩ rfl (by simp [Cursor.next, preset])
      (by simp [Cursor.next, preset]) ⟨ready.presets, ready.sizes⟩
  | some p =>
    simp only [firstProbe, point, preset, Option.map_some, Grid.step]
    cases x
    · by_cases inside : p < e.config.presets.length ∧ e.cursor.sizeIndex + 1 < e.config.sizes.length
      · simp only [Bool.false_eq_true, ite_false, inside]
        exact inGrid _ rfl (by simp [Cursor.next, preset]) (by simp [Cursor.next, preset]) inside
      · simp only [Bool.false_eq_true, ite_false, inside]
        exact pastEdge (by simpa [Cursor.next, preset] using inside)
    · by_cases inside : p + 1 < e.config.presets.length ∧ e.cursor.sizeIndex < e.config.sizes.length
      · simp only [ite_true, inside]
        exact inGrid _ rfl (by simp [Cursor.next, preset]) (by simp [Cursor.next, preset]) inside
      · simp only [ite_true, inside, ite_false]
        exact pastEdge (by simpa [Cursor.next, preset] using inside)

theorem Grid.switch_eq {c : Config} {rate : Nat} {q : GridPoint}
    (h : Grid.switch rig c rate = some q) : q = ⟨rate + 1, 0, 0⟩ := by
  simp only [Grid.switch] at h
  split at h
  · split at h
    · exact (Option.some.inj h).symm
    · cases h
  · cases h

theorem Grid.step_inside {c : Config} {q q' : GridPoint} (presets : 0 < c.presets.length)
    (sizes : 0 < c.sizes.length) (h : Grid.step rig c x q = some q') :
    q'.preset < c.presets.length ∧ q'.size < c.sizes.length := by
  cases x <;> simp only [Grid.step, Bool.false_eq_true, ite_true, ite_false] at h <;> split at h
  all_goals first
    | (rename_i inside; cases h; exact inside)
    | (rw [Grid.switch_eq h]; exact ⟨presets, sizes⟩)

theorem firstProbe_inside {e : Engine} {q : GridPoint} (ready : Searchable e)
    (h : firstProbe rig x e = some q) :
    q.preset < e.config.presets.length ∧ q.size < e.config.sizes.length := by
  simp only [firstProbe] at h
  split at h
  · cases h
    exact ⟨ready.presets, ready.sizes⟩
  · exact Grid.step_inside ready.presets ready.sizes h

theorem room_moved_lt {e e' : Engine} {q : GridPoint} (moved : MovedTo e e' q)
    (h : firstProbe rig x e = some q) : e'.room < e.room := by
  have landed : e'.room = Grid.rank e.config q := by simp only [room, moved.point, moved.config]
  rw [landed]
  unfold firstProbe at h
  unfold room
  cases point : e.point with
  | none =>
    simp only [point, Option.some.injEq] at h
    subst h
    exact Nat.lt_succ_self _
  | some from_ =>
    simp only [point] at h
    exact Grid.step_rank_lt rig e.config h

theorem target_moved {e e' : Engine} {q : GridPoint} (moved : MovedTo e e' q) :
    e'.target rig b x = (Grid.step rig e.config x q).bind (Grid.settle rig e.config b x) := by
  simp only [target, firstProbe, moved.point, moved.config]

theorem MovedTo.searchable {e e' : Engine} {q : GridPoint} (ready : Searchable e)
    (moved : MovedTo e e' q) : Searchable e' := by
  obtain ⟨⟨same, _⟩, _, _, rate, frameRate, _, _⟩ := moved
  rw [same]
  exact ⟨ready.presets, ready.sizes, ready.idle, ready.keyInterval, by simpa [rate] using frameRate⟩

theorem Harness.beginTrial_idle {h : Harness} (spec : TrialSpec) (idle : h.live = none) :
    h.beginTrial rig spec =
      match rig.activation (h.configFor spec) with
      | .ok () => ({ h with live := some spec }, .ok (), [.created (h.configFor spec), .activated spec])
      | .error err => (h, .error err, [.created (h.configFor spec), .refused spec err]) := by
  simp only [Harness.beginTrial, Harness.endTrial, idle, List.nil_append]
  cases rig.activation (h.configFor spec) with
  | ok u => rfl
  | error err => rfl

theorem finish_idle_effects {e : Engine} (idle : e.harness.live = none) : (finish rig e).2 = [] := by
  simp [finish, Harness.endTrial, idle]

/-- What a search from `e` ends with, after the effects `acc`: it starts the walk's trial at
the walk's point, or, when the walk runs out, ends the run; only the search's position moves
on the way, and the points passed leave probe effects. -/
def Lands (rig : Rig) (b : Budget) (x : Bool) (e : Engine) (acc : List Effect)
    (result : Engine × List Effect) : Prop :=
  ∃ e' probes, Probes e.config.keyIntervalSecs probes ∧
    match e.target rig b x with
    | some (q, spec) => MovedTo e e' q ∧
        result = ({ e' with
            harness := { e.harness with live := some spec }, frameInTrial := 0, phase := .preparing },
          acc ++ probes ++ [.created (EncoderConfig.ofSpec spec e.config.keyIntervalSecs),
            .activated spec])
    | none => Shifted e e' ∧ result = ((finish rig e').1, acc ++ probes)

theorem Lands.of_moved {e e₂ : Engine} {q : GridPoint} {acc pre : List Effect}
    {result : Engine × List Effect} (moved : MovedTo e e₂ q)
    (same : e.target rig b x = e₂.target rig b x) (passed : Probes e.config.keyIntervalSecs pre)
    (rest : Lands rig b x e₂ (acc ++ pre) result) : Lands rig b x e acc result := by
  obtain ⟨e', probes, probesOk, spec⟩ := rest
  refine ⟨e', pre ++ probes, passed.append (moved.config ▸ probesOk), ?_⟩
  have harness : e₂.harness = e.harness := by rw [moved.shifted.1]
  rw [same]
  split at spec
  · obtain ⟨further, eq⟩ := spec
    refine ⟨moved.trans further, ?_⟩
    rw [eq, harness, moved.config]
    simp
  · obtain ⟨shifted, eq⟩ := spec
    exact ⟨moved.shifted.trans shifted, by rw [eq]; simp⟩

theorem seek_lands (rig : Rig) {fuel : Nat} {e : Engine} (acc : List Effect) (ready : Searchable e)
    (enough : e.room < fuel) : Lands rig b x e acc (seek rig b x fuel e acc) := by
  induction fuel generalizing e acc with
  | zero => exact absurd enough (Nat.not_lt_zero _)
  | succ n ih =>
    obtain ⟨first, switched, switches, moved⟩ := shift_spec rig (x := x) ready
    cases probe : firstProbe rig x e with
    | none =>
      rw [probe] at moved
      have shiftEq : shift rig x e =
          ({ e with cursor := e.cursor.next x e.config.presets.length }, none, switched) := by
        rw [← first, ← moved]
      refine ⟨{ e with cursor := e.cursor.next x e.config.presets.length }, switched, switches, ?_⟩
      simp only [target, probe, Option.bind_none]
      refine ⟨⟨rfl, by simp⟩, ?_⟩
      have idle : ({ e with cursor := e.cursor.next x e.config.presets.length } : Engine).harness.live =
          none := ready.idle
      rw [seek, shiftEq]
      simp only [finish_idle_effects idle, List.append_nil]
    | some q =>
      rw [probe] at moved
      obtain ⟨e₂, movedTo, landed⟩ := moved
      have shiftEq : shift rig x e = ((shift rig x e).1, some e₂, switched) := by rw [← landed]
      obtain ⟨inPresets, inSizes⟩ := firstProbe_inside ready probe
      obtain ⟨preset, atPreset⟩ : ∃ preset, e.config.presets[q.preset]? = some preset :=
        ⟨_, List.getElem?_eq_getElem inPresets⟩
      obtain ⟨size, atSize⟩ : ∃ size, e.config.sizes[q.size]? = some size :=
        ⟨_, List.getElem?_eq_getElem inSizes⟩
      have settleAt : e.target rig b x = Grid.settle rig e.config b x q := by
        simp [target, probe]
      have passOn : (Grid.trialAt e.config b q).filter (Grid.comesUp rig e.config) = none →
          e.target rig b x = e₂.target rig b x := fun passed => by
        rw [settleAt, Grid.settle_passed _ _ _ passed, target_moved movedTo]
      have further : e₂.room < n := by have := room_moved_lt movedTo probe; omega
      have idle₂ : e₂.harness = e.harness := by rw [movedTo.shifted.1]
      have atPreset₂ : e₂.config.presets[q.preset]? = some preset := by rw [movedTo.config, atPreset]
      have atSize₂ : e₂.config.sizes[q.size]? = some size := by rw [movedTo.config, atSize]
      rw [seek, shiftEq]
      simp only [movedTo.preset, movedTo.size, Option.getD_some, atPreset₂, atSize₂]
      cases choice : Bitrate.forTrial (Bitrate.ideal size e₂.cursor.frameRate b.highAction)
          (q.size == 0) b.target b.maxVideoKbps with
      | skip =>
        have passed : (Grid.trialAt e.config b q).filter (Grid.comesUp rig e.config) = none := by
          simp [Grid.trialAt, atPreset, atSize, movedTo.frameRate, choice]
        exact Lands.of_moved movedTo (passOn passed) switches
          (ih _ (movedTo.searchable ready) further)
      | use kbps =>
        have trial : Grid.trialAt e.config b q = some ⟨preset, size, e₂.cursor.frameRate, kbps⟩ := by
          simp [Grid.trialAt, atPreset, atSize, movedTo.frameRate, choice]
        have configFor : e₂.harness.configFor ⟨preset, size, e₂.cursor.frameRate, kbps⟩ =
            EncoderConfig.ofSpec ⟨preset, size, e₂.cursor.frameRate, kbps⟩
              e.config.keyIntervalSecs := by
          simp [Harness.configFor, idle₂, ready.keyInterval]
        have idle : e₂.harness.live = none := by rw [idle₂]; exact ready.idle
        simp only [Harness.beginTrial_idle _ idle, configFor]
        cases activation : rig.activation (EncoderConfig.ofSpec ⟨preset, size, e₂.cursor.frameRate, kbps⟩
            e.config.keyIntervalSecs) with
        | ok u =>
          have found : (Grid.trialAt e.config b q).filter (Grid.comesUp rig e.config) =
              some ⟨preset, size, e₂.cursor.frameRate, kbps⟩ := by
            simp [trial, Grid.comesUp, activation, Except.toBool]
          refine ⟨e₂, switched, switches, ?_⟩
          rw [settleAt, Grid.settle_found _ _ _ found]
          refine ⟨movedTo, ?_⟩
          simp [idle₂, movedTo.config]
        | error err =>
          have passed : (Grid.trialAt e.config b q).filter (Grid.comesUp rig e.config) = none := by
            simp [trial, Grid.comesUp, activation, Except.toBool]
          have refused := switches.append (.refused ⟨preset, size, e₂.cursor.frameRate, kbps⟩
            err .nil)
          refine Lands.of_moved movedTo (passOn passed) refused ?_
          simpa using ih (acc ++ (switched ++ _)) (movedTo.searchable ready) further

end Engine

end EncoderBench
