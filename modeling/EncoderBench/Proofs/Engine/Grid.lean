import EncoderBench.Bench.Engine
/-!
The search as a walk over grid points, one step at a time: along the presets after a trial that
broke the budget, else along the sizes, and past the grid's edge to the next frame rate. Every
step lowers `rank`, so the walk is well founded and needs no fuel of its own.
-/
namespace EncoderBench

structure GridPoint where
  rate : Nat
  preset : Nat
  size : Nat
  deriving DecidableEq, Repr

namespace Grid

variable (rig : Rig) (c : Config) (b : Budget)

def trialAt (q : GridPoint) : Option TrialSpec := do
  let preset ← c.presets[q.preset]?
  let size ← c.sizes[q.size]?
  let rate ← c.frameRates[q.rate]?
  match Bitrate.forTrial (Bitrate.ideal size rate b.highAction) (q.size == 0) b.target
      b.maxVideoKbps with
  | .use kbps => some ⟨preset, size, rate, kbps⟩
  | .skip => none

def comesUp (spec : TrialSpec) : Bool :=
  (rig.activation (EncoderConfig.ofSpec spec c.keyIntervalSecs)).toBool

def switch (rate : Nat) : Option GridPoint :=
  match c.frameRates[rate + 1]? with
  | some next => if (rig.refusal next).isNone then some ⟨rate + 1, 0, 0⟩ else none
  | none => none

/-- One step of the walk. -/
def step (exceeded : Bool) (q : GridPoint) : Option GridPoint :=
  let q' := if exceeded then { q with preset := q.preset + 1 } else { q with size := q.size + 1 }
  if q'.preset < c.presets.length ∧ q'.size < c.sizes.length then some q' else switch rig c q.rate

/-- How far a point is from the end of the walk: whole grids for the frame rates after its
own, and the steps left in its own. -/
def rank (q : GridPoint) : Nat :=
  (c.frameRates.length - (q.rate + 1)) * (c.presets.length + c.sizes.length + 1) +
    (c.presets.length + c.sizes.length - q.preset - q.size)

theorem rank_switch_lt {q : GridPoint} (next : q.rate + 1 < c.frameRates.length) :
    rank c ⟨q.rate + 1, 0, 0⟩ < rank c q := by
  have split : c.frameRates.length - (q.rate + 1) = (c.frameRates.length - (q.rate + 1 + 1)) + 1 := by
    omega
  simp only [rank, split, Nat.succ_mul]
  omega

theorem switch_rank_lt {q q' : GridPoint} (h : switch rig c q.rate = some q') :
    rank c q' < rank c q := by
  simp only [switch] at h
  split at h
  · rename_i rate next
    split at h
    · cases h
      exact rank_switch_lt c (List.getElem?_eq_some_iff.mp next).1
    · cases h
  · cases h

theorem step_rank_lt {x : Bool} {q q' : GridPoint} (h : step rig c x q = some q') :
    rank c q' < rank c q := by
  cases x <;> simp only [step, Bool.false_eq_true, ite_true, ite_false] at h <;> split at h
  · cases h
    simp only [rank]
    omega
  · exact switch_rank_lt rig c h
  · cases h
    simp only [rank]
    omega
  · exact switch_rank_lt rig c h

/-- From a point, the first point at or after it on the walk whose trial is kept and comes up,
with that trial. -/
def settle (exceeded : Bool) (q : GridPoint) : Option (GridPoint × TrialSpec) :=
  match (trialAt c b q).filter (comesUp rig c) with
  | some spec => some (q, spec)
  | none =>
    match _moved : step rig c exceeded q with
    | none => none
    | some q' => settle exceeded q'
termination_by rank c q
decreasing_by exact step_rank_lt rig c _moved

theorem settle_found {x : Bool} {q : GridPoint} {spec : TrialSpec}
    (found : (trialAt c b q).filter (comesUp rig c) = some spec) :
    settle rig c b x q = some (q, spec) := by
  rw [settle, found]

theorem settle_passed {x : Bool} {q : GridPoint}
    (passed : (trialAt c b q).filter (comesUp rig c) = none) :
    settle rig c b x q = (step rig c x q).bind (settle rig c b x) := by
  rw [settle, passed]
  cases step rig c x q <;> rfl

theorem settle_spec {x : Bool} {q₀ q : GridPoint} {spec : TrialSpec}
    (settled : settle rig c b x q₀ = some (q, spec)) :
    (trialAt c b q).filter (comesUp rig c) = some spec := by
  fun_induction settle rig c b x q₀ with
  | case1 q₀ spec₀ found =>
    cases settled
    exact found
  | case2 q₀ _ _ => cases settled
  | case3 q₀ q' _ _ ih => exact ih settled

theorem trialAt_spec {q : GridPoint} {spec : TrialSpec} (h : trialAt c b q = some spec) :
    c.presets[q.preset]? = some spec.preset ∧ c.sizes[q.size]? = some spec.size ∧
      c.frameRates[q.rate]? = some spec.frameRate ∧
      Bitrate.forTrial (Bitrate.ideal spec.size spec.frameRate b.highAction) (q.size == 0) b.target
        b.maxVideoKbps = .use spec.bitrateKbps := by
  simp only [trialAt, Option.bind_eq_bind] at h
  cases atPreset : c.presets[q.preset]? <;> simp only [atPreset, Option.bind_none, Option.bind_some,
    reduceCtorEq] at h
  cases atSize : c.sizes[q.size]? <;> simp only [atSize, Option.bind_none, Option.bind_some,
    reduceCtorEq] at h
  cases atRate : c.frameRates[q.rate]? <;> simp only [atRate, Option.bind_none, Option.bind_some,
    reduceCtorEq] at h
  split at h
  · rename_i kbps choice
    cases h
    exact ⟨rfl, rfl, rfl, choice⟩
  · cases h

end Grid

end EncoderBench
