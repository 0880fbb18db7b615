import EncoderBench.Proofs.Doubles.Exactness
import EncoderBench.Advice.Bitrate
/-!
How the recommended bitrate grows with the output size. `ideal` is `round` of a demand that grows
with the size's weight at every frame rate whose factor is positive, so the recommendation never
falls along the six standard sizes (`ideal_monotone_standard`); at a fixed size it peaks near
52.5 frames per second (`ideal_not_monotone`).
-/

namespace EncoderBench
namespace Bitrate
open Doubles

section Pieces

def framesPerSecond (rate : FrameRate) : Float := FrameRate.maxFloat rate.toFloat 15.0

def rateFactor (fps : Float) : Float := (fps - 15.0) * (0.75 - 1.5) / (60.0 - 15.0) + 1.5

def sizeWeight (size : Resolution) (highAction : Bool) : Float :=
  let area := Float.ofNat size.pixels
  area * (if highAction then 0.090 else 0.055) *
    (1.0 - (area - 230400.0) / (2073600.0 - 230400.0) * 0.25)

/-- The recommendation before rounding: a weight at a frame rate, in Kb/s. -/
def demand (weight fps : Float) : Float := weight * rateFactor fps * fps * 0.001

theorem ideal_eq (size : Resolution) (rate : FrameRate) (highAction : Bool) :
    ideal size rate highAction = round (demand (sizeWeight size highAction) (framesPerSecond rate)) :=
  rfl

theorem fifteen_isNaN : (15.0 : Float).isNaN = false := by decide

theorem fifteen_pos : toEReal 0.0 < toEReal 15.0 :=
  (lt_iff_toEReal rfl fifteen_isNaN).mp (by decide)

theorem framesPerSecond_floor (rate : FrameRate) :
    (framesPerSecond rate).isNaN = false ∧ toEReal 15.0 ≤ toEReal (framesPerSecond rate) := by
  unfold framesPerSecond FrameRate.maxFloat
  by_cases nan : rate.toFloat.isNaN = true
  · rw [if_pos nan]
    exact ⟨fifteen_isNaN, le_refl _⟩
  have number : rate.toFloat.isNaN = false := by simpa using nan
  rw [if_neg nan, if_neg (by rw [fifteen_isNaN]; decide)]
  by_cases below : rate.toFloat < 15.0
  · rw [if_pos below]
    exact ⟨fifteen_isNaN, le_refl _⟩
  · rw [if_neg below]
    rw [lt_iff_toEReal number fifteen_isNaN, not_lt] at below
    exact ⟨number, below⟩

theorem pos_of_fifteen_le {fps : Float} (nf : fps.isNaN = false) (ge : toEReal 15.0 ≤ toEReal fps) :
    0.0 < fps :=
  (lt_iff_toEReal rfl nf).mpr (fifteen_pos.trans_le ge)

end Pieces


section RateFactor

variable {fps : Float}

theorem rateFactor_antitone : ExtAntitone rateFactor :=
  (@roundsMonotone_add_right 1.5 (by decide)).ext.comp_antitone
    ((@roundsMonotone_div_right (60.0 - 15.0) (by decide)
      (value_pos_of_lt (by decide) (by decide))).ext.comp_antitone
      ((@roundsAntitone_mul_right (0.75 - 1.5) (by decide)
        (value_neg_of_lt (by decide) (by decide))).ext.comp_monotone
        (@roundsMonotone_sub_right 15.0 (by decide)).ext))

theorem rateFactor_le (nf : fps.isNaN = false) (ge : toEReal 15.0 ≤ toEReal fps) :
    toEReal (rateFactor fps) ≤ toEReal 1.5 :=
  calc toEReal (rateFactor fps) ≤ toEReal (rateFactor 15.0) :=
        rateFactor_antitone.le fifteen_isNaN nf ge
    _ = toEReal 1.5 := by rw [show rateFactor 15.0 = 1.5 by decide]

theorem rateFactor_neg (nf : fps.isNaN = false) (ge : toEReal 120.0 ≤ toEReal fps) :
    toEReal (rateFactor fps) < 0 :=
  calc toEReal (rateFactor fps) ≤ toEReal (rateFactor 120.0) :=
        rateFactor_antitone.le (by decide) nf ge
    _ < toEReal 0.0 := (lt_iff_toEReal (by decide) rfl).mp (by decide)
    _ = 0 := toEReal_zero

end RateFactor


section Rounding

def step (kbps : Float) : Float := if kbps ≤ 1000.0 then 50.0 else 100.0

variable {x y : Float}

theorem round_of_not_pos (h : ¬ 0.0 < x) : round x = 0 := by
  unfold round
  rw [if_pos]
  by_cases nan : x.isNaN = true
  · simp [isFinite_eq_false_of_isNaN nan]
  · have nx : x.isNaN = false := by simpa using nan
    have below : x ≤ 0.0 := by
      rw [le_iff_toEReal nx rfl, toEReal_zero]
      exact (not_pos_iff nx).mp h
    simp [below]

theorem round_of_pos (fx : x.isFinite = true) (pos : 0.0 < x) :
    round x = toU32 (roundHalfUp (x / step x) * step x) := by
  have above : ¬ x ≤ 0.0 := by
    rw [le_iff_toEReal (isNaN_of_isFinite fx) rfl, not_le, ← lt_iff_toEReal rfl (isNaN_of_isFinite fx)]
    exact pos
  unfold round
  rw [if_neg (by simp [fx, above])]
  rfl

theorem roundHalfUp_le (nx : x.isNaN = false) (ny : y.isNaN = false) (le : toEReal x ≤ toEReal y) :
    toEReal (roundHalfUp x) ≤ toEReal (roundHalfUp y) := by
  have double := (@roundsMonotone_mul_right 2.0 (by decide)
    (value_pos_of_lt (by decide) (by decide))).ext
  have twice := toUInt64_mono (double.isNaN nx) (double.isNaN ny) (double.le nx ny le)
  exact (roundsTo_ofNat _).le (roundsTo_ofNat _)
    (by exact_mod_cast Nat.div_le_div_right (Nat.add_le_add_right twice 1))

theorem toMultiple_le {s : Float} (fs : s.isFinite = true) (pos : 0.0 < s)
    (nx : x.isNaN = false) (ny : y.isNaN = false) (le : toEReal x ≤ toEReal y) :
    toU32 (roundHalfUp (x / s) * s) ≤ toU32 (roundHalfUp (y / s) * s) := by
  have divide := (roundsMonotone_div_right fs (value_pos_of_lt fs pos)).ext
  have scale := (roundsMonotone_mul_right fs (value_pos_of_lt fs pos)).ext
  have halves := roundHalfUp_le (divide.isNaN nx) (divide.isNaN ny) (divide.le nx ny le)
  have notNaN (z : Float) : (roundHalfUp z).isNaN = false := (roundsTo_ofNat _).isNaN
  exact toUInt32_mono (scale.isNaN (notNaN _)) (scale.isNaN (notNaN _))
    (scale.le (notNaN _) (notNaN _) halves)

theorem round_mono (nx : x.isNaN = false) (ny : y.isNaN = false) (le : toEReal x ≤ toEReal y)
    (bound : toEReal y ≤ toEReal 1000000.0) : round x ≤ round y := by
  by_cases px : 0.0 < x
  swap
  · rw [round_of_not_pos px]
    exact Nat.zero_le _
  rw [lt_iff_toEReal rfl nx] at px
  have py : 0.0 < y := (lt_iff_toEReal rfl ny).mpr (px.trans_le le)
  have fx := isFinite_of_le (by decide) (by decide) nx px.le (le.trans bound)
  have fy := isFinite_of_le (by decide) (by decide) ny (px.le.trans le) bound
  rw [round_of_pos fx ((lt_iff_toEReal rfl nx).mpr px), round_of_pos fy py]
  unfold step
  have thousand : (1000.0 : Float).isNaN = false := by decide
  by_cases hy : y ≤ 1000.0
  · have hx : x ≤ 1000.0 :=
      (le_iff_toEReal nx thousand).mpr (le.trans ((le_iff_toEReal ny thousand).mp hy))
    rw [if_pos hx, if_pos hy]
    exact toMultiple_le (by decide) (by decide) nx ny le
  have above : toEReal 1000.0 ≤ toEReal y := by
    rw [le_iff_toEReal ny thousand, not_le] at hy
    exact hy.le
  by_cases hx : x ≤ 1000.0
  · rw [if_pos hx, if_neg hy]
    calc toU32 (roundHalfUp (x / 50.0) * 50.0)
        ≤ toU32 (roundHalfUp (1000.0 / 50.0) * 50.0) :=
          toMultiple_le (by decide) (by decide) nx thousand ((le_iff_toEReal nx thousand).mp hx)
      _ = toU32 (roundHalfUp (1000.0 / 100.0) * 100.0) := by decide +kernel
      _ ≤ toU32 (roundHalfUp (y / 100.0) * 100.0) :=
          toMultiple_le (by decide) (by decide) thousand ny above
  · rw [if_neg hx, if_neg hy]
    exact toMultiple_le (by decide) (by decide) nx ny le

end Rounding


section Growth

variable {fps : Float}

theorem demand_monotone (fr : (rateFactor fps).isFinite = true) (pr : 0.0 < rateFactor fps)
    (ff : fps.isFinite = true) (pf : 0.0 < fps) : ExtMonotone (demand · fps) :=
  (@roundsMonotone_mul_right 0.001 (by decide)
    (value_pos_of_lt (by decide) (by decide))).ext.comp
    ((roundsMonotone_mul_right ff (value_pos_of_lt ff pf)).ext.comp
      (roundsMonotone_mul_right fr (value_pos_of_lt fr pr)).ext)

theorem demand_ceiling_le (nf : fps.isNaN = false) (ge : toEReal 15.0 ≤ toEReal fps)
    (below : toEReal fps ≤ toEReal 120.0) : toEReal (demand 200000.0 fps) ≤ toEReal 1000000.0 := by
  have nr := rateFactor_antitone.isNaN nf
  have ff := isFinite_of_le (by decide) (by decide) nf ge below
  have byCeiling := (@roundsMonotone_mul_left 200000.0 (by decide)
    (value_pos_of_lt (by decide) (by decide))).ext
  have byTop := (@roundsMonotone_mul_left (200000.0 * 1.5) (by decide)
    (value_pos_of_lt (by decide) (by decide))).ext
  have byRate := (roundsMonotone_mul_right ff (value_pos_of_lt ff (pos_of_fifteen_le nf ge))).ext
  have byKilo := (@roundsMonotone_mul_right 0.001 (by decide)
    (value_pos_of_lt (by decide) (by decide))).ext
  have scaled : toEReal (200000.0 * rateFactor fps * fps) ≤ toEReal (200000.0 * 1.5 * 120.0) :=
    calc toEReal (200000.0 * rateFactor fps * fps)
        ≤ toEReal (200000.0 * 1.5 * fps) :=
          byRate.le (byCeiling.isNaN nr) (by decide)
            (byCeiling.le nr (by decide) (rateFactor_le nf ge))
      _ ≤ toEReal (200000.0 * 1.5 * 120.0) := byTop.le nf (by decide) below
  calc toEReal (demand 200000.0 fps)
      ≤ toEReal (200000.0 * 1.5 * 120.0 * 0.001) :=
        byKilo.le (byRate.isNaN (byCeiling.isNaN nr)) (by decide) scaled
    _ ≤ toEReal 1000000.0 :=
        (le_iff_toEReal (by decide) (by decide)).mp (by decide)

theorem round_demand_mono {w₁ w₂ : Float} (nf : fps.isNaN = false) (ge : toEReal 15.0 ≤ toEReal fps)
    (f₁ : w₁.isFinite = true) (p₁ : 0.0 < w₁) (n₂ : w₂.isNaN = false)
    (le : toEReal w₁ ≤ toEReal w₂) (ceiling : toEReal w₂ ≤ toEReal 200000.0) :
    round (demand w₁ fps) ≤ round (demand w₂ fps) := by
  have n₁ := isNaN_of_isFinite f₁
  have nr := rateFactor_antitone.isNaN nf
  by_cases pr : 0.0 < rateFactor fps
  · have below : toEReal fps < toEReal 120.0 := by
      by_contra above
      have neg := rateFactor_neg nf (not_lt.mp above)
      rw [lt_iff_toEReal rfl nr, toEReal_zero] at pr
      exact absurd (pr.trans neg) (lt_irrefl 0)
    have ff := isFinite_of_le (by decide) (by decide) nf ge below.le
    have fr := isFinite_of_le (by decide) (by decide) nr
      ((lt_iff_toEReal rfl nr).mp pr).le (rateFactor_le nf ge)
    have mono := demand_monotone fr pr ff (pos_of_fifteen_le nf ge)
    exact round_mono (mono.isNaN n₁) (mono.isNaN n₂) (mono.le n₁ n₂ le)
      ((mono.le n₂ (by decide) ceiling).trans (demand_ceiling_le nf ge below.le))
  · have nonneg {z : Float} (pos : toEReal 0.0 ≤ toEReal z) : 0 ≤ toEReal z := by
      rwa [toEReal_zero] at pos
    have factor : ¬ 0.0 < w₁ * rateFactor fps := by
      rw [float_mul_comm]
      exact not_pos_mul pr n₁ (nonneg ((lt_iff_toEReal rfl n₁).mp p₁).le)
    have rate : ¬ 0.0 < w₁ * rateFactor fps * fps :=
      not_pos_mul factor nf (nonneg (fifteen_pos.le.trans ge))
    have kilo : ¬ 0.0 < demand w₁ fps :=
      not_pos_mul rate (by decide)
        (nonneg ((le_iff_toEReal rfl (by decide)).mp (by decide)))
    rw [round_of_not_pos kilo]
    exact Nat.zero_le _

/-- The recommended bitrate never falls from one standard size to the next, at any frame rate
and for both kinds of content. -/
theorem ideal_monotone_standard (rate : FrameRate) (highAction : Bool) :
    (Resolution.standard.map (ideal · rate highAction)).Pairwise (· ≤ ·) := by
  have weights : Resolution.standard.Pairwise
      (fun a b => sizeWeight a highAction ≤ sizeWeight b highAction) := by
    cases highAction <;> decide
  have moderate : ∀ size ∈ Resolution.standard, (sizeWeight size highAction).isFinite = true ∧
      0.0 < sizeWeight size highAction ∧ sizeWeight size highAction ≤ 200000.0 := by
    cases highAction <;> decide
  have ceiling : (200000.0 : Float).isNaN = false := by decide
  obtain ⟨nf, ge⟩ := framesPerSecond_floor rate
  rw [List.pairwise_map]
  refine weights.imp_of_mem fun {a b} ma mb le => ?_
  obtain ⟨fa, pa, -⟩ := moderate a ma
  obtain ⟨fb, -, bb⟩ := moderate b mb
  rw [ideal_eq, ideal_eq]
  exact round_demand_mono nf ge fa pa (isNaN_of_isFinite fb)
    ((le_iff_toEReal (isNaN_of_isFinite fa) (isNaN_of_isFinite fb)).mp le)
    ((le_iff_toEReal (isNaN_of_isFinite fb) ceiling).mp bb)

/-- Beyond the standard sizes and in the frame rate the recommendation does fall: at 30 frames per
second 2160p gets less than 1080p, and at 1080p 60 frames per second get less than 50. -/
theorem ideal_not_monotone :
    ideal ⟨3840, 2160⟩ (FrameRate.ofNat 30) false < ideal Resolution.hd1080 (FrameRate.ofNat 30) false ∧
      ideal Resolution.hd1080 (FrameRate.ofNat 60) false <
        ideal Resolution.hd1080 (FrameRate.ofNat 50) false := by
  decide +kernel

end Growth

end Bitrate
end EncoderBench
