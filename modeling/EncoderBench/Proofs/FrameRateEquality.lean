import Mathlib.Algebra.Field.Rat
import EncoderBench.Video.FrameRate
/-!
Equality of frame rates by cross products. Off a zero denominator it is equality of the fractions
`num / den`; on every rate it is reflexive and symmetric, but `0/0` is the same as every rate, so
`30/1` and `60/1` are both the same as it (`zero_rate_joins_thirty_and_sixty`).
-/
namespace EncoderBench

namespace FrameRate

theorem same_iff {a b : FrameRate} : a.same b = true ↔ a.num * b.den = b.num * a.den := by
  simp [same]

theorem same_refl (a : FrameRate) : a.same a = true := same_iff.mpr rfl

theorem same_comm (a b : FrameRate) : a.same b = b.same a :=
  Bool.eq_iff_iff.mpr (by rw [same_iff, same_iff, eq_comm])

theorem same_trans_of_den {a b c : FrameRate} (den : b.den ≠ 0) (ab : a.same b = true)
    (bc : b.same c = true) : a.same c = true := by
  rw [same_iff] at ab bc ⊢
  apply Nat.eq_of_mul_eq_mul_right (Nat.pos_of_ne_zero den)
  calc a.num * c.den * b.den = a.num * b.den * c.den := Nat.mul_right_comm _ _ _
    _ = b.num * c.den * a.den := by rw [ab, Nat.mul_right_comm]
    _ = c.num * a.den * b.den := by rw [bc, Nat.mul_right_comm]

theorem same_trans_of_num {a b c : FrameRate} (num : b.num ≠ 0) (den : b.den = 0)
    (ab : a.same b = true) (bc : b.same c = true) : a.same c = true := by
  rw [same_iff, den, Nat.mul_zero] at ab bc
  have aDen : a.den = 0 := (Nat.mul_eq_zero.mp ab.symm).resolve_left num
  have cDen : c.den = 0 := (Nat.mul_eq_zero.mp bc).resolve_left num
  rw [same_iff, aDen, cDen, Nat.mul_zero, Nat.mul_zero]

theorem same_trans {a b c : FrameRate} (middle : b ≠ ⟨0, 0⟩) (ab : a.same b = true)
    (bc : b.same c = true) : a.same c = true := by
  by_cases den : b.den = 0
  · have num : b.num ≠ 0 := fun num => middle (by cases b; simp_all)
    exact same_trans_of_num num den ab bc
  · exact same_trans_of_den den ab bc

theorem zero_rate_same (a : FrameRate) : (⟨0, 0⟩ : FrameRate).same a = true := by
  simp [same]

theorem same_iff_div_eq {a b : FrameRate} (aDen : a.den ≠ 0) (bDen : b.den ≠ 0) :
    a.same b = true ↔ (a.num : ℚ) / a.den = b.num / b.den := by
  rw [same_iff, div_eq_div_iff (Nat.cast_ne_zero.mpr aDen) (Nat.cast_ne_zero.mpr bDen)]
  exact_mod_cast Iff.rfl

theorem same_equivalence : Equivalence fun a b : {r : FrameRate // r.den ≠ 0} => a.1.same b.1 where
  refl a := same_refl a.1
  symm ab := (same_comm _ _).trans ab
  trans {_ b _} ab bc := same_trans_of_den b.2 ab bc

theorem same_fps30_iff (r : FrameRate) :
    r.same fps30 = true ↔ (r.den ≠ 0 ∧ (r.num : ℚ) / r.den = 30) ∨ r = ⟨0, 0⟩ := by
  by_cases den : r.den = 0
  · have zero : r.same fps30 = true ↔ r.num = 0 := by
      simp [same_iff, fps30, ofNat, den]
    rw [zero]
    constructor
    · intro num
      exact .inr (by cases r; simp_all)
    · rintro (⟨nonzero, -⟩ | rfl)
      · exact absurd den nonzero
      · rfl
  · have rational : r.same fps30 = true ↔ (r.num : ℚ) / r.den = 30 := by
      rw [same_iff_div_eq den (by decide)]
      simp [fps30, ofNat]
    rw [rational]
    constructor
    · exact fun eq => .inl ⟨den, eq⟩
    · rintro (⟨-, eq⟩ | rfl)
      · exact eq
      · exact absurd rfl den

/-- Rate equality is equality of fractions where the denominators are not zero, and an
equivalence there. On all rates it is reflexive and symmetric, and transitive through every
middle rate but `0/0`, which is the same as every rate; a rate counts as 30 Hz when its fraction
is 30 or it is `0/0`. -/
theorem same_is_fraction_equality_off_zero_rate (a b c : FrameRate) :
    a.same a = true ∧ a.same b = b.same a ∧
    (b ≠ ⟨0, 0⟩ → a.same b = true → b.same c = true → a.same c = true) ∧
    (a.den ≠ 0 → b.den ≠ 0 → (a.same b = true ↔ (a.num : ℚ) / a.den = b.num / b.den)) ∧
    Equivalence (fun a b : {r : FrameRate // r.den ≠ 0} => a.1.same b.1) ∧
    (⟨0, 0⟩ : FrameRate).same a = true ∧
    (a.same fps30 = true ↔ (a.den ≠ 0 ∧ (a.num : ℚ) / a.den = 30) ∨ a = ⟨0, 0⟩) :=
  ⟨same_refl a, same_comm a b, same_trans, same_iff_div_eq, same_equivalence, zero_rate_same a,
    same_fps30_iff a⟩

/-- `30/1` and `60/1` are both the same as `0/0` but not the same as each other. -/
theorem zero_rate_joins_thirty_and_sixty :
    fps30.same ⟨0, 0⟩ = true ∧ (⟨0, 0⟩ : FrameRate).same fps60 = true ∧
      fps30.same fps60 = false := by
  decide

end FrameRate

end EncoderBench
