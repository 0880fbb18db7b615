import EncoderBench.Proofs.Doubles.Rounding
/-!
Double arithmetic as rounding. A double stands for a point of the extended real line
(`toEReal`), ordered as there away from NaN; the four operations on finite doubles are their
exact results rounded, so an operation with a fixed finite operand is monotone or antitone.
-/

namespace EncoderBench
namespace Doubles
open Float.Model Float.Model.UnpackedFloat

section Order

/-- Where a double sits on the extended real line. -/
noncomputable def toEReal (x : Float) : EReal := extended x.toModel.unpack

theorem canonical_unpack (x : Float) : Canonical x.toModel.unpack := by
  cases h : x.toModel.unpack with
  | finite s m e pos => exact (shaped_unpack h).1
  | _ => trivial

theorem le_iff_unpack (x y : Float) : x ≤ y ↔ x.toModel.unpack.le y.toModel.unpack = true := by
  change Float.le x y = true ↔ _
  unfold Float.le
  rw [decide_eq_true_iff]
  rfl

theorem lt_iff_unpack (x y : Float) : x < y ↔ x.toModel.unpack.lt y.toModel.unpack = true := by
  change Float.lt x y = true ↔ _
  unfold Float.lt
  rw [decide_eq_true_iff]
  rfl

theorem compare_swap (u₁ u₂ : UnpackedFloat) : u₂.compare u₁ = (u₁.compare u₂).map Ordering.swap := by
  rcases u₁ with ⟨_ | _⟩ | _ | s₁ | ⟨_ | _, m₁, e₁, h₁⟩ <;>
    rcases u₂ with ⟨_ | _⟩ | _ | s₂ | ⟨_ | _, m₂, e₂, h₂⟩ <;>
    simp [UnpackedFloat.compare, Ordering.swap_then, Int.compare_swap, Nat.compare_swap] <;> rfl

theorem compare_ne_none {u₁ u₂ : UnpackedFloat} (n₁ : u₁ ≠ .notANumber) (n₂ : u₂ ≠ .notANumber) :
    u₁.compare u₂ ≠ none := by
  rcases u₁ with ⟨_ | _⟩ | _ | s₁ | ⟨_ | _, m₁, e₁, h₁⟩ <;>
    rcases u₂ with ⟨_ | _⟩ | _ | s₂ | ⟨_ | _, m₂, e₂, h₂⟩ <;>
    simp [UnpackedFloat.compare] at n₁ n₂ ⊢

theorem unpack_ne_of_isNaN {x : Float} (h : x.isNaN = false) : x.toModel.unpack ≠ .notANumber := by
  intro nan
  change x.toModel.unpack.isNaN = false at h
  rw [nan] at h
  cases h

theorem le_iff_toEReal {x y : Float} (nx : x.isNaN = false) (ny : y.isNaN = false) :
    x ≤ y ↔ toEReal x ≤ toEReal y := by
  rw [le_iff_unpack]
  exact le_iff_extended (canonical_unpack x) (canonical_unpack y) (unpack_ne_of_isNaN nx)
    (unpack_ne_of_isNaN ny)

theorem lt_iff_toEReal {x y : Float} (nx : x.isNaN = false) (ny : y.isNaN = false) :
    x < y ↔ toEReal x < toEReal y := by
  rw [← not_le, ← le_iff_toEReal ny nx, le_iff_unpack, lt_iff_unpack]
  unfold UnpackedFloat.lt UnpackedFloat.le
  rw [compare_swap x.toModel.unpack y.toModel.unpack]
  rcases compared : x.toModel.unpack.compare y.toModel.unpack with _ | ⟨_ | _ | _⟩
  · exact absurd compared (compare_ne_none (unpack_ne_of_isNaN nx) (unpack_ne_of_isNaN ny))
  all_goals decide

end Order


section Operations

theorem value_abs (s : Sign) (m : Nat) (e : Int) (h : 0 < m) :
    |value (.finite s m e h)| = m * 2 ^ e := by
  have pos : (0 : ℝ) < m * 2 ^ e := mul_pos (by exact_mod_cast h) (zpow_pos two_pos e)
  cases s
  · simp only [value, abs_neg, abs_of_pos pos]
  · simp only [value, abs_of_pos pos]

theorem value_neg_iff (s : Sign) (m : Nat) (e : Int) (h : 0 < m) :
    value (.finite s m e h) < 0 ↔ s = .negative := by
  have pos : (0 : ℝ) < m * 2 ^ e := mul_pos (by exact_mod_cast h) (zpow_pos two_pos e)
  cases s
  · simp only [value, Left.neg_neg_iff, pos]
  · simp only [value, reduceCtorEq, iff_false, not_lt, pos.le]

theorem sign_of_value (s : Sign) (m : Nat) (e : Int) (h : 0 < m) :
    (if value (.finite s m e h) < 0 then Sign.negative else Sign.positive) = s := by
  by_cases negative : value (.finite s m e h) < 0
  · rw [if_pos negative, (value_neg_iff s m e h).mp negative]
  · rw [if_neg negative]
    cases s
    · exact absurd ((value_neg_iff _ m e h).mpr rfl) negative
    · rfl

theorem roundWithAccuracy_self (s : Sign) {m : Nat} {e : Int} (h : 0 < m) (small : m < 2 ^ 53)
    (low : -1074 ≤ e) : roundWithAccuracy .binary64 s m e .exact = .finite s m e h := by
  rw [roundWithAccuracy_eq, shiftToTargetExponent_small small low]
  simp only [ExtendedMantissa.roundedMantissa, ExtendedMantissa.accuracy,
    Accuracy.roundToNearestEven, carry, Nat.pos_iff_ne_zero.mp h, small, dite_false, if_true]

theorem rounds_self {s : Sign} {m : Nat} {e : Int} {h : 0 < m} (shaped : Shaped m e) :
    Rounds (.finite s m e h) (value (.finite s m e h)) := by
  refine .inr ⟨m, e, .exact, ?_, ?_, ⟨0, rfl, ?_⟩, ?_⟩
  · rw [← abs_ne_zero, value_abs]
    exact (mul_pos (by exact_mod_cast h) (zpow_pos two_pos e)).ne'
  · obtain ⟨-, low, normal | least⟩ := shaped
    · exact .inl ((Nat.le_log2 (by omega)).mpr normal)
    · exact .inr least.le
  · rw [value_abs, add_zero]
  · rw [sign_of_value, roundWithAccuracy_self s h shaped.1 shaped.2.1]

theorem value_ne_zero (s : Sign) (m : Nat) (e : Int) (h : 0 < m) : value (.finite s m e h) ≠ 0 := by
  rw [← abs_ne_zero, value_abs]
  exact (mul_pos (by exact_mod_cast h) (zpow_pos two_pos e)).ne'

theorem sign_of_mul (s₁ s₂ : Sign) (m₁ m₂ : Nat) (e₁ e₂ : Int) (h₁ : 0 < m₁) (h₂ : 0 < m₂) :
    (if value (.finite s₁ m₁ e₁ h₁) * value (.finite s₂ m₂ e₂ h₂) < 0 then Sign.negative
      else Sign.positive) = s₁ * s₂ := by
  have p₁ : (0 : ℝ) < m₁ * 2 ^ e₁ := mul_pos (by exact_mod_cast h₁) (zpow_pos two_pos e₁)
  have p₂ : (0 : ℝ) < m₂ * 2 ^ e₂ := mul_pos (by exact_mod_cast h₂) (zpow_pos two_pos e₂)
  cases s₁ <;> cases s₂
  · rw [if_neg (not_lt.mpr (by simp only [value]; nlinarith))]
    rfl
  · rw [if_pos (by simp only [value]; nlinarith)]
    rfl
  · rw [if_pos (by simp only [value]; nlinarith)]
    rfl
  · rw [if_neg (not_lt.mpr (by simp only [value]; nlinarith))]
    rfl

theorem start_mul {m₁ m₂ : Nat} {e₁ e₂ : Int} (c₁ : Shaped m₁ e₁) (c₂ : Shaped m₂ e₂)
    (h₁ : 0 < m₁) (h₂ : 0 < m₂) : 52 ≤ (m₁ * m₂).log2 ∨ e₁ + e₂ ≤ -1074 := by
  have log (normal : 2 ^ 52 ≤ m₁ * m₂) : 52 ≤ (m₁ * m₂).log2 :=
    (Nat.le_log2 (Nat.mul_ne_zero (by omega) (by omega))).mpr normal
  obtain ⟨-, low₁, normal₁ | least₁⟩ := c₁
  · exact .inl (log (Nat.le_trans normal₁ (Nat.le_mul_of_pos_right m₁ h₂)))
  obtain ⟨-, low₂, normal₂ | least₂⟩ := c₂
  · exact .inl (log (Nat.le_trans normal₂ (Nat.le_mul_of_pos_left m₂ h₁)))
  · exact .inr (by omega)

theorem rounds_mul {u₁ u₂ : UnpackedFloat} (c₁ : Canonical u₁) (c₂ : Canonical u₂)
    (f₁ : u₁.isFinite = true) (f₂ : u₂.isFinite = true) :
    Rounds (UnpackedFloat.mul .binary64 u₁ u₂) (value u₁ * value u₂) := by
  rcases u₁ with _ | _ | s₁ | ⟨s₁, m₁, e₁, h₁⟩ <;> rcases u₂ with _ | _ | s₂ | ⟨s₂, m₂, e₂, h₂⟩ <;>
    simp only [UnpackedFloat.isFinite, Bool.false_eq_true] at f₁ f₂
  · exact .inl ⟨by simp [value], _, rfl⟩
  · exact .inl ⟨by simp [value], _, rfl⟩
  · exact .inl ⟨by simp [value], _, rfl⟩
  · refine .inr ⟨m₁ * m₂, e₁ + e₂, .exact, mul_ne_zero (value_ne_zero _ _ _ _) (value_ne_zero _ _ _ _),
      start_mul c₁ c₂ h₁ h₂, ⟨0, rfl, ?_⟩, ?_⟩
    · rw [abs_mul, value_abs, value_abs, zpow_add₀ two_ne_zero]
      push_cast
      ring
    · rw [sign_of_mul]
      rfl

theorem describes_accuracyOfFraction {rem den : Nat} (lt : rem < den) :
    Describes (accuracyOfFraction rem den) ((rem : ℝ) / den) := by
  have pos : (0 : ℝ) < den := by exact_mod_cast (show 0 < den by omega)
  have fraction : (rem : ℝ) / den < 1 := (div_lt_one pos).mpr (by exact_mod_cast lt)
  unfold accuracyOfFraction
  split_ifs with zero
  · subst zero
    simp [Describes]
  · have positive : (0 : ℝ) < rem / den := div_pos (by exact_mod_cast Nat.pos_of_ne_zero zero) pos
    have half : (rem : ℝ) / den < 1 / 2 ↔ 2 * rem < den := by
      rw [div_lt_div_iff₀ pos two_pos]
      exact_mod_cast (by omega : rem * 2 < 1 * den ↔ 2 * rem < den)
    have halfway : (rem : ℝ) / den = 1 / 2 ↔ 2 * rem = den := by
      rw [div_eq_div_iff pos.ne' two_ne_zero]
      exact_mod_cast (by omega : rem * 2 = 1 * den ↔ 2 * rem = den)
    rcases Nat.lt_trichotomy (2 * rem) den with below | exactly | above
    · rw [Nat.compare_eq_lt.mpr below]
      exact ⟨positive, half.mpr below⟩
    · rw [Nat.compare_eq_eq.mpr exactly]
      exact halfway.mpr exactly
    · rw [Nat.compare_eq_gt.mpr above]
      refine ⟨lt_of_le_of_ne (not_lt.mp (mt half.mp (by omega))) ?_, fraction⟩
      exact fun same => absurd (halfway.mp same.symm) (by omega)

theorem sign_of_div (s₁ s₂ : Sign) (m₁ m₂ : Nat) (e₁ e₂ : Int) (h₁ : 0 < m₁) (h₂ : 0 < m₂) :
    (if value (.finite s₁ m₁ e₁ h₁) / value (.finite s₂ m₂ e₂ h₂) < 0 then Sign.negative
      else Sign.positive) = s₁ / s₂ := by
  have p₁ : (0 : ℝ) < m₁ * 2 ^ e₁ := mul_pos (by exact_mod_cast h₁) (zpow_pos two_pos e₁)
  have p₂ : (0 : ℝ) < m₂ * 2 ^ e₂ := mul_pos (by exact_mod_cast h₂) (zpow_pos two_pos e₂)
  cases s₁ <;> cases s₂
  · rw [if_neg (not_lt.mpr (by simp only [value]; exact div_nonneg_of_nonpos (by linarith) (by linarith)))]
    rfl
  · rw [if_pos (by simp only [value]; exact div_neg_of_neg_of_pos (by linarith) p₂)]
    rfl
  · rw [if_pos (by simp only [value]; exact div_neg_of_pos_of_neg p₁ (by linarith))]
    rfl
  · rw [if_neg (not_lt.mpr (by simp only [value]; exact (div_pos p₁ p₂).le))]
    rfl

theorem rounds_div {u₁ : UnpackedFloat} (f₁ : u₁.isFinite = true) (s₂ : Sign) (m₂ : Nat) (e₂ : Int)
    (h₂ : 0 < m₂) :
    Rounds (UnpackedFloat.div .binary64 u₁ (.finite s₂ m₂ e₂ h₂))
      (value u₁ / value (.finite s₂ m₂ e₂ h₂)) := by
  rcases u₁ with _ | _ | s₁ | ⟨s₁, m₁, e₁, h₁⟩ <;>
    simp only [UnpackedFloat.isFinite, Bool.false_eq_true] at f₁
  · exact .inl ⟨by simp [value], _, rfl⟩
  simp only [UnpackedFloat.div, divCore, Format.targetExponent, totalExponent,
    binary64_mantissaBits, binary64_minExponent, Nat.shiftLeft_eq]
  generalize targeted : min (e₁ - e₂) _ = T
  have shift : ((e₁ - e₂ - T).toNat : Int) = e₁ - e₂ - T := by omega
  generalize (e₁ - e₂ - T).toNat = n at shift ⊢
  refine .inr ⟨_, _, _, div_ne_zero (value_ne_zero _ _ _ _) (value_ne_zero _ _ _ _), ?_,
    ⟨_, describes_accuracyOfFraction (Nat.mod_lt _ h₂), ?_⟩, by rw [sign_of_div]⟩
  · by_cases least : T ≤ -1074
    · exact .inr least
    left
    have room : m₂.log2 + 53 ≤ m₁.log2 + n := by omega
    have key : 2 ^ 52 * m₂ ≤ m₁ * 2 ^ n :=
      calc 2 ^ 52 * m₂ ≤ 2 ^ 52 * 2 ^ (m₂.log2 + 1) :=
            Nat.mul_le_mul_left _ (Nat.lt_log2_self).le
        _ = 2 ^ (m₂.log2 + 53) := by rw [← Nat.pow_add]; congr 1; omega
        _ ≤ 2 ^ (m₁.log2 + n) := Nat.pow_le_pow_right (by decide) room
        _ = 2 ^ m₁.log2 * 2 ^ n := Nat.pow_add _ _ _
        _ ≤ m₁ * 2 ^ n := Nat.mul_le_mul_right _ (Nat.log2_self_le (by omega))
    have bits : 2 ^ 52 ≤ m₁ * 2 ^ n / m₂ := (Nat.le_div_iff_mul_le h₂).mpr (by linarith)
    exact (Nat.le_log2 (by omega)).mpr bits
  · have divided : ((m₁ * 2 ^ n / m₂ : Nat) : ℝ) + ((m₁ * 2 ^ n % m₂ : Nat) : ℝ) / m₂ =
        (m₁ : ℝ) * 2 ^ n / m₂ := by
      have pos : (m₂ : ℝ) ≠ 0 := by exact_mod_cast h₂.ne'
      field_simp
      exact_mod_cast Nat.div_add_mod' (m₁ * 2 ^ n) m₂
    rw [divided, abs_div, value_abs, value_abs, ← zpow_natCast, shift, zpow_sub₀ two_ne_zero,
      zpow_sub₀ two_ne_zero]
    field_simp

theorem rounds_round {s : Sign} {M : Nat} {E : Int} {q : ℝ} (pos : 0 < M) (magnitude : |q| = M * 2 ^ E)
    (sign : (if q < 0 then Sign.negative else Sign.positive) = s) :
    Rounds (UnpackedFloat.round .binary64 s M E) q := by
  simp only [UnpackedFloat.round, decreaseExponent, Format.targetExponent, totalExponent,
    binary64_mantissaBits, binary64_minExponent, Nat.shiftLeft_eq]
  generalize widened : (E - max ((M.log2 : Int) + 1 + E - ((53 : Nat) : Int)) (-1074)).toNat = k
  have log : (M * 2 ^ k).log2 = M.log2 + k := by
    apply log2_of_bounds
    · rw [Nat.pow_add]
      exact Nat.mul_le_mul_right _ (Nat.log2_self_le (by omega))
    · rw [show M.log2 + k + 1 = M.log2 + 1 + k by omega, Nat.pow_add]
      exact Nat.mul_lt_mul_of_pos_right Nat.lt_log2_self (Nat.two_pow_pos k)
  have nonzero : q ≠ 0 := by
    rw [← abs_ne_zero, magnitude]
    exact (mul_pos (by exact_mod_cast pos) (zpow_pos two_pos E)).ne'
  refine .inr ⟨M * 2 ^ k, E - k, .exact, nonzero, ?_, ⟨0, rfl, ?_⟩, by rw [sign]⟩
  · rw [log]
    omega
  · rw [magnitude, add_zero, zpow_sub₀ two_ne_zero, zpow_natCast]
    push_cast
    field_simp

theorem rounds_normalize (mantissa E : Int) :
    Rounds (UnpackedFloat.normalize .binary64 mantissa E .positive) (mantissa * 2 ^ E) := by
  unfold UnpackedFloat.normalize
  split
  · rename_i negative
    have below : mantissa < 0 := Int.compare_eq_lt.mp negative
    refine rounds_round (by omega) ?_ (if_pos ?_)
    · have whole : (((-mantissa).toNat : Nat) : ℝ) = -(mantissa : ℝ) := by
        rw [← Int.cast_natCast, Int.toNat_of_nonneg (by omega), Int.cast_neg]
      rw [abs_mul, abs_of_pos (zpow_pos two_pos E : (0 : ℝ) < 2 ^ E), ← Int.cast_abs,
        abs_of_neg below, whole, Int.cast_neg]
    · exact mul_neg_of_neg_of_pos (by exact_mod_cast below) (zpow_pos two_pos E)
  · rename_i zero
    rw [Int.compare_eq_eq.mp zero]
    exact .inl ⟨by simp, _, rfl⟩
  · rename_i positive
    have above : 0 < mantissa := Int.compare_eq_gt.mp positive
    refine rounds_round (by omega) ?_ (if_neg (not_lt.mpr ?_))
    · have whole : ((mantissa.toNat : Nat) : ℝ) = (mantissa : ℝ) := by
        rw [← Int.cast_natCast, Int.toNat_of_nonneg (by omega)]
      rw [abs_mul, abs_of_pos (zpow_pos two_pos E : (0 : ℝ) < 2 ^ E), ← Int.cast_abs,
        abs_of_pos above, whole]
    · exact (mul_pos (by exact_mod_cast above) (zpow_pos two_pos E)).le

theorem value_at {s : Sign} {m : Nat} {e E : Int} {h : 0 < m} (le : E ≤ e) :
    value (.finite s m e h) = ((s.apply ((m <<< (e - E).toNat : Nat) : Int) : Int) : ℝ) * 2 ^ E := by
  have aligned : (m : ℝ) * 2 ^ e = ((m * 2 ^ (e - E).toNat : Nat) : ℝ) * 2 ^ E := by
    push_cast
    rw [mul_assoc, ← zpow_natCast, ← zpow_add₀ two_ne_zero, Int.toNat_of_nonneg (by omega)]
    congr 2
    ring
  cases s
  · simp only [value, Sign.apply, Nat.shiftLeft_eq, aligned, Int.cast_neg, Int.cast_natCast, neg_mul]
  · simp only [value, Sign.apply, Nat.shiftLeft_eq, aligned, Int.cast_natCast]

theorem value_neg (s : Sign) (m : Nat) (e : Int) (h : 0 < m) :
    value (.finite (-s) m e h) = -value (.finite s m e h) := by
  cases s
  · change m * 2 ^ e = -(-(m * 2 ^ e : ℝ))
    rw [neg_neg]
  · rfl

theorem value_zero (s : Sign) : value (.zero s) = 0 := rfl

theorem rounds_add {u₁ u₂ : UnpackedFloat} (c₁ : Canonical u₁) (c₂ : Canonical u₂)
    (f₁ : u₁.isFinite = true) (f₂ : u₂.isFinite = true) :
    Rounds (UnpackedFloat.add .binary64 u₁ u₂) (value u₁ + value u₂) := by
  rcases u₁ with _ | _ | s₁ | ⟨s₁, m₁, e₁, h₁⟩ <;> rcases u₂ with _ | _ | s₂ | ⟨s₂, m₂, e₂, h₂⟩ <;>
    simp only [UnpackedFloat.isFinite, Bool.false_eq_true] at f₁ f₂
  · refine .inl ⟨by rw [value_zero, value_zero, add_zero], ?_⟩
    simp only [UnpackedFloat.add]
    split <;> exact ⟨_, rfl⟩
  · rw [value_zero, zero_add]
    exact rounds_self c₂
  · rw [value_zero, add_zero]
    exact rounds_self c₁
  · simp only [UnpackedFloat.add, decreaseExponent]
    convert rounds_normalize _ (min e₁ e₂) using 1
    rw [value_at (min_le_left _ _), value_at (min_le_right _ _)]
    push_cast
    ring

theorem rounds_sub {u₁ u₂ : UnpackedFloat} (c₁ : Canonical u₁) (c₂ : Canonical u₂)
    (f₁ : u₁.isFinite = true) (f₂ : u₂.isFinite = true) :
    Rounds (UnpackedFloat.sub .binary64 u₁ u₂) (value u₁ - value u₂) := by
  rcases u₁ with _ | _ | s₁ | ⟨s₁, m₁, e₁, h₁⟩ <;> rcases u₂ with _ | _ | s₂ | ⟨s₂, m₂, e₂, h₂⟩ <;>
    simp only [UnpackedFloat.isFinite, Bool.false_eq_true] at f₁ f₂
  · refine .inl ⟨by rw [value_zero, value_zero, sub_zero], ?_⟩
    simp only [UnpackedFloat.sub]
    split <;> exact ⟨_, rfl⟩
  · rw [value_zero, zero_sub, ← value_neg]
    exact rounds_self c₂
  · rw [value_zero, sub_zero]
    exact rounds_self c₁
  · simp only [UnpackedFloat.sub, decreaseExponent]
    convert rounds_normalize _ (min e₁ e₂) using 1
    rw [value_at (min_le_left _ _), value_at (min_le_right _ _)]
    push_cast
    ring

end Operations


section Monotone

/-- A double is `q` rounded: the packing of an unpacked rounding of `q`. -/
def RoundsTo (x : Float) (q : ℝ) : Prop := ∃ u, Rounds u q ∧ x.toModel = Float.Model.pack u

theorem RoundsTo.le {x y : Float} {q₁ q₂ : ℝ} (hx : RoundsTo x q₁) (hy : RoundsTo y q₂)
    (le : q₁ ≤ q₂) : toEReal x ≤ toEReal y := by
  obtain ⟨u₁, r₁, packed₁⟩ := hx
  obtain ⟨u₂, r₂, packed₂⟩ := hy
  unfold toEReal
  rw [packed₁, packed₂]
  exact r₁.le r₂ le

theorem Rounds.unpack_pack_ne {u : UnpackedFloat} {q : ℝ} (h : Rounds u q) :
    unpack .binary64 (UnpackedFloat.pack .binary64 u) ≠ .notANumber := by
  rcases h with ⟨-, s, rfl⟩ | ⟨M, E, acc, -, start, exact, rfl⟩
  · rw [unpack_pack_zero]
    exact fun nan => by cases nan
  have bounds := exact.rounded_bounds start
  have finite (s : Sign) (m : Nat) (e : Int) (h : 0 < m) (shaped : Shaped m e) :
      unpack .binary64 (UnpackedFloat.pack .binary64 (.finite s m e h)) ≠ .notANumber := by
    by_cases inRange : e ≤ 971
    · rw [unpack_pack_shaped shaped inRange]
      exact fun nan => by cases nan
    · rw [unpack_pack_overflow (not_le.mp inRange)]
      exact fun nan => by cases nan
  rw [roundWithAccuracy_eq, exponent_first start]
  generalize (shiftToTargetExponent .binary64 M E acc).1.roundedMantissa = r at bounds ⊢
  generalize (if q < 0 then Sign.negative else Sign.positive) = s
  unfold carry
  split_ifs with zero small
  · rw [unpack_pack_zero]
    exact fun nan => by cases nan
  · exact finite s r _ _ ⟨small, target_ge M E, bounds.2.symm⟩
  · exact finite s _ _ _ ⟨by decide, by have := target_ge M E; omega, .inl (le_refl _)⟩

theorem RoundsTo.isNaN {x : Float} {q : ℝ} (h : RoundsTo x q) : x.isNaN = false := by
  obtain ⟨u, r, packed⟩ := h
  change x.toModel.unpack.isNaN = false
  rw [packed]
  change (unpack .binary64 (UnpackedFloat.pack .binary64 u)).isNaN = false
  cases unpacked : unpack .binary64 (UnpackedFloat.pack .binary64 u) with
  | notANumber => exact absurd unpacked r.unpack_pack_ne
  | _ => rfl

theorem roundsTo_mul {x y : Float} (fx : x.isFinite = true) (fy : y.isFinite = true) :
    RoundsTo (x * y) (value x.toModel.unpack * value y.toModel.unpack) :=
  ⟨_, rounds_mul (canonical_unpack x) (canonical_unpack y) fx fy, rfl⟩

theorem roundsTo_add {x y : Float} (fx : x.isFinite = true) (fy : y.isFinite = true) :
    RoundsTo (x + y) (value x.toModel.unpack + value y.toModel.unpack) :=
  ⟨_, rounds_add (canonical_unpack x) (canonical_unpack y) fx fy, rfl⟩

theorem roundsTo_sub {x y : Float} (fx : x.isFinite = true) (fy : y.isFinite = true) :
    RoundsTo (x - y) (value x.toModel.unpack - value y.toModel.unpack) :=
  ⟨_, rounds_sub (canonical_unpack x) (canonical_unpack y) fx fy, rfl⟩

theorem unpack_of_value_ne {x : Float} (fx : x.isFinite = true) (nonzero : value x.toModel.unpack ≠ 0) :
    ∃ s m e h, x.toModel.unpack = .finite s m e h := by
  cases unpacked : x.toModel.unpack with
  | finite s m e h => exact ⟨s, m, e, h, rfl⟩
  | zero s => rw [unpacked] at nonzero; exact absurd rfl nonzero
  | _ => change x.toModel.unpack.isFinite = true at fx; rw [unpacked] at fx; cases fx

theorem roundsTo_div {x y : Float} (fx : x.isFinite = true) (fy : y.isFinite = true)
    (nonzero : value y.toModel.unpack ≠ 0) :
    RoundsTo (x / y) (value x.toModel.unpack / value y.toModel.unpack) := by
  obtain ⟨s, m, e, h, unpacked⟩ := unpack_of_value_ne fy nonzero
  refine ⟨_, ?_, rfl⟩
  rw [unpacked]
  exact rounds_div fx s m e h

theorem unpack_cases {x : Float} (nx : x.isNaN = false) :
    x.toModel.unpack = .infinity .positive ∨ x.toModel.unpack = .infinity .negative ∨
      x.isFinite = true := by
  change x.toModel.unpack.isNaN = false at nx
  change _ ∨ _ ∨ x.toModel.unpack.isFinite = true
  cases unpacked : x.toModel.unpack with
  | infinity s => cases s <;> simp
  | notANumber => rw [unpacked] at nx; cases nx
  | zero s => exact .inr (.inr rfl)
  | finite s m e h => exact .inr (.inr rfl)

theorem isNaN_of_isFinite {x : Float} (fx : x.isFinite = true) : x.isNaN = false := by
  change x.toModel.unpack.isFinite = true at fx
  change x.toModel.unpack.isNaN = false
  cases unpacked : x.toModel.unpack <;> rw [unpacked] at fx <;> first | rfl | cases fx

theorem isFinite_eq_false_of_isNaN {x : Float} (nan : x.isNaN = true) : x.isFinite = false := by
  cases fx : x.isFinite
  · rfl
  · rw [isNaN_of_isFinite fx] at nan
    cases nan

theorem finite_cases {x : Float} (fx : x.isFinite = true) :
    (∃ s, x.toModel.unpack = .zero s) ∨ ∃ s m e h, x.toModel.unpack = .finite s m e h := by
  change x.toModel.unpack.isFinite = true at fx
  cases unpacked : x.toModel.unpack with
  | zero s => exact .inl ⟨s, rfl⟩
  | finite s m e h => exact .inr ⟨s, m, e, h, rfl⟩
  | _ => rw [unpacked] at fx; cases fx

theorem toEReal_top {x : Float} (top : x.toModel.unpack = .infinity .positive) : toEReal x = ⊤ := by
  unfold toEReal
  rw [top]
  rfl

theorem toEReal_bot {x : Float} (bot : x.toModel.unpack = .infinity .negative) : toEReal x = ⊥ := by
  unfold toEReal
  rw [bot]
  rfl

theorem toEReal_of_isFinite {x : Float} (fx : x.isFinite = true) :
    toEReal x = (value x.toModel.unpack : EReal) := by
  unfold toEReal
  rcases finite_cases fx with ⟨s, unpacked⟩ | ⟨s, m, e, h, unpacked⟩ <;> rw [unpacked] <;>
    cases s <;> rfl

/-- `f` keeps both infinities, and rounds a monotone `g` of the number of each finite double. -/
structure RoundsMonotone (f : Float → Float) (g : ℝ → ℝ) : Prop where
  mono : Monotone g
  top : ∀ x : Float, x.toModel.unpack = .infinity .positive → (f x).toModel.unpack = .infinity .positive
  bot : ∀ x : Float, x.toModel.unpack = .infinity .negative → (f x).toModel.unpack = .infinity .negative
  rounds : ∀ x : Float, x.isFinite = true → RoundsTo (f x) (g (value x.toModel.unpack))

structure RoundsAntitone (f : Float → Float) (g : ℝ → ℝ) : Prop where
  anti : Antitone g
  top : ∀ x : Float, x.toModel.unpack = .infinity .positive → (f x).toModel.unpack = .infinity .negative
  bot : ∀ x : Float, x.toModel.unpack = .infinity .negative → (f x).toModel.unpack = .infinity .positive
  rounds : ∀ x : Float, x.isFinite = true → RoundsTo (f x) (g (value x.toModel.unpack))

variable {f : Float → Float} {g : ℝ → ℝ} {x y : Float}

theorem not_top_le_finite (fy : y.isFinite = true) : ¬ (⊤ : EReal) ≤ toEReal y := by
  rw [toEReal_of_isFinite fy]
  exact not_le.mpr (EReal.coe_lt_top _)

theorem not_finite_le_bot (fx : x.isFinite = true) : ¬ toEReal x ≤ ⊥ := by
  rw [toEReal_of_isFinite fx]
  exact not_le.mpr (EReal.bot_lt_coe _)

theorem le_cases (nx : x.isNaN = false) (ny : y.isNaN = false) (le : toEReal x ≤ toEReal y) :
    y.toModel.unpack = .infinity .positive ∨ x.toModel.unpack = .infinity .negative ∨
      (x.isFinite = true ∧ y.isFinite = true ∧
        value x.toModel.unpack ≤ value y.toModel.unpack) := by
  rcases unpack_cases ny with topy | boty | fy
  · exact .inl topy
  · rcases unpack_cases nx with topx | botx | fx
    · rw [toEReal_top topx, toEReal_bot boty] at le
      exact absurd le (by simp)
    · exact .inr (.inl botx)
    · rw [toEReal_bot boty] at le
      exact absurd le (not_finite_le_bot fx)
  · rcases unpack_cases nx with topx | botx | fx
    · rw [toEReal_top topx] at le
      exact absurd le (not_top_le_finite fy)
    · exact .inr (.inl botx)
    · rw [toEReal_of_isFinite fx, toEReal_of_isFinite fy, EReal.coe_le_coe_iff] at le
      exact .inr (.inr ⟨fx, fy, le⟩)

theorem isFinite_of_between {a b : ℝ} (nx : x.isNaN = false) (lo : (a : EReal) ≤ toEReal x)
    (hi : toEReal x ≤ b) : x.isFinite = true := by
  rcases unpack_cases nx with top | bot | fx
  · rw [toEReal_top top] at hi
    exact absurd hi (not_le.mpr (EReal.coe_lt_top b))
  · rw [toEReal_bot bot] at lo
    exact absurd lo (not_le.mpr (EReal.bot_lt_coe a))
  · exact fx

theorem isFinite_of_le {L B : Float} (fL : L.isFinite = true) (fB : B.isFinite = true)
    (nx : x.isNaN = false) (lo : toEReal L ≤ toEReal x) (hi : toEReal x ≤ toEReal B) :
    x.isFinite = true := by
  rw [toEReal_of_isFinite fL] at lo
  rw [toEReal_of_isFinite fB] at hi
  exact isFinite_of_between nx lo hi

theorem RoundsMonotone.isNaN (h : RoundsMonotone f g) (nx : x.isNaN = false) : (f x).isNaN = false := by
  rcases unpack_cases nx with top | bot | fx
  · change (f x).toModel.unpack.isNaN = false
    rw [h.top x top]
    rfl
  · change (f x).toModel.unpack.isNaN = false
    rw [h.bot x bot]
    rfl
  · exact (h.rounds x fx).isNaN

theorem RoundsMonotone.le (h : RoundsMonotone f g) (nx : x.isNaN = false) (ny : y.isNaN = false)
    (le : toEReal x ≤ toEReal y) : toEReal (f x) ≤ toEReal (f y) := by
  rcases le_cases nx ny le with topy | botx | ⟨fx, fy, le⟩
  · rw [toEReal_top (h.top y topy)]
    exact le_top
  · rw [toEReal_bot (h.bot x botx)]
    exact bot_le
  · exact (h.rounds x fx).le (h.rounds y fy) (h.mono le)

theorem RoundsAntitone.isNaN (h : RoundsAntitone f g) (nx : x.isNaN = false) : (f x).isNaN = false := by
  rcases unpack_cases nx with top | bot | fx
  · change (f x).toModel.unpack.isNaN = false
    rw [h.top x top]
    rfl
  · change (f x).toModel.unpack.isNaN = false
    rw [h.bot x bot]
    rfl
  · exact (h.rounds x fx).isNaN

theorem RoundsAntitone.le (h : RoundsAntitone f g) (nx : x.isNaN = false) (ny : y.isNaN = false)
    (le : toEReal x ≤ toEReal y) : toEReal (f y) ≤ toEReal (f x) := by
  rcases le_cases nx ny le with topy | botx | ⟨fx, fy, le⟩
  · rw [toEReal_bot (h.top y topy)]
    exact bot_le
  · rw [toEReal_top (h.bot x botx)]
    exact le_top
  · exact (h.rounds y fy).le (h.rounds x fx) (h.anti le)

end Monotone


section Chains

structure ExtMonotone (f : Float → Float) : Prop where
  isNaN : ∀ {x : Float}, x.isNaN = false → (f x).isNaN = false
  le : ∀ {x y : Float}, x.isNaN = false → y.isNaN = false → toEReal x ≤ toEReal y →
    toEReal (f x) ≤ toEReal (f y)

structure ExtAntitone (f : Float → Float) : Prop where
  isNaN : ∀ {x : Float}, x.isNaN = false → (f x).isNaN = false
  le : ∀ {x y : Float}, x.isNaN = false → y.isNaN = false → toEReal x ≤ toEReal y →
    toEReal (f y) ≤ toEReal (f x)

variable {f₁ f₂ : Float → Float} {g : ℝ → ℝ}

theorem RoundsMonotone.ext (h : RoundsMonotone f₁ g) : ExtMonotone f₁ := ⟨h.isNaN, h.le⟩

theorem RoundsAntitone.ext (h : RoundsAntitone f₁ g) : ExtAntitone f₁ := ⟨h.isNaN, h.le⟩

theorem ExtMonotone.comp (h₂ : ExtMonotone f₂) (h₁ : ExtMonotone f₁) :
    ExtMonotone (fun x => f₂ (f₁ x)) :=
  ⟨fun nx => h₂.isNaN (h₁.isNaN nx), fun nx ny le => h₂.le (h₁.isNaN nx) (h₁.isNaN ny) (h₁.le nx ny le)⟩

theorem ExtMonotone.comp_antitone (h₂ : ExtMonotone f₂) (h₁ : ExtAntitone f₁) :
    ExtAntitone (fun x => f₂ (f₁ x)) :=
  ⟨fun nx => h₂.isNaN (h₁.isNaN nx), fun nx ny le => h₂.le (h₁.isNaN ny) (h₁.isNaN nx) (h₁.le nx ny le)⟩

theorem ExtAntitone.comp_monotone (h₂ : ExtAntitone f₂) (h₁ : ExtMonotone f₁) :
    ExtAntitone (fun x => f₂ (f₁ x)) :=
  ⟨fun nx => h₂.isNaN (h₁.isNaN nx), fun nx ny le => h₂.le (h₁.isNaN nx) (h₁.isNaN ny) (h₁.le nx ny le)⟩

end Chains

section Constants

variable {c : Float}

theorem unpack_of_pos (fc : c.isFinite = true) (pos : 0 < value c.toModel.unpack) :
    ∃ m e h, c.toModel.unpack = .finite .positive m e h := by
  obtain ⟨s, m, e, h, unpacked⟩ := unpack_of_value_ne fc pos.ne'
  cases s
  · rw [unpacked] at pos
    exact absurd ((value_neg_iff _ m e h).mpr rfl) (not_lt.mpr pos.le)
  · exact ⟨m, e, h, unpacked⟩

theorem unpack_of_neg (fc : c.isFinite = true) (neg : value c.toModel.unpack < 0) :
    ∃ m e h, c.toModel.unpack = .finite .negative m e h := by
  obtain ⟨s, m, e, h, unpacked⟩ := unpack_of_value_ne fc neg.ne
  rw [unpacked, value_neg_iff] at neg
  exact ⟨m, e, h, neg ▸ unpacked⟩

theorem unpack_zero : (0.0 : Float).toModel.unpack = .zero .positive := rfl

theorem toEReal_zero : toEReal 0.0 = 0 := by
  unfold toEReal
  rw [unpack_zero]
  rfl

theorem value_pos_of_lt (fc : c.isFinite = true) (pos : 0.0 < c) : 0 < value c.toModel.unpack := by
  rw [lt_iff_toEReal rfl (isNaN_of_isFinite fc), toEReal_zero, toEReal_of_isFinite fc] at pos
  exact_mod_cast pos

theorem value_neg_of_lt (fc : c.isFinite = true) (neg : c < 0.0) : value c.toModel.unpack < 0 := by
  rw [lt_iff_toEReal (isNaN_of_isFinite fc) rfl, toEReal_zero, toEReal_of_isFinite fc] at neg
  exact_mod_cast neg

theorem roundsMonotone_mul_right (fc : c.isFinite = true) (pos : 0 < value c.toModel.unpack) :
    RoundsMonotone (· * c) (· * value c.toModel.unpack) := by
  obtain ⟨m, e, h, unpacked⟩ := unpack_of_pos fc pos
  refine ⟨fun a b le => mul_le_mul_of_nonneg_right le pos.le, fun x top => ?_, fun x bot => ?_,
    fun x fx => roundsTo_mul fx fc⟩
  · change unpack .binary64 (UnpackedFloat.pack .binary64
      (UnpackedFloat.mul .binary64 x.toModel.unpack c.toModel.unpack)) = _
    rw [top, unpacked]
    exact unpack_packedInfinity .positive
  · change unpack .binary64 (UnpackedFloat.pack .binary64
      (UnpackedFloat.mul .binary64 x.toModel.unpack c.toModel.unpack)) = _
    rw [bot, unpacked]
    exact unpack_packedInfinity .negative

theorem roundsMonotone_mul_left (fc : c.isFinite = true) (pos : 0 < value c.toModel.unpack) :
    RoundsMonotone (c * ·) (value c.toModel.unpack * ·) := by
  obtain ⟨m, e, h, unpacked⟩ := unpack_of_pos fc pos
  refine ⟨fun a b le => mul_le_mul_of_nonneg_left le pos.le, fun x top => ?_, fun x bot => ?_,
    fun x fx => roundsTo_mul fc fx⟩
  · change unpack .binary64 (UnpackedFloat.pack .binary64
      (UnpackedFloat.mul .binary64 c.toModel.unpack x.toModel.unpack)) = _
    rw [top, unpacked]
    exact unpack_packedInfinity .positive
  · change unpack .binary64 (UnpackedFloat.pack .binary64
      (UnpackedFloat.mul .binary64 c.toModel.unpack x.toModel.unpack)) = _
    rw [bot, unpacked]
    exact unpack_packedInfinity .negative

theorem roundsAntitone_mul_right (fc : c.isFinite = true) (neg : value c.toModel.unpack < 0) :
    RoundsAntitone (· * c) (· * value c.toModel.unpack) := by
  obtain ⟨m, e, h, unpacked⟩ := unpack_of_neg fc neg
  refine ⟨fun a b le => mul_le_mul_of_nonpos_right le neg.le, fun x top => ?_, fun x bot => ?_,
    fun x fx => roundsTo_mul fx fc⟩
  · change unpack .binary64 (UnpackedFloat.pack .binary64
      (UnpackedFloat.mul .binary64 x.toModel.unpack c.toModel.unpack)) = _
    rw [top, unpacked]
    exact unpack_packedInfinity .negative
  · change unpack .binary64 (UnpackedFloat.pack .binary64
      (UnpackedFloat.mul .binary64 x.toModel.unpack c.toModel.unpack)) = _
    rw [bot, unpacked]
    exact unpack_packedInfinity .positive

theorem roundsMonotone_div_right (fc : c.isFinite = true) (pos : 0 < value c.toModel.unpack) :
    RoundsMonotone (· / c) (· / value c.toModel.unpack) := by
  obtain ⟨m, e, h, unpacked⟩ := unpack_of_pos fc pos
  refine ⟨fun a b le => div_le_div_of_nonneg_right le pos.le, fun x top => ?_, fun x bot => ?_,
    fun x fx => roundsTo_div fx fc pos.ne'⟩
  · change unpack .binary64 (UnpackedFloat.pack .binary64
      (UnpackedFloat.div .binary64 x.toModel.unpack c.toModel.unpack)) = _
    rw [top, unpacked]
    exact unpack_packedInfinity .positive
  · change unpack .binary64 (UnpackedFloat.pack .binary64
      (UnpackedFloat.div .binary64 x.toModel.unpack c.toModel.unpack)) = _
    rw [bot, unpacked]
    exact unpack_packedInfinity .negative

theorem roundsMonotone_add_right (fc : c.isFinite = true) :
    RoundsMonotone (· + c) (· + value c.toModel.unpack) := by
  refine ⟨fun a b le => add_le_add_left le _, fun x top => ?_, fun x bot => ?_,
    fun x fx => roundsTo_add fx fc⟩ <;>
  · change unpack .binary64 (UnpackedFloat.pack .binary64
      (UnpackedFloat.add .binary64 x.toModel.unpack c.toModel.unpack)) = _
    rcases finite_cases fc with ⟨s, unpacked⟩ | ⟨s, m, e, h, unpacked⟩ <;>
      first
      | (rw [top, unpacked]; exact unpack_packedInfinity .positive)
      | (rw [bot, unpacked]; exact unpack_packedInfinity .negative)

theorem roundsMonotone_sub_right (fc : c.isFinite = true) :
    RoundsMonotone (· - c) (· - value c.toModel.unpack) := by
  refine ⟨fun a b le => sub_le_sub_right le _, fun x top => ?_, fun x bot => ?_,
    fun x fx => roundsTo_sub fx fc⟩ <;>
  · change unpack .binary64 (UnpackedFloat.pack .binary64
      (UnpackedFloat.sub .binary64 x.toModel.unpack c.toModel.unpack)) = _
    rcases finite_cases fc with ⟨s, unpacked⟩ | ⟨s, m, e, h, unpacked⟩ <;>
      first
      | (rw [top, unpacked]; exact unpack_packedInfinity .positive)
      | (rw [bot, unpacked]; exact unpack_packedInfinity .negative)

end Constants


section Signs

variable {x y z w : Float}

theorem mul_comm_unpacked (u₁ u₂ : UnpackedFloat) :
    UnpackedFloat.mul .binary64 u₁ u₂ = UnpackedFloat.mul .binary64 u₂ u₁ := by
  have sign (s₁ s₂ : Sign) : s₁ * s₂ = s₂ * s₁ := by cases s₁ <;> cases s₂ <;> rfl
  cases u₁ <;> cases u₂ <;> simp only [UnpackedFloat.mul, sign, Nat.mul_comm, Int.add_comm]

theorem float_mul_comm (x y : Float) : x * y = y * x := by
  show Float.ofModel (Float.Model.pack (UnpackedFloat.mul .binary64 x.toModel.unpack y.toModel.unpack)) =
    Float.ofModel (Float.Model.pack (UnpackedFloat.mul .binary64 y.toModel.unpack x.toModel.unpack))
  rw [mul_comm_unpacked]

theorem unpack_of_isNaN (nan : z.isNaN = true) : z.toModel.unpack = .notANumber := by
  change z.toModel.unpack.isNaN = true at nan
  cases unpacked : z.toModel.unpack <;> rw [unpacked] at nan <;> first | rfl | cases nan

theorem not_lt_of_isNaN (nan : z.isNaN = true) : ¬ w < z := by
  rw [lt_iff_unpack, unpack_of_isNaN nan]
  cases w.toModel.unpack <;> simp [UnpackedFloat.lt, UnpackedFloat.compare]

theorem unpack_pack_notANumber :
    unpack .binary64 (UnpackedFloat.pack .binary64 .notANumber) = .notANumber :=
  rfl

theorem mul_notANumber_left (u : UnpackedFloat) : UnpackedFloat.mul .binary64 .notANumber u = .notANumber := by
  cases u <;> rfl

theorem isNaN_mul_of_left (nan : x.isNaN = true) : (x * y).isNaN = true := by
  change (x * y).toModel.unpack.isNaN = true
  rw [unpack_mul, unpack_of_isNaN nan, mul_notANumber_left, unpack_pack_notANumber]
  rfl

theorem not_pos_iff (nz : z.isNaN = false) : ¬ 0.0 < z ↔ toEReal z ≤ 0 := by
  rw [lt_iff_toEReal rfl nz, toEReal_zero, not_lt]

theorem roundsTo_zero : RoundsTo 0.0 0 := ⟨.zero .positive, .inl ⟨rfl, _, rfl⟩, rfl⟩

theorem sign_of_nonneg {s : Sign} {m : Nat} {e : Int} {h : 0 < m}
    (unpacked : x.toModel.unpack = .finite s m e h) (nonneg : 0 ≤ toEReal x) : s = .positive := by
  have fx : x.isFinite = true := by
    change x.toModel.unpack.isFinite = true
    rw [unpacked]
    rfl
  rw [toEReal_of_isFinite fx, unpacked, EReal.coe_nonneg] at nonneg
  cases s
  · exact absurd ((value_neg_iff _ m e h).mpr rfl) (not_lt.mpr nonneg)
  · rfl

theorem sign_of_nonpos {s : Sign} {m : Nat} {e : Int} {h : 0 < m}
    (unpacked : x.toModel.unpack = .finite s m e h) (nonpos : toEReal x ≤ 0) : s = .negative := by
  have fx : x.isFinite = true := by
    change x.toModel.unpack.isFinite = true
    rw [unpacked]
    rfl
  rw [toEReal_of_isFinite fx, unpacked, EReal.coe_nonpos] at nonpos
  cases s
  · rfl
  · exact absurd nonpos (not_le.mpr (mul_pos (by exact_mod_cast h) (zpow_pos two_pos e)))

theorem toEReal_mul_bot (bot : UnpackedFloat.mul .binary64 x.toModel.unpack y.toModel.unpack = .infinity .negative) :
    toEReal (x * y) = ⊥ :=
  toEReal_bot (by rw [unpack_mul, bot]; rfl)

theorem not_pos_mul (hx : ¬ 0.0 < x) (ny : y.isNaN = false) (hy : 0 ≤ toEReal y) : ¬ 0.0 < x * y := by
  by_cases nan : (x * y).isNaN = true
  · exact not_lt_of_isNaN nan
  have nxy : (x * y).isNaN = false := by simpa using nan
  have nx : x.isNaN = false := by
    by_contra xnan
    exact nan (isNaN_mul_of_left (by simpa using xnan))
  -- a zero against an infinity would have made the product NaN
  have notZeroInf (s₁ s₂ : Sign) (zero : x.toModel.unpack = .zero s₁ ∨ y.toModel.unpack = .zero s₂)
      (inf : x.toModel.unpack = .infinity s₁ ∨ y.toModel.unpack = .infinity s₂) : False := by
    have product : UnpackedFloat.mul .binary64 x.toModel.unpack y.toModel.unpack = .notANumber := by
      rcases zero with zero | zero <;> rcases inf with inf | inf <;>
        simp only [zero, inf, reduceCtorEq] at * <;> rfl
    apply nan
    change (x * y).toModel.unpack.isNaN = true
    rw [unpack_mul, product, unpack_pack_notANumber]
    rfl
  rw [not_pos_iff nx] at hx
  rw [not_pos_iff nxy]
  rcases unpack_cases nx with top | bot | fx
  · rw [toEReal_top top] at hx
    exact absurd hx (by simp)
  · rcases unpack_cases ny with ytop | ybot | fy
    · rw [toEReal_mul_bot (by rw [bot, ytop]; rfl)]
      exact bot_le
    · rw [toEReal_bot ybot] at hy
      exact absurd hy (by simp)
    · rcases finite_cases fy with ⟨s, zero⟩ | ⟨s, m, e, h, unpacked⟩
      · exact (notZeroInf .negative s (.inr zero) (.inl bot)).elim
      · rw [toEReal_mul_bot (by rw [bot, unpacked, sign_of_nonneg unpacked hy]; rfl)]
        exact bot_le
  · rcases unpack_cases ny with ytop | ybot | fy
    · rcases finite_cases fx with ⟨s, zero⟩ | ⟨s, m, e, h, unpacked⟩
      · exact (notZeroInf s .positive (.inl zero) (.inr ytop)).elim
      · rw [toEReal_mul_bot (by rw [unpacked, ytop, sign_of_nonpos unpacked hx]; rfl)]
        exact bot_le
    · rw [toEReal_bot ybot] at hy
      exact absurd hy (by simp)
    · rw [toEReal_of_isFinite fx, EReal.coe_nonpos] at hx
      rw [toEReal_of_isFinite fy, EReal.coe_nonneg] at hy
      rw [← toEReal_zero]
      exact (roundsTo_mul fx fy).le roundsTo_zero (mul_nonpos_of_nonpos_of_nonneg hx hy)

end Signs


section Conversions

theorem roundToInt_positive (m : Nat) (e : Int) :
    roundToInt .positive m e = (⌊(m : ℝ) * 2 ^ e⌋₊ : Int) := by
  simp only [roundToInt, decreaseExponent, shiftToExponent, mantissa_shiftRight,
    mantissa_ofMantissaAndAccuracy, Nat.shiftLeft_eq, Sign.apply]
  congr 1
  rcases le_or_gt 0 e with nonneg | neg
  · obtain ⟨k, rfl⟩ := Int.eq_ofNat_of_zero_le nonneg
    simp only [sub_zero, Int.toNat_natCast, sub_self, Int.toNat_zero, pow_zero, Nat.div_one,
      zpow_natCast]
    exact_mod_cast (Nat.floor_natCast (m * 2 ^ k)).symm
  · obtain ⟨k, rfl⟩ := Int.exists_eq_neg_ofNat neg.le
    have widen : (-(k : Int) - 0).toNat = 0 := by omega
    have shift : (0 - (-(k : Int) - ((0 : Nat) : Int))).toNat = k := by omega
    have scale : (2 : ℝ) ^ k = ((2 ^ k : Nat) : ℝ) := by push_cast; rfl
    rw [widen, shift, pow_zero, Nat.mul_one, zpow_neg, zpow_natCast, ← div_eq_mul_inv, scale,
      Nat.floor_div_eq_div]

theorem toNat_toInt_of_isFinite {u : UnpackedFloat} (fu : u.isFinite = true) (lo hi : Int) :
    (u.toInt lo hi).toNat = ⌊value u⌋₊ := by
  rcases u with _ | _ | s | ⟨s, m, e, h⟩ <;> simp only [UnpackedFloat.isFinite, Bool.false_eq_true] at fu
  · simp [UnpackedFloat.toInt, value]
  · cases s
    · have pos : (0 : ℝ) ≤ m * 2 ^ e := by positivity
      simp only [UnpackedFloat.toInt, roundToInt, Sign.apply, value]
      rw [Nat.floor_of_nonpos (by linarith)]
      omega
    · rw [UnpackedFloat.toInt, roundToInt_positive, Int.toNat_natCast]
      rfl

variable {x y : Float}

theorem clamped_toInt_mono {B : Int} (nx : x.isNaN = false) (ny : y.isNaN = false)
    (le : toEReal x ≤ toEReal y) :
    min (x.toModel.unpack.toInt 0 B).toNat B.toNat ≤ min (y.toModel.unpack.toInt 0 B).toNat B.toNat := by
  rcases le_cases nx ny le with topy | botx | ⟨fx, fy, le⟩
  · rw [topy]
    simp only [UnpackedFloat.toInt, min_self]
    omega
  · rw [botx]
    simp [UnpackedFloat.toInt]
  · rw [toNat_toInt_of_isFinite fx, toNat_toInt_of_isFinite fy]
    have floors : ⌊value x.toModel.unpack⌋₊ ≤ ⌊value y.toModel.unpack⌋₊ := Nat.floor_le_floor le
    omega

theorem toNat_toUInt64 (x : Float) :
    x.toUInt64.toNat = min (x.toModel.unpack.toInt 0 (UInt64.size - 1)).toNat
      ((UInt64.size : Int) - 1).toNat := by
  change (UInt64.ofNatClamp _).toNat = _
  unfold UInt64.ofNatClamp
  split <;> simp only [UInt64.toNat_ofNatLT] <;> omega

theorem toNat_toUInt32 (x : Float) :
    x.toUInt32.toNat = min (x.toModel.unpack.toInt 0 (UInt32.size - 1)).toNat
      ((UInt32.size : Int) - 1).toNat := by
  change (UInt32.ofNatClamp _).toNat = _
  unfold UInt32.ofNatClamp
  split <;> simp only [UInt32.toNat_ofNatLT] <;> omega

theorem toUInt64_mono (nx : x.isNaN = false) (ny : y.isNaN = false) (le : toEReal x ≤ toEReal y) :
    x.toUInt64.toNat ≤ y.toUInt64.toNat := by
  rw [toNat_toUInt64, toNat_toUInt64]
  exact clamped_toInt_mono nx ny le

theorem toUInt32_mono (nx : x.isNaN = false) (ny : y.isNaN = false) (le : toEReal x ≤ toEReal y) :
    x.toUInt32.toNat ≤ y.toUInt32.toNat := by
  rw [toNat_toUInt32, toNat_toUInt32]
  exact clamped_toInt_mono nx ny le

theorem value_ofNat {n : Nat} (small : n < 2 ^ 53) :
    (Float.ofNat n).isFinite = true ∧ value (Float.ofNat n).toModel.unpack = n := by
  rcases Nat.eq_zero_or_pos n with rfl | pos
  · rw [Float.isFinite, Float.Model.isFinite, unpack_ofNat_zero]
    exact ⟨rfl, by simp [value]⟩
  · obtain ⟨h, unpacked⟩ := unpack_ofNat n pos small
    rw [Float.isFinite, Float.Model.isFinite, unpacked]
    refine ⟨rfl, ?_⟩
    change ((n * 2 ^ (52 - n.log2) : Nat) : ℝ) * 2 ^ (-((52 - n.log2 : Nat) : Int)) = n
    rw [zpow_neg, zpow_natCast]
    push_cast
    field_simp

theorem toEReal_ofNat {n : Nat} (small : n < 2 ^ 53) : toEReal (Float.ofNat n) = (n : ℝ) := by
  rw [toEReal_of_isFinite (value_ofNat small).1, (value_ofNat small).2]

end Conversions

end Doubles
end EncoderBench
