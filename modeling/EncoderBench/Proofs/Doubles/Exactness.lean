import EncoderBench.Proofs.Doubles.Arithmetic
/-!
How far rounding moves a number, and when it does not: a rounding of a normal number `q` is at
most `q + q / 2 ^ 53` (`RoundsTo.toEReal_le`), a number that is a double rounds to itself, and
every natural converts to a double by rounding (`roundsTo_ofNat`).
-/

namespace EncoderBench
namespace Doubles
open Float.Model Float.Model.UnpackedFloat

section Error

variable {M : Nat} {E : Int} {acc : Accuracy} {v : ℝ}

theorem Reads.roundedMantissa_le {em : ExtendedMantissa} {x : ℝ} (h : Reads em x) :
    (em.roundedMantissa : ℝ) ≤ x + 1 / 2 := by
  obtain ⟨f, describes, rfl⟩ := h
  unfold ExtendedMantissa.roundedMantissa
  revert describes
  generalize em.accuracy = a
  intro describes
  rcases a with _ | (_ | _ | _) <;> simp only [Describes] at describes <;>
    simp only [Accuracy.roundToNearestEven, Nat.cast_add, Nat.cast_one]
  · linarith
  · linarith [describes.1]
  · have parity : ((em.mantissa % 2 : Nat) : ℝ) ≤ 1 := by
      exact_mod_cast Nat.le_of_lt_succ (Nat.mod_lt _ two_pos)
    linarith
  · linarith [describes.1]

theorem Exact.magnitude_le (h : Exact M E acc v) (start : 52 ≤ M.log2 ∨ E ≤ -1074) :
    magnitude M E acc ≤ v + 2 ^ target M E / 2 := by
  have reads := h.reads_first
  rw [exponent_first start] at reads
  have scale : (0 : ℝ) < 2 ^ target M E := zpow_pos two_pos _
  unfold magnitude
  calc ((shiftToTargetExponent .binary64 M E acc).1.roundedMantissa : ℝ) * 2 ^ target M E
      ≤ (v / 2 ^ target M E + 1 / 2) * 2 ^ target M E :=
        mul_le_mul_of_nonneg_right reads.roundedMantissa_le scale.le
    _ = v + 2 ^ target M E / 2 := by field_simp

theorem Exact.unit_le (h : Exact M E acc v) (start : 52 ≤ M.log2 ∨ E ≤ -1074)
    (normal : (2 : ℝ) ^ (-1022 : Int) ≤ v) : 2 ^ target M E * 2 ^ 52 ≤ v := by
  by_cases least : target M E = -1074
  · rw [least]
    calc (2 : ℝ) ^ (-1074 : Int) * 2 ^ 52 = 2 ^ (-1022 : Int) := by
          rw [← zpow_natCast, ← zpow_add₀ two_ne_zero]
          norm_num
      _ ≤ v := normal
  · have above := (h.scaled_bounds start).2.resolve_left least
    rw [le_div_iff₀ (zpow_pos two_pos _)] at above
    linarith

theorem RoundsTo.toEReal_le {x : Float} {q : ℝ} (h : RoundsTo x q)
    (normal : (2 : ℝ) ^ (-1022 : Int) ≤ q) (small : q ≤ 2 ^ 1023) :
    toEReal x ≤ ((q + q / 2 ^ 53 : ℝ) : EReal) := by
  have pos : 0 < q := lt_of_lt_of_le (zpow_pos two_pos _) normal
  obtain ⟨u, rounds, packed⟩ := h
  rcases rounds with ⟨zero, -⟩ | ⟨M, E, acc, -, start, exact, rfl⟩
  · exact absurd zero pos.ne'
  rw [abs_of_pos pos] at exact
  have half : (2 : ℝ) ^ target M E / 2 ≤ q / 2 ^ 53 := by
    have unit := exact.unit_le start normal
    rw [div_le_div_iff₀ two_pos (by positivity)]
    have : (2 : ℝ) ^ 53 = 2 * 2 ^ 52 := by norm_num
    rw [this]
    linarith
  have bound : magnitude M E acc ≤ q + q / 2 ^ 53 := by
    linarith [exact.magnitude_le start]
  have below : q + q / 2 ^ 53 < 2 ^ 1024 :=
    calc q + q / 2 ^ 53 < q + q := add_lt_add_right (div_lt_self pos (by norm_num)) q
      _ ≤ 2 ^ 1023 + 2 ^ 1023 := add_le_add small small
      _ = 2 ^ 1024 := by rw [pow_succ 2 1023, mul_two]
  unfold toEReal
  rw [packed, model_unpack_pack, extended_pack_round _ exact start, if_neg (not_lt.mpr pos.le)]
  change saturate (magnitude M E acc) ≤ _
  rw [saturate, if_neg (not_le.mpr (lt_of_le_of_lt bound below))]
  exact EReal.coe_le_coe_iff.mpr bound

end Error

section Exactness

theorem finite_of_toEReal_eq {x : Float} {r : ℝ} (nx : x.isNaN = false) (eq : toEReal x = r) :
    x.isFinite = true ∧ value x.toModel.unpack = r := by
  have fx := isFinite_of_between nx eq.ge eq.le
  rw [toEReal_of_isFinite fx, EReal.coe_eq_coe_iff] at eq
  exact ⟨fx, eq⟩

theorem RoundsTo.toEReal_eq {x y : Float} {q : ℝ} (hx : RoundsTo x q) (hy : RoundsTo y q) :
    toEReal x = toEReal y :=
  le_antisymm (hx.le hy le_rfl) (hy.le hx le_rfl)

theorem pack_unpack_model (m : Float.Model) : Float.Model.pack m.unpack = m := by
  obtain ⟨⟨b⟩, valid⟩ := m
  have bits : UnpackedFloat.pack .binary64 (UnpackedFloat.unpack .binary64 b) = b :=
    UnpackedFloat.pack_unpack_of_valid valid
  change Float.Model.mk ⟨UnpackedFloat.pack .binary64 (UnpackedFloat.unpack .binary64 b)⟩ _ =
    Float.Model.mk ⟨b⟩ valid
  simp only [bits]

theorem roundsTo_self {x : Float} (fx : x.isFinite = true) : RoundsTo x (value x.toModel.unpack) := by
  refine ⟨x.toModel.unpack, ?_, (pack_unpack_model _).symm⟩
  rcases finite_cases fx with ⟨s, unpacked⟩ | ⟨s, m, e, h, unpacked⟩ <;> rw [unpacked]
  · exact .inl ⟨rfl, s, rfl⟩
  · exact rounds_self (shaped_unpack unpacked).1

variable {s : Sign} {m : Nat} {e : Int} {hm : 0 < m}

theorem roundsTo_pack (shaped : Shaped m e) :
    RoundsTo (Float.ofModel (Float.Model.pack (.finite s m e hm))) (value (.finite s m e hm)) :=
  ⟨_, rounds_self shaped, rfl⟩

theorem toEReal_pack (shaped : Shaped m e) (inRange : e ≤ 971) :
    toEReal (Float.ofModel (Float.Model.pack (.finite s m e hm))) = (value (.finite s m e hm) : EReal) := by
  unfold toEReal
  rw [model_unpack_pack, unpack_pack_shaped shaped inRange]
  rfl

theorem RoundsTo.toEReal_of_shaped {x : Float} {q : ℝ} (h : RoundsTo x q) (shaped : Shaped m e)
    (inRange : e ≤ 971) (eq : value (.finite s m e hm) = q) : toEReal x = q := by
  rw [h.toEReal_eq (eq ▸ roundsTo_pack shaped), toEReal_pack shaped inRange, eq]

theorem RoundsTo.le_of_shaped {x : Float} {q : ℝ} (h : RoundsTo x q) (shaped : Shaped m e)
    (inRange : e ≤ 971) (le : value (.finite s m e hm) ≤ q) :
    (value (.finite s m e hm) : EReal) ≤ toEReal x := by
  rw [← toEReal_pack shaped inRange]
  exact (roundsTo_pack shaped).le h le

theorem shaped_scaled {n : Nat} (pos : 0 < n) (small : n < 2 ^ 53) {j : Int} (low : -1022 ≤ j) :
    Shaped (n * 2 ^ (52 - n.log2)) (-(52 - n.log2 : Nat) + j) := by
  have bounds := normalized_bounds pos small
  exact ⟨bounds.2, by omega, .inl bounds.1⟩

theorem value_scaled {n : Nat} {j : Int} (h : 0 < n * 2 ^ (52 - n.log2)) :
    value (.finite .positive (n * 2 ^ (52 - n.log2)) (-(52 - n.log2 : Nat) + j) h) = n * 2 ^ j := by
  change ((n * 2 ^ (52 - n.log2) : Nat) : ℝ) * 2 ^ (-(52 - n.log2 : Nat) + j) = n * 2 ^ j
  rw [zpow_add₀ two_ne_zero, zpow_neg, zpow_natCast]
  push_cast
  field_simp

variable {x : Float} {q : ℝ} {n : Nat} {j : Int}

theorem RoundsTo.toEReal_scaled (h : RoundsTo x (n * 2 ^ j)) (pos : 0 < n) (small : n < 2 ^ 53)
    (low : -1022 ≤ j) (high : j ≤ 971) : toEReal x = ((n * 2 ^ j : ℝ) : EReal) :=
  h.toEReal_of_shaped (shaped_scaled pos small low) (by omega)
    (value_scaled (Nat.mul_pos pos (Nat.two_pow_pos _)))

theorem RoundsTo.scaled_le (h : RoundsTo x q) (pos : 0 < n) (small : n < 2 ^ 53)
    (low : -1022 ≤ j) (high : j ≤ 971) (le : n * 2 ^ j ≤ q) :
    ((n * 2 ^ j : ℝ) : EReal) ≤ toEReal x := by
  have p := Nat.mul_pos pos (Nat.two_pow_pos (52 - n.log2))
  have below := h.le_of_shaped (shaped_scaled pos small low) (by omega)
    ((value_scaled p).trans_le le)
  rwa [value_scaled p] at below

theorem RoundsTo.toEReal_natCast (h : RoundsTo x n) (small : n < 2 ^ 53) : toEReal x = (n : ℝ) := by
  rcases Nat.eq_zero_or_pos n with rfl | pos
  · rw [Nat.cast_zero] at h ⊢
    rw [h.toEReal_eq roundsTo_zero, toEReal_zero, EReal.coe_zero]
  · have scaled : RoundsTo x (n * 2 ^ (0 : Int)) := by rwa [zpow_zero, mul_one]
    rw [scaled.toEReal_scaled pos small (by decide) (by decide), zpow_zero, mul_one]

end Exactness

section Doubling

variable {m : Nat} {e : Int}

theorem normal_mantissa (shaped : Shaped m e) (normal : (2 : ℝ) ^ (-1022 : Int) ≤ m * 2 ^ e) :
    2 ^ 52 ≤ m := by
  rcases shaped.2.2 with big | least
  · exact big
  by_contra low
  have below : (m : ℝ) * 2 ^ e < 2 ^ (-1022 : Int) := by
    rw [least]
    calc (m : ℝ) * 2 ^ (-1074 : Int) < 2 ^ 52 * 2 ^ (-1074 : Int) :=
          mul_lt_mul_of_pos_right (by exact_mod_cast not_le.mp low) (zpow_pos two_pos _)
      _ = 2 ^ (-1022 : Int) := by
          rw [← zpow_natCast, ← zpow_add₀ two_ne_zero]
          norm_num
  linarith

theorem exponent_lt_of_lt (big : 2 ^ 52 ≤ m) {b : Int} (below : (m : ℝ) * 2 ^ e < 2 ^ b) :
    e < b - 52 := by
  have bottom : (2 : ℝ) ^ (52 + e) < 2 ^ b :=
    calc (2 : ℝ) ^ (52 + e) = 2 ^ 52 * 2 ^ e := by
          rw [zpow_add₀ two_ne_zero]
          norm_num
      _ ≤ m * 2 ^ e := mul_le_mul_of_nonneg_right (by exact_mod_cast big) (zpow_pos two_pos _).le
      _ < 2 ^ b := below
  have := (zpow_lt_zpow_iff_right₀ one_lt_two).mp bottom
  omega

theorem exponent_nonpos_of_lt (shaped : Shaped m e) (below : (m : ℝ) * 2 ^ e < 2 ^ 52) : e ≤ 0 := by
  rcases shaped.2.2 with big | least
  · have := exponent_lt_of_lt big (b := 52) (by exact_mod_cast below)
    omega
  · omega

theorem unpack_two : (2.0 : Float).toModel.unpack = .finite .positive (2 ^ 52) (-51) (by decide) :=
  rfl

theorem value_two : value (2.0 : Float).toModel.unpack = 2 := by
  rw [unpack_two]
  change ((2 ^ 52 : Nat) : ℝ) * 2 ^ (-51 : Int) = 2
  rw [Nat.cast_pow, Nat.cast_ofNat, ← zpow_natCast, ← zpow_add₀ two_ne_zero]
  norm_num

theorem toEReal_mul_two {y : Float} (fy : y.isFinite = true)
    (normal : (2 : ℝ) ^ (-1022 : Int) ≤ value y.toModel.unpack)
    (small : value y.toModel.unpack < 2 ^ 1023) :
    toEReal (y * 2.0) = ((value y.toModel.unpack * 2 : ℝ) : EReal) := by
  have pos : 0 < value y.toModel.unpack := lt_of_lt_of_le (zpow_pos two_pos _) normal
  have rounds := roundsTo_mul fy (by decide : (2.0 : Float).isFinite = true)
  rw [value_two] at rounds
  obtain ⟨m, e, h, unpacked⟩ := unpack_of_pos fy pos
  have shaped := (shaped_unpack unpacked).1
  rw [unpacked] at normal small rounds ⊢
  change (2 : ℝ) ^ (-1022 : Int) ≤ m * 2 ^ e at normal
  change (m : ℝ) * 2 ^ e < 2 ^ (1023 : Nat) at small
  have big := normal_mantissa shaped normal
  have inRange := exponent_lt_of_lt big (b := 1023) (by rwa [← zpow_natCast] at small)
  have double : value (.finite .positive m (e + 1) h) = value (.finite .positive m e h) * 2 := by
    change (m : ℝ) * 2 ^ (e + 1) = m * 2 ^ e * 2
    rw [zpow_add_one₀ two_ne_zero, mul_assoc]
  have low := shaped.2.1
  exact rounds.toEReal_of_shaped ⟨shaped.1, by omega, .inl big⟩ (by omega) double

end Doubling

section Naturals

theorem rounds_whole {M : Nat} (E : Int) (big : 52 ≤ M.log2) :
    Rounds (roundWithAccuracy .binary64 .positive M E .exact) (M * 2 ^ E) := by
  have nonzero : M ≠ 0 := fun zero => by rw [zero, Nat.log2_zero] at big; omega
  have pos : (0 : ℝ) < M * 2 ^ E :=
    mul_pos (by exact_mod_cast Nat.pos_of_ne_zero nonzero) (zpow_pos two_pos E)
  refine .inr ⟨M, E, .exact, pos.ne', .inl big, ⟨0, rfl, by rw [abs_of_pos pos, add_zero]⟩, ?_⟩
  rw [if_neg (not_lt.mpr pos.le)]

theorem ofNat_model_of_le {n : Nat} (large : ¬ n < 2 ^ 53) :
    (Float.ofNat n).toModel =
      Float.Model.pack (roundWithAccuracy .binary64 .positive (n * 2 ^ 53) (-53) .exact) := by
  have slow : ¬ (n < 2 ^ 53 ∧ 0 ≤ 22) := fun fast => large fast.1
  have nonzero : n ≠ 0 := by omega
  simp only [Float.ofNat, OfScientific.ofScientific, Float.ofScientific, dif_neg slow,
    Bool.false_eq_true, if_false, Float.Model.ofScientific, UnpackedFloat.ofScientific,
    dif_neg nonzero, Int.ofNat_eq_natCast, Nat.cast_zero]
  rw [if_neg (by decide), if_neg (by omega), if_pos (le_refl _), mul_finite, positive_mul_positive]
  simp only [binary64_mantissaBits, Nat.shiftLeft_eq, Int.toNat_zero, pow_zero, Nat.mul_one,
    add_zero, Nat.cast_ofNat]

theorem roundsTo_ofNat (n : Nat) : RoundsTo (Float.ofNat n) n := by
  by_cases small : n < 2 ^ 53
  · have exact := value_ofNat small
    exact exact.2 ▸ roundsTo_self exact.1
  have big : 52 ≤ (n * 2 ^ 53).log2 := by
    rw [Nat.le_log2 (Nat.mul_ne_zero (by omega) (by positivity))]
    exact Nat.le_trans (by decide) (Nat.le_mul_of_pos_left _ (by omega))
  have whole : ((n * 2 ^ 53 : Nat) : ℝ) * 2 ^ (-53 : Int) = n := by
    rw [Nat.cast_mul, Nat.cast_pow, Nat.cast_ofNat, mul_assoc, ← zpow_natCast, ← zpow_add₀ two_ne_zero]
    norm_num
  exact ⟨_, whole ▸ rounds_whole _ big, ofNat_model_of_le small⟩

end Naturals

end Doubles
end EncoderBench
