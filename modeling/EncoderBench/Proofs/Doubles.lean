import Mathlib
/-!
Whole numbers as doubles, read through Lean's logical model of `Float`. Every natural below
`2 ^ 53` is a double exactly (`unpack_ofNat`), so such doubles are ordered as the naturals are
(`lt_ofNat_of_le`), and four fifths of one, rounded, is below it.
-/
namespace EncoderBench

namespace Doubles

open Float.Model Float.Model.UnpackedFloat

@[simp] theorem binary64_mantissaBits : Format.binary64.mantissaBits = 53 := rfl
@[simp] theorem binary64_minExponent : Format.binary64.minExponent = -1074 := by decide

theorem log2_of_bounds {r k : Nat} (low : 2 ^ k ≤ r) (high : r < 2 ^ (k + 1)) : r.log2 = k :=
  (Nat.log2_eq_iff (by have := Nat.two_pow_pos k; omega)).mpr ⟨low, high⟩

section Rounding

theorem mantissa_shiftRight (em : ExtendedMantissa) (n : Nat) :
    (em >>> n).mantissa = em.mantissa / 2 ^ n := by
  induction n with
  | zero =>
    change em.mantissa = _
    simp
  | succ n ih =>
    change (ExtendedMantissa.shiftRightOne (em >>> n)).mantissa = _
    simp only [ExtendedMantissa.shiftRightOne, ih, Nat.div_div_eq_div_mul, Nat.pow_succ]

theorem shiftRight_exact (M n : Nat) (dvd : 2 ^ n ∣ M) :
    (⟨M, false, false⟩ : ExtendedMantissa) >>> n = ⟨M / 2 ^ n, false, false⟩ := by
  induction n with
  | zero =>
    change (⟨M, false, false⟩ : ExtendedMantissa) = _
    simp
  | succ n ih =>
    change ExtendedMantissa.shiftRightOne ((⟨M, false, false⟩ : ExtendedMantissa) >>> n) = _
    rw [ih (Nat.dvd_trans (Nat.pow_dvd_pow 2 (Nat.le_succ n)) dvd)]
    obtain ⟨c, rfl⟩ := dvd
    simp only [ExtendedMantissa.shiftRightOne, Bool.or_self, ExtendedMantissa.mk.injEq]
    refine ⟨?_, ?_⟩
    · rw [Nat.div_div_eq_div_mul, Nat.pow_succ]
    · rw [Nat.pow_succ, Nat.mul_assoc, Nat.mul_div_cancel_left _ (Nat.two_pow_pos n)]
      simp

theorem roundedMantissa_bounds (em : ExtendedMantissa) :
    em.mantissa ≤ em.roundedMantissa ∧ em.roundedMantissa ≤ em.mantissa + 1 := by
  obtain ⟨m, round, sticky⟩ := em
  cases round <;> cases sticky <;>
    simp [ExtendedMantissa.roundedMantissa, ExtendedMantissa.accuracy,
      Accuracy.roundToNearestEven]
  omega

theorem mantissa_ofMantissaAndAccuracy (M : Nat) (acc : Accuracy) :
    (ExtendedMantissa.ofMantissaAndAccuracy M acc).mantissa = M := by
  unfold ExtendedMantissa.ofMantissaAndAccuracy
  split <;> rfl

theorem shiftToTargetExponent_normal (M : Nat) (E : Int) (acc : Accuracy)
    (big : 52 ≤ M.log2) (normal : -1074 ≤ E + M.log2 - 52) :
    shiftToTargetExponent .binary64 M E acc =
      (ExtendedMantissa.ofMantissaAndAccuracy M acc >>> (M.log2 - 52), E + (M.log2 - 52 : Nat)) := by
  simp only [shiftToTargetExponent, shiftToExponent, Format.targetExponent, totalExponent,
    binary64_mantissaBits, binary64_minExponent]
  have shift : (max ((M.log2 : Int) + 1 + E - ((53 : Nat) : Int)) (-1074) - E).toNat =
      M.log2 - 52 := by omega
  rw [shift]

theorem top_bits {M : Nat} (big : 52 ≤ M.log2) :
    2 ^ 52 ≤ M / 2 ^ (M.log2 - 52) ∧ M / 2 ^ (M.log2 - 52) < 2 ^ 53 := by
  have nonzero : M ≠ 0 := by
    rintro rfl
    simp at big
  have low := Nat.log2_self_le nonzero
  have high := Nat.lt_log2_self (n := M)
  have split : M.log2 = 52 + (M.log2 - 52) := by omega
  constructor
  · rw [Nat.le_div_iff_mul_le (Nat.two_pow_pos _), ← Nat.pow_add, ← split]
    exact low
  · rw [Nat.div_lt_iff_lt_mul (Nat.two_pow_pos _), ← Nat.pow_add]
    rwa [show 53 + (M.log2 - 52) = M.log2 + 1 by omega]

variable (s : Sign) (M : Nat) (E : Int) (acc : Accuracy) {r : Nat}

theorem roundWithAccuracy_of_lt (big : 52 ≤ M.log2) (normal : -1074 ≤ E + M.log2 - 52)
    (rounded : (ExtendedMantissa.ofMantissaAndAccuracy M acc >>> (M.log2 - 52)).roundedMantissa = r)
    (noCarry : r < 2 ^ 53) :
    ∃ h, roundWithAccuracy .binary64 s M E acc = .finite s r (E + (M.log2 - 52 : Nat)) h := by
  have bounds := roundedMantissa_bounds
    (ExtendedMantissa.ofMantissaAndAccuracy M acc >>> (M.log2 - 52))
  rw [rounded, mantissa_shiftRight, mantissa_ofMantissaAndAccuracy] at bounds
  have top := top_bits big
  have log : r.log2 = 52 := log2_of_bounds (by omega) noCarry
  refine ⟨by omega, ?_⟩
  unfold roundWithAccuracy
  rw [shiftToTargetExponent_normal M E acc big normal]
  simp only [rounded]
  have second := shiftToTargetExponent_normal r (E + (M.log2 - 52 : Nat)) .exact (by omega)
    (by omega)
  have kept : r / 2 ^ (r.log2 - 52) = r := by simp [log]
  simp only [second, mantissa_shiftRight, mantissa_ofMantissaAndAccuracy, kept]
  simp [show r ≠ 0 by omega, log]

theorem roundWithAccuracy_of_carry (big : 52 ≤ M.log2) (normal : -1074 ≤ E + M.log2 - 52)
    (rounded : (ExtendedMantissa.ofMantissaAndAccuracy M acc >>> (M.log2 - 52)).roundedMantissa = r)
    (carry : 2 ^ 53 ≤ r) :
    ∃ h, roundWithAccuracy .binary64 s M E acc =
      .finite s (2 ^ 52) (E + (M.log2 - 52 : Nat) + 1) h := by
  have bounds := roundedMantissa_bounds
    (ExtendedMantissa.ofMantissaAndAccuracy M acc >>> (M.log2 - 52))
  rw [rounded, mantissa_shiftRight, mantissa_ofMantissaAndAccuracy] at bounds
  have top := top_bits big
  have full : r = 2 ^ 53 := by omega
  have log : r.log2 = 53 := log2_of_bounds (by omega) (by omega)
  refine ⟨Nat.two_pow_pos 52, ?_⟩
  unfold roundWithAccuracy
  rw [shiftToTargetExponent_normal M E acc big normal]
  simp only [rounded]
  have second := shiftToTargetExponent_normal r (E + (M.log2 - 52 : Nat)) .exact (by omega)
    (by omega)
  have halved : r / 2 ^ (r.log2 - 52) = 2 ^ 52 := by
    rw [log, full]
    decide
  simp only [second, mantissa_shiftRight, mantissa_ofMantissaAndAccuracy, halved]
  simp [log]

theorem roundWithAccuracy_exact (m k : Nat) (low : 2 ^ 52 ≤ m) (high : m < 2 ^ 53)
    (normal : -1074 ≤ E + k) :
    ∃ h, roundWithAccuracy .binary64 s (m * 2 ^ k) E .exact = .finite s m (E + k) h := by
  have log : (m * 2 ^ k).log2 = 52 + k := by
    apply log2_of_bounds
    · rw [Nat.pow_add]
      exact Nat.mul_le_mul_right _ low
    · rw [show 52 + k + 1 = 53 + k by omega, Nat.pow_add]
      exact Nat.mul_lt_mul_of_pos_right high (Nat.two_pow_pos k)
  have exact : (ExtendedMantissa.ofMantissaAndAccuracy (m * 2 ^ k) .exact >>>
      ((m * 2 ^ k).log2 - 52)).roundedMantissa = m := by
    rw [log, show 52 + k - 52 = k by omega]
    change ((⟨m * 2 ^ k, false, false⟩ : ExtendedMantissa) >>> k).roundedMantissa = m
    rw [shiftRight_exact _ _ (Nat.dvd_mul_left _ _), Nat.mul_div_cancel _ (Nat.two_pow_pos k)]
    rfl
  obtain ⟨h, rounded⟩ := roundWithAccuracy_of_lt s (m * 2 ^ k) E .exact (by omega) (by omega)
    exact high
  refine ⟨h, ?_⟩
  rw [rounded, log, show 52 + k - 52 = k by omega]

end Rounding

section Packing

theorem unpackSign_packComponents {spec : Format} {sign exponent mantissa} :
    unpackSign (packComponents spec sign exponent mantissa) = sign.toBitVec := by
  ext i hi
  have := spec.he
  simp [unpackSign, packComponents, BitVec.getLsbD_append]
  rw [if_neg (by omega), if_neg (by omega)]
  simp [show spec.mantissaBitsWithoutImplicit + spec.exponentBits + i -
    spec.mantissaBitsWithoutImplicit - spec.exponentBits = i by omega, BitVec.getLsbD_eq_getElem, hi]

theorem ofBitVec_toBitVec (s : Sign) : Sign.ofBitVec s.toBitVec = s := by
  cases s <;> rfl

theorem unpack_pack_normal (s : Sign) (m : Nat) (e : Int) (h : 0 < m)
    (low : 2 ^ 52 ≤ m) (high : m < 2 ^ 53) (eLow : -1074 ≤ e) (eHigh : e ≤ 971) :
    UnpackedFloat.unpack .binary64 (UnpackedFloat.pack .binary64 (.finite s m e h)) =
      .finite s m e h := by
  have log : m.log2 = 52 := log2_of_bounds low high
  have bias : Format.binary64.exponentBias = 1023 := by decide
  have biased : (e + (Format.binary64.exponentBias : Int) + ((52 : Nat) : Int)).toNat =
      (e + 1075).toNat := by
    rw [bias]
    omega
  simp only [UnpackedFloat.pack, log, biased]
  rw [if_neg (by omega), if_pos (by decide)]
  -- the exponent field is neither all ones nor all zeros, so the number reads back as normal
  have expBits : (BitVec.ofNat 11 (e + 1075).toNat).toNat = (e + 1075).toNat := by
    rw [BitVec.toNat_ofNat]
    exact Nat.mod_eq_of_lt (by omega)
  have notTop : BitVec.ofNat 11 (e + 1075).toNat ≠ -1#11 := by
    intro top
    have bits := congrArg BitVec.toNat top
    rw [expBits, BitVec.neg_one_eq_allOnes, BitVec.toNat_allOnes] at bits
    omega
  have notZero : BitVec.ofNat 11 (e + 1075).toNat ≠ 0#11 := by
    intro bottom
    have bits := congrArg BitVec.toNat bottom
    rw [expBits] at bits
    simp at bits
    omega
  have mantissa : (1#1 ++ BitVec.ofNat 52 m).toNat = m := by
    have low52 : (BitVec.ofNat 52 m).toNat = m % 2 ^ 52 := BitVec.toNat_ofNat m 52
    rw [BitVec.toNat_append, low52,
      ← Nat.shiftLeft_add_eq_or_of_lt (Nat.mod_lt _ (Nat.two_pow_pos 52))]
    change 1 <<< 52 + m % 2 ^ 52 = m
    rw [Nat.one_shiftLeft]
    omega
  simp only [UnpackedFloat.unpack, unpackMantissa_packComponents, unpackExponent_packComponents,
    unpackSign_packComponents, ofBitVec_toBitVec, notTop, notZero, if_false, mantissa, expBits,
    bias]
  congr 1
  omega

end Packing

section Naturals

theorem normalized_bounds {n : Nat} (pos : 0 < n) (small : n < 2 ^ 53) :
    2 ^ 52 ≤ n * 2 ^ (52 - n.log2) ∧ n * 2 ^ (52 - n.log2) < 2 ^ 53 := by
  have log : n.log2 < 53 := (Nat.log2_lt (by omega)).mpr small
  have low := Nat.log2_self_le (n := n) (by omega)
  have high := Nat.lt_log2_self (n := n)
  constructor
  · calc 2 ^ 52 = 2 ^ n.log2 * 2 ^ (52 - n.log2) := by rw [← Nat.pow_add]; congr 1; omega
      _ ≤ n * 2 ^ (52 - n.log2) := Nat.mul_le_mul_right _ low
  · calc n * 2 ^ (52 - n.log2) < 2 ^ (n.log2 + 1) * 2 ^ (52 - n.log2) :=
          Nat.mul_lt_mul_of_pos_right high (Nat.two_pow_pos _)
      _ = 2 ^ 53 := by rw [← Nat.pow_add]; congr 1; omega

theorem round_nat (n : Nat) (pos : 0 < n) (small : n < 2 ^ 53) :
    ∃ h, UnpackedFloat.round .binary64 .positive n 0 =
      .finite .positive (n * 2 ^ (52 - n.log2)) (-(52 - n.log2 : Nat)) h := by
  have log : n.log2 < 53 := (Nat.log2_lt (by omega)).mpr small
  have bounds := normalized_bounds pos small
  simp only [UnpackedFloat.round, decreaseExponent, Format.targetExponent, totalExponent,
    binary64_mantissaBits, binary64_minExponent]
  have shift : (0 - max ((n.log2 : Int) + 1 + 0 - ((53 : Nat) : Int)) (-1074)).toNat =
      52 - n.log2 := by omega
  rw [shift, Nat.shiftLeft_eq]
  obtain ⟨h, rounded⟩ := roundWithAccuracy_exact .positive (0 - ((52 - n.log2 : Nat) : Int))
    (n * 2 ^ (52 - n.log2)) 0 bounds.1 bounds.2 (by omega)
  rw [Nat.pow_zero, Nat.mul_one] at rounded
  refine ⟨h, ?_⟩
  rw [rounded]
  congr 1
  omega

theorem model_unpack_pack (f : UnpackedFloat) :
    (Float.Model.pack f).unpack = UnpackedFloat.unpack .binary64 (UnpackedFloat.pack .binary64 f) :=
  rfl

theorem unpack_toFloat (n : Nat) (pos : 0 < n) (small : n < 2 ^ 53) :
    ∃ h, n.toUInt64.toFloat.toModel.unpack =
      .finite .positive (n * 2 ^ (52 - n.log2)) (-(52 - n.log2 : Nat)) h := by
  obtain ⟨h, rounded⟩ := round_nat n pos small
  have bounds := normalized_bounds pos small
  refine ⟨h, ?_⟩
  change (Float.Model.pack (UnpackedFloat.ofUInt64 .binary64 n.toUInt64)).unpack = _
  have asNat : n.toUInt64.toNat = n :=
    UInt64.toNat_ofNat_of_lt (Nat.lt_trans small (by decide))
  have positive : compare (n : Int) 0 = .gt := by
    rw [Int.compare_eq_gt]
    omega
  simp only [UnpackedFloat.ofUInt64, UnpackedFloat.ofNat, UnpackedFloat.ofInt,
    UnpackedFloat.normalize, asNat, positive, Int.toNat_natCast, rounded, model_unpack_pack]
  exact unpack_pack_normal _ _ _ h bounds.1 bounds.2 (by omega) (by omega)

theorem unpack_mul (a b : Float) :
    (a * b).toModel.unpack = UnpackedFloat.unpack .binary64
      (UnpackedFloat.pack .binary64 (UnpackedFloat.mul .binary64 a.toModel.unpack b.toModel.unpack)) :=
  rfl

theorem unpack_one : (Float.ofBits 0x3FF0000000000000).toModel.unpack =
    .finite .positive (2 ^ 52) (-52) (Nat.two_pow_pos 52) :=
  rfl

theorem mul_finite (s₁ s₂ : Sign) (m₁ m₂ : Nat) (e₁ e₂ : Int) (h₁ : 0 < m₁) (h₂ : 0 < m₂) :
    UnpackedFloat.mul .binary64 (.finite s₁ m₁ e₁ h₁) (.finite s₂ m₂ e₂ h₂) =
      roundWithAccuracy .binary64 (s₁ * s₂) (m₁ * m₂) (e₁ + e₂) .exact :=
  rfl

theorem positive_mul_positive : Sign.positive * Sign.positive = .positive := rfl

theorem unpack_ofNat (n : Nat) (pos : 0 < n) (small : n < 2 ^ 53) :
    ∃ h, (Float.ofNat n).toModel.unpack =
      .finite .positive (n * 2 ^ (52 - n.log2)) (-(52 - n.log2 : Nat)) h := by
  obtain ⟨h, converted⟩ := unpack_toFloat n pos small
  refine ⟨h, ?_⟩
  have fast : n < 2 ^ 53 ∧ 0 ≤ 22 := ⟨small, by decide⟩
  have one : Float.exactlyRepresentablePowersOfTen[0] = Float.ofBits 0x3FF0000000000000 := rfl
  have bounds := normalized_bounds pos small
  obtain ⟨_, exact⟩ := roundWithAccuracy_exact .positive (-(52 - n.log2 : Nat) + -52)
    (n * 2 ^ (52 - n.log2)) 52 bounds.1 bounds.2 (by omega)
  simp only [Float.ofNat, OfScientific.ofScientific, Float.ofScientific, dif_pos fast,
    Bool.false_eq_true, if_false, one, unpack_mul, converted, unpack_one, mul_finite,
    positive_mul_positive, exact]
  rw [unpack_pack_normal _ _ _ _ bounds.1 bounds.2 (by omega) (by omega)]
  congr 1
  omega

theorem unpack_ofNat_zero : (Float.ofNat 0).toModel.unpack = .zero .positive := rfl

end Naturals

section Order

theorem lt_iff_compare (a b : Float) :
    a < b ↔ a.toModel.unpack.compare b.toModel.unpack = some .lt := by
  show Float.lt a b = true ↔ _
  unfold Float.lt
  rw [decide_eq_true_iff]
  show Float.Model.lt _ _ = true ↔ _
  unfold Float.Model.lt UnpackedFloat.lt
  simp

theorem compare_finite_positive_lt {u : UnpackedFloat} {m₁ m₂ : Nat} {e₁ e₂ : Int} {h₁ : 0 < m₁}
    {h₂ : 0 < m₂} (before : e₁ < e₂ ∨ e₁ = e₂ ∧ m₁ ≤ m₂)
    (below : u.compare (.finite .positive m₁ e₁ h₁) = some .lt) :
    u.compare (.finite .positive m₂ e₂ h₂) = some .lt := by
  cases u with
  | notANumber => cases below
  | infinity s => cases s <;> first | rfl | cases below
  | zero s => rfl
  | finite s m e h =>
    cases s with
    | negative => rfl
    | positive =>
      change some ((compare e e₁).then (compare m m₁)) = some .lt at below
      change some ((compare e e₂).then (compare m m₂)) = some .lt
      simp only [Option.some.injEq, Ordering.then_eq_lt, Int.compare_eq_lt, Int.compare_eq_eq,
        Nat.compare_eq_lt] at below ⊢
      omega

theorem compare_finite_positive_of_lt_zero {u : UnpackedFloat} {m : Nat} {e : Int} {h : 0 < m}
    (below : u.compare (.zero .positive) = some .lt) :
    u.compare (.finite .positive m e h) = some .lt := by
  cases u with
  | notANumber => cases below
  | infinity s => cases s <;> first | rfl | cases below
  | zero s => cases below
  | finite s m e h => cases s <;> first | rfl | cases below

theorem normalized_le {a b : Nat} (pos : 0 < a) (le : a ≤ b) (small : b < 2 ^ 53) :
    -((52 - a.log2 : Nat) : Int) < -((52 - b.log2 : Nat) : Int) ∨
      -((52 - a.log2 : Nat) : Int) = -((52 - b.log2 : Nat) : Int) ∧
        a * 2 ^ (52 - a.log2) ≤ b * 2 ^ (52 - b.log2) := by
  have logs : a.log2 ≤ b.log2 :=
    (Nat.le_log2 (by omega)).mpr (Nat.le_trans (Nat.log2_self_le (by omega)) le)
  have bLog : b.log2 < 53 := (Nat.log2_lt (by omega)).mpr small
  rcases Nat.lt_or_eq_of_le logs with lower | same
  · left
    omega
  · right
    refine ⟨by rw [same], ?_⟩
    rw [same]
    exact Nat.mul_le_mul_right _ le

theorem lt_ofNat_of_le {c : Float} {a b : Nat} (below : c < Float.ofNat a) (le : a ≤ b)
    (small : b < 2 ^ 53) : c < Float.ofNat b := by
  rcases Nat.eq_zero_or_pos b with rfl | bPos
  · rwa [Nat.le_zero.mp le] at below
  rw [lt_iff_compare] at below ⊢
  obtain ⟨hb, unpackB⟩ := unpack_ofNat b bPos small
  rw [unpackB]
  rcases Nat.eq_zero_or_pos a with rfl | aPos
  · rw [unpack_ofNat_zero] at below
    exact compare_finite_positive_of_lt_zero below
  · obtain ⟨ha, unpackA⟩ := unpack_ofNat a aPos (by omega)
    rw [unpackA] at below
    exact compare_finite_positive_lt (normalized_le aPos le small) below

theorem unpack_four_fifths :
    (0.8 : Float).toModel.unpack = .finite .positive 7205759403792794 (-53) (by decide) := rfl

theorem round_four_fifths (mx : Nat) (E : Int) (low : 2 ^ 52 ≤ mx) (high : mx < 2 ^ 53)
    (eLow : -1000 ≤ E) (eHigh : E ≤ 900) :
    ∃ m e h, roundWithAccuracy .binary64 .positive (mx * 7205759403792794) (E + -53) .exact =
        .finite .positive m e h ∧
      2 ^ 52 ≤ m ∧ m < 2 ^ 53 ∧ -1074 ≤ e ∧ e ≤ 971 ∧ (e < E ∨ e = E ∧ m < mx) := by
  set M := mx * 7205759403792794 with hM
  have mLow : 2 ^ 104 ≤ M := by omega
  have mHigh : M < 2 ^ 106 := by omega
  set r := (ExtendedMantissa.ofMantissaAndAccuracy M .exact >>> (M.log2 - 52)).roundedMantissa
    with hr
  have bounds := roundedMantissa_bounds
    (ExtendedMantissa.ofMantissaAndAccuracy M .exact >>> (M.log2 - 52))
  rw [← hr, mantissa_shiftRight, mantissa_ofMantissaAndAccuracy] at bounds
  by_cases lower : M < 2 ^ 105
  · have log : M.log2 = 104 := log2_of_bounds mLow lower
    rw [log] at bounds
    by_cases noCarry : r < 2 ^ 53
    · obtain ⟨h, rounded⟩ := roundWithAccuracy_of_lt .positive M (E + -53) .exact (by omega)
        (by omega) hr.symm noCarry
      refine ⟨r, _, h, rounded, by omega, noCarry, by omega, by omega, .inl (by omega)⟩
    · obtain ⟨h, rounded⟩ := roundWithAccuracy_of_carry .positive M (E + -53) .exact (by omega)
        (by omega) hr.symm (by omega)
      refine ⟨2 ^ 52, _, h, rounded, Nat.le_refl _, by decide, by omega, by omega, .inr ⟨by omega, ?_⟩⟩
      omega
  · have log : M.log2 = 105 := log2_of_bounds (by omega) mHigh
    rw [log] at bounds
    have noCarry : r < mx := by omega
    obtain ⟨h, rounded⟩ := roundWithAccuracy_of_lt .positive M (E + -53) .exact (by omega)
      (by omega) hr.symm (by omega)
    refine ⟨r, _, h, rounded, by omega, by omega, by omega, by omega, .inr ⟨by omega, noCarry⟩⟩

theorem ofNat_mul_four_fifths_lt {x k : Nat} (pos : 0 < x) (le : x ≤ k) (small : k < 2 ^ 53) :
    Float.ofNat x * 0.8 < Float.ofNat k := by
  rw [lt_iff_compare]
  obtain ⟨hx, unpackX⟩ := unpack_ofNat x pos (by omega)
  obtain ⟨hk, unpackK⟩ := unpack_ofNat k (by omega) small
  have bounds := normalized_bounds pos (show x < 2 ^ 53 by omega)
  have xLog : x.log2 < 53 := (Nat.log2_lt (by omega)).mpr (by omega)
  obtain ⟨m, e, h, rounded, mLow, mHigh, eLow, eHigh, below⟩ :=
    round_four_fifths (x * 2 ^ (52 - x.log2)) (-(52 - x.log2 : Nat)) bounds.1 bounds.2
      (by omega) (by omega)
  rw [unpack_mul, unpackX, unpack_four_fifths, mul_finite, positive_mul_positive, rounded,
    unpack_pack_normal _ _ _ _ mLow mHigh eLow eHigh, unpackK]
  have order := normalized_le pos le small
  change some ((compare e _).then (compare m _)) = some .lt
  simp only [Option.some.injEq, Ordering.then_eq_lt, Int.compare_eq_lt, Int.compare_eq_eq,
    Nat.compare_eq_lt]
  omega

end Order

end Doubles

end EncoderBench
