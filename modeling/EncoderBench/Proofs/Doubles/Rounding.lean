import EncoderBench.Proofs.Doubles
/-!
Rounding to the nearest double is monotone. The model of `Float` rounds an exact result by
shifting its mantissa to a target exponent and rounding to nearest, ties to even; a larger
number never gets a lower target, so the rounded magnitude is monotone, and on the extended real
line a rounding lands monotonically across signs, zeros and overflow (`Rounds.le`).
-/

namespace EncoderBench
namespace Doubles
open Float.Model Float.Model.UnpackedFloat

variable {M : Nat} {E : Int} {acc : Accuracy} {v : ℝ}

section Reading

def Describes : Accuracy → ℝ → Prop
  | .exact, f => f = 0
  | .inexact .lt, f => 0 < f ∧ f < 1 / 2
  | .inexact .eq, f => f = 1 / 2
  | .inexact .gt, f => 1 / 2 < f ∧ f < 1

theorem Describes.bounds {acc : Accuracy} {f : ℝ} (h : Describes acc f) : 0 ≤ f ∧ f < 1 := by
  rcases acc with _ | (_ | _ | _) <;> simp only [Describes] at h <;>
    constructor <;> linarith [h]

def Reads (em : ExtendedMantissa) (x : ℝ) : Prop :=
  ∃ f, Describes em.accuracy f ∧ x = em.mantissa + f

theorem Reads.floor {em : ExtendedMantissa} {x : ℝ} (h : Reads em x) :
    (em.mantissa : ℝ) ≤ x ∧ x < em.mantissa + 1 := by
  obtain ⟨f, describes, rfl⟩ := h
  have := describes.bounds
  constructor <;> linarith

theorem accuracy_ofMantissaAndAccuracy (M : Nat) (acc : Accuracy) :
    (ExtendedMantissa.ofMantissaAndAccuracy M acc).accuracy = acc := by
  rcases acc with _ | (_ | _ | _) <;> rfl

theorem reads_ofMantissaAndAccuracy {M : Nat} {acc : Accuracy} {f : ℝ} (h : Describes acc f) :
    Reads (ExtendedMantissa.ofMantissaAndAccuracy M acc) (M + f) :=
  ⟨f, by rwa [accuracy_ofMantissaAndAccuracy], by rw [mantissa_ofMantissaAndAccuracy]⟩

theorem Reads.shiftRightOne {em : ExtendedMantissa} {x : ℝ} (h : Reads em x) :
    Reads em.shiftRightOne (x / 2) := by
  obtain ⟨f, describes, rfl⟩ := h
  obtain ⟨m, round, sticky⟩ := em
  have split : (m : ℝ) = 2 * (m / 2 : Nat) + (m % 2 : Nat) := by
    exact_mod_cast (Nat.div_add_mod m 2).symm
  refine ⟨((m % 2 : Nat) + f) / 2, ?_, by rw [split]; simp only [ExtendedMantissa.shiftRightOne]; ring⟩
  rcases Nat.mod_two_eq_zero_or_one m with parity | parity <;>
    cases round <;> cases sticky <;>
    simp only [ExtendedMantissa.accuracy, Describes] at describes <;>
    simp [ExtendedMantissa.shiftRightOne, ExtendedMantissa.accuracy, Describes, parity] <;>
    (try constructor) <;> norm_num at describes ⊢ <;> linarith

theorem Reads.shiftRight {em : ExtendedMantissa} {x : ℝ} (h : Reads em x) (n : Nat) :
    Reads (em >>> n) (x / 2 ^ n) := by
  induction n with
  | zero =>
    change Reads em _
    simpa using h
  | succ n ih =>
    change Reads (ExtendedMantissa.shiftRightOne (em >>> n)) _
    rw [pow_succ, ← div_div]
    exact ih.shiftRightOne

theorem roundedMantissa_mono {em₁ em₂ : ExtendedMantissa} {x₁ x₂ : ℝ} (h₁ : Reads em₁ x₁)
    (h₂ : Reads em₂ x₂) (le : x₁ ≤ x₂) : em₁.roundedMantissa ≤ em₂.roundedMantissa := by
  have floor₁ := h₁.floor
  have floor₂ := h₂.floor
  have bounds₁ := roundedMantissa_bounds em₁
  have bounds₂ := roundedMantissa_bounds em₂
  rcases Nat.lt_trichotomy em₁.mantissa em₂.mantissa with lower | same | higher
  · omega
  · obtain ⟨f₁, d₁, read₁⟩ := h₁
    obtain ⟨f₂, d₂, read₂⟩ := h₂
    have fractions : f₁ ≤ f₂ := by rw [read₁, read₂, same] at le; linarith
    unfold ExtendedMantissa.roundedMantissa
    rw [same]
    revert d₁ d₂
    generalize em₁.accuracy = a₁
    generalize em₂.accuracy = a₂
    intro d₁ d₂
    rcases a₁ with _ | (_ | _ | _) <;> rcases a₂ with _ | (_ | _ | _) <;>
      simp only [Describes] at d₁ d₂ <;>
      simp only [Accuracy.roundToNearestEven] <;>
      first | omega | (exfalso; linarith [d₁, d₂])
  · have : (em₂.mantissa : ℝ) + 1 ≤ em₁.mantissa := by exact_mod_cast higher
    linarith


end Reading

section Shifting

/-- `M`, `E` and `acc` stand for the number `v`: the mantissa and the fraction its accuracy
describes, scaled by `2 ^ E`. -/
def Exact (M : Nat) (E : Int) (acc : Accuracy) (v : ℝ) : Prop :=
  ∃ f, Describes acc f ∧ v = (M + f) * 2 ^ E

/-- The exponent rounding shifts to: the one that leaves 53 bits, or the least exponent. -/
def target (M : Nat) (E : Int) : Int := max ((M.log2 : Int) + E - 52) (-1074)

theorem shiftToTargetExponent_eq (M : Nat) (E : Int) (acc : Accuracy) :
    shiftToTargetExponent .binary64 M E acc =
      (ExtendedMantissa.ofMantissaAndAccuracy M acc >>> (target M E - E).toNat,
        E + (target M E - E).toNat) := by
  have same : Format.binary64.targetExponent (totalExponent M E) = target M E := by
    simp only [Format.targetExponent, totalExponent, binary64_mantissaBits,
      binary64_minExponent, target]
    omega
  simp only [shiftToTargetExponent, shiftToExponent, same]

def carry (s : Sign) (r : Nat) (k : Int) : UnpackedFloat :=
  if h : r = 0 then .zero s
  else if r < 2 ^ 53 then .finite s r k (Nat.pos_of_ne_zero h)
  else .finite s (2 ^ 52) (k + 1) (Nat.two_pow_pos 52)

theorem shiftToTargetExponent_small {r : Nat} {k : Int} (small : r < 2 ^ 53) (low : -1074 ≤ k) :
    shiftToTargetExponent .binary64 r k .exact = (⟨r, false, false⟩, k) := by
  have log : r.log2 ≤ 52 := by
    rcases Nat.eq_zero_or_pos r with rfl | pos
    · simp
    · have := (Nat.log2_lt (by omega)).mpr small
      omega
  have none : (target r k - k).toNat = 0 := by
    simp only [target]
    omega
  rw [shiftToTargetExponent_eq, none, Nat.cast_zero, Int.add_zero]
  rfl

theorem shiftToTargetExponent_carry {k : Int} (low : -1074 ≤ k) :
    shiftToTargetExponent .binary64 (2 ^ 53) k .exact = (⟨2 ^ 52, false, false⟩, k + 1) := by
  have one : (target (2 ^ 53) k - k).toNat = 1 := by
    simp only [target, Nat.log2_two_pow]
    omega
  rw [shiftToTargetExponent_eq, one]
  rfl

theorem roundWithAccuracy_eq (s : Sign) (M : Nat) (E : Int) (acc : Accuracy) :
    roundWithAccuracy .binary64 s M E acc =
      carry s (shiftToTargetExponent .binary64 M E acc).1.roundedMantissa
        (shiftToTargetExponent .binary64 M E acc).2 := by
  have low : -1074 ≤ E + (target M E - E).toNat := by
    simp only [target]
    omega
  have bounds := roundedMantissa_bounds
    (ExtendedMantissa.ofMantissaAndAccuracy M acc >>> (target M E - E).toNat)
  rw [mantissa_shiftRight, mantissa_ofMantissaAndAccuracy] at bounds
  -- the first shift leaves 53 bits at most, so rounding carries one bit at most
  have fits : M / 2 ^ (target M E - E).toNat < 2 ^ 53 := by
    rw [Nat.div_lt_iff_lt_mul (Nat.two_pow_pos _), ← Nat.pow_add]
    refine Nat.lt_of_lt_of_le Nat.lt_log2_self (Nat.pow_le_pow_right (by decide) ?_)
    simp only [target]
    omega
  unfold roundWithAccuracy carry
  rw [shiftToTargetExponent_eq]
  dsimp only
  generalize (ExtendedMantissa.ofMantissaAndAccuracy M acc >>>
    (target M E - E).toNat).roundedMantissa = r at bounds ⊢
  by_cases small : r < 2 ^ 53
  · rw [shiftToTargetExponent_small small low]
    simp only [small, ↓reduceIte]
  · rw [show r = 2 ^ 53 by omega, shiftToTargetExponent_carry low]
    simp


end Shifting

section Monotone

theorem Exact.binade (h : Exact M E acc v) :
    v < 2 ^ ((M.log2 : Int) + E + 1) ∧ (0 < M → (2 : ℝ) ^ ((M.log2 : Int) + E) ≤ v) := by
  obtain ⟨f, describes, rfl⟩ := h
  have fraction := describes.bounds
  have high : (M : ℝ) + 1 ≤ 2 ^ (M.log2 + 1) := by exact_mod_cast Nat.lt_log2_self
  have scale : (0 : ℝ) < 2 ^ E := zpow_pos two_pos E
  have bottom : (2 : ℝ) ^ ((M.log2 : Int) + E) = 2 ^ M.log2 * 2 ^ E := by
    rw [zpow_add₀ two_ne_zero, zpow_natCast]
  have top : (2 : ℝ) ^ ((M.log2 : Int) + E + 1) = 2 ^ (M.log2 + 1) * 2 ^ E := by
    rw [add_right_comm, zpow_add₀ two_ne_zero, ← Nat.cast_succ, zpow_natCast]
  rw [bottom, top]
  refine ⟨mul_lt_mul_of_pos_right (by linarith) scale, fun pos => ?_⟩
  have low : (2 : ℝ) ^ M.log2 ≤ M := by exact_mod_cast Nat.log2_self_le (by omega)
  exact mul_le_mul_of_nonneg_right (by linarith) scale.le

theorem Exact.reads_first (h : Exact M E acc v) :
    Reads (shiftToTargetExponent .binary64 M E acc).1
      (v / 2 ^ (shiftToTargetExponent .binary64 M E acc).2) := by
  obtain ⟨f, describes, rfl⟩ := h
  rw [shiftToTargetExponent_eq]
  have shifted := (@reads_ofMantissaAndAccuracy M _ _ describes).shiftRight (target M E - E).toNat
  convert shifted using 1
  rw [zpow_add₀ two_ne_zero, zpow_natCast]
  field_simp

theorem exponent_first (start : 52 ≤ M.log2 ∨ E ≤ -1074) :
    (shiftToTargetExponent .binary64 M E acc).2 = target M E := by
  rw [shiftToTargetExponent_eq]
  simp only [target] at *
  omega

theorem target_ge (M : Nat) (E : Int) : -1074 ≤ target M E := le_max_right _ _

theorem pos_of_target (start : 52 ≤ M.log2 ∨ E ≤ -1074) (above : target M E ≠ -1074) : 0 < M := by
  rcases Nat.eq_zero_or_pos M with rfl | pos
  · simp only [target, Nat.log2_zero] at above start
    omega
  · exact pos

theorem Exact.scaled_bounds (h : Exact M E acc v) (start : 52 ≤ M.log2 ∨ E ≤ -1074) :
    v / 2 ^ target M E < 2 ^ 53 ∧ (target M E = -1074 ∨ 2 ^ 52 ≤ v / 2 ^ target M E) := by
  have binade := h.binade
  have scale : (0 : ℝ) < 2 ^ target M E := zpow_pos two_pos _
  have units (n : Nat) : (2 : ℝ) ^ n * 2 ^ target M E = 2 ^ ((n : Int) + target M E) := by
    rw [zpow_add₀ two_ne_zero, zpow_natCast]
  constructor
  · rw [div_lt_iff₀ scale, units]
    refine lt_of_lt_of_le binade.1 (zpow_le_zpow_right₀ one_le_two ?_)
    simp only [target]
    omega
  · by_cases least : target M E = -1074
    · exact .inl least
    · right
      rw [le_div_iff₀ scale, units]
      refine le_trans (le_of_eq (congrArg _ ?_)) (binade.2 (pos_of_target start least))
      simp only [target] at least ⊢
      omega

theorem Exact.rounded_bounds (h : Exact M E acc v) (start : 52 ≤ M.log2 ∨ E ≤ -1074) :
    (shiftToTargetExponent .binary64 M E acc).1.roundedMantissa ≤ 2 ^ 53 ∧
      (target M E = -1074 ∨ 2 ^ 52 ≤ (shiftToTargetExponent .binary64 M E acc).1.roundedMantissa) := by
  have reads := h.reads_first
  rw [exponent_first start] at reads
  have floor := reads.floor
  have scaled := h.scaled_bounds start
  have bounds := roundedMantissa_bounds (shiftToTargetExponent .binary64 M E acc).1
  have below : (shiftToTargetExponent .binary64 M E acc).1.mantissa < 2 ^ 53 := by
    exact_mod_cast lt_of_le_of_lt floor.1 scaled.1
  refine ⟨by omega, scaled.2.imp id fun above => ?_⟩
  have : (2 : ℝ) ^ 52 < (shiftToTargetExponent .binary64 M E acc).1.mantissa + 1 :=
    lt_of_le_of_lt above floor.2
  have : 2 ^ 52 < (shiftToTargetExponent .binary64 M E acc).1.mantissa + 1 := by exact_mod_cast this
  omega

noncomputable def magnitude (M : Nat) (E : Int) (acc : Accuracy) : ℝ :=
  (shiftToTargetExponent .binary64 M E acc).1.roundedMantissa * 2 ^ target M E

variable {M₁ M₂ : Nat} {E₁ E₂ : Int} {a₁ a₂ : Accuracy} {v₁ v₂ : ℝ}

theorem target_mono (h₁ : Exact M₁ E₁ a₁ v₁) (h₂ : Exact M₂ E₂ a₂ v₂)
    (start₁ : 52 ≤ M₁.log2 ∨ E₁ ≤ -1074) (le : v₁ ≤ v₂) : target M₁ E₁ ≤ target M₂ E₂ := by
  by_cases least : target M₁ E₁ = -1074
  · rw [least]
    exact target_ge M₂ E₂
  · have binades : (2 : ℝ) ^ ((M₁.log2 : Int) + E₁) < 2 ^ ((M₂.log2 : Int) + E₂ + 1) :=
      lt_of_le_of_lt (le_trans (h₁.binade.2 (pos_of_target start₁ least)) le) h₂.binade.1
    have tops := (zpow_lt_zpow_iff_right₀ one_lt_two).mp binades
    simp only [target]
    omega

theorem magnitude_mono (h₁ : Exact M₁ E₁ a₁ v₁) (h₂ : Exact M₂ E₂ a₂ v₂)
    (start₁ : 52 ≤ M₁.log2 ∨ E₁ ≤ -1074) (start₂ : 52 ≤ M₂.log2 ∨ E₂ ≤ -1074) (le : v₁ ≤ v₂) : magnitude M₁ E₁ a₁ ≤ magnitude M₂ E₂ a₂ := by
  unfold magnitude
  have reads₁ := h₁.reads_first
  have reads₂ := h₂.reads_first
  rw [exponent_first start₁] at reads₁
  rw [exponent_first start₂] at reads₂
  rcases (target_mono h₁ h₂ start₁ le).lt_or_eq with lower | same
  · have bounds₁ := h₁.rounded_bounds start₁
    have bounds₂ := (h₂.rounded_bounds start₂).2.resolve_left
      (by have := target_ge M₁ E₁; omega)
    calc ((shiftToTargetExponent .binary64 M₁ E₁ a₁).1.roundedMantissa : ℝ) * 2 ^ target M₁ E₁
        ≤ 2 ^ 53 * 2 ^ target M₁ E₁ :=
          mul_le_mul_of_nonneg_right (by exact_mod_cast bounds₁.1) (zpow_pos two_pos _).le
      _ = 2 ^ 52 * 2 ^ (target M₁ E₁ + 1) := by rw [zpow_add_one₀ two_ne_zero]; ring
      _ ≤ 2 ^ 52 * 2 ^ target M₂ E₂ :=
          mul_le_mul_of_nonneg_left (zpow_le_zpow_right₀ one_le_two (by omega)) (by positivity)
      _ ≤ _ := mul_le_mul_of_nonneg_right (by exact_mod_cast bounds₂) (zpow_pos two_pos _).le
  · rw [same] at reads₁ ⊢
    have units := div_le_div_of_nonneg_right le (zpow_pos two_pos (target M₂ E₂)).le
    exact mul_le_mul_of_nonneg_right (by exact_mod_cast roundedMantissa_mono reads₁ reads₂ units)
      (zpow_pos two_pos _).le

end Monotone


section Packing

def Shaped (m : Nat) (e : Int) : Prop := m < 2 ^ 53 ∧ -1074 ≤ e ∧ (2 ^ 52 ≤ m ∨ e = -1074)

theorem unpack_packedInfinity (s : Sign) :
    unpack .binary64 (packedInfinity .binary64 s) = .infinity s := by
  cases s <;> rfl

theorem unpack_pack_subnormal (s : Sign) (m : Nat) (h : 0 < m) (small : m < 2 ^ 52) :
    unpack .binary64 (UnpackedFloat.pack .binary64 (.finite s m (-1074) h)) =
      .finite s m (-1074) h := by
  have log : m.log2 < 52 := (Nat.log2_lt (by omega)).mpr small
  have biased : (-1074 + (Format.binary64.exponentBias : Int) +
      (Format.binary64.mantissaBitsWithoutImplicit : Int)).toNat = 1 := by decide
  simp only [UnpackedFloat.pack, biased, binary64_mantissaBits]
  rw [if_neg (by decide), if_neg (by omega)]
  have bits : (BitVec.ofNat 52 m).toNat = m := by
    rw [BitVec.toNat_ofNat]
    exact Nat.mod_eq_of_lt small
  have nonzero : BitVec.ofNat 52 m ≠ 0#52 := by
    intro zero
    have := congrArg BitVec.toNat zero
    rw [bits] at this
    simp at this
    omega
  simp only [UnpackedFloat.unpack, unpackMantissa_packComponents, unpackExponent_packComponents,
    unpackSign_packComponents, ofBitVec_toBitVec]
  rw [if_neg (by decide), if_pos trivial, dif_neg nonzero]
  simp only [bits]
  rfl

theorem unpack_pack_shaped {s : Sign} {m : Nat} {e : Int} {h : 0 < m} (shaped : Shaped m e)
    (inRange : e ≤ 971) :
    unpack .binary64 (UnpackedFloat.pack .binary64 (.finite s m e h)) = .finite s m e h := by
  obtain ⟨high, low, normal | least⟩ := shaped
  · exact unpack_pack_normal s m e h normal high low inRange
  · subst least
    by_cases normal : 2 ^ 52 ≤ m
    · exact unpack_pack_normal s m _ h normal high (by decide) inRange
    · exact unpack_pack_subnormal s m h (by omega)

theorem unpack_pack_overflow {s : Sign} {m : Nat} {e : Int} {h : 0 < m} (beyond : 971 < e) :
    unpack .binary64 (UnpackedFloat.pack .binary64 (.finite s m e h)) = .infinity s := by
  have bias : Format.binary64.exponentBias = 1023 := by decide
  simp only [UnpackedFloat.pack, bias]
  rw [if_pos (by omega), unpack_packedInfinity]

theorem shaped_unpack {b : BitVec 64} {s : Sign} {m : Nat} {e : Int} {h : 0 < m}
    (unpacked : unpack .binary64 b = .finite s m e h) : Shaped m e ∧ e ≤ 971 := by
  have bias : ((Format.binary64.exponentBias : Nat) : Int) = 1023 := rfl
  have width : ((Format.binary64.mantissaBitsWithoutImplicit : Nat) : Int) = 52 := rfl
  have mantissa := (@unpackMantissa .binary64 b).isLt
  have exponent := (@unpackExponent .binary64 b).isLt
  change _ < 2 ^ 52 at mantissa
  change _ < 2 ^ 11 at exponent
  unfold UnpackedFloat.unpack at unpacked
  dsimp only at unpacked
  split at unpacked
  · split at unpacked <;> cases unpacked
  · rename_i notTop
    split at unpacked
    · rename_i bottom
      split at unpacked
      · cases unpacked
      · cases unpacked
        have zero : (@unpackExponent .binary64 b).toNat = 0 := by rw [bottom]; rfl
        rw [zero, bias, width]
        exact ⟨⟨by omega, by omega, .inr (by omega)⟩, by omega⟩
    · rename_i notBottom
      cases unpacked
      have top : (@unpackExponent .binary64 b).toNat ≠ 2047 := fun eq =>
        notTop (BitVec.eq_of_toNat_eq (by rw [eq]; rfl))
      have bottom : (@unpackExponent .binary64 b).toNat ≠ 0 := fun eq =>
        notBottom (BitVec.eq_of_toNat_eq (by rw [eq]; rfl))
      have implicit : (1#1 ++ @unpackMantissa .binary64 b).toNat =
          2 ^ 52 + (@unpackMantissa .binary64 b).toNat := by
        rw [BitVec.toNat_append, ← Nat.shiftLeft_add_eq_or_of_lt mantissa]
        rfl
      rw [implicit, bias, width]
      exact ⟨⟨by omega, by omega, .inl (by omega)⟩, by omega⟩

end Packing


section Order

noncomputable def value : UnpackedFloat → ℝ
  | .finite .positive m e _ => m * 2 ^ e
  | .finite .negative m e _ => -(m * 2 ^ e)
  | _ => 0

/-- Where a double sits on the extended line: its number, or an end for an infinity. -/
noncomputable def extended : UnpackedFloat → EReal
  | .infinity .positive => ⊤
  | .infinity .negative => ⊥
  | u => (value u : EReal)

def Canonical : UnpackedFloat → Prop
  | .finite _ m e _ => Shaped m e
  | _ => True

theorem shaped_lt_of_exponent_lt {m₁ m₂ : Nat} {e₁ e₂ : Int} (c₁ : Shaped m₁ e₁)
    (c₂ : Shaped m₂ e₂) (lt : e₁ < e₂) : (m₁ : ℝ) * 2 ^ e₁ < m₂ * 2 ^ e₂ := by
  have normal : (2 : ℝ) ^ 52 ≤ m₂ := by
    have := c₂.2.2.resolve_right (by have := c₁.2.1; omega)
    exact_mod_cast this
  calc (m₁ : ℝ) * 2 ^ e₁ < 2 ^ 53 * 2 ^ e₁ :=
        mul_lt_mul_of_pos_right (by exact_mod_cast c₁.1) (zpow_pos two_pos _)
    _ = 2 ^ 52 * 2 ^ (e₁ + 1) := by rw [zpow_add_one₀ two_ne_zero]; ring
    _ ≤ 2 ^ 52 * 2 ^ e₂ :=
        mul_le_mul_of_nonneg_left (zpow_le_zpow_right₀ one_le_two (by omega)) (by positivity)
    _ ≤ m₂ * 2 ^ e₂ := mul_le_mul_of_nonneg_right normal (zpow_pos two_pos _).le

theorem shaped_le_iff {m₁ m₂ : Nat} {e₁ e₂ : Int} (c₁ : Shaped m₁ e₁) (c₂ : Shaped m₂ e₂) :
    (m₁ : ℝ) * 2 ^ e₁ ≤ m₂ * 2 ^ e₂ ↔ e₁ < e₂ ∨ e₁ = e₂ ∧ m₁ ≤ m₂ := by
  constructor
  · intro le
    rcases lt_trichotomy e₁ e₂ with lower | same | higher
    · exact .inl lower
    · subst same
      refine .inr ⟨rfl, ?_⟩
      have := le_of_mul_le_mul_right le (zpow_pos two_pos e₁)
      exact_mod_cast this
    · exact absurd le (not_le.mpr (shaped_lt_of_exponent_lt c₂ c₁ higher))
  · rintro (lower | ⟨rfl, le⟩)
    · exact (shaped_lt_of_exponent_lt c₁ c₂ lower).le
    · exact mul_le_mul_of_nonneg_right (by exact_mod_cast le) (zpow_pos two_pos _).le

theorem isLE_then_iff (e₁ e₂ : Int) (m₁ m₂ : Nat) :
    ((compare e₁ e₂).then (compare m₁ m₂)).isLE = true ↔ e₁ < e₂ ∨ e₁ = e₂ ∧ m₁ ≤ m₂ := by
  rcases lt_trichotomy e₁ e₂ with lower | rfl | higher
  · simp [Int.compare_eq_lt.mpr lower, lower]
  · simp only [Std.compare_self, Ordering.eq_then, Nat.isLE_compare, lt_self_iff_false,
      true_and, false_or]
  · simp only [Int.compare_eq_gt.mpr higher, Ordering.gt_then, Ordering.isLE_gt, Bool.false_eq_true,
      false_iff, not_or, not_and]
    omega

theorem isLE_swap_then_iff (e₁ e₂ : Int) (m₁ m₂ : Nat) :
    ((compare e₁ e₂).then (compare m₁ m₂)).swap.isLE = true ↔ e₂ < e₁ ∨ e₂ = e₁ ∧ m₂ ≤ m₁ := by
  rw [Ordering.swap_then, Int.compare_swap, Nat.compare_swap]
  exact isLE_then_iff e₂ e₁ m₂ m₁

theorem le_iff_extended {u₁ u₂ : UnpackedFloat} (c₁ : Canonical u₁) (c₂ : Canonical u₂)
    (n₁ : u₁ ≠ .notANumber) (n₂ : u₂ ≠ .notANumber) :
    u₁.le u₂ = true ↔ extended u₁ ≤ extended u₂ := by
  have pos (m : Nat) (e : Int) (h : 0 < m) : (0 : ℝ) < m * 2 ^ e :=
    mul_pos (by exact_mod_cast h) (zpow_pos two_pos e)
  rcases u₁ with ⟨_ | _⟩ | _ | s₁ | ⟨_ | _, m₁, e₁, h₁⟩ <;>
    rcases u₂ with ⟨_ | _⟩ | _ | s₂ | ⟨_ | _, m₂, e₂, h₂⟩ <;>
    simp only [UnpackedFloat.le, UnpackedFloat.compare, extended, value, Option.any_some,
      ne_eq, not_true_eq_false, isLE_then_iff, isLE_swap_then_iff] at n₁ n₂ ⊢
  all_goals simp [-EReal.coe_mul, -EReal.coe_neg, EReal.coe_le_coe_iff]
  all_goals first
    | rfl
    | exact (shaped_le_iff c₁ c₂).symm
    | exact (shaped_le_iff c₂ c₁).symm
    | exact pos _ _ ‹_›
    | exact (pos _ _ ‹_›).le
    | linarith [pos m₁ e₁ h₁, pos m₂ e₂ h₂]

noncomputable def saturate (x : ℝ) : EReal := if 2 ^ 1024 ≤ x then ⊤ else (x : EReal)

noncomputable def signed : Sign → EReal → EReal
  | .positive, x => x
  | .negative, x => -x

theorem saturate_mono {x y : ℝ} (le : x ≤ y) : saturate x ≤ saturate y := by
  unfold saturate
  split_ifs with hx hy
  · exact le_refl _
  · exact absurd (le_trans hx le) hy
  · exact le_top
  · exact EReal.coe_le_coe_iff.mpr le

theorem saturate_nonneg {x : ℝ} (nonneg : 0 ≤ x) : 0 ≤ saturate x := by
  unfold saturate
  split_ifs
  · exact le_top
  · exact EReal.coe_nonneg.mpr nonneg

theorem shaped_lt_iff {m : Nat} {e : Int} (shaped : Shaped m e) :
    (m : ℝ) * 2 ^ e < 2 ^ 1024 ↔ e ≤ 971 := by
  have top : (2 : ℝ) ^ (1024 : Nat) = 2 ^ (53 : Nat) * 2 ^ (971 : Int) := by
    rw [← zpow_natCast, ← zpow_natCast, ← zpow_add₀ two_ne_zero]
    norm_num
  have bottom : (2 : ℝ) ^ (1024 : Nat) = 2 ^ (52 : Nat) * 2 ^ (972 : Int) := by
    rw [← zpow_natCast, ← zpow_natCast, ← zpow_add₀ two_ne_zero]
    norm_num
  constructor
  · intro below
    by_contra beyond
    have normal : (2 : ℝ) ^ 52 ≤ m := by
      exact_mod_cast shaped.2.2.resolve_right (by omega)
    have : (2 : ℝ) ^ (52 : Nat) * 2 ^ (972 : Int) ≤ m * 2 ^ e :=
      mul_le_mul normal (zpow_le_zpow_right₀ one_le_two (by omega)) (by positivity) (by positivity)
    rw [bottom] at below
    exact absurd this (not_le.mpr below)
  · intro inRange
    rw [top]
    exact mul_lt_mul (by exact_mod_cast shaped.1) (zpow_le_zpow_right₀ one_le_two inRange)
      (zpow_pos two_pos _) (by positivity)

theorem extended_pack_shaped {s : Sign} {m : Nat} {e : Int} {h : 0 < m} (shaped : Shaped m e) :
    extended (unpack .binary64 (UnpackedFloat.pack .binary64 (.finite s m e h))) =
      signed s (saturate (m * 2 ^ e)) := by
  by_cases inRange : e ≤ 971
  · have below := (shaped_lt_iff shaped).mpr inRange
    rw [unpack_pack_shaped shaped inRange, saturate, if_neg (not_le.mpr below)]
    cases s <;> rfl
  · have beyond : (2 : ℝ) ^ 1024 ≤ m * 2 ^ e := not_lt.mp (mt (shaped_lt_iff shaped).mp inRange)
    rw [unpack_pack_overflow (not_le.mp inRange), saturate, if_pos beyond]
    cases s <;> rfl

theorem unpack_pack_zero (s : Sign) :
    unpack .binary64 (UnpackedFloat.pack .binary64 (.zero s)) = .zero s := by
  cases s <;> rfl

theorem extended_pack_carry (s : Sign) {r : Nat} {k : Int} (high : r ≤ 2 ^ 53) (low : -1074 ≤ k)
    (shape : k = -1074 ∨ 2 ^ 52 ≤ r) :
    extended (unpack .binary64 (UnpackedFloat.pack .binary64 (carry s r k))) =
      signed s (saturate (r * 2 ^ k)) := by
  unfold carry
  split_ifs with zero small
  · subst zero
    rw [unpack_pack_zero, Nat.cast_zero, zero_mul, saturate, if_neg (by norm_num)]
    cases s <;> simp [extended, value, signed]
  · exact extended_pack_shaped ⟨small, low, shape.symm⟩
  · have carried : r = 2 ^ 53 := by omega
    rw [extended_pack_shaped ⟨by decide, by omega, .inl (le_refl _)⟩, carried, zpow_add_one₀ two_ne_zero]
    congr 2
    push_cast
    ring

theorem extended_pack_round (s : Sign) (h : Exact M E acc v) (start : 52 ≤ M.log2 ∨ E ≤ -1074) :
    extended (unpack .binary64 (UnpackedFloat.pack .binary64 (roundWithAccuracy .binary64 s M E acc))) =
      signed s (saturate (magnitude M E acc)) := by
  have bounds := h.rounded_bounds start
  rw [roundWithAccuracy_eq, exponent_first start]
  exact extended_pack_carry s bounds.1 (target_ge M E) bounds.2

theorem magnitude_nonneg (M : Nat) (E : Int) (acc : Accuracy) : 0 ≤ magnitude M E acc :=
  mul_nonneg (Nat.cast_nonneg _) (zpow_pos two_pos _).le

end Order

section Rounds

/-- `u` is the double nearest `q`, ties to even, before packing: a zero for zero, and otherwise
the magnitude of `q` rounded, with its sign. -/
def Rounds (u : UnpackedFloat) (q : ℝ) : Prop :=
  (q = 0 ∧ ∃ s, u = .zero s) ∨
    ∃ M E acc, q ≠ 0 ∧ (52 ≤ M.log2 ∨ E ≤ -1074) ∧ Exact M E acc |q| ∧
      u = roundWithAccuracy .binary64 (if q < 0 then .negative else .positive) M E acc

theorem Rounds.le {u₁ u₂ : UnpackedFloat} {q₁ q₂ : ℝ} (h₁ : Rounds u₁ q₁) (h₂ : Rounds u₂ q₂)
    (le : q₁ ≤ q₂) :
    extended (unpack .binary64 (UnpackedFloat.pack .binary64 u₁)) ≤
      extended (unpack .binary64 (UnpackedFloat.pack .binary64 u₂)) := by
  have zero (s : Sign) : extended (unpack .binary64 (UnpackedFloat.pack .binary64 (.zero s))) = 0 := by
    rw [unpack_pack_zero]
    rfl
  rcases h₁ with ⟨rfl, s₁, rfl⟩ | ⟨M₁, E₁, a₁, nonzero₁, start₁, exact₁, rfl⟩ <;>
    rcases h₂ with ⟨rfl, s₂, rfl⟩ | ⟨M₂, E₂, a₂, nonzero₂, start₂, exact₂, rfl⟩
  · rw [zero, zero]
  · rw [zero, extended_pack_round _ exact₂ start₂, if_neg (not_lt.mpr le)]
    exact saturate_nonneg (magnitude_nonneg M₂ E₂ a₂)
  · rw [zero, extended_pack_round _ exact₁ start₁, if_pos (lt_of_le_of_ne le nonzero₁)]
    exact EReal.neg_le_zero.mpr (saturate_nonneg (magnitude_nonneg M₁ E₁ a₁))
  · rw [extended_pack_round _ exact₁ start₁, extended_pack_round _ exact₂ start₂]
    by_cases negative₂ : q₂ < 0
    · have negative₁ : q₁ < 0 := lt_of_le_of_lt le negative₂
      rw [if_pos negative₁, if_pos negative₂]
      refine EReal.neg_le_neg_iff.mpr (saturate_mono (magnitude_mono exact₂ exact₁ start₂ start₁ ?_))
      rw [abs_of_neg negative₁, abs_of_neg negative₂]
      linarith
    · rw [if_neg negative₂]
      by_cases negative₁ : q₁ < 0
      · rw [if_pos negative₁]
        exact le_trans (EReal.neg_le_zero.mpr (saturate_nonneg (magnitude_nonneg M₁ E₁ a₁)))
          (saturate_nonneg (magnitude_nonneg M₂ E₂ a₂))
      · rw [if_neg negative₁]
        refine saturate_mono (magnitude_mono exact₁ exact₂ start₁ start₂ ?_)
        rw [abs_of_nonneg (not_lt.mp negative₁), abs_of_nonneg (not_lt.mp negative₂)]
        exact le

end Rounds

end Doubles
end EncoderBench
