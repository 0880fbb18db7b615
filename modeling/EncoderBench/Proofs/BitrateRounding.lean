import EncoderBench.Proofs.Doubles.Exactness
import EncoderBench.Proofs.BitrateGrowth
import EncoderBench.Proofs.SizeAdvice
/-!
Rounding a bitrate, exactly: for every double, `round` is the multiple of the step nearest the
bitrate, halves up, saturated at `2 ^ 32 - 1` (`round_eq_law`). The division by the step never
rounds across a half (`quotient_add_error_lt`); past 4294967250 Kb/s the result saturates at a
multiple of neither step (`round_saturates`).
-/

namespace EncoderBench

/-- The number of steps of `s` nearest `v`, halves up: `v / s` rounded. -/
noncomputable def nearest (s : Nat) (v : ℝ) : Nat := (round (v / s)).toNat

section Nearest

variable {s : Nat} {v w : ℝ}

theorem nearest_eq_floor : nearest s v = ⌊v / s + 1 / 2⌋₊ := by
  rw [nearest, round_eq, Int.floor_toNat]

theorem nearest_mono (le : v ≤ w) : nearest s v ≤ nearest s w := by
  rw [nearest_eq_floor, nearest_eq_floor]
  exact Nat.floor_le_floor (by gcongr)

theorem nearest_bounds (pos : 0 < s) (nonneg : 0 ≤ v) :
    (s * nearest s v : ℝ) ≤ v + s / 2 ∧ v < s * nearest s v + s / 2 := by
  have step : (0 : ℝ) < s := by exact_mod_cast pos
  have floor := Nat.floor_le (a := v / s + 1 / 2) (by positivity)
  have next := Nat.lt_floor_add_one (v / s + 1 / 2)
  rw [nearest_eq_floor]
  constructor
  · calc (s * ⌊v / s + 1 / 2⌋₊ : ℝ) ≤ s * (v / s + 1 / 2) := by gcongr
      _ = v + s / 2 := by field_simp
  · calc v = s * (v / s + 1 / 2) - s / 2 := by field_simp; ring
      _ < s * (⌊v / s + 1 / 2⌋₊ + 1) - s / 2 := by gcongr
      _ = s * ⌊v / s + 1 / 2⌋₊ + s / 2 := by ring

theorem nearest_mul (pos : 0 < s) (c : Nat) : nearest s (s * c) = c := by
  have step : (s : ℝ) ≠ 0 := by exact_mod_cast pos.ne'
  rw [nearest_eq_floor, mul_div_cancel_left₀ _ step, Nat.floor_eq_iff (by positivity)]
  constructor <;> linarith

theorem nearest_eq_zero (pos : 0 < s) (small : v < s / 2) : nearest s v = 0 := by
  have step : (0 : ℝ) < s := by exact_mod_cast pos
  rw [nearest_eq_floor, Nat.floor_eq_zero, ← lt_sub_iff_add_lt, div_lt_iff₀ step]
  linarith

theorem lt_mul_nearest {n : Nat} (pos : 0 < s) (above : (n : ℝ) + s / 2 ≤ v) :
    n < s * nearest s v := by
  have bound := (nearest_bounds pos (le_trans (by positivity) above)).2
  have past : (n : ℝ) < (s * nearest s v : Nat) := by
    push_cast
    linarith
  exact_mod_cast past

theorem mul_nearest_lt {n : Nat} (pos : 0 < s) (nonneg : 0 ≤ v) (below : v + s / 2 < n) :
    s * nearest s v < n := by
  have bound := (nearest_bounds pos nonneg).1
  have short : ((s * nearest s v : Nat) : ℝ) < n := by
    push_cast
    linarith
  exact_mod_cast short

end Nearest

namespace Bitrate
open Doubles Float.Model Float.Model.UnpackedFloat

/-- The step of the grid a bitrate is rounded on, in Kb/s. -/
def stepKbps (kbps : Float) : Nat := if kbps ≤ 1000.0 then 50 else 100

/-- What `round` computes: the multiple of the step nearest a positive finite bitrate, halves
up, saturated at `2 ^ 32 - 1`; zero for anything else. -/
noncomputable def roundLaw (kbps : Float) : Nat :=
  if kbps.isFinite = true ∧ 0.0 < kbps then
    min (stepKbps kbps * nearest (stepKbps kbps) (value kbps.toModel.unpack)) (2 ^ 32 - 1)
  else 0

/-- The results of `round`: multiples of 50 up to 1000, multiples of 100 below `2 ^ 32`, and
the saturated `2 ^ 32 - 1`. -/
def OnGrid (kbps : Nat) : Prop :=
  kbps ≤ 1000 ∧ 50 ∣ kbps ∨ 100 ∣ kbps ∧ kbps < 2 ^ 32 ∨ kbps = 2 ^ 32 - 1

instance (kbps : Nat) : Decidable (OnGrid kbps) := by
  unfold OnGrid
  infer_instance

section Constants

theorem value_shifted (n k : Nat) (h : 0 < n * 2 ^ k) :
    value (.finite .positive (n * 2 ^ k) (-(k : Int)) h) = n := by
  change ((n * 2 ^ k : Nat) : ℝ) * 2 ^ (-(k : Int)) = n
  rw [Nat.cast_mul, Nat.cast_pow, Nat.cast_ofNat, zpow_neg, zpow_natCast]
  field_simp

theorem value_fifty : value (50.0 : Float).toModel.unpack = 50 := by
  rw [show (50.0 : Float).toModel.unpack =
    .finite .positive (50 * 2 ^ 47) (-(47 : Nat)) (by decide) from rfl, value_shifted]
  norm_num

theorem value_hundred : value (100.0 : Float).toModel.unpack = 100 := by
  rw [show (100.0 : Float).toModel.unpack =
    .finite .positive (100 * 2 ^ 46) (-(46 : Nat)) (by decide) from rfl, value_shifted]
  norm_num

theorem value_thousand : value (1000.0 : Float).toModel.unpack = 1000 := by
  rw [show (1000.0 : Float).toModel.unpack =
    .finite .positive (1000 * 2 ^ 43) (-(43 : Nat)) (by decide) from rfl, value_shifted]
  norm_num

theorem value_twentyFour : value (24.0 : Float).toModel.unpack = 24 := by
  rw [show (24.0 : Float).toModel.unpack =
    .finite .positive (24 * 2 ^ 48) (-(48 : Nat)) (by decide) from rfl, value_shifted]
  norm_num

theorem value_twoPow33 : value (8589934592.0 : Float).toModel.unpack = 2 ^ 33 := by
  rw [show (8589934592.0 : Float).toModel.unpack =
    .finite .positive (8589934592 * 2 ^ 19) (-(19 : Nat)) (by decide) from rfl, value_shifted]
  norm_num

end Constants

section Steps

variable {x : Float}

theorem le_thousand_iff (fx : x.isFinite = true) : x ≤ 1000.0 ↔ value x.toModel.unpack ≤ 1000 := by
  rw [le_iff_toEReal (isNaN_of_isFinite fx) (by decide), toEReal_of_isFinite fx,
    toEReal_of_isFinite (by decide), value_thousand, EReal.coe_le_coe_iff]

theorem pos_iff (fx : x.isFinite = true) : 0.0 < x ↔ 0 < value x.toModel.unpack := by
  rw [lt_iff_toEReal rfl (isNaN_of_isFinite fx), toEReal_zero, toEReal_of_isFinite fx,
    EReal.coe_pos]

theorem step_cases (fx : x.isFinite = true) :
    value x.toModel.unpack ≤ 1000 ∧ stepKbps x = 50 ∧ step x = 50.0 ∨
      1000 < value x.toModel.unpack ∧ stepKbps x = 100 ∧ step x = 100.0 := by
  unfold stepKbps step
  by_cases low : x ≤ 1000.0
  · exact .inl ⟨(le_thousand_iff fx).mp low, if_pos low, if_pos low⟩
  · exact .inr ⟨not_le.mp (mt (le_thousand_iff fx).mpr low), if_neg low, if_neg low⟩

theorem step_of_coarse (fx : x.isFinite = true) (high : 1000 < value x.toModel.unpack) :
    stepKbps x = 100 ∧ step x = 100.0 := by
  rcases step_cases fx with ⟨low, -, -⟩ | ⟨-, coarse⟩
  · linarith
  · exact coarse

theorem step_spec (x : Float) :
    (step x).isFinite = true ∧ value (step x).toModel.unpack = stepKbps x := by
  unfold step stepKbps
  by_cases low : x ≤ 1000.0
  · rw [if_pos low, if_pos low, value_fifty]
    exact ⟨by decide, by norm_num⟩
  · rw [if_neg low, if_neg low, value_hundred]
    exact ⟨by decide, by norm_num⟩

theorem stepKbps_pos (x : Float) : 0 < stepKbps x := by
  unfold stepKbps
  split <;> decide

theorem stepKbps_le (x : Float) : stepKbps x ≤ 100 := by
  unfold stepKbps
  split <;> decide

theorem stepKbps_even (x : Float) : ∃ half, stepKbps x = 2 * half ∧ 0 < half := by
  unfold stepKbps
  split
  · exact ⟨25, rfl, by decide⟩
  · exact ⟨50, rfl, by decide⟩

theorem nearest_fifty_le (fx : x.isFinite = true) (low : x ≤ 1000.0) :
    stepKbps x * nearest (stepKbps x) (value x.toModel.unpack) ≤ 1000 := by
  have fine : stepKbps x = 50 := if_pos low
  have count : nearest 50 (value x.toModel.unpack) ≤ nearest 50 ((50 : Nat) * (20 : Nat)) := by
    refine nearest_mono ?_
    norm_num
    exact (le_thousand_iff fx).mp low
  rw [nearest_mul (by decide)] at count
  rw [fine]
  omega

end Steps

section Count

variable {y : Float}

theorem toUInt64_of_lt (fy : y.isFinite = true) (small : value y.toModel.unpack < 2 ^ 63) :
    y.toUInt64.toNat = ⌊value y.toModel.unpack⌋₊ := by
  have floor : ⌊value y.toModel.unpack⌋₊ < 2 ^ 63 := by
    rcases le_or_gt (value y.toModel.unpack) 0 with nonpos | pos
    · rw [Nat.floor_of_nonpos nonpos]
      exact Nat.two_pow_pos 63
    · exact (Nat.floor_lt pos.le).mpr (by exact_mod_cast small)
  have top : ((UInt64.size : Int) - 1).toNat = 2 ^ 64 - 1 := rfl
  rw [toNat_toUInt64, toNat_toInt_of_isFinite fy, top]
  omega

theorem toU32_of_toEReal {n : Nat} (ny : y.isNaN = false) (eq : toEReal y = (n : ℝ)) :
    toU32 y = min n (2 ^ 32 - 1) := by
  obtain ⟨fy, exact⟩ := finite_of_toEReal_eq ny eq
  have top : ((UInt32.size : Int) - 1).toNat = 2 ^ 32 - 1 := rfl
  unfold toU32
  rw [toNat_toUInt32, toNat_toInt_of_isFinite fy, exact, Nat.floor_natCast, top]

theorem halves_count {k : Nat} (fy : y.isFinite = true)
    (normal : (2 : ℝ) ^ (-1022 : Int) ≤ value y.toModel.unpack)
    (small : value y.toModel.unpack < 2 ^ 62)
    (low : (k : ℝ) - 1 / 2 ≤ value y.toModel.unpack) (high : value y.toModel.unpack < k + 1 / 2) :
    ((y * 2.0).toUInt64.toNat + 1) / 2 = k := by
  have nonneg : 0 ≤ value y.toModel.unpack := le_trans (zpow_pos two_pos _).le normal
  have doubled := toEReal_mul_two fy normal
    (lt_of_lt_of_le small (pow_le_pow_right₀ one_le_two (by norm_num)))
  obtain ⟨fd, twice⟩ := finite_of_toEReal_eq (roundsTo_mul fy (by decide)).isNaN doubled
  have fits : value (y * 2.0).toModel.unpack < 2 ^ 63 := by
    rw [twice, pow_succ]
    linarith
  rw [toUInt64_of_lt fd fits, twice]
  have below : ⌊value y.toModel.unpack * 2⌋₊ < 2 * k + 1 :=
    (Nat.floor_lt (by linarith)).mpr (by push_cast; linarith)
  have above : 2 * k < ⌊value y.toModel.unpack * 2⌋₊ + 2 := by
    have next := Nat.lt_floor_add_one (value y.toModel.unpack * 2)
    have : (2 * k : ℝ) < ⌊value y.toModel.unpack * 2⌋₊ + 2 := by linarith
    exact_mod_cast this
  omega

theorem add_div_lt_of_lt {m : Nat} {e : Int} (small : m < 2 ^ 53) (nonpos : e ≤ 0) {T : Nat}
    (below : (m : ℝ) * 2 ^ e < T) : (m : ℝ) * 2 ^ e + m * 2 ^ e / 2 ^ 53 < T := by
  obtain ⟨d, rfl⟩ : ∃ d : Nat, e = -d := ⟨e.natAbs, by omega⟩
  have unit : (0 : ℝ) < 2 ^ (-(d : Int)) := zpow_pos two_pos _
  have whole : (T : ℝ) = (T * 2 ^ d : Nat) * 2 ^ (-(d : Int)) := by
    push_cast
    rw [mul_assoc, ← zpow_natCast, ← zpow_add₀ two_ne_zero, add_neg_cancel, zpow_zero, mul_one]
  -- in units of `2 ^ -d` the double is a whole number below `T · 2 ^ d`
  have units : m + 1 ≤ T * 2 ^ d := by
    rw [whole] at below
    exact_mod_cast lt_of_mul_lt_mul_right below unit.le
  have error : (m : ℝ) * 2 ^ (-(d : Int)) / 2 ^ 53 < 2 ^ (-(d : Int)) := by
    rw [div_lt_iff₀ (by positivity)]
    exact mul_lt_mul_of_pos_right (by exact_mod_cast small) unit |>.trans_eq (mul_comm _ _)
  calc (m : ℝ) * 2 ^ (-(d : Int)) + m * 2 ^ (-(d : Int)) / 2 ^ 53
      < (m + 1 : Nat) * 2 ^ (-(d : Int)) := by push_cast; linarith
    _ ≤ (T * 2 ^ d : Nat) * 2 ^ (-(d : Int)) :=
        mul_le_mul_of_nonneg_right (by exact_mod_cast units) unit.le
    _ = T := whole.symm

end Count

section Quotient

variable {x : Float}

theorem normal_of_quarter {r : ℝ} (quarter : 1 / 4 ≤ r) : (2 : ℝ) ^ (-1022 : Int) ≤ r :=
  calc (2 : ℝ) ^ (-1022 : Int) ≤ 2 ^ (-2 : Int) := zpow_le_zpow_right₀ one_le_two (by norm_num)
    _ = 1 / 4 := by norm_num
    _ ≤ r := quarter

theorem quotient_add_error_lt (fx : x.isFinite = true) (pos : 0 < value x.toModel.unpack)
    (small : value x.toModel.unpack < 2 ^ 52) :
    value x.toModel.unpack / stepKbps x + value x.toModel.unpack / stepKbps x / 2 ^ 53 <
      nearest (stepKbps x) (value x.toModel.unpack) + 1 / 2 := by
  obtain ⟨half, twice, halfPos⟩ := stepKbps_even x
  have next : value x.toModel.unpack / stepKbps x + 1 / 2 <
      nearest (stepKbps x) (value x.toModel.unpack) + 1 := by
    rw [nearest_eq_floor]
    exact Nat.lt_floor_add_one _
  generalize nearest (stepKbps x) (value x.toModel.unpack) = k at next ⊢
  rw [twice] at next ⊢
  obtain ⟨m, e, h, unpacked⟩ := unpack_of_pos fx pos
  have shaped := (shaped_unpack unpacked).1
  have number : value x.toModel.unpack = m * 2 ^ e := by rw [unpacked]; rfl
  rw [number] at next small ⊢
  push_cast at next ⊢
  have hp : (0 : ℝ) < half := by exact_mod_cast halfPos
  have below : (m : ℝ) * 2 ^ e < (half * (2 * k + 1) : Nat) := by
    have inSteps : (m : ℝ) * 2 ^ e / (2 * half) < k + 1 / 2 := by linarith
    rw [div_lt_iff₀ (by positivity)] at inSteps
    push_cast
    linarith
  have gap := add_div_lt_of_lt shaped.1 (exponent_nonpos_of_lt shaped small) below
  push_cast at gap
  have inSteps : (m : ℝ) * 2 ^ e / (2 * half) + m * 2 ^ e / (2 * half) / 2 ^ 53 =
      (m * 2 ^ e + m * 2 ^ e / 2 ^ 53) / (2 * half) := by ring
  rw [inSteps, div_lt_iff₀ (by positivity)]
  linarith

theorem floor_sub_half_le {F : Float} {q : ℝ} (rounds : RoundsTo F q)
    (fF : F.isFinite = true) (nonneg : 0 ≤ q) (bounded : q ≤ 2 ^ 33) :
    (⌊q + 1 / 2⌋₊ : ℝ) - 1 / 2 ≤ value F.toModel.unpack := by
  have floor := Nat.floor_le (a := q + 1 / 2) (by positivity)
  generalize ⌊q + 1 / 2⌋₊ = k at floor ⊢
  rcases Nat.eq_zero_or_pos k with rfl | pos
  · have zero := roundsTo_zero.le rounds nonneg
    rw [toEReal_zero, toEReal_of_isFinite fF, EReal.coe_nonneg] at zero
    push_cast
    linarith
  have odd : ((2 * k - 1 : Nat) : ℝ) = 2 * k - 1 := by
    rw [Nat.cast_sub (by omega)]
    push_cast
    ring
  have fits : 2 * k - 1 < 2 ^ 53 := by
    have : (k : ℝ) < 2 ^ 34 := by linarith
    have : k < 2 ^ 34 := by exact_mod_cast this
    omega
  have half := rounds.scaled_le (n := 2 * k - 1) (j := -1) (by omega) fits (by norm_num)
    (by norm_num) (by rw [odd, zpow_neg_one]; linarith)
  rw [toEReal_of_isFinite fF, EReal.coe_le_coe_iff, odd, zpow_neg_one] at half
  linarith

theorem quotient_bounds (fx : x.isFinite = true) (above : 24 < value x.toModel.unpack)
    (below : value x.toModel.unpack < 2 ^ 33) :
    (x / step x).isFinite = true ∧ 1 / 4 ≤ value (x / step x).toModel.unpack ∧
      value (x / step x).toModel.unpack < 2 ^ 62 ∧
      (nearest (stepKbps x) (value x.toModel.unpack) : ℝ) - 1 / 2 ≤
        value (x / step x).toModel.unpack ∧
      value (x / step x).toModel.unpack < nearest (stepKbps x) (value x.toModel.unpack) + 1 / 2 := by
  obtain ⟨fs, valueStep⟩ := step_spec x
  have stepPos : (0 : ℝ) < stepKbps x := by exact_mod_cast stepKbps_pos x
  have rounds := roundsTo_div fx fs (by rw [valueStep]; exact stepPos.ne')
  rw [valueStep] at rounds
  have quarter : 1 / 4 ≤ value x.toModel.unpack / stepKbps x := by
    rw [le_div_iff₀ stepPos]
    rcases step_cases fx with ⟨-, fine, -⟩ | ⟨high, coarse, -⟩
    · rw [fine]; push_cast; linarith
    · rw [coarse]; push_cast; linarith
  have bounded : value x.toModel.unpack / stepKbps x ≤ 2 ^ 33 := by
    rw [div_le_iff₀ stepPos]
    have : (1 : ℝ) ≤ stepKbps x := by exact_mod_cast stepKbps_pos x
    nlinarith
  have upper := rounds.toEReal_le (normal_of_quarter quarter)
    (le_trans bounded (pow_le_pow_right₀ one_le_two (by norm_num)))
  have lower := rounds.scaled_le (n := 1) (j := -2) one_pos (by norm_num) (by norm_num)
    (by norm_num) (Eq.trans_le (by norm_num) quarter)
  have fq := isFinite_of_between rounds.isNaN lower upper
  rw [toEReal_of_isFinite fq, EReal.coe_le_coe_iff] at lower upper
  have next := quotient_add_error_lt fx (by linarith) (by linarith)
  refine ⟨fq, by norm_num at lower; exact lower, by linarith, ?_, by linarith⟩
  rw [nearest_eq_floor]
  exact floor_sub_half_le rounds fq (by positivity) bounded

end Quotient

section Ranges

variable {x : Float}

theorem round_of_small (fx : x.isFinite = true) (small : value x.toModel.unpack ≤ 24) :
    round x = 0 := by
  have le : toEReal x ≤ toEReal 24.0 := by
    rw [toEReal_of_isFinite fx, toEReal_of_isFinite (by decide), value_twentyFour]
    exact_mod_cast small
  have below := round_mono (isNaN_of_isFinite fx) (by decide) le
    ((le_iff_toEReal (by decide) (by decide)).mp (by decide))
  have zero : round 24.0 = 0 := by decide +kernel
  omega

theorem round_of_moderate (fx : x.isFinite = true) (above : 24 < value x.toModel.unpack)
    (below : value x.toModel.unpack < 2 ^ 33) :
    round x = min (stepKbps x * nearest (stepKbps x) (value x.toModel.unpack)) (2 ^ 32 - 1) := by
  obtain ⟨fq, quarter, small, low, high⟩ := quotient_bounds fx above below
  obtain ⟨fs, valueStep⟩ := step_spec x
  have count := halves_count fq (normal_of_quarter quarter) small low high
  have step : (stepKbps x : ℝ) ≤ 100 := by exact_mod_cast stepKbps_le x
  have multiple := mul_nearest_lt (n := 2 ^ 34) (stepKbps_pos x) (by linarith)
    (by push_cast; linarith : value x.toModel.unpack + stepKbps x / 2 < ((2 ^ 34 : Nat) : ℝ))
  generalize nearest (stepKbps x) (value x.toModel.unpack) = k at count multiple ⊢
  replace multiple : stepKbps x * k < 2 ^ 53 := lt_trans multiple (by decide)
  have fits : k < 2 ^ 53 := lt_of_le_of_lt (Nat.le_mul_of_pos_left k (stepKbps_pos x)) multiple
  have product := roundsTo_mul (value_ofNat fits).1 fs
  rw [(value_ofNat fits).2, valueStep, show (k : ℝ) * stepKbps x = (stepKbps x * k : Nat) by
    push_cast; ring] at product
  rw [round_of_pos fx ((pos_iff fx).mpr (by linarith)), roundHalfUp, count]
  exact toU32_of_toEReal product.isNaN (product.toEReal_natCast multiple)

theorem round_of_large (fx : x.isFinite = true) (large : 2 ^ 33 ≤ value x.toModel.unpack) :
    round x = 2 ^ 32 - 1 := by
  have coarse := (step_of_coarse fx (by linarith)).2
  have ge : toEReal 8589934592.0 ≤ toEReal x := by
    rw [toEReal_of_isFinite fx, toEReal_of_isFinite (by decide), value_twoPow33]
    exact_mod_cast large
  have top : toU32 (roundHalfUp (8589934592.0 / 100.0) * 100.0) = 2 ^ 32 - 1 := by
    decide +kernel
  have above := toMultiple_le (s := 100.0) (by decide) (by decide) (by decide)
    (isNaN_of_isFinite fx) ge
  rw [top] at above
  rw [round_of_pos fx ((pos_iff fx).mpr (by linarith)), coarse]
  exact le_antisymm (Nat.le_sub_one_of_lt (UInt32.toNat_lt _)) above

end Ranges

theorem round_eq_law (x : Float) : round x = roundLaw x := by
  unfold roundLaw
  by_cases inside : x.isFinite = true ∧ 0.0 < x
  swap
  · rw [if_neg inside]
    by_cases pos : 0.0 < x
    · have infinite : x.isFinite = false := by simpa [pos] using inside
      unfold round
      rw [if_pos (by simp [infinite])]
    · exact round_of_not_pos pos
  rw [if_pos inside]
  obtain ⟨fx, pos⟩ := inside
  have nonneg := ((pos_iff fx).mp pos).le
  rcases le_or_gt (value x.toModel.unpack) 24 with small | above
  · rcases step_cases fx with ⟨-, fine, -⟩ | ⟨high, -, -⟩
    · rw [round_of_small fx small, fine, nearest_eq_zero (by decide) (by push_cast; linarith)]
      rfl
    · linarith
  rcases lt_or_ge (value x.toModel.unpack) (2 ^ 33) with below | large
  · exact round_of_moderate fx above below
  rw [(step_of_coarse fx (by linarith)).1]
  have past := lt_mul_nearest (n := 4294967295) (s := 100) (by decide)
    (by push_cast; linarith : ((4294967295 : Nat) : ℝ) + (100 : Nat) / 2 ≤ value x.toModel.unpack)
  rw [round_of_large fx large, min_eq_right (by omega)]

section Law

variable {x y : Float}

theorem multiple_mono (fx : x.isFinite = true) (fy : y.isFinite = true)
    (le : value x.toModel.unpack ≤ value y.toModel.unpack) :
    stepKbps x * nearest (stepKbps x) (value x.toModel.unpack) ≤
      stepKbps y * nearest (stepKbps y) (value y.toModel.unpack) := by
  rcases step_cases fx with ⟨lowX, fineX, -⟩ | ⟨highX, coarseX, -⟩ <;>
    rcases step_cases fy with ⟨lowY, fineY, -⟩ | ⟨highY, coarseY, -⟩
  · rw [fineX, fineY]
    exact Nat.mul_le_mul_left _ (nearest_mono le)
  · have fine := nearest_fifty_le fx ((le_thousand_iff fx).mpr lowX)
    have coarse := lt_mul_nearest (n := 950) (s := 100) (by decide)
      (by push_cast; linarith : ((950 : Nat) : ℝ) + (100 : Nat) / 2 ≤ value y.toModel.unpack)
    rw [coarseY]
    omega
  · linarith
  · rw [coarseX, coarseY]
    exact Nat.mul_le_mul_left _ (nearest_mono le)

theorem roundLaw_mono (fx : x.isFinite = true) (fy : y.isFinite = true) (le : x ≤ y) :
    roundLaw x ≤ roundLaw y := by
  unfold roundLaw
  by_cases pos : 0.0 < x
  · rw [le_iff_toEReal (isNaN_of_isFinite fx) (isNaN_of_isFinite fy), toEReal_of_isFinite fx,
      toEReal_of_isFinite fy, EReal.coe_le_coe_iff] at le
    have posY : 0.0 < y := (pos_iff fy).mpr (lt_of_lt_of_le ((pos_iff fx).mp pos) le)
    rw [if_pos ⟨fx, pos⟩, if_pos ⟨fy, posY⟩]
    exact min_le_min_right _ (multiple_mono fx fy le)
  · rw [if_neg (fun inside => pos inside.2)]
    exact Nat.zero_le _

theorem onGrid_round (x : Float) : OnGrid (round x) := by
  rw [round_eq_law]
  unfold roundLaw
  by_cases inside : x.isFinite = true ∧ 0.0 < x
  · rw [if_pos inside]
    by_cases saturated : 2 ^ 32 - 1 ≤ stepKbps x * nearest (stepKbps x) (value x.toModel.unpack)
    · rw [min_eq_right saturated]
      exact .inr (.inr rfl)
    rw [min_eq_left (by omega)]
    rcases step_cases inside.1 with ⟨low, fine, -⟩ | ⟨-, coarse, -⟩
    · refine .inl ⟨nearest_fifty_le inside.1 ((le_thousand_iff inside.1).mpr low), ?_⟩
      rw [fine]
      exact dvd_mul_right _ _
    · refine .inr (.inl ⟨?_, by omega⟩)
      rw [coarse]
      exact dvd_mul_right _ _
  · rw [if_neg inside]
    exact .inl ⟨by decide, dvd_zero 50⟩

theorem round_ofNat_of_onGrid {r : Nat} (grid : OnGrid r) : round (Float.ofNat r) = r := by
  have small : r < 2 ^ 53 := by
    rcases grid with ⟨le, -⟩ | ⟨-, lt⟩ | eq <;> omega
  obtain ⟨fr, vr⟩ := value_ofNat small
  rcases Nat.eq_zero_or_pos r with rfl | pos
  · exact round_of_not_pos (by decide)
  have vpos : (0 : ℝ) < r := by exact_mod_cast pos
  rw [round_eq_law]
  unfold roundLaw
  rw [if_pos ⟨fr, (pos_iff fr).mpr (vr ▸ vpos)⟩]
  rw [vr]
  rcases step_cases fr with ⟨low, fine, -⟩ | ⟨high, coarse, -⟩
  · have low : r ≤ 1000 := by rw [vr] at low; exact_mod_cast low
    have fifty : 50 ∣ r := by
      rcases grid with ⟨-, d⟩ | ⟨d, -⟩ | eq
      · exact d
      · exact dvd_trans (by decide) d
      · omega
    obtain ⟨c, rfl⟩ := fifty
    rw [fine, Nat.cast_mul, nearest_mul (by decide), min_eq_left (by omega)]
  · have high : 1000 < r := by rw [vr] at high; exact_mod_cast high
    rw [coarse]
    rcases grid with ⟨le, -⟩ | ⟨⟨c, rfl⟩, lt⟩ | rfl
    · omega
    · rw [Nat.cast_mul, nearest_mul (by decide), min_eq_left (by omega)]
    · have past := lt_mul_nearest (n := 4294967245) (s := 100) (v := ((2 ^ 32 - 1 : Nat) : ℝ))
        (by decide) (by norm_num)
      rw [min_eq_right (by omega)]

theorem round_within (fx : x.isFinite = true) (pos : 0.0 < x)
    (below : value x.toModel.unpack < 4294967250) :
    stepKbps x ∣ round x ∧ |(round x : ℝ) - value x.toModel.unpack| ≤ stepKbps x / 2 := by
  have nonneg := ((pos_iff fx).mp pos).le
  have bounds := nearest_bounds (stepKbps_pos x) nonneg
  have fits : stepKbps x * nearest (stepKbps x) (value x.toModel.unpack) ≤ 2 ^ 32 - 1 := by
    rcases step_cases fx with ⟨low, -, -⟩ | ⟨-, coarse, -⟩
    · exact le_trans (nearest_fifty_le fx ((le_thousand_iff fx).mpr low)) (by decide)
    · have short := mul_nearest_lt (n := 4294967300) (s := 100) (by decide) nonneg
        (by push_cast; linarith : value x.toModel.unpack + (100 : Nat) / 2 < (4294967300 : Nat))
      rw [coarse]
      omega
  rw [round_eq_law]
  unfold roundLaw
  rw [if_pos ⟨fx, pos⟩, min_eq_left fits]
  refine ⟨dvd_mul_right _ _, abs_le.mpr ⟨?_, ?_⟩⟩ <;> push_cast <;> linarith [bounds.1, bounds.2]

end Law

/-- For every double `x`: `round x` is `roundLaw x`, the multiple of the step (50 Kb/s up to
1000 Kb/s, 100 Kb/s above) nearest `x`, halves up, saturated at `2 ^ 32 - 1`, and 0 for NaN, the
infinities and what is not above zero. So `round` is monotone over finite bitrates, what it gives
is on the grid and rounds to itself, and below 4294967250 Kb/s it is a multiple of the step
within half a step of `x`. -/
theorem round_is_nearest_step_saturated (x : Float) :
    round x = roundLaw x ∧
      (∀ y : Float, x.isFinite = true → y.isFinite = true → x ≤ y → round x ≤ round y) ∧
      OnGrid (round x) ∧ round (Float.ofNat (round x)) = round x ∧
      (x.isFinite = true → 0.0 < x → value x.toModel.unpack < 4294967250 →
        stepKbps x ∣ round x ∧ |(round x : ℝ) - value x.toModel.unpack| ≤ stepKbps x / 2) := by
  refine ⟨round_eq_law x, fun y fx fy le => ?_, onGrid_round x,
    round_ofNat_of_onGrid (onGrid_round x), fun fx pos below => round_within fx pos below⟩
  rw [round_eq_law, round_eq_law]
  exact roundLaw_mono fx fy le

/-- At 4294967250 Kb/s the nearest multiple of 100 is 4294967300, past 32 bits: `round`
saturates at `2 ^ 32 - 1`, a multiple of neither step. -/
theorem round_saturates :
    round 4294967250.0 = 2 ^ 32 - 1 ∧ ¬ (50 ∣ round 4294967250.0 ∨ 100 ∣ round 4294967250.0) := by
  decide +kernel

end Bitrate
end EncoderBench
