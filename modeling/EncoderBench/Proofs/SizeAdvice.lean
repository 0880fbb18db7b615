import EncoderBench.Proofs.Doubles
import EncoderBench.Cli.Advise
/-!
The size advice. `bestSize` picks the greatest standard size whose recommendation, four fifths of
it, is below the bitrate, or the smallest (`bestSize_spec`). A size that passes at one whole
bitrate passes at every larger one (`Passes.mono`).
-/
namespace EncoderBench

theorem List.find?_reverse_eq_some {α : Type} {l : List α} {p : α → Bool} {y : α}
    (found : l.reverse.find? p = some y) :
    ∃ i, ∃ hi : i < l.length, l[i] = y ∧ p l[i] = true ∧
      ∀ j (hj : j < l.length), i < j → p l[j] = false := by
  obtain ⟨passes, i, hi, at_i, before⟩ := List.find?_eq_some_iff_getElem.mp found
  have inside : i < l.length := by simpa using hi
  rw [List.getElem_reverse] at at_i
  refine ⟨l.length - 1 - i, by omega, at_i, at_i ▸ passes, ?_⟩
  intro j hj later
  have fails := before (l.length - 1 - j) (by omega)
  rw [List.getElem_reverse] at fails
  have same : l.length - 1 - (l.length - 1 - j) = j := by omega
  simpa [same] using fails

namespace Resolution

theorem heightTier?_getElem : ∀ i (hi : i < standard.length), heightTier? standard[i] = some i := by
  decide

theorem smallest_eq : smallest = standard[0] := rfl

end Resolution

namespace Bitrate

open Resolution

/-- The test `bestSize` makes of a size at a bitrate: four fifths of the size's recommendation
is below the bitrate, compared as doubles. -/
def Passes (kbps : Nat) (rate : FrameRate) (highAction : Bool) (size : Resolution) : Prop :=
  Float.ofNat (ideal size rate highAction) * 0.8 < Float.ofNat kbps

instance (kbps : Nat) (rate : FrameRate) (highAction : Bool) :
    DecidablePred (Passes kbps rate highAction) :=
  fun _ => inferInstanceAs (Decidable (_ < _))

theorem bestSize_eq (kbps : Nat) (rate : FrameRate) (highAction : Bool) :
    bestSize kbps rate highAction =
      (standard.reverse.find? fun size => decide (Passes kbps rate highAction size)).getD
        smallest := rfl

theorem bestSize_spec (kbps : Nat) (rate : FrameRate) (highAction : Bool) :
    ∃ i, ∃ hi : i < standard.length, bestSize kbps rate highAction = standard[i] ∧
      (i = 0 ∨ Passes kbps rate highAction standard[i]) ∧
      ∀ j (hj : j < standard.length), Passes kbps rate highAction standard[j] → j ≤ i := by
  rw [bestSize_eq]
  cases search : standard.reverse.find? fun size => decide (Passes kbps rate highAction size) with
  | none =>
    refine ⟨0, by decide, smallest_eq, .inl rfl, ?_⟩
    intro j hj passes
    have rejected := List.find?_eq_none.mp search standard[j] (List.mem_reverse.mpr (by simp))
    exact absurd (decide_eq_true passes) rejected
  | some best =>
    obtain ⟨i, hi, at_i, passes, later⟩ := List.find?_reverse_eq_some search
    refine ⟨i, hi, at_i.symm, .inr (of_decide_eq_true passes), ?_⟩
    intro j hj passesJ
    by_contra above
    exact of_decide_eq_false (later j hj (by omega)) passesJ

theorem bestSize_mem (kbps : Nat) (rate : FrameRate) (highAction : Bool) :
    bestSize kbps rate highAction ∈ standard := by
  obtain ⟨i, hi, best, -⟩ := bestSize_spec kbps rate highAction
  rw [best]
  exact List.getElem_mem hi

variable {rate : FrameRate} {highAction : Bool}

theorem heightTier?_le_bestSize {kbps : Nat} {size : Resolution} (mem : size ∈ standard)
    (passes : Passes kbps rate highAction size) :
    size.heightTier? ≤ (bestSize kbps rate highAction).heightTier? := by
  obtain ⟨i, hi, best, -, greatest⟩ := bestSize_spec kbps rate highAction
  obtain ⟨j, hj, rfl⟩ := List.getElem_of_mem mem
  rw [best, heightTier?_getElem, heightTier?_getElem, Option.some_le_some]
  exact greatest j hj passes

theorem Passes.mono {k₁ k₂ : Nat} {size : Resolution} (passes : Passes k₁ rate highAction size)
    (le : k₁ ≤ k₂) (small : k₂ < 2 ^ 53) : Passes k₂ rate highAction size :=
  Doubles.lt_ofNat_of_le passes le small

theorem passes_of_ideal_le {kbps : Nat} {size : Resolution}
    (pos : 0 < ideal size rate highAction) (le : ideal size rate highAction ≤ kbps)
    (small : kbps < 2 ^ 53) : Passes kbps rate highAction size :=
  Doubles.ofNat_mul_four_fifths_lt pos le small

theorem heightTier?_bestSize_mono {k₁ k₂ : Nat} (le : k₁ ≤ k₂) (small : k₂ < 2 ^ 53) :
    (bestSize k₁ rate highAction).heightTier? ≤ (bestSize k₂ rate highAction).heightTier? := by
  obtain ⟨i, hi, best, first | passes, -⟩ := bestSize_spec k₁ rate highAction
  · obtain ⟨i₂, hi₂, best₂, -⟩ := bestSize_spec k₂ rate highAction
    subst first
    rw [best, best₂, heightTier?_getElem, heightTier?_getElem, Option.some_le_some]
    exact Nat.zero_le i₂
  · rw [best]
    exact heightTier?_le_bestSize (List.getElem_mem hi) (passes.mono le small)

theorem round_lt (kbps : Float) : round kbps < 2 ^ 32 := by
  unfold round
  split
  · exact Nat.two_pow_pos 32
  · exact UInt32.toNat_lt _

theorem capToSane_lt (kbps : Nat) (rate : FrameRate) (highAction hasTranscoder : Bool) :
    capToSane kbps rate highAction hasTranscoder < 2 ^ 32 :=
  Nat.lt_of_le_of_lt (Nat.min_le_right _ _) (round_lt _)

end Bitrate

namespace Cli

open Resolution Bitrate

theorem advice_fitting_le_bestSize (a : AdviseArgs) (s : SizeAdvice) (mem : s ∈ (advice a).sizes)
    (fits : s.fits = true) (pos : 0 < s.idealKbps) :
    s.size.heightTier? ≤ (advice a).bestSize.heightTier? := by
  simp only [advice, List.mem_map] at mem
  obtain ⟨size, standardSize, rfl⟩ := mem
  have covered := decide_eq_true_iff.mp fits
  have video := capToSane_lt (split (a.unit.toKbps a.upload) a.interactive).videoKbps a.frameRate
    a.highAction a.transcoder
  exact heightTier?_le_bestSize standardSize (passes_of_ideal_le pos covered (by omega))

end Cli

namespace Bitrate

open Resolution

/-- The size advice at every 32-bit bitrate is a standard size, grows with the bitrate, and
covers every standard size whose recommendation is positive and at most the bitrate; in
particular it covers the sizes `advise` reports as fitting. -/
theorem best_size_is_monotone_and_covers_fits (rate : FrameRate) (highAction : Bool) :
    (∀ k : UInt32, bestSize k.toNat rate highAction ∈ standard) ∧
    (∀ k₁ k₂ : UInt32, k₁ ≤ k₂ →
      (bestSize k₁.toNat rate highAction).heightTier? ≤
        (bestSize k₂.toNat rate highAction).heightTier?) ∧
    (∀ k : UInt32, ∀ size ∈ standard, 0 < ideal size rate highAction →
      ideal size rate highAction ≤ k.toNat →
        size.heightTier? ≤ (bestSize k.toNat rate highAction).heightTier?) ∧
    ∀ a : Cli.AdviseArgs, ∀ s ∈ (Cli.advice a).sizes, s.fits = true → 0 < s.idealKbps →
      s.size.heightTier? ≤ (Cli.advice a).bestSize.heightTier? := by
  have small (k : UInt32) : k.toNat < 2 ^ 53 :=
    Nat.lt_trans (UInt32.toNat_lt k) (by decide)
  refine ⟨fun k => bestSize_mem k.toNat rate highAction, ?_, ?_, ?_⟩
  · intro k₁ k₂ le
    exact heightTier?_bestSize_mono (UInt32.le_iff_toNat_le.mp le) (small k₂)
  · intro k size mem pos le
    exact heightTier?_le_bestSize mem (passes_of_ideal_le pos le (small k))
  · intro a s mem fits pos
    exact Cli.advice_fitting_le_bestSize a s mem fits pos

end Bitrate

end EncoderBench
