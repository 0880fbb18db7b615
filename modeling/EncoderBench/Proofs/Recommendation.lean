import Mathlib.Data.Prod.Lex
import EncoderBench.Proofs.Rank
/-!
Which result the ranker recommends, said without the scan over tiers: among the 30 Hz results
whose preset reaches `min minPreset top`, the first whose height, then preset, is greatest; with
no 30 Hz result there is none.
-/
namespace EncoderBench

namespace Rank

def AtThirty (r : TrialResult) : Prop := r.frameRate.same FrameRate.fps30 = true

def key (r : TrialResult) : ℕ ×ₗ ℕ := toLex (r.size.height, r.preset.index)

def TopPreset (rs : List TrialResult) (top : Preset) : Prop :=
  (∃ r ∈ rs, AtThirty r ∧ r.preset = top) ∧ ∀ r ∈ rs, AtThirty r → r.preset ≤ top

/-- The results in the running: at 30 Hz, with a preset at least `min minPreset top`. -/
def Candidate (minPreset top : Preset) (r : TrialResult) : Prop :=
  AtThirty r ∧ min minPreset.index top.index ≤ r.preset.index

/-- `i` is the first index of `rs` whose result has the greatest key among the results that
satisfy `P`. -/
def FirstGreatest (P : TrialResult → Prop) (rs : List TrialResult) (i : Nat) : Prop :=
  ∃ inside : i < rs.length, P rs[i] ∧
    (∀ j (hj : j < rs.length), P rs[j] → key rs[j] ≤ key rs[i]) ∧
    ∀ j (hj : j < i), P rs[j] → key rs[j] < key rs[i]

/-- The recommendation as specified: the first candidate of greatest key. -/
def Recommends (rs : List TrialResult) (minPreset : Preset) (i : Nat) : Prop :=
  ∃ top, TopPreset rs top ∧ FirstGreatest (Candidate minPreset top) rs i

def Found (P : TrialResult → Prop) (l : List TrialResult) : Option Nat → Prop
  | none => ∀ r ∈ l, ¬ P r
  | some b => FirstGreatest P l b

theorem beats_iff (r best : TrialResult) : beats r best = true ↔ key best < key r := by
  simp only [beats, key, Prod.Lex.toLex_lt_toLex, Bool.or_eq_true, decide_eq_true_eq,
    Bool.and_eq_true, beq_iff_eq]
  constructor
  · rintro (higher | ⟨same, better⟩)
    · exact .inl higher
    · exact .inr ⟨same.symm, better⟩
  · rintro (higher | ⟨same, better⟩)
    · exact .inl higher
    · exact .inr ⟨same.symm, better⟩

theorem competes_iff (tier : Preset) (r : TrialResult) :
    Competes tier r ↔ AtThirty r ∧ tier.index ≤ r.preset.index := by
  simp only [Competes, AtThirty]
  exact and_congr_right fun _ => Nat.not_lt

theorem FirstGreatest.unique {P : TrialResult → Prop} {rs : List TrialResult} {i j : Nat}
    (first : FirstGreatest P rs i) (second : FirstGreatest P rs j) : i = j := by
  obtain ⟨hi, pi, greatestI, firstI⟩ := first
  obtain ⟨hj, pj, greatestJ, firstJ⟩ := second
  rcases Nat.lt_trichotomy i j with lt | eq | gt
  · exact absurd (greatestI j hj pj) (not_le.mpr (firstJ i lt pi))
  · exact eq
  · exact absurd (greatestJ i hi pi) (not_le.mpr (firstI j gt pj))

section Append

variable {P : TrialResult → Prop} {l : List TrialResult} {r : TrialResult} {b : Nat}

theorem FirstGreatest.append_of_not (found : FirstGreatest P l b) (skip : ¬ P r) :
    FirstGreatest P (l ++ [r]) b := by
  obtain ⟨hb, pb, greatest, first⟩ := found
  refine ⟨by simp; omega, by rwa [List.getElem_append_left hb], ?_, ?_⟩
  · intro j hj pj
    rw [List.getElem_append_left hb]
    by_cases old : j < l.length
    · rw [List.getElem_append_left old] at pj ⊢
      exact greatest j old pj
    · have last : j = l.length := by simp at hj; omega
      subst last
      simp at pj
      exact absurd pj skip
  · intro j hj pj
    rw [List.getElem_append_left (by omega)] at pj ⊢
    rw [List.getElem_append_left hb]
    exact first j hj pj

theorem firstGreatest_append_of_none (none : ∀ x ∈ l, ¬ P x) (pr : P r) :
    FirstGreatest P (l ++ [r]) l.length := by
  refine ⟨by simp, by simpa using pr, ?_, ?_⟩
  · intro j hj pj
    by_cases old : j < l.length
    · rw [List.getElem_append_left old] at pj
      exact absurd pj (none _ (List.getElem_mem old))
    · have last : j = l.length := by simp at hj; omega
      subst last
      exact le_rfl
  · intro j hj pj
    rw [List.getElem_append_left hj] at pj
    exact absurd pj (none _ (List.getElem_mem hj))

theorem FirstGreatest.append_of_lt (found : FirstGreatest P l b) (hb : b < l.length) (pr : P r)
    (greater : key l[b] < key r) : FirstGreatest P (l ++ [r]) l.length := by
  obtain ⟨_, pb, greatest, -⟩ := found
  have atEnd : l.length < (l ++ [r]).length := by simp
  have last : (l ++ [r])[l.length] = r := by simp
  refine ⟨by simp, by rwa [last], ?_, ?_⟩
  · intro j hj pj
    rw [last]
    by_cases old : j < l.length
    · rw [List.getElem_append_left old] at pj ⊢
      exact (greatest j old pj).trans greater.le
    · have atLast : j = l.length := by simp at hj; omega
      subst atLast
      rw [last]
  · intro j hj pj
    rw [last]
    rw [List.getElem_append_left hj] at pj ⊢
    exact lt_of_le_of_lt (greatest j hj pj) greater

theorem FirstGreatest.append_of_le (found : FirstGreatest P l b) (hb : b < l.length)
    (notGreater : key r ≤ key l[b]) : FirstGreatest P (l ++ [r]) b := by
  obtain ⟨_, pb, greatest, first⟩ := found
  refine ⟨by simp; omega, by rwa [List.getElem_append_left hb], ?_, ?_⟩
  · intro j hj pj
    rw [List.getElem_append_left hb]
    by_cases old : j < l.length
    · rw [List.getElem_append_left old] at pj ⊢
      exact greatest j old pj
    · have last : j = l.length := by simp at hj; omega
      subst last
      simpa using notGreater
  · intro j hj pj
    rw [List.getElem_append_left (by omega)] at pj ⊢
    rw [List.getElem_append_left hb]
    exact first j hj pj

end Append

theorem found_tierStep {rs : List TrialResult} {tier : Preset} {n : Nat} {best : Option Nat}
    (inside : n < rs.length) (found : Found (Competes tier) (rs.take n) best) :
    Found (Competes tier) (rs.take (n + 1)) (tierStep rs tier best (rs[n], n)) := by
  have grown : rs.take (n + 1) = rs.take n ++ [rs[n]] := by
    rw [List.take_add_one, List.getElem?_eq_getElem inside, Option.toList_some]
  have length : (rs.take n).length = n := by simp; omega
  rw [grown]
  by_cases competes : Competes tier rs[n]
  · have passed : (!(rs[n].frameRate.same FrameRate.fps30) || rs[n].preset < tier) = false := by
      simpa [Competes] using competes
    cases best with
    | none =>
      simp only [tierStep, passed, Bool.false_eq_true, if_false, Found]
      have firstFound := firstGreatest_append_of_none found competes
      rwa [length] at firstFound
    | some b =>
      have hb : b < (rs.take n).length := found.1
      have stored : rs.getD b rs[n] = (rs.take n)[b] := by
        simp [List.getD_eq_getElem?_getD, List.getElem?_eq_getElem (show b < rs.length by omega)]
      simp only [tierStep, passed, Bool.false_eq_true, if_false, stored]
      split
      · next greater =>
        rw [beats_iff] at greater
        have replaced := found.append_of_lt hb competes greater
        rwa [length] at replaced
      · next notGreater =>
        rw [beats_iff, not_lt] at notGreater
        exact found.append_of_le hb notGreater
  · rw [tierStep_of_not_competes competes]
    cases best with
    | none =>
      intro r member
      rcases List.mem_append.mp member with old | last
      · exact found r old
      · rw [List.mem_singleton.mp last]
        exact competes
    | some b => exact found.append_of_not competes

theorem found_bestAtTier (rs : List TrialResult) (tier : Preset) :
    Found (Competes tier) rs (bestAtTier rs tier) := by
  have scan : ∀ n, n ≤ rs.length →
      Found (Competes tier) (rs.take n) ((rs.take n).zipIdx.foldl (tierStep rs tier) none) := by
    intro n
    induction n with
    | zero => intro _; simp [Found]
    | succ n ih =>
      intro bound
      have inside : n < rs.length := by omega
      have grown : (rs.take (n + 1)).zipIdx = (rs.take n).zipIdx ++ [(rs[n], n)] := by
        rw [List.take_add_one, List.getElem?_eq_getElem inside, Option.toList_some,
          List.zipIdx_append]
        simp; omega
      rw [grown, List.foldl_append, List.foldl_cons, List.foldl_nil]
      exact found_tierStep inside (ih (by omega))
  simpa [bestAtTier] using scan rs.length le_rfl

theorem bestAtTier_eq_some_iff {rs : List TrialResult} {tier : Preset} {i : Nat} :
    bestAtTier rs tier = some i ↔ FirstGreatest (Competes tier) rs i := by
  have found := found_bestAtTier rs tier
  constructor
  · intro picked
    rw [picked] at found
    exact found
  · intro first
    cases picked : bestAtTier rs tier with
    | none =>
      rw [picked] at found
      obtain ⟨hi, pi, -⟩ := first
      exact absurd pi (found _ (List.getElem_mem hi))
    | some b =>
      rw [picked] at found
      rw [found.unique first]

theorem mem_tiers {tier minPreset : Preset} : tier ∈ tiers minPreset ↔ tier ≤ minPreset := by
  cases tier <;> cases minPreset <;> decide

theorem tiers_descending (minPreset : Preset) :
    (tiers minPreset).Pairwise (fun a b => b < a) := by
  cases minPreset <;> decide

theorem findSome?_of_descending {l : List Preset} {f : Preset → Option Nat} {t : Preset}
    (descending : l.Pairwise (fun a b => b < a)) (member : t ∈ l)
    (found : ∀ p ∈ l, (f p).isSome ↔ p ≤ t) : l.findSome? f = f t := by
  induction l with
  | nil => cases member
  | cons p l ih =>
    rw [List.pairwise_cons] at descending
    by_cases below : p ≤ t
    · rw [List.findSome?_cons_of_isSome ((found p List.mem_cons_self).mpr below)]
      rcases List.mem_cons.mp member with rfl | later
      · rfl
      · exact absurd below (Nat.not_le.mpr (descending.1 t later))
    · have none : f p = none := by
        rw [← Option.not_isSome_iff_eq_none, found p List.mem_cons_self]
        exact below
      rw [List.findSome?_cons_of_isNone (by simp [none])]
      have later : t ∈ l := by
        rcases List.mem_cons.mp member with rfl | later
        · exact absurd (Nat.le_refl _) below
        · exact later
      exact ih descending.2 later fun q mem => found q (List.mem_cons_of_mem p mem)

theorem exists_index_eq (n : Nat) (bound : n ≤ 8) : ∃ t : Preset, t.index = n := by
  rcases n with _ | _ | _ | _ | _ | _ | _ | _ | _ | n
  exacts [⟨.ultrafast, rfl⟩, ⟨.superfast, rfl⟩, ⟨.veryfast, rfl⟩, ⟨.faster, rfl⟩,
    ⟨.fast, rfl⟩, ⟨.medium, rfl⟩, ⟨.slow, rfl⟩, ⟨.slower, rfl⟩, ⟨.veryslow, rfl⟩,
    absurd bound (by omega)]

theorem index_le_eight (p : Preset) : p.index ≤ 8 := by
  cases p <;> decide

theorem pick_eq_bestAtTier (minPreset : Preset) {rs : List TrialResult} {top : Preset}
    (isTop : TopPreset rs top) :
    ∃ t : Preset, t.index = min minPreset.index top.index ∧
      (∀ r, Competes t r ↔ Candidate minPreset top r) ∧ pick rs minPreset = bestAtTier rs t := by
  obtain ⟨t, ht⟩ := exists_index_eq (min minPreset.index top.index)
    (Nat.le_trans (Nat.min_le_left _ _) (index_le_eight minPreset))
  refine ⟨t, ht, fun r => by rw [competes_iff, ht]; rfl, ?_⟩
  obtain ⟨⟨best, member, thirty, rfl⟩, below⟩ := isTop
  apply findSome?_of_descending (tiers_descending minPreset)
  · rw [mem_tiers]
    change t.index ≤ minPreset.index
    omega
  · intro p tier
    have underMin : p.index ≤ minPreset.index := mem_tiers.mp tier
    rw [bestAtTier_isSome_iff]
    change (∃ r ∈ rs, Competes p r) ↔ p.index ≤ t.index
    constructor
    · rintro ⟨r, member, competes⟩
      rw [competes_iff] at competes
      have := below r member competes.1
      change r.preset.index ≤ best.preset.index at this
      omega
    · intro low
      exact ⟨best, member, (competes_iff p best).mpr ⟨thirty, by omega⟩⟩

theorem exists_topPreset {rs : List TrialResult} (thirty : ∃ r ∈ rs, AtThirty r) :
    ∃ top, TopPreset rs top := by
  induction rs with
  | nil => simp at thirty
  | cons r rs ih =>
    by_cases later : ∃ x ∈ rs, AtThirty x
    · obtain ⟨top, ⟨x, member, xThirty, rfl⟩, below⟩ := ih later
      by_cases better : AtThirty r ∧ x.preset.index < r.preset.index
      · refine ⟨r.preset, ⟨r, List.mem_cons_self, better.1, rfl⟩, ?_⟩
        rintro y (_ | ⟨_, member⟩) yThirty
        · exact Nat.le_refl _
        · exact Nat.le_trans (below y member yThirty) better.2.le
      · refine ⟨x.preset, ⟨x, List.mem_cons_of_mem r member, xThirty, rfl⟩, ?_⟩
        rintro y (_ | ⟨_, member⟩) yThirty
        · exact Nat.not_lt.mp fun worse => better ⟨yThirty, worse⟩
        · exact below y member yThirty
    · have first : AtThirty r := by
        obtain ⟨x, member, xThirty⟩ := thirty
        rcases List.mem_cons.mp member with rfl | member
        · exact xThirty
        · exact absurd ⟨x, member, xThirty⟩ later
      refine ⟨r.preset, ⟨r, List.mem_cons_self, first, rfl⟩, ?_⟩
      rintro y (_ | ⟨_, member⟩) yThirty
      · exact Nat.le_refl _
      · exact absurd ⟨y, member, yThirty⟩ later

theorem pick_eq_some_iff {rs : List TrialResult} {minPreset : Preset} {i : Nat} :
    pick rs minPreset = some i ↔ Recommends rs minPreset i := by
  constructor
  · intro picked
    have thirty : ∃ r ∈ rs, AtThirty r :=
      pick_isSome_iff.mp (Option.isSome_iff_exists.mpr ⟨i, picked⟩)
    obtain ⟨top, isTop⟩ := exists_topPreset thirty
    obtain ⟨t, -, same, scan⟩ := pick_eq_bestAtTier minPreset isTop
    have samePred : Competes t = Candidate minPreset top := funext fun r => propext (same r)
    rw [scan, bestAtTier_eq_some_iff, samePred] at picked
    exact ⟨top, isTop, picked⟩
  · rintro ⟨top, isTop, first⟩
    obtain ⟨t, -, same, scan⟩ := pick_eq_bestAtTier minPreset isTop
    have samePred : Competes t = Candidate minPreset top := funext fun r => propext (same r)
    rw [scan, bestAtTier_eq_some_iff, samePred]
    exact first

end Rank

open Rank in
/-- The ranker recommends nothing exactly when no result is at 30 Hz, and otherwise the first
candidate of greatest height, then preset, the candidates being the 30 Hz results whose preset
reaches `min minPreset top` for the best 30 Hz preset `top`. It flags that result and no other,
and changes nothing else of any result nor their order. -/
theorem rank_recommends_first_greatest_candidate (rs : List TrialResult) (minPreset : Preset) :
    ((rank rs minPreset).2 = none ↔ ∀ r ∈ rs, ¬ AtThirty r) ∧
    (∀ i, (rank rs minPreset).2 = some i ↔ Recommends rs minPreset i) ∧
    (∀ j (hj : j < (rank rs minPreset).1.length),
      (rank rs minPreset).1[j].recommended = true ↔ (rank rs minPreset).2 = some j) ∧
    (rank rs minPreset).1.map TrialResult.unflagged = rs.map TrialResult.unflagged := by
  refine ⟨?_, fun i => pick_eq_some_iff, ?_, rank_fst_unflagged rs minPreset⟩
  · rw [rank_snd, ← Option.not_isSome_iff_eq_none, pick_isSome_iff]
    simp only [AtThirty, not_exists, not_and]
  · intro j hj
    rw [recommended_rank_fst, beq_iff_eq, rank_snd]

example :
    (rank [⟨.veryfast, ⟨854, 480⟩, FrameRate.fps30, 1000, 0.3, 0.1, false⟩,
      ⟨.superfast, ⟨1920, 1080⟩, FrameRate.fps30, 1000, 0.3, 0.1, false⟩] .veryfast).2 =
      some 0 := by
  decide

end EncoderBench
