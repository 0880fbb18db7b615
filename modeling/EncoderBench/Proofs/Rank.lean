import EncoderBench.Bench.Rank
/-!
What the ranker keeps and what it decides. Ranking changes the recommended flags only, and the
choice reads no flag. It picks an index of the list, and picks one exactly when some result is
at 30 Hz: the fastest preset's tier is always scanned, and every 30 Hz result competes there.
-/
namespace EncoderBench

/-- The result with its recommended flag cleared. -/
def TrialResult.unflagged (r : TrialResult) : TrialResult := { r with recommended := false }

namespace Rank

/-- A result competes at a tier: it is at 30 Hz, with the tier's preset or a better one. -/
def Competes (tier : Preset) (r : TrialResult) : Prop :=
  r.frameRate.same FrameRate.fps30 = true ∧ ¬ r.preset < tier

theorem tierStep_of_not_competes {rs : List TrialResult} {tier : Preset} {best : Option Nat}
    {r : TrialResult} {i : Nat} (skip : ¬ Competes tier r) : tierStep rs tier best (r, i) = best := by
  have skipped : (!(r.frameRate.same FrameRate.fps30) || r.preset < tier) = true := by
    simp only [Competes, not_and, Decidable.not_not] at skip
    cases thirty : r.frameRate.same FrameRate.fps30 <;> simp_all
  simp only [tierStep, skipped, if_true]

theorem tierStep_isSome_of_competes {rs : List TrialResult} {tier : Preset} {best : Option Nat}
    {r : TrialResult} {i : Nat} (competes : Competes tier r) :
    (tierStep rs tier best (r, i)).isSome = true := by
  have passed : (!(r.frameRate.same FrameRate.fps30) || r.preset < tier) = false := by
    simpa [Competes] using competes
  simp only [tierStep, passed, Bool.false_eq_true, if_false]
  cases best with
  | none => rfl
  | some b => dsimp only; split <;> rfl

theorem tierStep_cases (rs : List TrialResult) (tier : Preset) (best : Option Nat)
    (r : TrialResult) (i : Nat) :
    tierStep rs tier best (r, i) = best ∨ tierStep rs tier best (r, i) = some i := by
  simp only [tierStep]
  split
  · exact .inl rfl
  · cases best with
    | none => exact .inr rfl
    | some b => dsimp only; split <;> simp

theorem foldl_tierStep_isSome_iff {rs : List TrialResult} {tier : Preset}
    (l : List (TrialResult × Nat)) (init : Option Nat) :
    (l.foldl (tierStep rs tier) init).isSome ↔ init.isSome ∨ ∃ x ∈ l, Competes tier x.1 := by
  induction l generalizing init with
  | nil => simp
  | cons x l ih =>
    obtain ⟨r, i⟩ := x
    rw [List.foldl_cons, ih]
    by_cases competes : Competes tier r
    · constructor
      · intro _
        exact .inr ⟨(r, i), List.mem_cons_self, competes⟩
      · intro _
        exact .inl (tierStep_isSome_of_competes competes)
    · rw [tierStep_of_not_competes competes]
      simp only [List.mem_cons]
      constructor
      · rintro (some | ⟨y, member, competesY⟩)
        · exact .inl some
        · exact .inr ⟨y, .inr member, competesY⟩
      · rintro (some | ⟨y, rfl | member, competesY⟩)
        · exact .inl some
        · exact absurd competesY competes
        · exact .inr ⟨y, member, competesY⟩

theorem bestAtTier_isSome_iff {rs : List TrialResult} {tier : Preset} :
    (bestAtTier rs tier).isSome ↔ ∃ r ∈ rs, Competes tier r := by
  refine (foldl_tierStep_isSome_iff rs.zipIdx none).trans ?_
  constructor
  · rintro (none | ⟨⟨r, i⟩, member, competes⟩)
    · cases none
    · obtain ⟨bound, listed⟩ := List.mem_zipIdx' member
      exact ⟨r, by rw [listed]; exact List.getElem_mem bound, competes⟩
  · rintro ⟨r, member, competes⟩
    have listed : r ∈ rs.zipIdx.map Prod.fst := by rw [List.zipIdx_map_fst]; exact member
    obtain ⟨x, pair, rfl⟩ := List.mem_map.mp listed
    exact .inr ⟨x, pair, competes⟩

theorem bestAtTier_lt {rs : List TrialResult} {tier : Preset} {i : Nat}
    (picked : bestAtTier rs tier = some i) : i < rs.length := by
  suffices within : ∀ j, bestAtTier rs tier = some j → j < rs.length from within i picked
  unfold bestAtTier
  refine List.foldlRecOn (motive := fun best => ∀ j, best = some j → j < rs.length) _ _
    (by simp) ?_
  rintro best inside ⟨r, k⟩ member j chosen
  have bound := (List.mem_zipIdx' member).1
  rcases tierStep_cases rs tier best r k with kept | taken
  · rw [kept] at chosen
    exact inside j chosen
  · rw [taken] at chosen
    cases chosen
    exact bound

theorem ultrafast_mem_tiers (minPreset : Preset) : Preset.ultrafast ∈ tiers minPreset := by
  cases minPreset <;> decide

theorem not_lt_ultrafast (p : Preset) : ¬ p < Preset.ultrafast := by
  cases p <;> decide

theorem pick_isSome_iff {rs : List TrialResult} {minPreset : Preset} :
    (pick rs minPreset).isSome ↔ ∃ r ∈ rs, r.frameRate.same FrameRate.fps30 = true := by
  simp only [pick, List.findSome?_isSome_iff]
  constructor
  · rintro ⟨tier, -, found⟩
    obtain ⟨r, member, thirty, -⟩ := bestAtTier_isSome_iff.mp found
    exact ⟨r, member, thirty⟩
  · rintro ⟨r, member, thirty⟩
    exact ⟨.ultrafast, ultrafast_mem_tiers minPreset,
      bestAtTier_isSome_iff.mpr ⟨r, member, thirty, not_lt_ultrafast r.preset⟩⟩

theorem pick_lt {rs : List TrialResult} {minPreset : Preset} {i : Nat}
    (picked : pick rs minPreset = some i) : i < rs.length := by
  obtain ⟨tier, -, found⟩ := List.exists_of_findSome?_eq_some picked
  exact bestAtTier_lt found

theorem bestAtTier_unflagged (rs : List TrialResult) (tier : Preset) :
    bestAtTier (rs.map TrialResult.unflagged) tier = bestAtTier rs tier := by
  unfold bestAtTier
  rw [List.zipIdx_map, List.foldl_map]
  congr 1
  funext best x
  obtain ⟨r, i⟩ := x
  cases best with
  | none => rfl
  | some b =>
    simp only [tierStep, Prod.map, id, List.getD_eq_getElem?_getD, List.getElem?_map,
      Option.getD_map]
    rfl

theorem pick_unflagged (rs : List TrialResult) (minPreset : Preset) :
    pick (rs.map TrialResult.unflagged) minPreset = pick rs minPreset := by
  have unflagged : bestAtTier (rs.map TrialResult.unflagged) = bestAtTier rs :=
    funext (bestAtTier_unflagged rs)
  simp only [pick, unflagged]

end Rank

theorem rank_snd (rs : List TrialResult) (minPreset : Preset) :
    (rank rs minPreset).2 = Rank.pick rs minPreset := rfl

@[simp] theorem length_rank_fst (rs : List TrialResult) (minPreset : Preset) :
    (rank rs minPreset).1.length = rs.length := by
  simp [rank]

theorem rank_fst_unflagged (rs : List TrialResult) (minPreset : Preset) :
    (rank rs minPreset).1.map TrialResult.unflagged = rs.map TrialResult.unflagged := by
  apply List.ext_getElem (by simp [rank])
  intro i _ _
  simp [rank, TrialResult.unflagged]

theorem recommended_rank_fst (rs : List TrialResult) (minPreset : Preset) (i : Nat)
    (inside : i < (rank rs minPreset).1.length) :
    (rank rs minPreset).1[i].recommended = (Rank.pick rs minPreset == some i) := by
  simp [rank]

theorem rank_rank_fst {rs : List TrialResult} (minPreset : Preset)
    (clear : rs.map TrialResult.unflagged = rs) :
    rank ((rank rs minPreset).1.map TrialResult.unflagged) minPreset = rank rs minPreset := by
  rw [rank_fst_unflagged, clear]

end EncoderBench
