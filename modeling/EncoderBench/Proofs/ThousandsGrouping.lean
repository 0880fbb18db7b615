import Mathlib
import EncoderBench.Bench.Trial
/-!
Thousands grouping. `groupThousands` cuts the decimal digits of a number into a first group of
one to three digits and then groups of three joined by commas (`groupThousands_eq_joinGroups`);
removing the commas gives back the decimal text, so two numbers never share a grouping.
-/
namespace EncoderBench

/-- Groups of characters joined by commas: the first group, then a comma before each of the
others. -/
def joinGroups (first : List Char) (rest : List (List Char)) : List Char :=
  first ++ rest.flatMap (',' :: ·)

theorem joinGroups_cons (first g : List Char) (rest : List (List Char)) :
    joinGroups first (g :: rest) = first ++ ',' :: joinGroups g rest := by
  simp [joinGroups]

/-- What the digit at position `p.2` of `len` digits contributes to the grouping: itself, after a
comma when it is not the first digit and a multiple of three digits remain from it on. -/
def commaBefore (len : Nat) (p : Char × Nat) : List Char :=
  if 0 < p.2 ∧ (len - p.2) % 3 = 0 then [',', p.1] else [p.1]

theorem groupThousands_toList (n : Nat) :
    (groupThousands n).toList =
      (toString n).toList.zipIdx.flatMap (commaBefore (toString n).toList.length) := by
  simp only [groupThousands, String.toList_ofList]
  rfl

theorem digits_ne_nil (n : Nat) : (toString n).toList ≠ [] := by
  rw [Nat.toString_eq_ofList_toDigits, String.toList_ofList]
  exact Nat.toDigits_ne_nil

theorem comma_not_digit {n : Nat} {c : Char} (digit : c ∈ (toString n).toList) : c ≠ ',' := by
  rw [Nat.toString_eq_ofList_toDigits, String.toList_ofList] at digit
  have isDigit := Nat.isDigit_of_mem_toDigits (by decide) (by decide) digit
  rintro rfl
  exact absurd isDigit (by decide)

theorem flatMap_commaBefore_first {first : List Char} {len : Nat} (short : first.length ≤ 3)
    (within : first.length ≤ len) (rest : (len - first.length) % 3 = 0) :
    first.zipIdx.flatMap (commaBefore len) = first := by
  have plain : ∀ p ∈ first.zipIdx, commaBefore len p = [p.1] := by
    rintro ⟨c, i⟩ mem
    have inside := (List.mem_zipIdx mem).2.1
    have apart : ¬(0 < i ∧ (len - i) % 3 = 0) := by omega
    simp only [commaBefore, if_neg apart]
  rw [List.flatMap_congr plain]
  exact (List.flatMap_pure_eq_map Prod.fst _).trans (List.zipIdx_map_fst 0 first)

theorem flatMap_commaBefore_threes (len : Nat) :
    ∀ (tail : List Char) (k : Nat), 0 < k → tail.length % 3 = 0 → k + tail.length = len →
      ∃ rest : List (List Char), tail = rest.flatten ∧ (∀ g ∈ rest, g.length = 3) ∧
        (tail.zipIdx k).flatMap (commaBefore len) = rest.flatMap (',' :: ·)
  | [], _, _, _, _ => ⟨[], rfl, by simp, rfl⟩
  | [_], _, _, three, _ => by simp at three
  | [_, _], _, _, three, _ => by simp at three
  | a :: b :: c :: tail, k, start, three, ends => by
    simp only [List.length_cons] at three ends
    obtain ⟨rest, flat, sizes, marks⟩ :=
      flatMap_commaBefore_threes len tail (k + 1 + 1 + 1) (by omega) (by omega) (by omega)
    refine ⟨[a, b, c] :: rest, by simp [flat], ?_, ?_⟩
    · intro g mem
      rcases List.mem_cons.mp mem with rfl | later
      · rfl
      · exact sizes g later
    · have first : commaBefore len (a, k) = [',', a] := if_pos (by omega)
      have second : commaBefore len (b, k + 1) = [b] := if_neg (by omega)
      have third : commaBefore len (c, k + 1 + 1) = [c] := if_neg (by omega)
      simp only [List.zipIdx_cons, List.flatMap_cons, first, second, third, marks]
      rfl

theorem groupThousands_eq_joinGroups (n : Nat) :
    ∃ first rest, (groupThousands n).toList = joinGroups first rest ∧
      first ++ rest.flatten = (toString n).toList ∧
      0 < first.length ∧ first.length ≤ 3 ∧ ∀ g ∈ rest, g.length = 3 := by
  generalize digits : (toString n).toList = ds
  generalize leftover : (ds.length - 1) % 3 + 1 = r
  have pos : 0 < ds.length := List.length_pos_iff.mpr (digits ▸ digits_ne_nil n)
  have taken : (ds.take r).length = r := by
    rw [List.length_take]
    omega
  have split : ds.zipIdx = (ds.take r).zipIdx ++ (ds.drop r).zipIdx (0 + (ds.take r).length) := by
    rw [← List.zipIdx_append, List.take_append_drop]
  obtain ⟨rest, flat, sizes, marks⟩ :=
    flatMap_commaBefore_threes ds.length (ds.drop r) (0 + (ds.take r).length) (by omega)
      (by rw [List.length_drop]; omega) (by rw [List.length_drop]; omega)
  refine ⟨ds.take r, rest, ?_, ?_, by omega, by omega, sizes⟩
  · rw [groupThousands_toList, digits, split, List.flatMap_append, marks,
      flatMap_commaBefore_first (by omega) (by omega) (by omega)]
    rfl
  · rw [← flat, List.take_append_drop]

theorem joinGroups_filter {first : List Char} {rest : List (List Char)}
    (plain : ',' ∉ first ++ rest.flatten) :
    (joinGroups first rest).filter (· != ',') = first ++ rest.flatten := by
  have kept : (first ++ rest.flatten).filter (· != ',') = first ++ rest.flatten :=
    List.filter_eq_self.mpr fun c mem => bne_iff_ne.mpr fun comma => plain (comma ▸ mem)
  rw [← kept, joinGroups, List.filter_append, List.filter_append, List.filter_flatMap,
    List.flatten_eq_flatMap, List.filter_flatMap]
  simp

theorem joinGroups_head? {first : List Char} (nonempty : first ≠ []) (rest : List (List Char)) :
    (joinGroups first rest).head? = first.head? :=
  List.head?_append_of_ne_nil _ nonempty

theorem joinGroups_getLast? {first : List Char} {rest : List (List Char)} (nonempty : first ≠ [])
    (groups : ∀ g ∈ rest, g ≠ []) :
    ∃ c ∈ first ++ rest.flatten, (joinGroups first rest).getLast? = some c := by
  induction rest generalizing first with
  | nil =>
    refine ⟨first.getLast nonempty, List.mem_append_left _ (List.getLast_mem nonempty), ?_⟩
    simpa [joinGroups] using List.getLast?_eq_some_getLast nonempty
  | cons g rest ih =>
    obtain ⟨c, mem, last⟩ := ih (groups g (List.mem_cons_self ..))
      fun h mem => groups h (List.mem_cons_of_mem _ mem)
    refine ⟨c, ?_, ?_⟩
    · simp only [List.mem_append, List.flatten_cons] at mem ⊢
      exact .inr mem
    · rw [joinGroups_cons, List.getLast?_append, List.getLast?_cons, last]
      rfl

/-- `groupThousands` writes the decimal digits of a number in groups: a first group of one to
three digits, then groups of three, each after a comma, with no comma at either end. With the
commas removed it is the decimal text, which reads back as the number; so no two numbers have
the same grouping. -/
theorem grouping_is_decimal_in_threes (n : Nat) :
    (∃ first rest, (groupThousands n).toList = joinGroups first rest ∧
      first ++ rest.flatten = (toString n).toList ∧
      0 < first.length ∧ first.length ≤ 3 ∧ ∀ g ∈ rest, g.length = 3) ∧
    (groupThousands n).toList.head? ≠ some ',' ∧
    (groupThousands n).toList.getLast? ≠ some ',' ∧
    String.ofList ((groupThousands n).toList.filter (· != ',')) = toString n ∧
    (String.ofList ((groupThousands n).toList.filter (· != ','))).toNat? = some n ∧
    ∀ m, groupThousands m = groupThousands n → m = n := by
  obtain ⟨first, rest, grouped, digits, pos, short, sizes⟩ := groupThousands_eq_joinGroups n
  have nonempty : first ≠ [] := List.length_pos_iff.mp pos
  have plain : ',' ∉ first ++ rest.flatten := fun mem => comma_not_digit (digits ▸ mem) rfl
  have unmarked (k : Nat) :
      String.ofList ((groupThousands k).toList.filter (· != ',')) = toString k := by
    obtain ⟨first, rest, grouped, digits, -⟩ := groupThousands_eq_joinGroups k
    rw [grouped, joinGroups_filter fun mem => comma_not_digit (digits ▸ mem) rfl, digits,
      String.ofList_toList]
  refine ⟨⟨first, rest, grouped, digits, pos, short, sizes⟩, ?_, ?_, unmarked n, ?_, ?_⟩
  · obtain ⟨c, cs, rfl⟩ := List.exists_cons_of_ne_nil nonempty
    rw [grouped, joinGroups_head? nonempty, List.head?_cons, Ne, Option.some.injEq]
    exact comma_not_digit (digits ▸ List.mem_append_left _ (List.mem_cons_self ..))
  · obtain ⟨c, mem, last⟩ :=
      joinGroups_getLast? nonempty fun g mem => List.ne_nil_of_length_pos (by rw [sizes g mem]; omega)
    rw [grouped, last, Ne, Option.some.injEq]
    exact comma_not_digit (digits ▸ mem)
  · rw [unmarked n]
    exact Nat.toNat?_repr n
  · intro m same
    have text := unmarked m
    rw [same, unmarked n] at text
    exact Nat.repr_inj.mp text.symm

example : groupThousands 1000000 = "1,000,000" := by decide

end EncoderBench
