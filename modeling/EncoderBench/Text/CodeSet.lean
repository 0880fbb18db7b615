/-
Sets of code points as the Unicode property tables give them: a list of closed ranges, in
increasing order, none touching the next.  Membership is the existence of a range around the
point.
-/
namespace EncoderBench

/-- A set of code points: the union of the closed ranges `(first, last)`. -/
structure CodeSet where
  ranges : List (Nat × Nat)
  deriving Repr, Inhabited

namespace CodeSet

def containsPoint (s : CodeSet) (n : Nat) : Bool :=
  s.ranges.any fun (first, last) => first ≤ n && n ≤ last

def contains (s : CodeSet) (c : Char) : Bool := s.containsPoint c.toNat

theorem containsPoint_iff (s : CodeSet) (n : Nat) :
    s.containsPoint n = true ↔ ∃ r ∈ s.ranges, r.1 ≤ n ∧ n ≤ r.2 := by
  simp [containsPoint]

end CodeSet

end EncoderBench
