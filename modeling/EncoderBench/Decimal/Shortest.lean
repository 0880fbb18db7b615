/-
Finite doubles as exact integers, and the shortest decimal that reads back to a double. For each
digit count up to 17 the two grid points next to the value are tested in exact arithmetic; the
first count with a point inside the rounding window wins.
-/
namespace EncoderBench

/-- A finite double as sign, significand and binary exponent:
`(-1)^negative · mantissa · 2^exponent`. -/
structure Dyadic where
  negative : Bool
  mantissa : Nat
  exponent : Int
  deriving Repr, DecidableEq

structure Decimal where
  negative : Bool
  digits : Nat
  exponent : Int
  deriving Repr, DecidableEq

inductive Tie
  | up
  | even
  deriving Repr, DecidableEq, Inhabited

def Tie.pick : Tie → Nat → Nat
  | .up, lo => lo + 1
  | .even, lo => if lo % 2 = 0 then lo else lo + 1

namespace Dyadic

def ofFloat? (x : Float) : Option Dyadic :=
  let bits : Nat := x.toBits.toNat
  let fraction : Nat := bits % Nat.pow 2 52
  let biased : Nat := (bits / Nat.pow 2 52) % Nat.pow 2 11
  let negative := decide (Nat.pow 2 63 ≤ bits)
  if biased = 2047 then none
  else if biased = 0 then some ⟨negative, fraction, -1074⟩
  else some ⟨negative, Nat.pow 2 52 + fraction, (biased : Int) - 1075⟩

def scaled (x : Nat) (e : Int) : Nat × Nat :=
  if 0 ≤ e then (x * Nat.pow 2 e.toNat, 1) else (x, Nat.pow 2 (-e).toNat)

end Dyadic

/-- The reals that round to a positive double, over the common denominator `den`:
the value is `value / den`, the ends are `low / den` and `high / den`, and `closed` says
whether the ends themselves round to the double. -/
structure RoundingWindow where
  low : Nat
  value : Nat
  high : Nat
  den : Nat
  closed : Bool
  deriving Repr

namespace RoundingWindow

def ofDyadic (m : Nat) (q : Int) : RoundingWindow :=
  let below := if m = Nat.pow 2 52 ∧ -1074 < q then 1 else 2
  let (f, den) := Dyadic.scaled 1 (q - 2)
  ⟨(4 * m - below) * f, 4 * m * f, (4 * m + 2) * f, den, m % 2 == 0⟩

def contains (w : RoundingWindow) (c : Nat) : Bool :=
  if w.closed then w.low ≤ c && c ≤ w.high else w.low < c && c < w.high

end RoundingWindow

namespace Decimal

def digitCount (n : Nat) : Nat := (Nat.toDigits 10 n).length

def leadingExponent (num den : Nat) : Int :=
  if den ≤ num then (digitCount (num / den) : Int) - 1
  else
    let c := (den + num - 1) / num
    Int.neg (digitCount (c - 1))

def stripZeros (digits : Nat) (exponent : Int) : (fuel : Nat) → Nat × Int
  | 0 => (digits, exponent)
  | fuel + 1 =>
    if digits ≠ 0 ∧ digits % 10 = 0 then stripZeros (digits / 10) (exponent + 1) fuel
    else (digits, exponent)

def normalize (d : Decimal) : Decimal :=
  let r := stripZeros d.digits d.exponent (digitCount d.digits)
  ⟨d.negative, r.1, r.2⟩

/-- The grid point chosen among the `k`-digit neighbours of the window's value, if one lies in
the window, an exact tie going as `tie` says.  `e` is the leading decimal exponent of the
value. -/
def gridPick (w : RoundingWindow) (e : Int) (tie : Tie) (k : Nat) : Option (Nat × Int) :=
  let p := e - (k : Int) + 1
  let scale := if 0 ≤ p then 1 else Nat.pow 10 (-p).toNat
  let unit := if 0 ≤ p then Nat.pow 10 p.toNat * w.den else w.den
  let w' : RoundingWindow := ⟨w.low * scale, w.value * scale, w.high * scale, w.den, w.closed⟩
  let lo := w'.value / unit
  let loIn := w'.contains (lo * unit)
  let hiIn := w'.contains ((lo + 1) * unit)
  if loIn && hiIn then
    let below := w'.value - lo * unit
    let above := (lo + 1) * unit - w'.value
    if below < above then some (lo, p)
    else if above < below then some (lo + 1, p)
    else some (tie.pick lo, p)
  else if loIn then some (lo, p)
  else if hiIn then some (lo + 1, p)
  else none

def seventeenDigits (w : RoundingWindow) (e : Int) : Nat × Int :=
  let p := e - 16
  let unit := if 0 ≤ p then Nat.pow 10 p.toNat * w.den else w.den
  let scale := if 0 ≤ p then 1 else Nat.pow 10 (-p).toNat
  ((w.value * scale + unit / 2) / unit, p)

def shortestOfWindow (tie : Tie) (w : RoundingWindow) : Nat × Int :=
  let e := leadingExponent w.value w.den
  let found := (List.range' 1 17).findSome? (gridPick w e tie)
  found.getD (seventeenDigits w e)

def ofDyadic (tie : Tie) (x : Dyadic) : Decimal :=
  if x.mantissa = 0 then ⟨x.negative, 0, 0⟩
  else
    let r := shortestOfWindow tie (RoundingWindow.ofDyadic x.mantissa x.exponent)
    normalize ⟨x.negative, r.1, r.2⟩

def shortest? (tie : Tie) (x : Float) : Option Decimal := (Dyadic.ofFloat? x).map (ofDyadic tie)

end Decimal

end EncoderBench
