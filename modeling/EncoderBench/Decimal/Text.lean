import EncoderBench.Decimal.Shortest
/-
Text of doubles.  A layout record fixes which of two equally near shortest decimals is written,
where a number is written positionally, whether an integral value keeps a ".0", whether a
positive exponent shows its sign, and the words for NaN and the infinities.  Fixed places round the exact binary value, a half going to the even neighbour.
-/
namespace EncoderBench

/-- The format decisions of a printer of shortest decimals. -/
structure Layout where
  tie : Tie
  positional : Int → Bool
  pointZero : Bool
  plusExponent : Bool
  notANumber : String
  infinity : String

namespace Layout

def plain : Layout := ⟨.up, fun _ => true, false, false, "NaN", "inf"⟩

def data : Layout := ⟨.even, fun kk => -5 < kk ∧ kk ≤ 16, true, true, "null", "null"⟩

end Layout

namespace Decimal

def zeros (n : Nat) : String := String.ofList (List.replicate n '0')

/-- The text of the decimal under a layout. -/
def render (layout : Layout) (d : Decimal) : String :=
  let sign := if d.negative then "-" else ""
  let s := toString d.digits
  let n := s.length
  let kk := (n : Int) + d.exponent
  if d.digits = 0 then sign ++ (if layout.pointZero then "0.0" else "0")
  else if layout.positional kk then
    if 0 ≤ d.exponent then
      sign ++ s ++ zeros d.exponent.toNat ++ (if layout.pointZero then ".0" else "")
    else if 0 < kk then
      sign ++ String.ofList (s.toList.take kk.toNat) ++ "." ++ String.ofList (s.toList.drop kk.toNat)
    else sign ++ "0." ++ zeros (-kk).toNat ++ s
  else
    let mark := "e" ++ (if layout.plusExponent && 0 < kk - 1 then "+" else "") ++ toString (kk - 1)
    if n = 1 then sign ++ s ++ mark
    else sign ++ String.ofList (s.toList.take 1) ++ "." ++ String.ofList (s.toList.drop 1) ++ mark

end Decimal

def renderFloat (layout : Layout) (x : Float) : String :=
  match Decimal.shortest? layout.tie x with
  | some d => d.render layout
  | none =>
    if x.isNaN then layout.notANumber
    else if 0 < x then layout.infinity else "-" ++ layout.infinity

def plainText (x : Float) : String := renderFloat Layout.plain x

/-- `num / den` rounded to an integer, a half going to the even neighbour. -/
def roundHalfEven (num den : Nat) : Nat :=
  let q := num / den
  let r := num % den
  if 2 * r > den then q + 1
  else if 2 * r = den ∧ q % 2 = 1 then q + 1
  else q

def fixedText (places : Nat) (x : Float) : String :=
  match Dyadic.ofFloat? x with
  | none => if x.isNaN then "NaN" else if 0 < x then "inf" else "-inf"
  | some d =>
    let (num, den) := Dyadic.scaled (d.mantissa * Nat.pow 10 places) d.exponent
    let r := toString (roundHalfEven num den)
    let padded := Decimal.zeros (places + 1 - r.length) ++ r
    let cut := padded.length - places
    let whole := String.ofList (padded.toList.take cut)
    let frac := String.ofList (padded.toList.drop cut)
    (if d.negative then "-" else "") ++ whole ++ (if places = 0 then "" else "." ++ frac)

end EncoderBench
