import EncoderBench.Decimal.Text
/-
Reading numbers from command-line text. A decimal is rounded to the nearest double, ties to even,
in exact integer arithmetic on `digits · 10^e`; `inf`, `infinity` and `nan` are words in any
case. An unsigned count is read from an optional plus sign and digits, below a bound.
-/
namespace EncoderBench

namespace Decimal

def assemble (negative : Bool) (m : Nat) (e : Int) : Float :=
  let (m, e) := if m = Nat.pow 2 53 then (Nat.pow 2 52, e + 1) else (m, e)
  let magnitude : Nat :=
    if e > 971 then 0x7FF0000000000000
    else if m < Nat.pow 2 52 then m
    else (e + 1075).toNat * Nat.pow 2 52 + (m - Nat.pow 2 52)
  Float.ofBits ((if negative then Nat.pow 2 63 else 0) + magnitude).toUInt64

def binaryExponent (num den : Nat) : Int :=
  let guess : Int := (num.log2 : Int) - (den.log2 : Int) - 52
  let below (e : Int) : Bool :=
    if 0 ≤ e then num < Nat.pow 2 52 * den * Nat.pow 2 e.toNat else num * Nat.pow 2 (-e).toNat < Nat.pow 2 52 * den
  let e := if below guess then guess - 1 else guess
  max e (-1074)

/-- The double nearest `num / den`, a tie going to the even significand. -/
def nearest (negative : Bool) (num den : Nat) : Float :=
  if num = 0 then assemble negative 0 (-1074)
  else
    let e := binaryExponent num den
    let m := if 0 ≤ e then roundHalfEven num (den * Nat.pow 2 e.toNat)
      else roundHalfEven (num * Nat.pow 2 (-e).toNat) den
    assemble negative m e

/-- The double nearest a decimal.  Past `10^310` every decimal is infinite, below `10^-330`
every one is zero. -/
def toFloat (d : Decimal) : Float :=
  let top := d.exponent + (digitCount d.digits : Int)
  if d.digits = 0 then assemble d.negative 0 (-1074)
  else if top > 310 then assemble d.negative (Nat.pow 2 52) 1000
  else if top < -330 then assemble d.negative 0 (-1074)
  else if 0 ≤ d.exponent then nearest d.negative (d.digits * Nat.pow 10 d.exponent.toNat) 1
  else nearest d.negative d.digits (Nat.pow 10 (-d.exponent).toNat)

end Decimal

namespace NumberText

def digits : List Char → Nat × Nat × List Char
  | c :: rest =>
    if c.isDigit then
      let (n, v, r) := digits rest
      (n + 1, (c.toNat - '0'.toNat) * Nat.pow 10 n + v, r)
    else (0, 0, c :: rest)
  | [] => (0, 0, [])

def exponent : List Char → Option Int
  | [] => some 0
  | c :: rest =>
    if c = 'e' ∨ c = 'E' then
      let (neg, ds) := match rest with
        | '+' :: r => (false, r)
        | '-' :: r => (true, r)
        | r => (false, r)
      let (n, v, after) := digits ds
      if n = 0 ∨ !after.isEmpty then none
      else some (if neg then -(v : Int) else v)
    else none

def decimal (negative : Bool) (cs : List Char) : Option Decimal := do
  let (whole, wv, rest) := digits cs
  let (frac, fv, rest) := match rest with
    | '.' :: r => digits r
    | r => (0, 0, r)
  if whole + frac = 0 then none
  let e ← exponent rest
  some ⟨negative, wv * Nat.pow 10 frac + fv, e - frac⟩

def special (negative : Bool) (word : String) : Option Float :=
  let w := word.toLower
  if w = "inf" ∨ w = "infinity" then some (if negative then -(1.0 / 0.0) else 1.0 / 0.0)
  else if w = "nan" then some (0.0 / 0.0)
  else none

/-- A double from text: an optional sign, then a decimal or a word for the non-finite values. -/
def float? (s : String) : Option Float :=
  let (negative, body) := match s.toList with
    | '+' :: r => (false, r)
    | '-' :: r => (true, r)
    | r => (false, r)
  match special negative (String.ofList body) with
  | some x => some x
  | none => (decimal negative body).map Decimal.toFloat

/-- A count below `bound` from text: an optional plus sign and at least one digit. -/
def count? (bound : Nat) (s : String) : Option Nat :=
  let body := match s.toList with
    | '+' :: r => r
    | r => r
  let (n, v, rest) := digits body
  if n = 0 ∨ !rest.isEmpty ∨ bound ≤ v then none else some v

end NumberText

end EncoderBench
