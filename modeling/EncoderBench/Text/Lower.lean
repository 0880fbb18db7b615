import EncoderBench.Text.Cased
import EncoderBench.Text.CaseIgnorable
/-
Lower case of a text by the Unicode case mappings, as of Unicode 17.0: a table of runs lowered by
a fixed offset, with capital I with dot above lowering to two characters and capital sigma to
final sigma at the end of a word.
-/
namespace EncoderBench

namespace Lower

/-- A run of upper-case letters: every code point of `lo‥hi` (or, when `alternating`, every
other one starting at `lo`) lowers by adding `shift`. -/
structure CaseRun where
  lo : Nat
  hi : Nat
  shift : Int
  alternating : Bool

def offset (lo hi : Nat) (shift : Int) : CaseRun := ⟨lo, hi, shift, false⟩
def alternate (lo hi : Nat) (shift : Int) : CaseRun := ⟨lo, hi, shift, true⟩
def pairs (lo hi : Nat) : CaseRun := alternate lo hi 1
def single (upper lower : Nat) : CaseRun := ⟨upper, upper, (lower : Int) - upper, false⟩

/-- The characters whose lower case is one other character, in code point order. -/
def runs : List CaseRun := [
  offset 0x41 0x5A 32, offset 0xC0 0xD6 32, offset 0xD8 0xDE 32, pairs 0x100 0x12E,
  pairs 0x132 0x136, pairs 0x139 0x147, pairs 0x14A 0x176, single 0x178 0xFF, pairs 0x179 0x17D,
  single 0x181 0x253, pairs 0x182 0x184, single 0x186 0x254, single 0x187 0x188,
  offset 0x189 0x18A 205, single 0x18B 0x18C, single 0x18E 0x1DD, single 0x18F 0x259,
  single 0x190 0x25B, single 0x191 0x192, single 0x193 0x260, single 0x194 0x263,
  single 0x196 0x269, single 0x197 0x268, single 0x198 0x199, single 0x19C 0x26F,
  single 0x19D 0x272, single 0x19F 0x275, pairs 0x1A0 0x1A4, single 0x1A6 0x280, single 0x1A7 0x1A8,
  single 0x1A9 0x283, single 0x1AC 0x1AD, single 0x1AE 0x288, single 0x1AF 0x1B0,
  offset 0x1B1 0x1B2 217, pairs 0x1B3 0x1B5, single 0x1B7 0x292, single 0x1B8 0x1B9,
  single 0x1BC 0x1BD, single 0x1C4 0x1C6, single 0x1C5 0x1C6, single 0x1C7 0x1C9,
  single 0x1C8 0x1C9, single 0x1CA 0x1CC, pairs 0x1CB 0x1DB, pairs 0x1DE 0x1EE, single 0x1F1 0x1F3,
  pairs 0x1F2 0x1F4, single 0x1F6 0x195, single 0x1F7 0x1BF, pairs 0x1F8 0x21E, single 0x220 0x19E,
  pairs 0x222 0x232, single 0x23A 0x2C65, single 0x23B 0x23C, single 0x23D 0x19A,
  single 0x23E 0x2C66, single 0x241 0x242, single 0x243 0x180, single 0x244 0x289,
  single 0x245 0x28C, pairs 0x246 0x24E, pairs 0x370 0x372, single 0x376 0x377, single 0x37F 0x3F3,
  single 0x386 0x3AC, offset 0x388 0x38A 37, single 0x38C 0x3CC, offset 0x38E 0x38F 63,
  offset 0x391 0x3A1 32, offset 0x3A3 0x3AB 32, single 0x3CF 0x3D7, pairs 0x3D8 0x3EE,
  single 0x3F4 0x3B8, single 0x3F7 0x3F8, single 0x3F9 0x3F2, single 0x3FA 0x3FB,
  offset 0x3FD 0x3FF (-130), offset 0x400 0x40F 80, offset 0x410 0x42F 32, pairs 0x460 0x480,
  pairs 0x48A 0x4BE, single 0x4C0 0x4CF, pairs 0x4C1 0x4CD, pairs 0x4D0 0x52E,
  offset 0x531 0x556 48, offset 0x10A0 0x10C5 7264, single 0x10C7 0x2D27, single 0x10CD 0x2D2D,
  offset 0x13A0 0x13EF 38864, offset 0x13F0 0x13F5 8, single 0x1C89 0x1C8A,
  offset 0x1C90 0x1CBA (-3008), offset 0x1CBD 0x1CBF (-3008), pairs 0x1E00 0x1E94,
  single 0x1E9E 0xDF, pairs 0x1EA0 0x1EFE, offset 0x1F08 0x1F0F (-8), offset 0x1F18 0x1F1D (-8),
  offset 0x1F28 0x1F2F (-8), offset 0x1F38 0x1F3F (-8), offset 0x1F48 0x1F4D (-8),
  alternate 0x1F59 0x1F5F (-8), offset 0x1F68 0x1F6F (-8), offset 0x1F88 0x1F8F (-8),
  offset 0x1F98 0x1F9F (-8), offset 0x1FA8 0x1FAF (-8), offset 0x1FB8 0x1FB9 (-8),
  offset 0x1FBA 0x1FBB (-74), single 0x1FBC 0x1FB3, offset 0x1FC8 0x1FCB (-86),
  single 0x1FCC 0x1FC3, offset 0x1FD8 0x1FD9 (-8), offset 0x1FDA 0x1FDB (-100),
  offset 0x1FE8 0x1FE9 (-8), offset 0x1FEA 0x1FEB (-112), single 0x1FEC 0x1FE5,
  offset 0x1FF8 0x1FF9 (-128), offset 0x1FFA 0x1FFB (-126), single 0x1FFC 0x1FF3,
  single 0x2126 0x3C9, single 0x212A 0x6B, single 0x212B 0xE5, single 0x2132 0x214E,
  offset 0x2160 0x216F 16, single 0x2183 0x2184, offset 0x24B6 0x24CF 26, offset 0x2C00 0x2C2F 48,
  single 0x2C60 0x2C61, single 0x2C62 0x26B, single 0x2C63 0x1D7D, single 0x2C64 0x27D,
  pairs 0x2C67 0x2C6B, single 0x2C6D 0x251, single 0x2C6E 0x271, single 0x2C6F 0x250,
  single 0x2C70 0x252, single 0x2C72 0x2C73, single 0x2C75 0x2C76, offset 0x2C7E 0x2C7F (-10815),
  pairs 0x2C80 0x2CE2, pairs 0x2CEB 0x2CED, single 0x2CF2 0x2CF3, pairs 0xA640 0xA66C,
  pairs 0xA680 0xA69A, pairs 0xA722 0xA72E, pairs 0xA732 0xA76E, pairs 0xA779 0xA77B,
  single 0xA77D 0x1D79, pairs 0xA77E 0xA786, single 0xA78B 0xA78C, single 0xA78D 0x265,
  pairs 0xA790 0xA792, pairs 0xA796 0xA7A8, single 0xA7AA 0x266, single 0xA7AB 0x25C,
  single 0xA7AC 0x261, single 0xA7AD 0x26C, single 0xA7AE 0x26A, single 0xA7B0 0x29E,
  single 0xA7B1 0x287, single 0xA7B2 0x29D, single 0xA7B3 0xAB53, pairs 0xA7B4 0xA7C2,
  single 0xA7C4 0xA794, single 0xA7C5 0x282, single 0xA7C6 0x1D8E, pairs 0xA7C7 0xA7C9,
  single 0xA7CB 0x264, pairs 0xA7CC 0xA7DA, single 0xA7DC 0x19B, single 0xA7F5 0xA7F6,
  offset 0xFF21 0xFF3A 32, offset 0x10400 0x10427 40, offset 0x104B0 0x104D3 40,
  offset 0x10570 0x1057A 39, offset 0x1057C 0x1058A 39, offset 0x1058C 0x10592 39,
  offset 0x10594 0x10595 39, offset 0x10C80 0x10CB2 64, offset 0x10D50 0x10D65 32,
  offset 0x118A0 0x118BF 32, offset 0x16E40 0x16E5F 32, offset 0x16EA0 0x16EB8 27,
  offset 0x1E900 0x1E921 34]

def CaseRun.covers (r : CaseRun) (n : Nat) : Bool :=
  r.lo ≤ n && n ≤ r.hi && (!r.alternating || (n - r.lo) % 2 == 0)

def lowerChar (c : Char) : Char :=
  match runs.find? (·.covers c.toNat) with
  | some r => Char.ofNat ((c.toNat : Int) + r.shift).toNat
  | none => c

def casedNext (cs : List Char) : Bool :=
  match cs.dropWhile Unicode.isCaseIgnorable with
  | c :: _ => Unicode.isCased c
  | [] => false

/-- Lowers a text read left to right; `before` holds the characters already read, nearest
first. -/
def lowerList : List Char → List Char → List Char
  | _, [] => []
  | before, c :: rest =>
    let here : List Char :=
      if c.toNat == 0x130 then ['i', Char.ofNat 0x307]
      else if c.toNat == 0x3A3 then
        if casedNext before && !casedNext rest then [Char.ofNat 0x3C2] else [Char.ofNat 0x3C3]
      else [lowerChar c]
    here ++ lowerList (c :: before) rest

def lower (s : String) : String := String.ofList (lowerList [] s.toList)

end Lower

end EncoderBench
