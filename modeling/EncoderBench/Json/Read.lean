import EncoderBench.Decimal.Text
import EncoderBench.Text.Debug
/-
Reading JSON text against an expected shape, in document order; the first problem met is the one
reported, at a place kept as the number of bytes after it. Integers are exact up to 64 bits, other
numbers become doubles by one scaling by a power of ten. Loops run on fuel equal to the text's
length, since every round reads a character, and skipping takes twice that.
-/
namespace EncoderBench

namespace Json

/-- Why reading a JSON text stopped. -/
inductive Problem where
  | eofWhileParsingList
  | eofWhileParsingObject
  | eofWhileParsingString
  | eofWhileParsingValue
  | expectedColon
  | expectedListCommaOrEnd
  | expectedObjectCommaOrEnd
  | expectedSomeIdent
  | expectedSomeValue
  | invalidEscape
  | invalidNumber
  | numberOutOfRange
  | controlCharacterWhileParsingString
  | keyMustBeAString
  | loneLeadingSurrogateInHexEscape
  | trailingComma
  | trailingCharacters
  | unexpectedEndOfHexEscape
  | data (message : String)
  deriving Repr, DecidableEq, Inhabited

namespace Problem

def category : Problem → String
  | eofWhileParsingList | eofWhileParsingObject | eofWhileParsingString
  | eofWhileParsingValue => "eof"
  | data _ => "data"
  | _ => "syntax"

def text : Problem → String
  | eofWhileParsingList => "EOF while parsing a list"
  | eofWhileParsingObject => "EOF while parsing an object"
  | eofWhileParsingString => "EOF while parsing a string"
  | eofWhileParsingValue => "EOF while parsing a value"
  | expectedColon => "expected `:`"
  | expectedListCommaOrEnd => "expected `,` or `]`"
  | expectedObjectCommaOrEnd => "expected `,` or `\x7d`"
  | expectedSomeIdent => "expected ident"
  | expectedSomeValue => "expected value"
  | invalidEscape => "invalid escape"
  | invalidNumber => "invalid number"
  | numberOutOfRange => "number out of range"
  | controlCharacterWhileParsingString =>
    "control character (\\u0000-\\u001F) found while parsing a string"
  | keyMustBeAString => "key must be a string"
  | loneLeadingSurrogateInHexEscape => "lone leading surrogate in hex escape"
  | trailingComma => "trailing comma"
  | trailingCharacters => "trailing characters"
  | unexpectedEndOfHexEscape => "unexpected end of hex escape"
  | data message => message

end Problem

/-- A problem and where it is reported: the number of bytes of the text after that place. -/
structure ReadError where
  problem : Problem
  rest : Nat
  deriving Repr, DecidableEq, Inhabited

abbrev Input := List Char

abbrev Step (α : Type) := Except ReadError (α × Input)

def bytes (cs : Input) : Nat := cs.foldl (fun n c => n + c.utf8Size) 0

def failAt (p : Problem) (cs : Input) : ReadError := ⟨p, bytes cs⟩

def failPast (p : Problem) (cs : Input) : ReadError := ⟨p, bytes cs - 1⟩

/-! Messages of values of the wrong shape -/

inductive Unexpected where
  | null
  | bool (b : Bool)
  | unsigned (n : Nat)
  | signed (n : Int)
  | float (x : Float)
  | str (s : String)
  | seq
  | map
  deriving Inhabited

def Unexpected.text : Unexpected → String
  | .null => "null"
  | .bool b => "boolean `" ++ toString b ++ "`"
  | .unsigned n => "integer `" ++ toString n ++ "`"
  | .signed n => "integer `" ++ toString n ++ "`"
  | .float x => "floating point `" ++ renderFloat Layout.data x ++ "`"
  | .str s => "string " ++ Debug.quote s
  | .seq => "sequence"
  | .map => "map"

def invalidType (u : Unexpected) (expected : String) : String :=
  "invalid type: " ++ u.text ++ ", expected " ++ expected

def invalidValue (u : Unexpected) (expected : String) : String :=
  "invalid value: " ++ u.text ++ ", expected " ++ expected

def invalidLength (n : Nat) (expected : String) : String :=
  "invalid length " ++ toString n ++ ", expected " ++ expected

def missingField (name : String) : String := "missing field `" ++ name ++ "`"

def duplicateField (name : String) : String := "duplicate field `" ++ name ++ "`"

def oneOf : List String → String
  | [] => "nothing"
  | [a] => "`" ++ a ++ "`"
  | [a, b] => "`" ++ a ++ "` or `" ++ b ++ "`"
  | names => "one of " ++ ", ".intercalate (names.map fun n => "`" ++ n ++ "`")

def unknownVariant (name : String) (names : List String) : String :=
  if names.isEmpty then "unknown variant `" ++ name ++ "`, there are no variants"
  else "unknown variant `" ++ name ++ "`, expected " ++ oneOf names

/-! Characters -/

def isBlank (c : Char) : Bool := c == ' ' || c == '\n' || c == '\t' || c == '\r'

def skipBlank (cs : Input) : Input := cs.dropWhile isBlank

def digitVal (c : Char) : Nat := c.toNat - '0'.toNat

def hexVal? (c : Char) : Option Nat :=
  if c.isDigit then some (digitVal c)
  else if 'a' ≤ c ∧ c ≤ 'f' then some (c.toNat - 'a'.toNat + 10)
  else if 'A' ≤ c ∧ c ≤ 'F' then some (c.toNat - 'A'.toNat + 10)
  else none

def expectWord : List Char → Input → Step Unit
  | [], cs => .ok ((), cs)
  | _ :: _, [] => .error (failAt .eofWhileParsingValue [])
  | w :: ws, c :: cs => if c == w then expectWord ws cs else .error (failPast .expectedSomeIdent (c :: cs))

/-! Numbers -/

inductive Number where
  | unsigned (n : Nat)
  | negative (n : Int)
  | float (x : Float)
  deriving Inhabited

def Number.toFloat : Number → Float
  | .unsigned n => Float.ofNat n
  | .negative n => Float.ofInt n
  | .float x => x

def Number.unexpected : Number → Unexpected
  | .unsigned n => .unsigned n
  | .negative n => .signed n
  | .float x => .float x

def maxU64 : Nat := Nat.pow 2 64 - 1
def maxI32 : Nat := Nat.pow 2 31 - 1

def overflows (acc d limit : Nat) : Bool :=
  acc ≥ limit / 10 && (acc > limit / 10 || d > limit % 10)

def clampI32 (e : Int) : Int := max (-2147483648) (min e 2147483647)

def pow10 (k : Nat) : Float := Float.ofScientific 1 false k

def scaleByPow10 (f : Float) (e : Int) : (fuel : Nat) → Option Float
  | 0 => some f
  | fuel + 1 =>
    if e.natAbs ≤ 308 then
      if 0 ≤ e then
        let g := f * pow10 e.natAbs
        if g.isInf then none else some g
      else some (f / pow10 e.natAbs)
    else if f == 0.0 then some f
    else if 0 ≤ e then none
    else scaleByPow10 (f / pow10 308) (e + 308) fuel

def fromParts (positive : Bool) (significand : Nat) (exponent : Int) : Option Float :=
  (scaleByPow10 (Float.ofNat significand) exponent (exponent.natAbs / 308 + 2)).map fun f =>
    if positive then f else -f

def finishFloat (positive : Bool) (significand : Nat) (exponent : Int) (cs : Input) : Step Float :=
  match fromParts positive significand exponent with
  | some f => .ok (f, cs)
  | none => .error (failAt .numberOutOfRange cs)

def exponentDigits (positive : Bool) (significand : Nat) (start : Int) (up : Bool) :
    Nat → Input → Step Float
  | acc, c :: rest =>
    if c.isDigit then
      if overflows acc (digitVal c) maxI32 then
        if significand ≠ 0 && up then .error (failAt .numberOutOfRange rest)
        else .ok (if positive then 0.0 else -0.0, rest.dropWhile Char.isDigit)
      else exponentDigits positive significand start up (acc * 10 + digitVal c) rest
    else finishFloat positive significand (clampI32 (if up then start + acc else start - acc)) (c :: rest)
  | acc, [] => finishFloat positive significand (clampI32 (if up then start + acc else start - acc)) []

def exponentPart (positive : Bool) (significand : Nat) (start : Int) (cs : Input) : Step Float :=
  let (up, cs) := match cs with
    | '+' :: r => (true, r)
    | '-' :: r => (false, r)
    | _ => (true, cs)
  match cs with
  | [] => .error (failAt .eofWhileParsingValue [])
  | c :: rest =>
    if c.isDigit then exponentDigits positive significand start up (digitVal c) rest
    else .error (failPast .invalidNumber (c :: rest))

def mantissaEnd (positive : Bool) (significand : Nat) (exponent : Int) : Input → Step Float
  | 'e' :: r | 'E' :: r => exponentPart positive significand exponent r
  | cs => finishFloat positive significand exponent cs

def fractionDigits (positive : Bool) (before : Int) : Nat → Int → Input → Step Float
  | significand, after, c :: rest =>
    if c.isDigit then
      if overflows significand (digitVal c) maxU64 then
        mantissaEnd positive significand (before + after) ((c :: rest).dropWhile Char.isDigit)
      else fractionDigits positive before (significand * 10 + digitVal c) (after - 1) rest
    else if after = 0 then .error (failPast .invalidNumber (c :: rest))
    else mantissaEnd positive significand (before + after) (c :: rest)
  | significand, after, [] =>
    if after = 0 then .error (failPast .eofWhileParsingValue [])
    else mantissaEnd positive significand (before + after) []

def longDigits (positive : Bool) (significand : Nat) : Int → Input → Step Float
  | exponent, c :: rest =>
    if c.isDigit then longDigits positive significand (exponent + 1) rest
    else if c == '.' then fractionDigits positive exponent significand 0 rest
    else mantissaEnd positive significand exponent (c :: rest)
  | exponent, [] => mantissaEnd positive significand exponent []

def integerEnd (positive : Bool) (significand : Nat) : Input → Step Number
  | '.' :: r => (fractionDigits positive 0 significand 0 r).map fun (x, r) => (.float x, r)
  | 'e' :: r | 'E' :: r => (exponentPart positive significand 0 r).map fun (x, r) => (.float x, r)
  | cs =>
    if positive then .ok (.unsigned significand, cs)
    else if significand = 0 ∨ Nat.pow 2 63 < significand then .ok (.float (-(Float.ofNat significand)), cs)
    else .ok (.negative (-(significand : Int)), cs)

def integerDigits (positive : Bool) : Nat → Input → Step Number
  | significand, c :: rest =>
    if c.isDigit then
      if overflows significand (digitVal c) maxU64 then
        (longDigits positive significand 0 (c :: rest)).map fun (x, r) => (.float x, r)
      else integerDigits positive (significand * 10 + digitVal c) rest
    else integerEnd positive significand (c :: rest)
  | significand, [] => integerEnd positive significand []

def number (positive : Bool) : Input → Step Number
  | [] => .error (failAt .eofWhileParsingValue [])
  | '0' :: rest =>
    match rest with
    | c :: _ => if c.isDigit then .error (failPast .invalidNumber rest) else integerEnd positive 0 rest
    | [] => integerEnd positive 0 []
  | c :: rest =>
    if '1' ≤ c ∧ c ≤ '9' then integerDigits positive (digitVal c) rest
    else .error (failPast .invalidNumber (c :: rest))

def skipNumber (cs : Input) : Step Unit :=
  let digit (cs : Input) : Except ReadError Input :=
    match cs with
    | c :: r => if c.isDigit then .ok r else .error (failPast .invalidNumber (c :: r))
    | [] => .error (failAt .invalidNumber [])
  let exponent (cs : Input) : Step Unit :=
    let cs := match cs with
      | '+' :: r | '-' :: r => r
      | _ => cs
    (digit cs).map fun r => ((), r.dropWhile Char.isDigit)
  let afterInt (cs : Input) : Step Unit :=
    match cs with
    | '.' :: r =>
      match r with
      | c :: _ =>
        if c.isDigit then
          match r.dropWhile Char.isDigit with
          | 'e' :: r' | 'E' :: r' => exponent r'
          | r' => .ok ((), r')
        else .error (failPast .invalidNumber r)
      | [] => .error (failPast .invalidNumber [])
    | 'e' :: r | 'E' :: r => exponent r
    | _ => .ok ((), cs)
  match cs with
  | '0' :: r =>
    match r with
    | c :: _ => if c.isDigit then .error (failPast .invalidNumber r) else afterInt r
    | [] => afterInt r
  | c :: r =>
    if '1' ≤ c ∧ c ≤ '9' then afterInt (r.dropWhile Char.isDigit)
    else .error (failPast .invalidNumber (c :: r))
  | [] => .error (failAt .invalidNumber [])

/-! Strings -/

def hex4 (cs : Input) : Step Nat :=
  let pre := cs.take 4
  if bytes pre < 4 then .error (failAt .eofWhileParsingString [])
  else match pre.mapM hexVal? with
    | some ds =>
      if ds.length = 4 then .ok (ds.foldl (fun n d => 16 * n + d) 0, cs.drop 4)
      else .error ⟨.invalidEscape, bytes cs - 4⟩
    | none => .error ⟨.invalidEscape, bytes cs - 4⟩

def simpleEscape? : Char → Option Char
  | '"' => some '"' | '\\' => some '\\' | '/' => some '/' | 'b' => some (Char.ofNat 8)
  | 'f' => some (Char.ofNat 12) | 'n' => some '\n' | 'r' => some '\r' | 't' => some '\t'
  | _ => none

def unicodeEscape (checked : Bool) (cs : Input) : Except ReadError (Char × Input) := do
  let (n, r) ← hex4 cs
  if !checked then return (Char.ofNat n, r)
  if 0xDC00 ≤ n ∧ n ≤ 0xDFFF then throw (failAt .loneLeadingSurrogateInHexEscape r)
  if n < 0xD800 ∨ 0xDBFF < n then return (Char.ofNat n, r)
  match r with
  | [] => throw (failAt .eofWhileParsingString [])
  | '\\' :: r2 =>
    match r2 with
    | [] => throw (failAt .eofWhileParsingString [])
    | 'u' :: r3 =>
      let (n2, r4) ← hex4 r3
      if 0xDC00 ≤ n2 ∧ n2 ≤ 0xDFFF then
        return (Char.ofNat (((n - 0xD800) * 0x400 + (n2 - 0xDC00)) + 0x10000), r4)
      else throw (failAt .loneLeadingSurrogateInHexEscape r4)
    | _ => throw (failPast .unexpectedEndOfHexEscape r2)
  | _ => throw (failPast .unexpectedEndOfHexEscape r)

def stringBody (checked : Bool) : (fuel : Nat) → List Char → Input → Step String
  | 0, _, _ => .error (failAt .eofWhileParsingString [])
  | _ + 1, _, [] => .error (failAt .eofWhileParsingString [])
  | fuel + 1, acc, c :: rest =>
    if c == '"' then .ok (String.ofList acc.reverse, rest)
    else if c == '\\' then
      match rest with
      | [] => .error (failAt .eofWhileParsingString [])
      | e :: rest' =>
        match simpleEscape? e with
        | some ch => stringBody checked fuel (ch :: acc) rest'
        | none =>
          if e == 'u' then
            match unicodeEscape checked rest' with
            | .ok (ch, r) => stringBody checked fuel (ch :: acc) r
            | .error err => .error err
          else .error (failPast .invalidEscape rest)
    else if c.toNat < 0x20 then
      .error (failAt .controlCharacterWhileParsingString (if checked then rest else c :: rest))
    else stringBody checked fuel (c :: acc) rest

def string (checked : Bool) (cs : Input) : Step String := stringBody checked (cs.length + 1) [] cs

/-! Skipping values that are not expected -/

mutual

def skipValue : (fuel : Nat) → Input → Step Unit
  | 0, _ => .error (failAt .eofWhileParsingValue [])
  | fuel + 1, cs =>
    match skipBlank cs with
    | [] => .error (failPast .eofWhileParsingValue [])
    | 'n' :: r => expectWord ['u', 'l', 'l'] r
    | 't' :: r => expectWord ['r', 'u', 'e'] r
    | 'f' :: r => expectWord ['a', 'l', 's', 'e'] r
    | '-' :: r => skipNumber r
    | '"' :: r => (string false r).map fun (_, r) => ((), r)
    | '[' :: r =>
      match skipBlank r with
      | ']' :: r' => .ok ((), r')
      | [] => .error (failPast .eofWhileParsingList [])
      | r' => skipItems fuel r'
    | '\x7b' :: r =>
      match skipBlank r with
      | '\x7d' :: r' => .ok ((), r')
      | [] => .error (failPast .eofWhileParsingObject [])
      | r' => skipMembers fuel r'
    | c :: r =>
      if c.isDigit then skipNumber (c :: r) else .error (failPast .expectedSomeValue (c :: r))

def skipItems : (fuel : Nat) → Input → Step Unit
  | 0, _ => .error (failAt .eofWhileParsingList [])
  | fuel + 1, cs =>
    match skipValue fuel cs with
    | .error e => .error e
    | .ok ((), r) =>
      match skipBlank r with
      | ',' :: r' => skipItems fuel r'
      | ']' :: r' => .ok ((), r')
      | [] => .error (failPast .eofWhileParsingList [])
      | r' => .error (failPast .expectedListCommaOrEnd r')

def skipMembers : (fuel : Nat) → Input → Step Unit
  | 0, _ => .error (failAt .eofWhileParsingObject [])
  | fuel + 1, cs =>
    match skipBlank cs with
    | '"' :: r =>
      match string false r with
      | .error e => .error e
      | .ok (_, r) =>
        match skipBlank r with
        | ':' :: r =>
          match skipValue fuel r with
          | .error e => .error e
          | .ok ((), r) =>
            match skipBlank r with
            | ',' :: r' => skipMembers fuel r'
            | '\x7d' :: r' => .ok ((), r')
            | [] => .error (failPast .eofWhileParsingObject [])
            | r' => .error (failPast .expectedObjectCommaOrEnd r')
        | [] => .error (failPast .eofWhileParsingObject [])
        | r' => .error (failPast .expectedColon r')
    | [] => .error (failPast .eofWhileParsingObject [])
    | r' => .error (failPast .keyMustBeAString r')

end

/-- Skips one well-formed value.  Opening a nested array or object takes two rounds for one
character, so the fuel is twice the length of the text, plus one; the skip never runs short, and
however deep the nesting, only the text decides the outcome. -/
def skip (cs : Input) : Step Unit := skipValue (2 * cs.length + 1) cs

/-! Values of an expected shape -/

/-- The problem reported for a value that is not `expected`, at its first character: the
scalar there is read first, and a problem in it wins; a well-formed value is of the wrong type,
reported after a scalar and at the bracket of an array or object; a character that starts no
value is not a value. -/
def unexpected (expected : String) (cs : Input) : ReadError :=
  let wrong (u : Unexpected) (r : Input) : ReadError := ⟨.data (invalidType u expected), bytes r⟩
  match cs with
  | 'n' :: r =>
    match expectWord ['u', 'l', 'l'] r with
    | .error e => e
    | .ok ((), r) => wrong .null r
  | 't' :: r =>
    match expectWord ['r', 'u', 'e'] r with
    | .error e => e
    | .ok ((), r) => wrong (.bool true) r
  | 'f' :: r =>
    match expectWord ['a', 'l', 's', 'e'] r with
    | .error e => e
    | .ok ((), r) => wrong (.bool false) r
  | '-' :: r =>
    match number false r with
    | .error e => e
    | .ok (n, r) => wrong n.unexpected r
  | '"' :: r =>
    match string true r with
    | .error e => e
    | .ok (s, r) => wrong (.str s) r
  | '[' :: _ => wrong .seq cs
  | '\x7b' :: _ => wrong .map cs
  | c :: r =>
    if c.isDigit then
      match number true (c :: r) with
      | .error e => e
      | .ok (n, r) => wrong n.unexpected r
    else failPast .expectedSomeValue cs
  | [] => failPast .expectedSomeValue []

def numberValue (expected : String) (cs : Input) : Step Number :=
  match skipBlank cs with
  | [] => .error (failPast .eofWhileParsingValue [])
  | '-' :: r => number false r
  | c :: r => if c.isDigit then number true (c :: r) else .error (unexpected expected (c :: r))

def float (cs : Input) : Step Float := (numberValue "f64" cs).map fun (n, r) => (n.toFloat, r)

def u32 (cs : Input) : Step Nat :=
  match numberValue "u32" cs with
  | .ok (.unsigned n, r) =>
    if n < Nat.pow 2 32 then .ok (n, r) else .error ⟨.data (invalidValue (.unsigned n) "u32"), bytes r⟩
  | .ok (.negative n, r) => .error ⟨.data (invalidValue (.signed n) "u32"), bytes r⟩
  | .ok (.float x, r) => .error ⟨.data (invalidType (.float x) "u32"), bytes r⟩
  | .error e => .error e

def unit (cs : Input) : Step Unit :=
  match skipBlank cs with
  | [] => .error (failPast .eofWhileParsingValue [])
  | 'n' :: r => expectWord ['u', 'l', 'l'] r
  | c :: r => .error (unexpected "unit" (c :: r))

def text (expected : String) (cs : Input) : Step String :=
  match skipBlank cs with
  | [] => .error (failPast .eofWhileParsingValue [])
  | '"' :: r => string true r
  | c :: r => .error (unexpected expected (c :: r))

def colon (cs : Input) : Step Unit :=
  match skipBlank cs with
  | ':' :: r => .ok ((), r)
  | [] => .error (failPast .eofWhileParsingObject [])
  | r => .error (failPast .expectedColon r)

def arrayEndPoint (cs : Input) : Input :=
  match skipBlank cs with
  | ']' :: r => r
  | ',' :: r => skipBlank r
  | r => r

def closeArray (cs : Input) : Step Unit :=
  match skipBlank cs with
  | ']' :: r => .ok ((), r)
  | ',' :: r =>
    match skipBlank r with
    | ']' :: r' => .error (failPast .trailingComma (']' :: r'))
    | r' => .error (failPast .trailingCharacters r')
  | [] => .error (failPast .eofWhileParsingList [])
  | r => .error (failPast .trailingCharacters r)

def nextItem (first : Bool) (cs : Input) : Except ReadError (Option Input) :=
  match skipBlank cs with
  | [] => .error (failPast .eofWhileParsingList [])
  | ']' :: _ => .ok none
  | ',' :: r =>
    if first then .ok (some (',' :: r))
    else
      match skipBlank r with
      | ']' :: r' => .error (failPast .trailingComma (']' :: r'))
      | [] => .error (failPast .eofWhileParsingValue [])
      | r' => .ok (some r')
  | r => if first then .ok (some r) else .error (failPast .expectedListCommaOrEnd r)

def items {α : Type} (item : Input → Step α) : (fuel : Nat) → Bool → List α → Input →
    Step (List α)
  | 0, _, _, _ => .error (failAt .eofWhileParsingList [])
  | fuel + 1, first, acc, cs =>
    match nextItem first cs with
    | .error e => .error e
    | .ok none => .ok (acc.reverse, cs)
    | .ok (some r) =>
      match item r with
      | .error e => .error e
      | .ok (a, r') => items item fuel false (a :: acc) r'

def list {α : Type} (item : Input → Step α) (cs : Input) : Except ReadError (List α × Input) :=
  match skipBlank cs with
  | '[' :: r => do
    let (xs, r) ← items item (r.length + 1) true [] r
    let ((), r) ← closeArray r
    return (xs, r)
  | [] => .error (failPast .eofWhileParsingValue [])
  | c :: r => .error (unexpected "a sequence" (c :: r))

/-- The shape of a record: how a value of another type is told it was expected, its field names
in order, how to read each field into a partial record, and how to finish it from the fields
that were given or why it cannot be.  A record is an object of named fields, or an array of its
fields in order; with `trailingDefaults` an array may stop early. -/
structure RecordShape (σ α : Type) where
  expecting : String
  names : List String
  start : σ
  field : Nat → σ → Input → Step σ
  finish : σ → List Nat → Except String α
  trailingDefaults : Bool

def objectEndPoint (cs : Input) : Input :=
  match skipBlank cs with
  | '\x7d' :: r => r
  | r => r

def nextMember (first : Bool) (cs : Input) : Except ReadError (Option Input) :=
  let key (cs : Input) : Except ReadError (Option Input) :=
    match cs with
    | '"' :: r => .ok (some r)
    | '\x7d' :: r => .error (failPast .trailingComma ('\x7d' :: r))
    | [] => .error (failPast .eofWhileParsingValue [])
    | r => .error (failPast .keyMustBeAString r)
  match skipBlank cs with
  | [] => .error (failPast .eofWhileParsingObject [])
  | '\x7d' :: _ => .ok none
  | c :: r =>
    if c == ',' && !first then key (skipBlank r)
    else if first then key (c :: r)
    else .error (failPast .expectedObjectCommaOrEnd (c :: r))

def members {σ α : Type} (shape : RecordShape σ α) : (fuel : Nat) → Bool → σ → List Nat →
    Input → Step α
  | 0, _, _, _, _ => .error (failAt .eofWhileParsingObject [])
  | fuel + 1, first, st, seen, cs =>
    match nextMember first cs with
    | .error e => .error e
    | .ok none =>
      let r := objectEndPoint cs
      match shape.finish st seen with
      | .error msg => .error (failAt (.data msg) r)
      | .ok a => .ok (a, r)
    | .ok (some r) =>
      match string true r with
      | .error e => .error e
      | .ok (key, r) =>
        match shape.names.idxOf? key with
        | some i =>
          if seen.contains i then .error (failAt (.data (duplicateField key)) (objectEndPoint r))
          else
            match colon r with
            | .error e => .error e
            | .ok ((), r) =>
              match shape.field i st r with
              | .error e => .error e
              | .ok (st', r') => members shape fuel false st' (i :: seen) r'
        | none =>
          match colon r with
          | .error e => .error e
          | .ok ((), r) =>
            match skip r with
            | .error e => .error e
            | .ok ((), r') => members shape fuel false st seen r'

def positional {σ α : Type} (shape : RecordShape σ α) : (fuel : Nat) → Nat → σ → List Nat →
    Input → Step α
  | 0, _, _, _, _ => .error (failAt .eofWhileParsingList [])
  | fuel + 1, i, st, seen, cs =>
    if i ≥ shape.names.length then finishArray st seen cs
    else
      match nextItem (i = 0) cs with
      | .error e => .error e
      | .ok none =>
        if shape.trailingDefaults then finishArray st seen cs
        else
          let expected := shape.expecting ++ " with " ++ toString shape.names.length ++ " elements"
          .error (failAt (.data (invalidLength i expected)) (arrayEndPoint cs))
      | .ok (some r) =>
        match shape.field i st r with
        | .error e => .error e
        | .ok (st', r') => positional shape fuel (i + 1) st' (i :: seen) r'
where
  finishArray (st : σ) (seen : List Nat) (cs : Input) : Step α :=
    match shape.finish st seen with
    | .error msg => .error (failAt (.data msg) (arrayEndPoint cs))
    | .ok a => (closeArray cs).map fun ((), r) => (a, r)

/-- A record, as an object or as an array. -/
def record {σ α : Type} (shape : RecordShape σ α) (cs : Input) : Step α :=
  match skipBlank cs with
  | '\x7b' :: r => members shape (r.length + 1) true shape.start [] r
  | '[' :: r => positional shape (r.length + shape.names.length + 1) 0 shape.start [] r
  | [] => .error (failPast .eofWhileParsingValue [])
  | c :: r => .error (unexpected shape.expecting (c :: r))

def variant {α : Type} (names : List String) (ofName? : String → Option α) (cs : Input) :
    Except ReadError (α × Input) :=
  match skipBlank cs with
  | '"' :: r => do
    let (name, r) ← string true r
    match ofName? name with
    | some a => return (a, r)
    | none => throw (failAt (.data (unknownVariant name names)) r)
  | '\x7b' :: r => do
    let (name, r) ← match skipBlank r with
      | '"' :: r => string true r
      | '\x7d' :: r => .error (failPast .expectedSomeValue ('\x7d' :: r))
      | [] => .error (failPast .eofWhileParsingObject [])
      | r => .error (failPast .keyMustBeAString r)
    match ofName? name with
    | none => throw (failAt (.data (unknownVariant name names)) r)
    | some a =>
      let ((), r) ← colon r
      let ((), r) ← unit r
      match skipBlank r with
      | '\x7d' :: r => return (a, r)
      | [] => throw (failAt .eofWhileParsingObject [])
      | r => throw (failAt .expectedSomeValue r)
  | [] => .error (failPast .eofWhileParsingValue [])
  | r => .error (failPast .expectedSomeValue r)

/-! Places in the text -/

structure Located where
  problem : Problem
  line : Nat
  column : Nat
  deriving Repr, DecidableEq, Inhabited

def Located.category (e : Located) : String := e.problem.category

def Located.message (e : Located) : String :=
  e.problem.text ++ " at line " ++ toString e.line ++ " column " ++ toString e.column

def lineColumn : Input → (left line column : Nat) → Nat × Nat
  | [], _, line, column => (line, column)
  | c :: cs, left, line, column =>
    if left = 0 then (line, column)
    else if c.utf8Size ≤ left then
      if c == '\n' then lineColumn cs (left - 1) (line + 1) 0
      else lineColumn cs (left - c.utf8Size) line (column + c.utf8Size)
    else (line, column + left)

def ReadError.locate (text : String) (e : ReadError) : Located :=
  let (line, column) := lineColumn text.toList (text.utf8ByteSize - e.rest) 1 0
  ⟨e.problem, line, column⟩

/-- A whole text holding one value of a shape and nothing after it but whitespace. -/
def whole {α : Type} (reader : Input → Step α) (s : String) : Except Located α :=
  match reader s.toList with
  | .error e => .error (e.locate s)
  | .ok (a, rest) =>
    match skipBlank rest with
    | [] => .ok a
    | r => .error ((failPast .trailingCharacters r).locate s)

end Json

end EncoderBench
