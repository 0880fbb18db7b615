import EncoderBench.Text.ExtendingMark
import EncoderBench.Text.Printable
/-
Strings as debugging text shows them: in double quotes, with the usual characters escaped by a
backslash, and every character that would not show as itself (unprintable, or a mark extending the
one before it) written as `\u` and its code point in braces.
-/
namespace EncoderBench

namespace Debug

def hexDigits (n : Nat) : String := String.ofList (Nat.toDigits 16 n)

/-- One character of a string in debugging text. -/
def escapeChar (c : Char) : String :=
  match c with
  | '\x00' => "\\0"
  | '\t' => "\\t"
  | '\r' => "\\r"
  | '\n' => "\\n"
  | '\\' => "\\\\"
  | '"' => "\\\""
  | _ =>
    if Unicode.isExtendingMark c || !Unicode.isPrintable c then
      "\\u" ++ "\x7b" ++ hexDigits c.toNat ++ "\x7d"
    else String.singleton c

def quote (s : String) : String := "\"" ++ String.join (s.toList.map escapeChar) ++ "\""

end Debug

end EncoderBench
