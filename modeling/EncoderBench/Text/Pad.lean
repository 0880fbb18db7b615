/-
Padding text to a width counted in characters, as table columns are laid out.
-/
namespace EncoderBench

namespace Pad

def right (s : String) (width : Nat) : String :=
  s ++ String.ofList (List.replicate (width - s.length) ' ')

def left (s : String) (width : Nat) : String :=
  String.ofList (List.replicate (width - s.length) ' ') ++ s

def rule (c : Char) (n : Nat) : String := String.ofList (List.replicate n c)

theorem right_length (s : String) (width : Nat) : (right s width).length = max s.length width := by
  simp only [right, String.length_append, String.length_ofList, List.length_replicate]
  omega

end Pad

end EncoderBench
