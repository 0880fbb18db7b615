import EncoderBench.Text.Blank
/-
Units of an upload speed.  Case matters: a lower-case `b` is bits, an upper-case `B` bytes;
kilo and mega are 1024 and 1024·1024 for bytes.
-/
namespace EncoderBench

/-- A unit an upload speed may be entered in. -/
inductive UploadUnit where
  | kilobits | megabits | kilobytes | megabytes
  deriving Repr, DecidableEq, Inhabited

namespace UploadUnit

def name : UploadUnit → String
  | kilobits => "Kbps" | megabits => "Mbps" | kilobytes => "KBps" | megabytes => "MBps"

def multiplier : UploadUnit → Float
  | kilobits => 1.0
  | megabits => 1000.0
  | kilobytes => 1024.0 * 8.0 / 1000.0
  | megabytes => 1024.0 * 1024.0 * 8.0 / 1000.0

def toKbps (u : UploadUnit) (value : Float) : Float := value * u.multiplier

/-- Reads a unit, ignoring blanks around it: `kbps`, `Kbps`, `kb/s`, `Kb/s`, the same four for
mega, and `KBps`, `KB/s`, `MBps`, `MB/s` for bytes.  The error holds the trimmed text. -/
def parse (s : String) : Except String UploadUnit :=
  match Blank.trim s with
  | "kbps" | "Kbps" | "kb/s" | "Kb/s" => .ok kilobits
  | "mbps" | "Mbps" | "mb/s" | "Mb/s" => .ok megabits
  | "KBps" | "KB/s" => .ok kilobytes
  | "MBps" | "MB/s" => .ok megabytes
  | other => .error ("unknown upload unit: " ++ other)

end UploadUnit

end EncoderBench
