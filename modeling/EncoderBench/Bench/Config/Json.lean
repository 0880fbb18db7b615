import EncoderBench.Bench.Config
import EncoderBench.Json.Read
/-
Reading a configuration from JSON text.  A configuration is an object of named fields or an
array of its fields in declaration order; fields not given keep their defaults, unknown fields
are skipped.  Sizes and frame rates are records of two fields, given as objects or as
two-element arrays, both fields required.  Presets are their lower-case names.
-/
namespace EncoderBench

namespace Json

def pairShape (name first second : String) : RecordShape (Option Nat × Option Nat) (Nat × Nat) where
  expecting := "struct " ++ name
  names := [first, second]
  start := (none, none)
  field i st cs := (u32 cs).map fun (n, r) => (if i = 0 then (some n, st.2) else (st.1, some n), r)
  finish st _ := match st with
    | (some a, some b) => .ok (a, b)
    | (none, _) => .error (missingField first)
    | (_, none) => .error (missingField second)
  trailingDefaults := false

def resolution (cs : Input) : Step Resolution :=
  (record (pairShape "Resolution" "width" "height") cs).map fun ((w, h), r) => (⟨w, h⟩, r)

def frameRate (cs : Input) : Step FrameRate :=
  (record (pairShape "FrameRate" "num" "den") cs).map fun ((n, d), r) => (⟨n, d⟩, r)

def preset (cs : Input) : Step Preset := variant (Preset.all.map Preset.name) Preset.ofName? cs

def configFields : List String :=
  ["trial_duration_secs", "warmup_secs", "reserved_cpu", "max_system_cpu", "key_interval_secs",
   "presets", "sizes", "frame_rates", "recommend_min_preset"]

def configField (i : Nat) (c : Config) (cs : Input) : Step Config :=
  match i with
  | 0 => (float cs).map fun (x, r) => ({ c with trialDurationSecs := x }, r)
  | 1 => (float cs).map fun (x, r) => ({ c with warmupSecs := x }, r)
  | 2 => (float cs).map fun (x, r) => ({ c with reservedCpu := x }, r)
  | 3 => (float cs).map fun (x, r) => ({ c with maxSystemCpu := x }, r)
  | 4 => (u32 cs).map fun (n, r) => ({ c with keyIntervalSecs := n }, r)
  | 5 => (list preset cs).map fun (xs, r) => ({ c with presets := xs }, r)
  | 6 => (list resolution cs).map fun (xs, r) => ({ c with sizes := xs }, r)
  | 7 => (list frameRate cs).map fun (xs, r) => ({ c with frameRates := xs }, r)
  | _ => (preset cs).map fun (p, r) => ({ c with recommendMinPreset := p }, r)

/-- The shape of a configuration: every field optional. -/
def configShape : RecordShape Config Config where
  expecting := "struct BenchmarkConfig"
  names := configFields
  start := {}
  field := configField
  finish c _ := .ok c
  trailingDefaults := true

end Json

inductive LoadError where
  | io (message : String)
  | json (problem : Json.Located)
  | invalid (problem : ConfigProblem)
  deriving Inhabited

namespace LoadError

def message : LoadError → String
  | io m => m
  | json p => p.message
  | invalid p => p.message

end LoadError

namespace Config

/-- Reads a configuration from JSON text, then checks it. -/
def ofJson (text : String) : Except LoadError Config :=
  match Json.whole (Json.record Json.configShape) text with
  | .error e => .error (.json e)
  | .ok c =>
    match c.validate with
    | .error p => .error (.invalid p)
    | .ok c => .ok c

def ofRead (read : Except String String) : Except LoadError Config :=
  match read with
  | .error message => .error (.io message)
  | .ok text => ofJson text

end Config

end EncoderBench
