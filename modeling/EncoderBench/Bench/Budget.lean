import EncoderBench.Advice.Bitrate
import EncoderBench.Bench.Config
/-
The limits a benchmark run must respect: the encoder's CPU share (the user's limit less the
reserved share), the system-wide ceiling, and the video and audio bitrate ceilings from the
upload bandwidth.  A local file has bandwidth to spare and is treated as fast-moving content.
-/
namespace EncoderBench

inductive CpuLimit where
  | low | medium | high
  deriving Repr, DecidableEq, Inhabited

namespace CpuLimit

def fraction : CpuLimit → Float
  | low => 0.2
  | medium => 0.4
  | high => 0.8

def ofName? : String → Option CpuLimit
  | "low" => some low
  | "medium" => some medium
  | "high" => some high
  | _ => none

end CpuLimit

structure UploadSettings where
  uploadKbps : Float
  interactive : Bool := false
  highAction : Bool := false
  hasTranscoder : Bool := false
  deriving Inhabited

/-- Limits of one benchmark run. -/
structure Budget where
  maxOwnCpu : Float
  maxSystemCpu : Float
  maxVideoKbps : Nat
  maxAudioKbps : Nat
  highAction : Bool
  target : Target
  deriving Inhabited

namespace Budget

def localFileUploadKbps : Float := 100.0 * 1024.0 * 8.0

def fromUpload (upload : UploadSettings) (limit : CpuLimit) (config : Config) : Budget :=
  let split := Bitrate.split upload.uploadKbps upload.interactive
  let video := Bitrate.capToSane split.videoKbps FrameRate.fps60 upload.highAction upload.hasTranscoder
  ⟨limit.fraction - config.reservedCpu, config.maxSystemCpu, video, split.audioKbps,
    upload.highAction, .stream⟩

def forLocalFile (limit : CpuLimit) (config : Config) : Budget :=
  let split := Bitrate.split localFileUploadKbps false
  ⟨limit.fraction - config.reservedCpu, config.maxSystemCpu, split.videoKbps, split.audioKbps,
    true, .file⟩

def isLocalFile (b : Budget) : Bool := b.target == .file

def exceededBy (b : Budget) (own system : Float) : Bool :=
  own > b.maxOwnCpu || system > b.maxSystemCpu

end Budget

end EncoderBench
