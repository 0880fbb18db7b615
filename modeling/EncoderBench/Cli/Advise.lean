import EncoderBench.Cli.Args
import EncoderBench.Cli.Report
import EncoderBench.Text.Pad
/-
The `advise` command: bitrates and output size for an upload speed, without a benchmark.

The video share of the upload is capped to a sane value for the frame rate; each standard size
fits when its ideal bitrate is within the video bitrate.
-/
namespace EncoderBench

namespace Cli

structure SizeAdvice where
  size : Resolution
  idealKbps : Nat
  fits : Bool

/-- Advice for an upload speed. -/
structure Advice where
  uploadKbps : Float
  frameRate : FrameRate
  videoKbps : Nat
  audioKbps : Nat
  bestSize : Resolution
  sizes : List SizeAdvice

/-- The advice for the options of `advise`. -/
def advice (a : AdviseArgs) : Advice :=
  let upload := a.unit.toKbps a.upload
  let split := Bitrate.split upload a.interactive
  let video := Bitrate.capToSane split.videoKbps a.frameRate a.highAction a.transcoder
  let sizes := Resolution.standard.map fun size =>
    let ideal := Bitrate.ideal size a.frameRate a.highAction
    ⟨size, ideal, decide (ideal ≤ video)⟩
  ⟨upload, a.frameRate, video, split.audioKbps, Bitrate.bestSize video a.frameRate a.highAction, sizes⟩

def uploadProblem? (upload : Float) : Option String :=
  if upload.isFinite && upload > 0.0 then none
  else some ("Upload speed must be a positive number, got " ++ plainText upload)

namespace Advice

def toJson (a : Advice) : Json.Value := .object [
  ("upload_kbps", .ofFloat a.uploadKbps), ("frame_rate", Report.frameRate a.frameRate),
  ("video_kbps", .ofNat a.videoKbps), ("audio_kbps", .ofNat a.audioKbps),
  ("best_size", Report.resolution a.bestSize),
  ("sizes", .array (a.sizes.map fun s => .object [("size", Report.resolution s.size),
    ("ideal_kbps", .ofNat s.idealKbps), ("fits", .bool s.fits)]))]

def field (label value : String) : String := "  " ++ Pad.right label 16 ++ " " ++ value ++ "\n"

def text (a : Advice) : String :=
  "\nBitrate Advice\n\n" ++
  field "Upload:" (fixedText 0 a.uploadKbps ++ " Kb/s") ++
  field "Video bitrate:" (toString a.videoKbps ++ " Kb/s") ++
  field "Audio bitrate:" (toString a.audioKbps ++ " Kb/s") ++
  field "Best size:" (toString a.bestSize.height ++ "p at " ++ a.frameRate.display ++ " fps") ++
  "\n" ++
  "  " ++ Pad.right "SIZE" 10 ++ " " ++ Pad.right "IDEAL" 12 ++ " FITS\n" ++
  "  " ++ Pad.rule '-' 30 ++ "\n" ++
  String.join (a.sizes.map fun s =>
    "  " ++ Pad.right (toString s.size.height ++ "p") 10 ++ " " ++
      Pad.right (toString s.idealKbps ++ " Kb/s") 12 ++ " " ++ (if s.fits then "yes" else "no") ++ "\n") ++
  "\n"

end Advice

end Cli

end EncoderBench
