import EncoderBench.Json.Value
import EncoderBench.Bench.Settings
/-
The JSON forms of the program's values, as its reports write them: every structure an object
whose keys are its fields in order, frame rates as `num`/`den`, presets by name, and a budget
with its content kind nested under `content`.
-/
namespace EncoderBench

namespace Report

open Json

def frameRate (r : FrameRate) : Value := .object [("num", .ofNat r.num), ("den", .ofNat r.den)]

def resolution (r : Resolution) : Value :=
  .object [("width", .ofNat r.width), ("height", .ofNat r.height)]

def trialResult (r : TrialResult) : Value := .object [
  ("preset", .string r.preset.name), ("size", resolution r.size), ("frame_rate", frameRate r.frameRate),
  ("bitrate_kbps", .ofNat r.bitrateKbps), ("system_avg_cpu", .ofFloat r.systemAvgCpu),
  ("own_avg_cpu", .ofFloat r.ownAvgCpu), ("recommended", .bool r.recommended)]

/-- Output settings. -/
def settings (s : Settings) : Value := .object [
  ("canvas", resolution s.canvas), ("output_size", resolution s.outputSize),
  ("frame_rate", frameRate s.frameRate),
  ("video", .object [("bitrate_kbps", .ofNat s.video.bitrateKbps), ("preset", .string s.video.preset.name),
    ("key_interval_secs", .ofNat s.video.keyIntervalSecs)]),
  ("audio_bitrate_kbps", .ofNat s.audioBitrateKbps)]

def budget (b : Budget) : Value := .object [
  ("max_own_cpu", .ofFloat b.maxOwnCpu), ("max_system_cpu", .ofFloat b.maxSystemCpu),
  ("max_video_kbps", .ofNat b.maxVideoKbps), ("max_audio_kbps", .ofNat b.maxAudioKbps),
  ("content", .object [("high_action", .bool b.highAction)]), ("target", .string b.target.name)]

end Report

end EncoderBench
