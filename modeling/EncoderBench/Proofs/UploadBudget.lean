import EncoderBench.Bench.Budget
/-!
The bitrate ceilings of a budget. The video ceiling is clamped by `capToSane` at 60 Hz, at least
700 Kb/s where the top audio tier starts, so the audio chosen before the clamp agrees with the
clamped video too (`audioFor_capToSane`).
-/
namespace EncoderBench

namespace Bitrate

/-- The most `capToSane` lets through at a frame rate: 105% of the 1080p recommendation,
truncated, then rounded to a readable bitrate. -/
def saneCeiling (rate : FrameRate) (highAction : Bool) : Nat :=
  round (floorNonneg (Float.ofNat (ideal Resolution.hd1080 rate highAction) * 1.05))

theorem capToSane_eq (kbps : Nat) (rate : FrameRate) (highAction hasTranscoder : Bool) :
    capToSane kbps rate highAction hasTranscoder =
      min (if hasTranscoder then kbps else min kbps noTranscoderMaxKbps)
        (saneCeiling rate highAction) :=
  rfl

theorem saneCeiling_sixty :
    saneCeiling FrameRate.fps60 false = 4000 ∧ saneCeiling FrameRate.fps60 true = 6600 := by
  decide +kernel

theorem audioFor_of_le {kbps : Nat} (top : 700 ≤ kbps) : audioFor kbps = 128 := by
  unfold audioFor
  repeat rw [if_neg (by omega)]

theorem audioFor_min {kbps cap : Nat} (top : 700 ≤ cap) : audioFor (min kbps cap) = audioFor kbps := by
  rcases Nat.le_total kbps cap with below | above
  · rw [Nat.min_eq_left below]
  · rw [Nat.min_eq_right above, audioFor_of_le top, audioFor_of_le (Nat.le_trans top above)]

theorem capToSane_le_ceiling (kbps : Nat) (rate : FrameRate) (highAction hasTranscoder : Bool) :
    capToSane kbps rate highAction hasTranscoder ≤ saneCeiling rate highAction := by
  rw [capToSane_eq]
  exact Nat.min_le_right _ _

theorem capToSane_le_untranscoded (kbps : Nat) (rate : FrameRate) (highAction : Bool) :
    capToSane kbps rate highAction false ≤ noTranscoderMaxKbps := by
  rw [capToSane_eq, if_neg Bool.false_ne_true]
  exact Nat.le_trans (Nat.min_le_left _ _) (Nat.min_le_right _ _)

theorem le_capToSane {n kbps : Nat} {rate : FrameRate} {highAction : Bool} (hasTranscoder : Bool)
    (share : n ≤ kbps) (untranscoded : n ≤ noTranscoderMaxKbps)
    (ceiling : n ≤ saneCeiling rate highAction) :
    n ≤ capToSane kbps rate highAction hasTranscoder := by
  rw [capToSane_eq]
  cases hasTranscoder
  · exact Nat.le_min.mpr ⟨Nat.le_min.mpr ⟨share, untranscoded⟩, ceiling⟩
  · exact Nat.le_min.mpr ⟨share, ceiling⟩

theorem audioFor_capToSane {kbps : Nat} {rate : FrameRate} {highAction : Bool}
    (hasTranscoder : Bool) (ceiling : 700 ≤ saneCeiling rate highAction) :
    audioFor (capToSane kbps rate highAction hasTranscoder) = audioFor kbps := by
  rw [capToSane_eq, audioFor_min ceiling]
  cases hasTranscoder
  · rw [if_neg Bool.false_ne_true, audioFor_min (by decide)]
  · rw [if_pos rfl]

theorem seven_hundred_le_saneCeiling_sixty (highAction : Bool) :
    700 ≤ saneCeiling FrameRate.fps60 highAction := by
  cases highAction
  · rw [saneCeiling_sixty.1]; decide
  · rw [saneCeiling_sixty.2]; decide

theorem split_audioKbps (uploadKbps : Float) (interactive : Bool) :
    (split uploadKbps interactive).audioKbps = audioFor (split uploadKbps interactive).videoKbps :=
  rfl

theorem forLocalFile_audio (limit : CpuLimit) (config : Config) :
    (Budget.forLocalFile limit config).maxAudioKbps =
      audioFor (Budget.forLocalFile limit config).maxVideoKbps := by
  unfold Budget.forLocalFile
  dsimp only
  exact split_audioKbps _ _

end Bitrate

open Bitrate

/-- Whatever the upload speed (NaN, infinite and huge ones included), the flags, the CPU limit
and the configuration: a broadcast's video ceiling is at least `minVideoKbps`, at most the 60 Hz
ceiling of `capToSane`, and at most `noTranscoderMaxKbps` without a transcoder; and the audio
ceiling is the one `audioFor` pairs with that video ceiling, although it was chosen before the
clamp. A local recording's audio ceiling is paired with its video ceiling the same way. -/
theorem budget_audio_matches_capped_video (upload : UploadSettings) (limit : CpuLimit)
    (config : Config) :
    let b := Budget.fromUpload upload limit config
    minVideoKbps ≤ b.maxVideoKbps ∧ b.maxVideoKbps ≤ saneCeiling FrameRate.fps60 upload.highAction ∧
      (upload.hasTranscoder = false → b.maxVideoKbps ≤ noTranscoderMaxKbps) ∧
      b.maxAudioKbps = audioFor b.maxVideoKbps ∧
      (Budget.forLocalFile limit config).maxAudioKbps =
        audioFor (Budget.forLocalFile limit config).maxVideoKbps := by
  intro b
  let share := split upload.uploadKbps upload.interactive
  have video : b.maxVideoKbps =
      capToSane share.videoKbps FrameRate.fps60 upload.highAction upload.hasTranscoder := rfl
  have audio : b.maxAudioKbps = audioFor share.videoKbps := rfl
  have ceiling := seven_hundred_le_saneCeiling_sixty upload.highAction
  refine ⟨?_, video ▸ capToSane_le_ceiling _ _ _ _, fun untranscoded => ?_, ?_,
    forLocalFile_audio limit config⟩
  · rw [video]
    exact le_capToSane _ (Nat.le_max_right _ _) (by decide) (Nat.le_trans (by decide) ceiling)
  · rw [video, untranscoded]
    exact capToSane_le_untranscoded _ _ _
  · rw [audio, video, audioFor_capToSane _ ceiling]

end EncoderBench
