import EncoderBench.Scenario.Session
/-!
The counters of the software trial encoder agree with the frames it has encoded under any calls
(`Accounted`): `⌈frames / period⌉` keyframes and `frameBytes` per frame modulo `2 ^ 64`. The
budget of one frame is itself a saturated conversion (`frame_budget_saturates`).
-/
namespace EncoderBench

namespace SoftwareEncoder

theorem keyframePeriod_pos (c : EncoderConfig) : 0 < keyframePeriod c :=
  Nat.lt_of_lt_of_le Nat.zero_lt_one (Nat.le_max_right _ _)

theorem ceilDiv_succ (frames : Nat) {period : Nat} (pos : 0 < period) :
    (frames + 1 + period - 1) / period =
      (frames + period - 1) / period + if frames % period = 0 then 1 else 0 := by
  have shift : frames + 1 + period - 1 = (frames + period - 1) + 1 := by omega
  have multiple : period ∣ frames + period - 1 + 1 ↔ frames % period = 0 := by
    rw [show frames + period - 1 + 1 = frames + period by omega, Nat.dvd_iff_mod_eq_zero,
      Nat.add_mod_right]
  rw [shift, Nat.succ_div]
  by_cases whole : frames % period = 0
  · rw [if_pos (multiple.mpr whole), if_pos whole]
  · rw [if_neg (mt multiple.mp whole), if_neg whole]

/-- The counters agree with the frames encoded: a keyframe for every period begun, and the
per-frame budget for every frame, modulo `2 ^ 64`. -/
structure Accounted (e : SoftwareEncoder) : Prop where
  keyframes :
    e.keyframes = (e.framesEncoded + keyframePeriod e.config - 1) / keyframePeriod e.config
  bytesOut : e.bytesOut = e.framesEncoded * frameBytes e.config % Nat.pow 2 64

theorem accounted_create (c : EncoderConfig) : Accounted (create c) where
  keyframes := by
    have pos := keyframePeriod_pos c
    exact (Nat.div_eq_of_lt (by simp only [create]; omega)).symm
  bytesOut := by simp [create]

theorem activate_of_accepted {e : SoftwareEncoder} (accepted : check e.config = .ok ()) :
    e.activate = .ok { e with active := true } := by
  simp only [activate, accepted]

theorem Accounted.activated {e : SoftwareEncoder} (acc : Accounted e) :
    Accounted { e with active := true } :=
  ⟨acc.keyframes, acc.bytesOut⟩

theorem Accounted.deactivate {e : SoftwareEncoder} (acc : Accounted e) : Accounted e.deactivate :=
  ⟨acc.keyframes, acc.bytesOut⟩

theorem deactivate_deactivate (e : SoftwareEncoder) : e.deactivate.deactivate = e.deactivate :=
  rfl

theorem encodeFrame_of_inactive {e : SoftwareEncoder} (inactive : e.active = false) :
    e.encodeFrame = .error notActive := by
  simp [encodeFrame, inactive]

theorem encodeFrame_ok {e e' : SoftwareEncoder} (h : e.encodeFrame = .ok e') :
    e.active = true ∧ e'.active = true ∧ e'.config = e.config ∧
      e'.framesEncoded = e.framesEncoded + 1 ∧
      e'.keyframes =
        e.keyframes + (if e.framesEncoded % keyframePeriod e.config = 0 then 1 else 0) ∧
      e'.bytesOut = (e.bytesOut + frameBytes e.config) % Nat.pow 2 64 := by
  unfold encodeFrame at h
  cases active : e.active
  · simp [active] at h
  · simp only [active, ite_true, Except.ok.injEq] at h
    subst h
    refine ⟨rfl, rfl, rfl, rfl, ?_, rfl⟩
    by_cases whole : e.framesEncoded % keyframePeriod e.config = 0 <;> simp [whole]

theorem Accounted.encodeFrame {e e' : SoftwareEncoder} (acc : Accounted e)
    (h : e.encodeFrame = .ok e') : Accounted e' := by
  obtain ⟨-, -, config, frames, keyframes, bytes⟩ := encodeFrame_ok h
  constructor
  · rw [keyframes, config, frames, ceilDiv_succ _ (keyframePeriod_pos e.config), acc.keyframes]
  · rw [bytes, config, frames, acc.bytesOut, Nat.mod_add_mod, Nat.succ_mul]

end SoftwareEncoder

namespace Scenario

open SoftwareEncoder

theorem encodeFrames_of_active {e : SoftwareEncoder} (active : e.active = true)
    (acc : Accounted e) (n failed : Nat) (err : Option ActivationError) :
    let r := encodeFrames e n failed err
    r.2 = (failed, err) ∧ r.1.active = true ∧ r.1.config = e.config ∧
      r.1.framesEncoded = e.framesEncoded + n ∧ Accounted r.1 := by
  induction n generalizing e with
  | zero => exact ⟨rfl, active, rfl, rfl, acc⟩
  | succ n ih =>
    obtain ⟨e', encoded⟩ : ∃ e', e.encodeFrame = .ok e' := by
      simp [SoftwareEncoder.encodeFrame, active]
    obtain ⟨-, active', config, frames, -, -⟩ := encodeFrame_ok encoded
    obtain ⟨rest, activeAfter, configAfter, framesAfter, accAfter⟩ :=
      ih active' (acc.encodeFrame encoded)
    have unrolled : encodeFrames e (n + 1) failed err = encodeFrames e' n failed err := by
      simp only [encodeFrames, encoded]
    rw [unrolled]
    refine ⟨rest, activeAfter, configAfter.trans config, ?_, accAfter⟩
    rw [framesAfter, frames]
    omega

theorem encodeFrames_of_inactive {e : SoftwareEncoder} (inactive : e.active = false)
    (n failed : Nat) (err : Option ActivationError) :
    encodeFrames e n failed err =
      (e, failed + n, if n = 0 then err else some (err.getD notActive)) := by
  induction n generalizing failed err with
  | zero => rfl
  | succ n ih =>
    have first : (err.orElse fun _ => some notActive) = some (err.getD notActive) := by
      cases err <;> rfl
    rw [if_neg (Nat.succ_ne_zero n), encodeFrames, encodeFrame_of_inactive inactive]
    simp only [ih, first, Option.getD_some, ite_self, Nat.add_right_comm failed 1 n, Nat.add_assoc]

end Scenario

open SoftwareEncoder Scenario

/-- An encoder built for a configuration `activate` accepts comes up, and a batch of `n` frames
sent to it is accepted whole: it has then encoded `n` frames, `⌈n / period⌉` of them keyframes,
and budgeted `n` times one frame's bytes, modulo `2 ^ 64`, which is the exact product while that
stays below `2 ^ 64`. Taken down, it refuses any batch with the not-active error and keeps its
counters, and taking it down again changes nothing. -/
theorem encoder_counts_frames_keyframes_and_bytes (c : EncoderConfig) (accepted : check c = .ok ())
    (n : Nat) :
    (create c).activate = .ok { create c with active := true } ∧
      let r := encodeFrames { create c with active := true } n 0 none
      r.2 = (0, none) ∧ r.1.framesEncoded = n ∧
        r.1.keyframes = (n + keyframePeriod c - 1) / keyframePeriod c ∧
        r.1.bytesOut = n * frameBytes c % Nat.pow 2 64 ∧
        (n * frameBytes c < Nat.pow 2 64 → r.1.bytesOut = n * frameBytes c) ∧
        r.1.deactivate.encodeFrame = .error notActive ∧
        (∀ m, encodeFrames r.1.deactivate m 0 none =
          (r.1.deactivate, m, if m = 0 then none else some notActive)) ∧
        r.1.deactivate.deactivate = r.1.deactivate := by
  refine ⟨activate_of_accepted accepted, ?_⟩
  intro r
  obtain ⟨outcome, -, config, frames, acc⟩ :=
    encodeFrames_of_active (e := { create c with active := true }) rfl
      (accounted_create c).activated n 0 none
  have frames : r.1.framesEncoded = n := by
    rw [show r.1.framesEncoded = 0 + n from frames, Nat.zero_add]
  have config : r.1.config = c := config
  have acc : Accounted r.1 := acc
  have keyframes := acc.keyframes
  have bytes := acc.bytesOut
  rw [config, frames] at keyframes bytes
  refine ⟨outcome, frames, keyframes, bytes, fun fits => bytes.trans (Nat.mod_eq_of_lt fits),
    encodeFrame_of_inactive rfl, fun m => ?_, deactivate_deactivate _⟩
  rw [encodeFrames_of_inactive rfl]
  simp

/-- The 61-frame run at 30 Hz of the encoder's own test, with a 426x240 output at 1200 Kb/s. -/
theorem encoder_counts_frames_keyframes_and_bytes_at_thirty :
    let c : EncoderConfig :=
      { size := ⟨426, 240⟩, frameRate := FrameRate.fps30, options := ⟨1200, .ultrafast, 2⟩ }
    check c = .ok () ∧
      ((create c).activate = .ok { create c with active := true } ∧
        let r := encodeFrames { create c with active := true } 61 0 none
        r.2 = (0, none) ∧ r.1.framesEncoded = 61 ∧
          r.1.keyframes = (61 + keyframePeriod c - 1) / keyframePeriod c ∧
          r.1.bytesOut = 61 * frameBytes c % Nat.pow 2 64 ∧
          (61 * frameBytes c < Nat.pow 2 64 → r.1.bytesOut = 61 * frameBytes c) ∧
          r.1.deactivate.encodeFrame = .error notActive ∧
          (∀ m, encodeFrames r.1.deactivate m 0 none =
            (r.1.deactivate, m, if m = 0 then none else some notActive)) ∧
          r.1.deactivate.deactivate = r.1.deactivate) := by
  intro c
  have accepted : check c = .ok () := by
    dsimp only [c]
    rfl
  have run := encoder_counts_frames_keyframes_and_bytes c accepted 61
  -- the statement binds its encoder with a plain let; make both sides alike
  dsimp only at run ⊢
  exact ⟨accepted, run⟩

/-- At the slowest frame rate a configuration can name, one frame in `2 ^ 32 - 1` seconds, and
the largest bitrate, `activate` accepts the configuration, but one frame's budget,
`bitrate · 125 · (2 ^ 32 - 1)` bytes, is more than 64 bits hold: it saturates at `2 ^ 64 - 1`,
and so does the byte count after a single frame. -/
theorem frame_budget_saturates :
    let c : EncoderConfig :=
      { size := ⟨2, 2⟩, frameRate := ⟨1, 4294967295⟩, options := ⟨4294967295, .ultrafast, 2⟩ }
    check c = .ok () ∧ Nat.pow 2 64 ≤ 4294967295 * 125 * 4294967295 ∧
      (encodeFrames { create c with active := true } 1 0 none).1.bytesOut = Nat.pow 2 64 - 1 := by
  intro c
  dsimp only [c]
  exact ⟨rfl, by decide, rfl⟩

end EncoderBench
