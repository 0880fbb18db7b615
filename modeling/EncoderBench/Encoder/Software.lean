import EncoderBench.Encoder.Config
/-
The software trial encoder. It comes up only for a non-empty even size, a non-zero bitrate and a
positive frame rate; it counts frames and keyframes and budgets `bitrate · 125 / fps` bytes per
frame, truncated to 64 bits and added with wrap-around.
-/
namespace EncoderBench

def defaultKeyIntervalSecs : Nat := 2

/-- A software trial encoder: its configuration, whether it is up, and its counters. -/
structure SoftwareEncoder where
  config : EncoderConfig
  active : Bool := false
  framesEncoded : Nat := 0
  keyframes : Nat := 0
  bytesOut : Nat := 0
  deriving Repr, DecidableEq, Inhabited

namespace SoftwareEncoder

def create (config : EncoderConfig) : SoftwareEncoder := { config }

/-- Whether an encoder with this configuration comes up, and why not. -/
def check (c : EncoderConfig) : Except ActivationError Unit :=
  if c.size.width = 0 ∨ c.size.height = 0 ∨ c.size.width % 2 ≠ 0 ∨ c.size.height % 2 ≠ 0 then
    .error (.unsupportedSize c.size.width c.size.height)
  else if c.options.bitrateKbps = 0 then .error (.invalidBitrate 0)
  else if c.frameRate.toFloat ≤ 0.0 then
    .error (.init ("invalid frame rate " ++ c.frameRate.display))
  else .ok ()

def keyframePeriod (c : EncoderConfig) : Nat :=
  let secs := if c.options.keyIntervalSecs = 0 then defaultKeyIntervalSecs else c.options.keyIntervalSecs
  max (c.frameRate.framesIn (Float.ofNat secs)) 1

def frameBytes (c : EncoderConfig) : Nat :=
  (Float.ofNat c.options.bitrateKbps * 125.0 / c.frameRate.toFloat).toUInt64.toNat

def activate (e : SoftwareEncoder) : Except ActivationError SoftwareEncoder :=
  match check e.config with
  | .error err => .error err
  | .ok () => .ok { e with active := true }

def notActive : ActivationError := .init "encoder is not active"

/-- Encodes one frame; an encoder that is down refuses it and stays as it was. -/
def encodeFrame (e : SoftwareEncoder) : Except ActivationError SoftwareEncoder :=
  if e.active then
    let key := e.framesEncoded % keyframePeriod e.config == 0
    .ok { e with
      keyframes := if key then e.keyframes + 1 else e.keyframes
      bytesOut := (e.bytesOut + frameBytes e.config) % Nat.pow 2 64
      framesEncoded := e.framesEncoded + 1 }
  else .error notActive

def deactivate (e : SoftwareEncoder) : SoftwareEncoder := { e with active := false }

def bitrateKbps (e : SoftwareEncoder) : Nat := e.config.options.bitrateKbps

end SoftwareEncoder

end EncoderBench
