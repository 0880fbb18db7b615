import Mathlib
import EncoderBench.Encoder.Motion
import EncoderBench.Proofs.EncoderCounters
/-!
The motion search stays inside the planes: every position a block cost reads is below
`width · height` (`read_lt_pixels`), and an encoder that has come up holds planes of exactly that
many bytes under any calls (`Sized`). The frame's 64-bit total is exact up to `2 ^ 60` pixels.
-/
namespace EncoderBench

theorem lt_of_mem_stepsBelow {m bound step : Nat} (pos : 0 < step)
    (mem : m ∈ stepsBelow bound step) : m < bound := by
  obtain ⟨i, below, rfl⟩ := List.mem_range'.mp mem
  have next : (i + 1) * step ≤ bound + step - 1 := (Nat.le_div_iff_mul_le pos).mp below
  rw [Nat.zero_add, Nat.mul_comm]
  rw [Nat.succ_mul] at next
  omega

theorem length_stepsBelow (bound step : Nat) :
    (stepsBelow bound step).length = (bound + step - 1) / step :=
  List.length_range'

theorem mem_sampleOffsets {o : Nat × Nat} (mem : o ∈ sampleOffsets) :
    o.1 < blockSize ∧ o.2 < blockSize := by
  simp only [sampleOffsets, List.mem_flatMap, List.mem_map] at mem
  obtain ⟨y, row, x, col, rfl⟩ := mem
  exact ⟨lt_of_mem_stepsBelow (by decide) col, lt_of_mem_stepsBelow (by decide) row⟩

theorem length_sampleOffsets : sampleOffsets.length = 16 := by decide

theorem mem_blockOrigins {size : Resolution} {b : Nat × Nat} (mem : b ∈ blockOrigins size) :
    b.1 + blockSize ≤ size.width ∧ b.2 + blockSize ≤ size.height := by
  simp only [blockOrigins, List.mem_flatMap, List.mem_map] at mem
  obtain ⟨y, row, x, col, rfl⟩ := mem
  have left := lt_of_mem_stepsBelow (by decide) col
  have top := lt_of_mem_stepsBelow (by decide) row
  simp only [blockSize] at left top ⊢
  omega

theorem length_blockOrigins (size : Resolution) :
    (blockOrigins size).length = size.width / 16 * (size.height / 16) := by
  have whole (n : Nat) : (n - (blockSize - 1) + blockSize - 1) / blockSize = n / 16 := by
    simp only [blockSize]
    omega
  simp only [blockOrigins, List.length_flatMap, List.length_map, length_stepsBelow, whole,
    List.map_const', List.sum_replicate, smul_eq_mul]
  exact Nat.mul_comm _ _

theorem mem_candidates {size : Resolution} {radius : Nat} {b ref : Nat × Nat}
    (mem : ref ∈ candidates size radius b) :
    ref.1 + blockSize ≤ size.width ∧ ref.2 + blockSize ≤ size.height := by
  simp only [candidates, List.mem_flatMap, List.mem_filterMap] at mem
  obtain ⟨dy, -, dx, -, named⟩ := mem
  simp only [reference] at named
  split at named
  · cases named
  · split at named
    · cases named
    · cases named
      omega

theorem self_mem_candidates {size : Resolution} (radius : Nat) {b : Nat × Nat}
    (inside : b.1 + blockSize ≤ size.width ∧ b.2 + blockSize ≤ size.height) :
    b ∈ candidates size radius b := by
  have zero : (0 : Int) ∈ displacements radius := by
    simp only [displacements, List.mem_map, List.mem_range]
    exact ⟨radius, by omega, Int.sub_self _⟩
  have named : reference size b 0 0 = some b := by
    simp only [reference, Int.add_zero, Int.toNat_natCast]
    rw [if_neg (by omega), if_neg (by omega)]
  simp only [candidates, List.mem_flatMap, List.mem_filterMap]
  exact ⟨0, zero, 0, zero, named⟩

theorem read_lt_pixels {w h : Nat} (col row : Nat) (inRow : col < w) (inPlane : row < h) :
    row * w + col < w * h :=
  calc row * w + col < row * w + w := Nat.add_lt_add_left inRow _
    _ = (row + 1) * w := (Nat.succ_mul row w).symm
    _ ≤ h * w := Nat.mul_le_mul_right w inPlane
    _ = w * h := Nat.mul_comm h w

theorem mem_blockReads {size : Resolution} {b ref r : Nat × Nat}
    (block : b.1 + blockSize ≤ size.width ∧ b.2 + blockSize ≤ size.height)
    (reference : ref.1 + blockSize ≤ size.width ∧ ref.2 + blockSize ≤ size.height)
    (mem : r ∈ blockReads size.width b ref) : r.1 < size.pixels ∧ r.2 < size.pixels := by
  simp only [blockReads, List.mem_map] at mem
  obtain ⟨o, offset, rfl⟩ := mem
  have within := mem_sampleOffsets offset
  simp only [blockSize] at block reference within
  rw [Resolution.pixels, Nat.add_assoc, Nat.add_assoc]
  exact ⟨read_lt_pixels (b.1 + o.1) (b.2 + o.2) (by omega) (by omega),
    read_lt_pixels (ref.1 + o.1) (ref.2 + o.2) (by omega) (by omega)⟩

theorem absDiff_le (a b : UInt8) : absDiff a b ≤ 255 := by
  have small := a.toNat_lt
  have small' := b.toNat_lt
  simp only [absDiff]
  omega

theorem foldl_add_eq_sum {α : Type} (f : α → Nat) : ∀ (l : List α) (a : Nat),
    l.foldl (fun total x => total + f x) a = a + (l.map f).sum
  | [], a => (Nat.add_zero a).symm
  | x :: l, a => by
    rw [List.foldl_cons, foldl_add_eq_sum f l (a + f x), List.map_cons, List.sum_cons, Nat.add_assoc]

theorem blockSad_le (p : Planes) (width : Nat) (b ref : Nat × Nat) :
    blockSad p width b ref ≤ 16 * 255 := by
  have each : ∀ d ∈ (blockReads width b ref).map fun r => absDiff p.current[r.1]! p.previous[r.2]!,
      d ≤ 255 := by
    simp only [List.mem_map]
    rintro d ⟨r, -, rfl⟩
    exact absDiff_le _ _
  have sum := List.sum_le_card_nsmul _ _ each
  rw [List.length_map, blockReads, List.length_map, length_sampleOffsets, smul_eq_mul] at sum
  rw [blockSad, foldl_add_eq_sum, Nat.zero_add]
  exact sum

theorem foldl_min_le_init : ∀ (l : List Nat) (a : Nat), l.foldl min a ≤ a
  | [], _ => Nat.le_refl _
  | x :: l, a => (foldl_min_le_init l (min a x)).trans (Nat.min_le_left a x)

theorem foldl_min_le_of_mem {x : Nat} : ∀ {l : List Nat} (a : Nat), x ∈ l → l.foldl min a ≤ x
  | _ :: l, a, .head _ => (foldl_min_le_init l (min a x)).trans (Nat.min_le_right a x)
  | y :: _, a, .tail _ mem => foldl_min_le_of_mem (min a y) mem

theorem bestSad_le (c : EncoderConfig) (p : Planes) {b : Nat × Nat}
    (inside : b.1 + blockSize ≤ c.size.width ∧ b.2 + blockSize ≤ c.size.height) :
    bestSad c p b ≤ 16 * 255 :=
  (foldl_min_le_of_mem u64Max
    (List.mem_map_of_mem (self_mem_candidates c.options.preset.searchRadius inside))).trans
    (blockSad_le p c.size.width b b)

theorem foldl_add_mod (M : Nat) : ∀ (l : List Nat) (a : Nat),
    l.foldl (fun total x => (total + x) % M) (a % M) = (a + l.sum) % M
  | [], a => by simp
  | x :: l, a => by
    rw [List.foldl_cons, Nat.mod_add_mod, foldl_add_mod M l (a + x), List.sum_cons, Nat.add_assoc]

theorem motionSearch_eq_mod (c : EncoderConfig) (p : Planes) :
    motionSearch c p = ((blockOrigins c.size).map (bestSad c p)).sum % Nat.pow 2 64 := by
  have start := foldl_add_mod (Nat.pow 2 64) ((blockOrigins c.size).map (bestSad c p)) 0
  rw [Nat.zero_mod, Nat.zero_add] at start
  exact start

theorem searchTotal_le (c : EncoderConfig) (p : Planes) :
    ((blockOrigins c.size).map (bestSad c p)).sum ≤
      4080 * (c.size.width / 16) * (c.size.height / 16) := by
  have each : ∀ x ∈ (blockOrigins c.size).map (bestSad c p), x ≤ 16 * 255 := by
    simp only [List.mem_map]
    rintro x ⟨b, mem, rfl⟩
    exact bestSad_le c p (mem_blockOrigins mem)
  have sum := List.sum_le_card_nsmul _ _ each
  rw [List.length_map, length_blockOrigins, smul_eq_mul] at sum
  calc _ ≤ c.size.width / 16 * (c.size.height / 16) * (16 * 255) := sum
    _ = 4080 * (c.size.width / 16) * (c.size.height / 16) := by ring

theorem motionSearch_le (c : EncoderConfig) (p : Planes) :
    motionSearch c p ≤ 4080 * (c.size.width / 16) * (c.size.height / 16) := by
  rw [motionSearch_eq_mod]
  exact (Nat.mod_le _ _).trans (searchTotal_le c p)

theorem motionSearch_exact (c : EncoderConfig) (p : Planes)
    (small : c.size.pixels ≤ Nat.pow 2 60) :
    motionSearch c p = ((blockOrigins c.size).map (bestSad c p)).sum := by
  have blocks : 256 * (c.size.width / 16 * (c.size.height / 16)) ≤ c.size.pixels :=
    calc 256 * (c.size.width / 16 * (c.size.height / 16))
        = c.size.width / 16 * 16 * (c.size.height / 16 * 16) := by ring
      _ ≤ c.size.width * c.size.height :=
        Nat.mul_le_mul (Nat.div_mul_le_self _ _) (Nat.div_mul_le_self _ _)
  have bound := searchTotal_le c p
  rw [Nat.mul_assoc] at bound
  rw [motionSearch_eq_mod, Nat.mod_eq_of_lt]
  generalize c.size.width / 16 * (c.size.height / 16) = n at blocks bound
  simp only [Nat.pow_eq] at small ⊢
  omega

theorem SoftwareEncoder.activate_eq_ok {e e' : SoftwareEncoder} (h : e.activate = .ok e') :
    e' = { e with active := true } := by
  unfold SoftwareEncoder.activate at h
  split at h
  · cases h
  · cases h
    rfl

namespace FramedEncoder

inductive Call
  | activate
  | encode (frameIndex : Nat)
  | deactivate

def perform (e : FramedEncoder) : Call → FramedEncoder
  | .activate =>
    match e.activate with
    | .ok up => up
    | .error _ => e
  | .encode frameIndex =>
    match e.encodeFrame frameIndex with
    | .ok (next, _) => next
    | .error _ => e
  | .deactivate => e.deactivate

def runCalls (e : FramedEncoder) (calls : List Call) : FramedEncoder := calls.foldl perform e

theorem encoder_encodeFrame (e : FramedEncoder) (frameIndex : Nat) :
    (e.encodeFrame frameIndex).map (·.1.encoder) = e.encoder.encodeFrame := by
  unfold encodeFrame
  cases e.encoder.encodeFrame <;> rfl

theorem size_render (width frameIndex : Nat) (plane : Array UInt8) :
    (render width frameIndex plane).size = plane.size :=
  Array.size_mapIdx

theorem sizes_advance (p : Planes) (width frameIndex : Nat) :
    (p.advance width frameIndex).current.size = p.previous.size ∧
      (p.advance width frameIndex).previous.size = p.current.size :=
  ⟨size_render width frameIndex p.previous, rfl⟩

/-- An encoder for `c` that is up holds two planes of `c`'s size. -/
structure Sized (c : EncoderConfig) (e : FramedEncoder) : Prop where
  config : e.encoder.config = c
  planes : e.encoder.active = true →
    e.planes.current.size = c.size.pixels ∧ e.planes.previous.size = c.size.pixels

theorem sized_create (c : EncoderConfig) : Sized c (create c) :=
  ⟨rfl, fun up => absurd up Bool.false_ne_true⟩

theorem encodeFrame_of_ok {e : FramedEncoder} {next : SoftwareEncoder}
    (encoded : e.encoder.encodeFrame = .ok next) (frameIndex : Nat) :
    e.encodeFrame frameIndex =
      .ok (⟨next, e.planes.advance e.encoder.config.size.width frameIndex⟩,
        if e.encoder.framesEncoded % SoftwareEncoder.keyframePeriod e.encoder.config = 0 then 0
        else motionSearch e.encoder.config
          (e.planes.advance e.encoder.config.size.width frameIndex)) := by
  simp only [encodeFrame, encoded, beq_iff_eq]

theorem Sized.activate {c : EncoderConfig} {e up : FramedEncoder} (sized : Sized c e)
    (h : e.activate = .ok up) : Sized c up := by
  unfold FramedEncoder.activate at h
  split at h
  · cases h
  · rename_i next came
    cases h
    have same : next.config = c := by
      rw [SoftwareEncoder.activate_eq_ok came]
      exact sized.config
    exact ⟨same, fun _ => by simp [Planes.allocate, same]⟩

theorem Sized.encodeFrame {c : EncoderConfig} {e e' : FramedEncoder} {cost frameIndex : Nat}
    (sized : Sized c e) (h : e.encodeFrame frameIndex = .ok (e', cost)) : Sized c e' := by
  cases encoded : e.encoder.encodeFrame with
  | error err => simp [FramedEncoder.encodeFrame, encoded] at h
  | ok next =>
    rw [encodeFrame_of_ok encoded] at h
    cases h
    obtain ⟨up, -, config, -⟩ := SoftwareEncoder.encodeFrame_ok encoded
    obtain ⟨current, previous⟩ := sized.planes up
    obtain ⟨swappedCurrent, swappedPrevious⟩ :=
      sizes_advance e.planes e.encoder.config.size.width frameIndex
    exact ⟨config.trans sized.config,
      fun _ => ⟨swappedCurrent.trans previous, swappedPrevious.trans current⟩⟩

theorem Sized.deactivate {c : EncoderConfig} {e : FramedEncoder} (sized : Sized c e) :
    Sized c e.deactivate :=
  ⟨sized.config, fun up => absurd up Bool.false_ne_true⟩

theorem Sized.perform {c : EncoderConfig} {e : FramedEncoder} (sized : Sized c e) :
    ∀ call, Sized c (e.perform call)
  | .activate => by
    cases h : e.activate with
    | ok up => simpa only [FramedEncoder.perform, h] using sized.activate h
    | error _ => simpa only [FramedEncoder.perform, h] using sized
  | .encode frameIndex => by
    cases h : e.encodeFrame frameIndex with
    | ok next => simpa only [FramedEncoder.perform, h] using sized.encodeFrame h
    | error _ => simpa only [FramedEncoder.perform, h] using sized
  | .deactivate => sized.deactivate

theorem sized_runCalls {c : EncoderConfig} :
    ∀ {e : FramedEncoder} (calls : List Call), Sized c e → Sized c (e.runCalls calls)
  | _, [], sized => sized
  | _, call :: calls, sized => sized_runCalls calls (sized.perform call)

theorem encodeFrame_of_sized {c : EncoderConfig} {e : FramedEncoder} (sized : Sized c e)
    (up : e.encoder.active = true) (frameIndex : Nat) :
    ∃ e' cost, e.encodeFrame frameIndex = .ok (e', cost) ∧
      e'.planes.current.size = c.size.pixels ∧ e'.planes.previous.size = c.size.pixels ∧
      cost = if e.encoder.framesEncoded % SoftwareEncoder.keyframePeriod c = 0 then 0
        else motionSearch c e'.planes := by
  obtain ⟨next, encoded⟩ : ∃ next, e.encoder.encodeFrame = .ok next := by
    simp [SoftwareEncoder.encodeFrame, up]
  obtain ⟨current, previous⟩ := sized.planes up
  obtain ⟨swappedCurrent, swappedPrevious⟩ :=
    sizes_advance e.planes e.encoder.config.size.width frameIndex
  refine ⟨_, _, encodeFrame_of_ok encoded frameIndex, swappedCurrent.trans previous,
    swappedPrevious.trans current, ?_⟩
  simp only [sized.config]

end FramedEncoder

open FramedEncoder

/-- Whatever calls an encoder has had, while it is up every frame it is sent is encoded, into
two planes of `width · height` bytes. Every block the frame's motion search visits, and every
reference block it compares one with, lies inside the plane, so every position a block cost reads
is below `width · height`, in both planes. Each block is a candidate of its own, so its best cost
is at most `16 · 255` and the initial `u64Max` is never added; the frame's cost is the search's
total unless the frame is a keyframe, and that total is at most
`4080 · ⌊width / 16⌋ · ⌊height / 16⌋`, and is the exact sum of the blocks' costs, with no
64-bit wrap, for every plane of at most `2 ^ 60` pixels. -/
theorem motion_search_stays_inside_planes (c : EncoderConfig) (calls : List FramedEncoder.Call)
    (up : ((create c).runCalls calls).encoder.active = true) (frameIndex : Nat) :
    ∃ e cost, ((create c).runCalls calls).encodeFrame frameIndex = .ok (e, cost) ∧
      e.planes.current.size = c.size.pixels ∧ e.planes.previous.size = c.size.pixels ∧
      (∀ b ∈ blockOrigins c.size, ∀ ref ∈ candidates c.size c.options.preset.searchRadius b,
        ∀ r ∈ blockReads c.size.width b ref, r.1 < c.size.pixels ∧ r.2 < c.size.pixels) ∧
      (∀ b ∈ blockOrigins c.size,
        b ∈ candidates c.size c.options.preset.searchRadius b ∧ bestSad c e.planes b ≤ 16 * 255) ∧
      cost = (if ((create c).runCalls calls).encoder.framesEncoded %
          SoftwareEncoder.keyframePeriod c = 0 then 0 else motionSearch c e.planes) ∧
      motionSearch c e.planes ≤ 4080 * (c.size.width / 16) * (c.size.height / 16) ∧
      (c.size.pixels ≤ Nat.pow 2 60 →
        motionSearch c e.planes = ((blockOrigins c.size).map (bestSad c e.planes)).sum) := by
  have sized := sized_runCalls calls (sized_create c)
  obtain ⟨e, cost, encoded, current, previous, frameCost⟩ :=
    encodeFrame_of_sized sized up frameIndex
  refine ⟨e, cost, encoded, current, previous, ?_, ?_, frameCost, ?_, motionSearch_exact c e.planes⟩
  · intro b block ref candidate r read
    exact mem_blockReads (mem_blockOrigins block) (mem_candidates candidate) read
  · intro b block
    exact ⟨self_mem_candidates _ (mem_blockOrigins block),
      bestSad_le c e.planes (mem_blockOrigins block)⟩
  · exact motionSearch_le c e.planes

/-- A 32 × 32 encoder at the widest search radius, brought up and sent frame 1. -/
theorem motion_search_stays_inside_planes_after_activation :
    let c : EncoderConfig :=
      { size := ⟨32, 32⟩, frameRate := FrameRate.fps30, options := ⟨1200, .veryslow, 2⟩ }
    ((create c).runCalls [.activate]).encoder.active = true ∧
    ∃ e cost, ((create c).runCalls [.activate]).encodeFrame 1 = .ok (e, cost) ∧
      e.planes.current.size = c.size.pixels ∧ e.planes.previous.size = c.size.pixels ∧
      (∀ b ∈ blockOrigins c.size, ∀ ref ∈ candidates c.size c.options.preset.searchRadius b,
        ∀ r ∈ blockReads c.size.width b ref, r.1 < c.size.pixels ∧ r.2 < c.size.pixels) ∧
      (∀ b ∈ blockOrigins c.size,
        b ∈ candidates c.size c.options.preset.searchRadius b ∧ bestSad c e.planes b ≤ 16 * 255) ∧
      cost = (if ((create c).runCalls [.activate]).encoder.framesEncoded %
          SoftwareEncoder.keyframePeriod c = 0 then 0 else motionSearch c e.planes) ∧
      motionSearch c e.planes ≤ 4080 * (c.size.width / 16) * (c.size.height / 16) ∧
      (c.size.pixels ≤ Nat.pow 2 60 →
        motionSearch c e.planes = ((blockOrigins c.size).map (bestSad c e.planes)).sum) := by
  intro c
  have up : ((create c).runCalls [.activate]).encoder.active = true := by
    dsimp only [c]
    rfl
  exact ⟨up, motion_search_stays_inside_planes c [.activate] up 1⟩

end EncoderBench
