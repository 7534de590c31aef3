import VehicleShow.FrameMatrix

/-! # Frames and show time

`frameFrom` rounds a time up to a frame and `frameAt` rounds it down.  Each is described here by the
comparison it decides, so that a span of time and a range of frames can be exchanged for each other.
No frame of a show is too late for its time to fit 64 bits. -/
set_option autoImplicit false
namespace VehicleShow

@[simp] theorem toNat_stepMs : stepMs.toNat = 20 := rfl

theorem frameFrom_le_iff (timeMs : UInt64) (frame : Nat) :
    frameFrom timeMs ≤ frame ↔ timeMs.toNat ≤ 20 * frame := by
  rw [frameFrom, toNat_stepMs]
  omega

theorem lt_frameFrom_iff (timeMs : UInt64) (frame : Nat) :
    frame < frameFrom timeMs ↔ 20 * frame < timeMs.toNat := by
  have := frameFrom_le_iff timeMs frame
  omega

theorem frameAt_eq (timeMs : UInt64) : frameAt timeMs = timeMs.toNat / 20 := rfl

theorem toNat_frameTimeMs {frame : Nat} (counted : frame < UInt32.size) :
    (frameTimeMs frame).toNat = 20 * frame := by
  have small : frame < UInt64.size := Nat.lt_trans counted (by decide)
  have room : frame * 20 < 2 ^ 64 :=
    Nat.lt_trans (Nat.mul_lt_mul_of_pos_right counted (by decide)) (by decide)
  rw [frameTimeMs, UInt64.toNat_mul, UInt64.toNat_ofNat_of_lt' small, toNat_stepMs,
    Nat.mod_eq_of_lt room, Nat.mul_comm]

/-- The frames in which an event is active are the ones from its start rounded up to its end rounded
up. -/
theorem isActiveAt_frameTimeMs (event : Event) {frame : Nat} (counted : frame < UInt32.size) :
    event.isActiveAt (frameTimeMs frame) = true ↔
      frameFrom event.startMs ≤ frame ∧ frame < frameFrom event.endMs := by
  rw [frameFrom_le_iff, lt_frameFrom_iff, ← toNat_frameTimeMs counted]
  simp [Event.isActiveAt, UInt64.le_iff_toNat_le, UInt64.lt_iff_toNat_lt]

theorem frameTimeMs_add (first second : Nat) :
    frameTimeMs (first + second) = frameTimeMs first + frameTimeMs second := by
  rw [frameTimeMs, UInt64.ofNat_add, UInt64.add_mul]
  rfl

/-- As long as 64 bits can hold the sum, a time put off by whole frames is that much later. -/
theorem toNat_add_frameTimeMs {timeMs : UInt64} {frames : Nat} (counted : frames < UInt32.size)
    (room : timeMs.toNat + 20 * frames < UInt64.size) :
    (timeMs + frameTimeMs frames).toNat = timeMs.toNat + 20 * frames := by
  rw [UInt64.toNat_add, toNat_frameTimeMs counted]
  exact Nat.mod_eq_of_lt room

/-! ## Lengths and midpoints -/

namespace Event

theorem toNat_durationMs (event : Event) :
    event.durationMs.toNat = event.endMs.toNat - event.startMs.toNat := by
  rw [durationMs]
  by_cases ordered : event.startMs ≤ event.endMs
  · rw [if_pos ordered, UInt64.toNat_sub_of_le _ _ ordered]
  · have reversed := mt UInt64.le_iff_toNat_le.mpr ordered
    rw [if_neg ordered, UInt64.toNat_zero, Nat.sub_eq_zero_of_le (by omega)]

/-- The midpoint lies in the span, so the sum that computes it cannot wrap. -/
theorem toNat_midpointMs (event : Event) :
    event.midpointMs.toNat =
      event.startMs.toNat + (event.endMs.toNat - event.startMs.toNat) / 2 := by
  have startBound := event.startMs.toNat_lt
  have endBound := event.endMs.toNat_lt
  have two : (2 : UInt64).toNat = 2 := rfl
  rw [midpointMs, UInt64.toNat_add, UInt64.toNat_div, two, toNat_durationMs]
  apply Nat.mod_eq_of_lt
  omega

end Event

/-! ## Accepted lengths -/

/-- A show can be compiled when it has a length and its frames can be counted. -/
theorem compile_eq_ok_iff (events : List Event) (durationMs : UInt64) (matrix : FrameMatrix) :
    compile events durationMs = .ok matrix ↔
      durationMs ≠ 0 ∧ frameCountFor durationMs ≤ maxFrameCount ∧
        matrix = .ofEvents (frameCountFor durationMs) events := by
  rw [compile]
  by_cases empty : durationMs = 0
  · simp [empty]
  · by_cases tooLong : maxFrameCount < frameCountFor durationMs
    · simp [empty, tooLong, Nat.not_le.mpr tooLong]
    · simp [empty, tooLong, Nat.not_lt.mp tooLong, eq_comm]

/-- The events have no part in whether a show is refused. -/
theorem compile_eq_error_iff (events : List Event) (durationMs : UInt64) (fault : Fault) :
    compile events durationMs = .error fault ↔
      (durationMs = 0 ∧ fault = .invalidDuration durationMs) ∨
        (maxFrameCount < frameCountFor durationMs ∧
          fault = .durationTooLong durationMs (frameCountFor durationMs)) := by
  rw [compile]
  by_cases empty : durationMs = 0
  · have noFrames : ¬ maxFrameCount < frameCountFor 0 := by decide
    simp [empty, noFrames, eq_comm]
  · by_cases tooLong : maxFrameCount < frameCountFor durationMs
    · simp [empty, tooLong, eq_comm]
    · simp [empty, tooLong]

end VehicleShow
