import VehicleShow.Proofs.MatrixView
import VehicleShow.Proofs.ExportedShow

/-! # The times of transitions

The header of a sequence says how long a frame lasts, and the length of the show is counted by that.
The transitions are timed at twenty milliseconds a frame, whatever the header says.
`transitions_at_fixed_step` tells when the two agree: in a file with that step, and else for the first
frame alone. -/
set_option autoImplicit false
namespace VehicleShow.FrameMatrix

section Read
variable {bytes : List UInt8} {header : Header} {m : FrameMatrix}
  (read : ofSequence bytes = .ok (header, m))
include read

theorem frameCount_of_ofSequence : m.frameCount = header.frameCount.toNat := by
  obtain ⟨-, -, -, data⟩ := (ofSequence_eq_ok_iff bytes header m).mp read
  exact ((ofBytes?_eq_some_iff _ _ _ _).mp data).2.1

/-- A change falls into a frame of the show, and twenty milliseconds go to every frame before it. -/
theorem time_of_mem_transitions {channel : Channel} {change : Transition}
    (member : change ∈ m.transitions channel) :
    change.frame < header.frameCount.toNat ∧ change.timeMs.toNat = 20 * change.frame := by
  obtain ⟨frame, inside, -, rfl⟩ := (m.mem_transitions_iff channel change).mp member
  rw [frameCount_of_ofSequence read] at inside
  exact ⟨inside, toNat_frameTimeMs (Nat.lt_trans inside header.frameCount.toNat_lt)⟩

theorem transitions_at_fixed_step {channel : Channel} {change : Transition}
    (member : change ∈ m.transitions channel) :
    change.frame < header.frameCount.toNat ∧
      change.timeMs.toNat = 20 * change.frame ∧
      header.durationMs.toNat = header.frameCount.toNat * header.stepTimeMs.toNat ∧
      (change.timeMs.toNat = change.frame * header.stepTimeMs.toNat ↔
        change.frame = 0 ∨ header.stepTimeMs = 20) ∧
      (20 ≤ header.stepTimeMs → change.timeMs < header.durationMs) ∧
      (change.timeMs < header.durationMs ↔
        20 * change.frame < header.frameCount.toNat * header.stepTimeMs.toNat) := by
  obtain ⟨inside, timed⟩ := time_of_mem_transitions read member
  have length := header.toNat_durationMs
  have before : change.timeMs < header.durationMs ↔
      20 * change.frame < header.frameCount.toNat * header.stepTimeMs.toNat := by
    rw [UInt64.lt_iff_toNat_lt, timed, length]
  refine ⟨inside, timed, length, ?_, ?_, before⟩
  · rw [timed, ← UInt8.toNat_inj, Nat.mul_comm]
    constructor
    · intro same
      rcases Nat.eq_zero_or_pos change.frame with first | later
      · exact Or.inl first
      · exact Or.inr (Nat.eq_of_mul_eq_mul_left later same).symm
    · intro either
      rcases either with first | steady
      · rw [first, Nat.zero_mul, Nat.zero_mul]
      · rw [steady]
        rfl
  · intro slow
    have step : 20 ≤ header.stepTimeMs.toNat := UInt8.le_iff_toNat_le.mp slow
    rw [before, Nat.mul_comm]
    exact Nat.mul_lt_mul_of_lt_of_le inside step (Nat.lt_of_lt_of_le (by decide) step)

end Read

/-! ## A file with shorter frames -/

/-- Two frames of ten milliseconds. -/
def briskHeader : Header := { Header.plain 2 7 with stepTimeMs := 10 }

def secondFrameOpens (channel : Channel) : FrameMatrix := (blank 2).put 1 channel 64

def briskFile (channel : Channel) : List UInt8 :=
  briskHeader.toBytes ++ (secondFrameOpens channel).data.toList

theorem read_briskFile (channel : Channel) :
    ofSequence (briskFile channel) = .ok (briskHeader, secondFrameOpens channel) := by
  have read : ofSequence (briskFile channel ++ []) = .ok (briskHeader, secondFrameOpens channel) :=
    ofSequence_toBytes_append rfl rfl rfl rfl rfl []
  rwa [List.append_nil] at read

theorem secondFrameOpens_transition (channel : Channel) :
    (⟨1, 20, 0, 64⟩ : Transition) ∈ (secondFrameOpens channel).transitions channel := by
  rw [mem_transitions_iff]
  refine ⟨1, Nat.one_lt_two, ?_, ?_⟩
  · simp [changesAt, valueBefore, secondFrameOpens, value_put]
  · simp [changeAt, valueBefore, secondFrameOpens, value_put]
    rfl

/-- The left mirror opens ten milliseconds into a show of twenty, and at the end of it by the
transition. -/
theorem transitions_of_brisk_file :
    ofSequence (briskFile 34) = .ok (briskHeader, secondFrameOpens 34) ∧
      (⟨1, 20, 0, 64⟩ : Transition) ∈ (secondFrameOpens 34).transitions 34 ∧
      briskHeader.durationMs.toNat = 20 ∧
      (20 : UInt64).toNat ≠ 1 * briskHeader.stepTimeMs.toNat ∧
      ¬ (20 : UInt64) < briskHeader.durationMs := by
  obtain ⟨-, -, length, onClock, -, before⟩ :=
    transitions_at_fixed_step (read_briskFile 34) (secondFrameOpens_transition 34)
  exact ⟨read_briskFile 34, secondFrameOpens_transition 34, length, mt onClock.mp (by decide),
    mt before.mp (by decide)⟩

theorem transitions_not_on_own_clock :
    ¬ ∀ (bytes : List UInt8) (header : Header) (m : FrameMatrix),
        ofSequence bytes = .ok (header, m) →
          ∀ channel : Channel, ∀ change ∈ m.transitions channel,
            change.timeMs.toNat = change.frame * header.stepTimeMs.toNat ∧
              change.timeMs < header.durationMs := by
  intro onClock
  obtain ⟨timed, -⟩ := onClock _ _ _ (read_briskFile 34) 34 _ (secondFrameOpens_transition 34)
  exact absurd timed (by decide)

end VehicleShow.FrameMatrix
