import Mathlib.Data.List.Intervals
import VehicleShow.Proofs.CommandSpan

/-! # The block of one command

Both ends of a closure event's span are rounded down to frames, so the event commands its channel in
one block of frames and in no others.  The block is as long as the span, give or take what is left of
a frame, and it starts less than a frame early.  `closure_event_block` says so, and that a fold in and
out takes the block in two runs, of which neither is lost when the span lasts two frames. -/
set_option autoImplicit false
namespace VehicleShow

/-! ## Transitions along runs of one byte -/

namespace Transition

theorem along_replicate_self (byte : UInt8) (frame count : Nat) (rest : List UInt8) :
    along byte frame (List.replicate count byte ++ rest) = along byte (frame + count) rest := by
  induction count generalizing frame with
  | zero => rfl
  | succ count ih =>
      rw [List.replicate_succ, List.cons_append, along, if_pos rfl, ih]
      congr 1
      omega

theorem along_replicate {previous byte : UInt8} (changed : byte ≠ previous) {count : Nat}
    (lasting : 0 < count) (frame : Nat) (rest : List UInt8) :
    along previous frame (List.replicate count byte ++ rest) =
      ⟨frame, frameTimeMs frame, previous, byte⟩ :: along byte (frame + count) rest := by
  obtain ⟨later, rfl⟩ := Nat.exists_eq_add_of_lt lasting
  rw [Nat.zero_add, List.replicate_succ, List.cons_append, along, if_neg changed,
    along_replicate_self]
  congr 2
  omega

end Transition

/-! ## Frames of a block -/

def FrameMatrix.commandedFrames (m : FrameMatrix) (channel : Channel) : List Nat :=
  (List.range m.frameCount).filter fun frame => m.value frame channel != 0

/-- The frames from one point of show time up to another, both rounded down. -/
def framesBetween (startMs endMs : UInt64) : List Nat := List.Ico (frameAt startMs) (frameAt endMs)

def Event.block (event : Event) : List Nat := framesBetween event.startMs event.endMs

theorem length_framesBetween {startMs endMs : UInt64} (ordered : startMs ≤ endMs) :
    (framesBetween startMs endMs).length = (endMs.toNat - startMs.toNat) / 20 ∨
      (framesBetween startMs endMs).length = (endMs.toNat - startMs.toNat + 19) / 20 := by
  have span := UInt64.le_iff_toNat_le.mp ordered
  rw [framesBetween, List.Ico.length, frameAt_eq, frameAt_eq]
  omega

/-- A span as long as a frame has a frame to itself. -/
theorem framesBetween_ne_nil {startMs endMs : UInt64} (long : 20 ≤ endMs.toNat - startMs.toNat) :
    framesBetween startMs endMs ≠ [] := by
  rw [framesBetween, Ne, List.Ico.eq_empty_iff, frameAt_eq, frameAt_eq]
  omega

/-- The first of the frames is on show when the span begins. -/
theorem head_framesBetween {startMs endMs : UInt64} {frame : Nat}
    (first : (framesBetween startMs endMs).head? = some frame) : frame = frameAt startMs := by
  rw [framesBetween] at first
  by_cases some : frameAt startMs < frameAt endMs
  · rw [List.Ico.eq_cons some, List.head?_cons] at first
    exact (Option.some.inj first).symm
  · rw [List.Ico.eq_nil_of_le (Nat.le_of_not_lt some)] at first
    cases first

theorem filter_range_between {first last frameCount : Nat} (within : last ≤ frameCount) :
    ((List.range frameCount).filter fun frame => first ≤ frame ∧ frame < last) =
      List.Ico first last := by
  simp only [Bool.decide_and]
  rw [← List.filter_filter, ← List.Ico.zero_bot, List.Ico.filter_lt, List.Ico.filter_le,
    Nat.min_eq_right within, Nat.max_eq_right (Nat.zero_le first)]

theorem map_Ico_eq_replicate {β : Type} {look : Nat → β} {first last : Nat} {seen : β}
    (steady : ∀ frame, first ≤ frame → frame < last → look frame = seen) :
    (List.Ico first last).map look = List.replicate (last - first) seen := by
  rw [← List.Ico.length first last, List.map_eq_replicate_iff]
  intro frame member
  obtain ⟨begun, unfinished⟩ := List.Ico.mem.mp member
  exact steady frame begun unfinished

/-- A fold turns between its start and its end, also when these are counted in frames. -/
theorem Event.frameAt_midpointMs {event : Event} (ordered : event.startMs ≤ event.endMs) :
    frameAt event.startMs ≤ frameAt event.midpointMs ∧
      frameAt event.midpointMs ≤ frameAt event.endMs := by
  have span := UInt64.le_iff_toNat_le.mp ordered
  have midpoint := event.toNat_midpointMs
  rw [frameAt_eq, frameAt_eq, frameAt_eq]
  omega

/-! ## One closure event -/

section Alone
variable {event : Event} {part : Part} {channel : Channel} (own : event.part? = some part)
  (closure : part.isClosure = true) (driven : channel ∈ part.channels)
  {durationMs : UInt64} {m : FrameMatrix} (compiled : compile [event] durationMs = .ok m)
include own closure driven compiled

theorem value_of_roundTrip (fold : event.payload? = some (.mirror .roundTrip)) {frame : Nat}
    (inside : frame < m.frameCount) :
    m.value frame channel =
      if frameAt event.startMs ≤ frame ∧ frame < frameAt event.endMs then
        if frame < frameAt event.midpointMs then 192 else 64
      else 0 := by
  rw [value_of_compile compiled inside, cell_of_roundTrip own closure driven fold]

variable (finished : frameAt event.endMs ≤ m.frameCount)
include finished

theorem commandedFrames_of_closure_event : m.commandedFrames channel = event.block := by
  rw [Event.block, framesBetween, ← filter_range_between finished, FrameMatrix.commandedFrames]
  apply List.filter_congr
  intro frame member
  have commanded := cell_of_closure_event_ne_zero_iff own closure driven frame
  rw [value_of_compile compiled (List.mem_range.mp member), Bool.eq_iff_iff, bne_iff_ne,
    commanded, decide_eq_true_eq]

variable (ordered : event.startMs ≤ event.endMs)
  (fold : event.payload? = some (.mirror .roundTrip))
include ordered fold

/-- A fold in and out is seen as a rest, a run of one command, a run of the other, and a rest. -/
theorem column_of_roundTrip :
    m.column channel =
      List.replicate (frameAt event.startMs) 0 ++
        (List.replicate (frameAt event.midpointMs - frameAt event.startMs) 192 ++
          (List.replicate (frameAt event.endMs - frameAt event.midpointMs) 64 ++
            List.replicate (m.frameCount - frameAt event.endMs) 0)) := by
  obtain ⟨turning, ending⟩ := Event.frameAt_midpointMs ordered
  have seen (frame : Nat) (inside : frame < m.frameCount) :=
    value_of_roundTrip own closure driven compiled fold inside
  -- The frames are cut where the byte changes; each piece between two cuts is one run.
  rw [FrameMatrix.column, ← List.Ico.zero_bot,
    ← List.Ico.append_consecutive (Nat.zero_le (frameAt event.startMs)) (by omega),
    ← List.Ico.append_consecutive turning (by omega),
    ← List.Ico.append_consecutive ending finished, List.map_append, List.map_append,
    List.map_append]
  congr 1
  · apply map_Ico_eq_replicate
    intro frame _ before
    rw [seen frame (by omega), if_neg (by omega)]
  congr 1
  · apply map_Ico_eq_replicate
    intro frame begun folding
    rw [seen frame (by omega), if_pos (by omega), if_pos folding]
  congr 1
  · apply map_Ico_eq_replicate
    intro frame turned unfinished
    rw [seen frame (by omega), if_pos (by omega), if_neg (by omega)]
  · apply map_Ico_eq_replicate
    intro frame ended inside
    rw [seen frame inside, if_neg (by omega)]

/-- A fold whose halves both have a frame changes the channel twice, and once more if a frame is left
to go idle in. -/
theorem transitions_of_roundTrip (folds : frameAt event.startMs < frameAt event.midpointMs)
    (unfolds : frameAt event.midpointMs < frameAt event.endMs) :
    m.transitions channel =
      [⟨frameAt event.startMs, frameTimeMs (frameAt event.startMs), 0, 192⟩,
        ⟨frameAt event.midpointMs, frameTimeMs (frameAt event.midpointMs), 192, 64⟩] ++
      if frameAt event.endMs < m.frameCount then
        [⟨frameAt event.endMs, frameTimeMs (frameAt event.endMs), 64, 0⟩]
      else [] := by
  rw [FrameMatrix.transitions, column_of_roundTrip own closure driven compiled finished ordered fold,
    Transition.along_replicate_self, Nat.zero_add,
    Transition.along_replicate (by decide) (Nat.sub_pos_of_lt folds), Nat.add_sub_of_le folds.le,
    Transition.along_replicate (by decide) (Nat.sub_pos_of_lt unfolds),
    Nat.add_sub_of_le unfolds.le, List.cons_append, List.cons_append, List.nil_append]
  congr 2
  by_cases idle : frameAt event.endMs < m.frameCount
  · rw [if_pos idle, ← List.append_nil (List.replicate _ _),
      Transition.along_replicate (by decide) (Nat.sub_pos_of_lt idle)]
    rfl
  · rw [if_neg idle, Nat.sub_eq_zero_of_le (Nat.le_of_not_lt idle)]
    rfl

/-- The halves of a fold, each over the frames of its own span. -/
theorem halves_of_roundTrip :
    (∀ frame ∈ framesBetween event.startMs event.midpointMs, m.get? frame channel = some 192) ∧
      ∀ frame ∈ framesBetween event.midpointMs event.endMs, m.get? frame channel = some 64 := by
  obtain ⟨turning, ending⟩ := Event.frameAt_midpointMs ordered
  constructor
  · intro frame member
    obtain ⟨begun, folding⟩ := List.Ico.mem.mp member
    have inside : frame < m.frameCount := by omega
    rw [m.get?_eq_some_value inside, value_of_roundTrip own closure driven compiled fold inside,
      if_pos (by omega), if_pos folding]
  · intro frame member
    obtain ⟨turned, unfinished⟩ := List.Ico.mem.mp member
    have inside : frame < m.frameCount := by omega
    rw [m.get?_eq_some_value inside, value_of_roundTrip own closure driven compiled fold inside,
      if_pos (by omega), if_neg (by omega)]

end Alone

theorem closure_event_block {event : Event} {part : Part} {channel : Channel} {durationMs : UInt64}
    (own : event.part? = some part) (closure : part.isClosure = true)
    (driven : channel ∈ part.channels) (ordered : event.startMs ≤ event.endMs)
    (lasting : durationMs ≠ 0) (counted : (durationMs.toNat + 19) / 20 < UInt32.size)
    (finished : event.endMs.toNat ≤ 20 * ((durationMs.toNat + 19) / 20)) :
    ∃ m, compile [event] durationMs = .ok m ∧
      m.frameCount = (durationMs.toNat + 19) / 20 ∧
      m.commandedFrames channel =
        List.Ico (event.startMs.toNat / 20) (event.endMs.toNat / 20) ∧
      ((m.commandedFrames channel).length = (event.endMs.toNat - event.startMs.toNat) / 20 ∨
        (m.commandedFrames channel).length = (event.endMs.toNat - event.startMs.toNat + 19) / 20) ∧
      (∀ first, (m.commandedFrames channel).head? = some first →
        event.startMs.toNat < (frameTimeMs first).toNat + 20 ∧ frameTimeMs first ≤ event.startMs) ∧
      (20 ≤ event.endMs.toNat - event.startMs.toNat → m.commandedFrames channel ≠ []) ∧
      (event.payload? = some (.mirror .roundTrip) →
        ∃ folding unfolding, m.commandedFrames channel = folding ++ unfolding ∧
          (∀ frame ∈ folding, m.get? frame channel = some 192) ∧
          (∀ frame ∈ unfolding, m.get? frame channel = some 64) ∧
          (40 ≤ event.endMs.toNat - event.startMs.toNat →
            folding ≠ [] ∧ unfolding ≠ [] ∧
              (m.transitions channel).map Transition.after =
                [192, 64] ++ if event.endMs.toNat / 20 < m.frameCount then [0] else [])) := by
  have compiled : compile [event] durationMs = .ok (.ofEvents (frameCountFor durationMs) [event]) :=
    (compile_eq_ok_iff _ _ _).mpr ⟨lasting, Nat.le_of_lt_succ counted, rfl⟩
  have frames : (FrameMatrix.ofEvents (frameCountFor durationMs) [event]).frameCount =
      (durationMs.toNat + 19) / 20 := FrameMatrix.frameCount_ofEvents _ _
  generalize FrameMatrix.ofEvents (frameCountFor durationMs) [event] = m at compiled frames
  have within : frameAt event.endMs ≤ m.frameCount := by
    rw [frames, frameAt_eq]
    omega
  have block := commandedFrames_of_closure_event own closure driven compiled within
  refine ⟨m, compiled, frames, block, ?_, ?_, ?_, ?_⟩
  · rw [block]
    exact length_framesBetween ordered
  · intro first head
    rw [block] at head
    have begun := head_framesBetween head
    have unfinished := (List.Ico.mem.mp (List.mem_of_head? head)).2
    have early : first < UInt32.size := by omega
    rw [UInt64.le_iff_toNat_le, toNat_frameTimeMs early, begun, frameAt_eq]
    omega
  · intro long
    rw [block]
    exact framesBetween_ne_nil long
  · intro fold
    obtain ⟨turning, ending⟩ := Event.frameAt_midpointMs ordered
    obtain ⟨folding, unfolding⟩ :=
      halves_of_roundTrip own closure driven compiled within ordered fold
    refine ⟨framesBetween event.startMs event.midpointMs,
      framesBetween event.midpointMs event.endMs, ?_, folding, unfolding, ?_⟩
    · rw [block]
      exact (List.Ico.append_consecutive turning ending).symm
    · intro long
      have midpoint := event.toNat_midpointMs
      have folds : framesBetween event.startMs event.midpointMs ≠ [] :=
        framesBetween_ne_nil (by omega)
      have unfolds : framesBetween event.midpointMs event.endMs ≠ [] :=
        framesBetween_ne_nil (by omega)
      refine ⟨folds, unfolds, ?_⟩
      rw [transitions_of_roundTrip own closure driven compiled within ordered fold
        (Nat.lt_of_not_le (mt List.Ico.eq_nil_of_le folds))
        (Nat.lt_of_not_le (mt List.Ico.eq_nil_of_le unfolds)), List.map_append,
        apply_ite (List.map Transition.after)]
      rfl

/-- A mirror that starts to fold after the sample of frame 0 and is out again after the one of frame
4. -/
def slowFold : Event := { part := .known .retroRight, startMs := 15, endMs := 95 }

/-- The fold takes the first four of five frames, two for each half. -/
theorem closure_event_slow_fold :
    slowFold.part? = some .retroRight ∧ Part.retroRight.isClosure = true ∧
      35 ∈ Part.retroRight.channels ∧ slowFold.startMs ≤ slowFold.endMs ∧
      slowFold.payload? = some (.mirror .roundTrip) ∧
      ∃ m, compile [slowFold] 90 = .ok m ∧ m.frameCount = 5 ∧
        m.commandedFrames 35 = [0, 1, 2, 3] ∧
        (m.transitions 35).map Transition.after = [192, 64, 0] := by
  have own : slowFold.part? = some .retroRight := rfl
  have closure : Part.retroRight.isClosure = true := rfl
  have driven : 35 ∈ Part.retroRight.channels := by decide
  have ordered : slowFold.startMs ≤ slowFold.endMs := by decide
  have fold : slowFold.payload? = some (.mirror .roundTrip) := rfl
  obtain ⟨m, compiled, frames, block, -, -, -, halves⟩ :=
    closure_event_block own closure driven ordered (by decide : (90 : UInt64) ≠ 0) (by decide)
      (by decide)
  obtain ⟨folding, unfolding, -, -, -, long⟩ := halves fold
  obtain ⟨-, -, changes⟩ := long (by decide)
  refine ⟨own, closure, driven, ordered, fold, m, compiled, frames, block, ?_⟩
  rw [changes, frames]
  rfl

end VehicleShow
