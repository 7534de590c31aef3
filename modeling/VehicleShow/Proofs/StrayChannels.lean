import Mathlib.Data.List.Basic
import VehicleShow.Proofs.CompiledCell

/-! # Stray channels

A channel is stray when it holds data although none of the given events drives it, and unmapped when
no part of the catalog does.  `stray_channels_decided` says that the two scans list just these
channels of any matrix, and that a compiled show has none of its own: what is stray in it under other
events is driven by a part that they have left out. -/
set_option autoImplicit false
namespace VehicleShow

namespace FrameMatrix

/-! ## Channels outside a list -/

def HoldsData (m : FrameMatrix) (channel : Channel) : Prop :=
  ∃ frame < m.frameCount, ∃ byte, m.get? frame channel = some byte ∧ byte ≠ 0

theorem holdsData_iff (m : FrameMatrix) (channel : Channel) :
    m.HoldsData channel ↔ ∃ frame < m.frameCount, m.value frame channel ≠ 0 := by
  constructor
  · intro ⟨frame, inside, byte, found, seen⟩
    rw [m.get?_eq_some_value inside] at found
    refine ⟨frame, inside, ?_⟩
    rw [Option.some.inj found]
    exact seen
  · intro ⟨frame, inside, seen⟩
    exact ⟨frame, inside, _, m.get?_eq_some_value inside channel, seen⟩

variable (m : FrameMatrix)

theorem isActive_iff (channel : Channel) : m.isActive channel = true ↔ m.HoldsData channel := by
  simp [holdsData_iff, isActive, column]

theorem mem_activeOutside_iff (expected : List Channel) (channel : Channel) :
    channel ∈ m.activeOutside expected ↔ channel ∉ expected ∧ m.HoldsData channel := by
  simp [activeOutside, isActive_iff]

theorem activeOutside_ascending (expected : List Channel) :
    (m.activeOutside expected).Pairwise (· < ·) :=
  (List.pairwise_lt_finRange channelCount).filter _

/-- The more channels are expected, the fewer are left over. -/
theorem activeOutside_sublist {fewer more : List Channel} (within : fewer ⊆ more) :
    (m.activeOutside more).Sublist (m.activeOutside fewer) := by
  apply List.monotone_filter_right
  intro channel outside
  simp only [Bool.and_eq_true, Bool.not_eq_true', List.contains_eq_mem, decide_eq_false_iff_not]
    at outside ⊢
  exact ⟨fun member => outside.1 (within member), outside.2⟩

/-! ## Channels that parts drive -/

theorem mem_strayChannels_iff (events : List Event) (channel : Channel) :
    channel ∈ m.strayChannels events ↔
      (∀ event ∈ events, ∀ part, event.part? = some part → channel ∉ part.channels) ∧
        m.HoldsData channel := by
  rw [strayChannels, mem_activeOutside_iff]
  simp only [List.mem_flatMap, Event.mem_channels_iff, not_exists, not_and]

theorem mem_unmappedChannels_iff (channel : Channel) :
    channel ∈ m.unmappedChannels ↔
      (∀ part : Part, channel ∉ part.channels) ∧ m.HoldsData channel := by
  rw [unmappedChannels, mem_activeOutside_iff]
  simp [Part.mem_all]

theorem unmappedChannels_sublist (events : List Event) :
    m.unmappedChannels.Sublist (m.strayChannels events) := by
  apply activeOutside_sublist
  intro channel driven
  obtain ⟨event, -, reached⟩ := List.mem_flatMap.mp driven
  obtain ⟨part, -, ofPart⟩ := (event.mem_channels_iff channel).mp reached
  exact List.mem_flatMap.mpr ⟨part, part.mem_all, ofPart⟩

theorem strayChannels_sublist {fewer more : List Event} (within : fewer ⊆ more) :
    (m.strayChannels more).Sublist (m.strayChannels fewer) := by
  apply activeOutside_sublist
  intro channel driven
  obtain ⟨event, given, reached⟩ := List.mem_flatMap.mp driven
  exact List.mem_flatMap.mpr ⟨event, within given, reached⟩

end FrameMatrix

/-! ## Compiled shows -/

section Compiled
variable {events : List Event} {durationMs : UInt64} {m : FrameMatrix}
  (compiled : compile events durationMs = .ok m)
include compiled

/-- Every channel that a show holds data on is driven by the part of one of its events. -/
theorem exists_part_of_holdsData {channel : Channel} (seen : m.HoldsData channel) :
    ∃ part : Part, channel ∈ part.channels ∧ ∃ event ∈ events, event.part? = some part := by
  obtain ⟨frame, inside, lit⟩ := (m.holdsData_iff channel).mp seen
  rw [value_of_compile compiled inside] at lit
  by_contra absent
  apply lit
  apply cell_of_unreached
  intro event given reached
  obtain ⟨part, own, driven⟩ := (event.mem_channels_iff channel).mp reached
  exact absent ⟨part, driven, event, given, own⟩

theorem strayChannels_of_compile : m.strayChannels events = [] := by
  apply List.eq_nil_iff_forall_not_mem.mpr
  intro channel stray
  obtain ⟨undriven, seen⟩ := (m.mem_strayChannels_iff events channel).mp stray
  obtain ⟨part, driven, event, given, own⟩ := exists_part_of_holdsData compiled seen
  exact undriven event given part own driven

theorem unmappedChannels_of_compile : m.unmappedChannels = [] := by
  have fewer := m.unmappedChannels_sublist events
  rw [strayChannels_of_compile compiled] at fewer
  exact List.sublist_nil.mp fewer

end Compiled

theorem stray_channels_decided :
    (∀ (m : FrameMatrix) (events : List Event),
      (m.strayChannels events).Pairwise (· < ·) ∧
        (∀ channel, channel ∈ m.strayChannels events ↔
          (∀ event ∈ events, ∀ part, event.part? = some part → channel ∉ part.channels) ∧
            m.HoldsData channel) ∧
        m.unmappedChannels.Pairwise (· < ·) ∧
        (∀ channel, channel ∈ m.unmappedChannels ↔
          (∀ part : Part, channel ∉ part.channels) ∧ m.HoldsData channel) ∧
        m.unmappedChannels.Sublist (m.strayChannels events) ∧
        ∀ more : List Event, events ⊆ more →
          (m.strayChannels more).Sublist (m.strayChannels events)) ∧
      ∀ (events : List Event) (durationMs : UInt64) (m : FrameMatrix),
        compile events durationMs = .ok m →
          m.strayChannels events = [] ∧ m.unmappedChannels = [] ∧
            ∀ (others : List Event), ∀ channel ∈ m.strayChannels others,
              ∃ part : Part, channel ∈ part.channels ∧
                (∃ event ∈ events, event.part? = some part) ∧
                ∀ event ∈ others, event.part? ≠ some part := by
  constructor
  · intro m events
    exact ⟨m.activeOutside_ascending _, m.mem_strayChannels_iff events, m.activeOutside_ascending _,
      m.mem_unmappedChannels_iff, m.unmappedChannels_sublist events,
      fun _ within => m.strayChannels_sublist within⟩
  · intro events durationMs m compiled
    refine ⟨strayChannels_of_compile compiled, unmappedChannels_of_compile compiled, ?_⟩
    intro others channel stray
    obtain ⟨undriven, seen⟩ := (m.mem_strayChannels_iff others channel).mp stray
    obtain ⟨part, driven, given⟩ := exists_part_of_holdsData compiled seen
    exact ⟨part, driven, given, fun event member own => undriven event member part own driven⟩

/-- A trunk that opens, a light beside it, a mirror that is asked to fold backwards in time and a part
that is not in the catalog. -/
def soundCheck : List Event :=
  [{ part := .known .trunk, startMs := 30, endMs := 90 },
   { part := .known .blinkBackRight, startMs := 0, endMs := 50 },
   { part := .known .retroLeft, startMs := 80, endMs := 20 },
   { part := .unknown "frunk", startMs := 0, endMs := 80 }]

/-- Without the trunk event, its channel is stray. -/
theorem stray_channels_in_sound_check :
    compile soundCheck 100 = .ok (.ofEvents 5 soundCheck) ∧
      (FrameMatrix.ofEvents 5 soundCheck).strayChannels soundCheck = [] ∧
      (FrameMatrix.ofEvents 5 soundCheck).unmappedChannels = [] ∧
      soundCheck.tail ⊆ soundCheck ∧
      ((FrameMatrix.ofEvents 5 soundCheck).strayChannels soundCheck).Sublist
        ((FrameMatrix.ofEvents 5 soundCheck).strayChannels soundCheck.tail) ∧
      40 ∈ (FrameMatrix.ofEvents 5 soundCheck).strayChannels soundCheck.tail ∧
      ∃ part : Part, 40 ∈ part.channels ∧ (∃ event ∈ soundCheck, event.part? = some part) ∧
        ∀ event ∈ soundCheck.tail, event.part? ≠ some part := by
  have compiled : compile soundCheck 100 = .ok (.ofEvents 5 soundCheck) := rfl
  have inside : 1 < (FrameMatrix.ofEvents 5 soundCheck).frameCount := by
    rw [FrameMatrix.frameCount_ofEvents]
    decide
  have within : soundCheck.tail ⊆ soundCheck :=
    (List.tail_sublist soundCheck).subset
  have opened : (FrameMatrix.ofEvents 5 soundCheck).HoldsData 40 := by
    refine (FrameMatrix.holdsData_iff _ _).mpr ⟨1, inside, ?_⟩
    rw [value_of_compile compiled inside]
    decide +kernel
  obtain ⟨-, listed, -, -, -, fewer⟩ :=
    stray_channels_decided.1 (.ofEvents 5 soundCheck) soundCheck.tail
  obtain ⟨own, unmapped, leftOut⟩ := stray_channels_decided.2 soundCheck 100 _ compiled
  have stray : 40 ∈ (FrameMatrix.ofEvents 5 soundCheck).strayChannels soundCheck.tail :=
    (listed 40).mpr ⟨by decide, opened⟩
  exact ⟨compiled, own, unmapped, within, fewer soundCheck within, stray, leftOut _ 40 stray⟩

end VehicleShow
