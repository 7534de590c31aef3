import VehicleShow.Proofs.CompiledCell
import VehicleShow.Proofs.TransitionReplay

/-! # The channels of the closures

`closure_channels_show_last_command` reads a closure's channel off the flat list of directives: the
last one that covers a frame is the one to be seen, and a frame that none covers is idle.  A later one
can write another command over it, but none that leaves the channel idle; so the channel has
transitions exactly when some directive for its part falls into the show
(`transitions_eq_nil_iff_uncommanded`). -/
set_option autoImplicit false
namespace VehicleShow

/-- No light reaches the channel of a closure. -/
theorem brightest_of_closure {part : Part} {channel : Channel} (closure : part.isClosure = true)
    (driven : channel ∈ part.channels) (events : List Event) (timeMs : UInt64) :
    brightest (events.filter (Event.reaches channel)) timeMs = 0 := by
  apply brightest_eq_zero
  intro event member
  obtain ⟨-, reached⟩ := List.mem_filter.mp member
  rw [Event.reaches, List.contains_iff_mem, event.mem_channels_iff_of_mem driven] at reached
  exact Event.byteAt_of_closure reached closure timeMs

theorem cell_of_closure {part : Part} {channel : Channel} (closure : part.isClosure = true)
    (driven : channel ∈ part.channels) (events : List Event) (frame : Nat) :
    cell events frame channel =
      ((lastCommand? (events.flatMap Event.directives) channel frame).map Command.byte).getD 0 := by
  rw [cell, brightest_of_closure closure driven]

/-- Bytes that the commands of a category can leave on its channel. -/
def Category.commandBytes (category : Category) : List UInt8 :=
  0 :: category.commands.map Command.byte

theorem cell_mem_commandBytes {part : Part} {channel : Channel} (closure : part.isClosure = true)
    (driven : channel ∈ part.channels) (events : List Event) (frame : Nat) :
    cell events frame channel ∈ part.category.commandBytes := by
  rw [cell_of_closure closure driven, Category.commandBytes]
  cases last : lastCommand? (events.flatMap Event.directives) channel frame with
  | none => exact List.mem_cons_self
  | some command =>
      obtain ⟨other, alsoDriven, possible⟩ := part_of_lastCommand? last
      rw [Part.eq_of_mem_channels driven alsoDriven]
      exact List.mem_cons_of_mem 0 (List.mem_map_of_mem possible)

theorem commandBytes_subset (category : Category) :
    category.commandBytes ⊆ [0, 64, 128, 192] := by
  cases category <;> decide

theorem closure_channels_show_last_command {events : List Event} {durationMs : UInt64}
    {m : FrameMatrix} (compiled : compile events durationMs = .ok m) {frame : Nat}
    (inside : frame < m.frameCount) {part : Part} {channel : Channel}
    (closure : part.isClosure = true) (driven : channel ∈ part.channels) :
    ∃ byte, m.get? frame channel = some byte ∧
      byte = ((lastCommand? (events.flatMap Event.directives) channel frame).map
        Command.byte).getD 0 ∧
      byte ∈ [0, 64, 128, 192] ∧
      (part.category = .window → byte ∈ [0, 128]) ∧
      (part.category = .mirror → byte ∈ [0, 64, 192]) := by
  have possible := cell_mem_commandBytes closure driven events frame
  refine ⟨cell events frame channel, ?_, cell_of_closure closure driven events frame,
    commandBytes_subset part.category possible, ?_, ?_⟩
  · rw [m.get?_eq_some_value inside, value_of_compile compiled inside]
  · intro window
    rw [window] at possible
    exact possible
  · intro mirror
    rw [mirror] at possible
    exact possible

/-- Two overlapping trunk events, one that ends before it starts, a mirror that folds in and out over
an odd span, and a light beside them. -/
def workshop : List Event :=
  [{ part := .known .trunk, startMs := 0, endMs := 1000 },
   { part := .known .trunk, startMs := 500, endMs := 1500,
     options := { trunkMode := some .closing } },
   { part := .known .trunk, startMs := 900, endMs := 100, options := { trunkMode := some .dance } },
   { part := .known .retroLeft, startMs := 15, endMs := 1110 },
   { part := .known .lightLeftFront, startMs := 0, endMs := 2000 }]

theorem closure_channels_in_workshop :
    compile workshop 2000 = .ok (.ofEvents 100 workshop) ∧
      30 < (FrameMatrix.ofEvents 100 workshop).frameCount ∧
      (FrameMatrix.ofEvents 100 workshop).get? 30 40 = some 192 ∧
      (FrameMatrix.ofEvents 100 workshop).get? 30 34 = some 64 := by
  have compiled : compile workshop 2000 = .ok (.ofEvents 100 workshop) := rfl
  have inside : 30 < (FrameMatrix.ofEvents 100 workshop).frameCount := by
    rw [FrameMatrix.frameCount_ofEvents]
    decide
  obtain ⟨trunk, shown, last, -⟩ := closure_channels_show_last_command compiled inside
    (rfl : Part.trunk.isClosure = true) (by decide : 40 ∈ Part.trunk.channels)
  obtain ⟨mirror, folded, turned, -⟩ := closure_channels_show_last_command compiled inside
    (rfl : Part.retroLeft.isClosure = true) (by decide : 34 ∈ Part.retroLeft.channels)
  refine ⟨compiled, inside, ?_, ?_⟩
  · apply shown.trans
    rw [last]
    decide
  · apply folded.trans
    rw [turned]
    decide

/-! ## Activity -/

def Part.CommandedBy (part : Part) (events : List Event) (frameCount : Nat) : Prop :=
  ∃ event ∈ events, event.part? = some part ∧
    ∃ directive ∈ event.directives,
      directive.startMs.toNat / 20 < min (directive.endMs.toNat / 20) frameCount

instance (part : Part) (events : List Event) (frameCount : Nat) :
    Decidable (part.CommandedBy events frameCount) :=
  inferInstanceAs (Decidable (∃ event ∈ events, event.part? = some part ∧
    ∃ directive ∈ event.directives,
      directive.startMs.toNat / 20 < min (directive.endMs.toNat / 20) frameCount))

section Closure
variable {part : Part} {channel : Channel} (closure : part.isClosure = true)
  (driven : channel ∈ part.channels)
include driven

theorem commandedBy_iff (events : List Event) (frameCount : Nat) :
    part.CommandedBy events frameCount ↔
      ∃ frame < frameCount, ∃ directive ∈ events.flatMap Event.directives,
        directive.covers channel frame = true := by
  constructor
  · rintro ⟨event, given, own, directive, member, early⟩
    refine ⟨directive.startMs.toNat / 20, by omega, directive,
      List.mem_flatMap.mpr ⟨event, given, member⟩, ?_⟩
    rw [Directive.covers, decide_eq_true_eq]
    exact ⟨(Event.channel_eq_iff driven member).mpr own, Nat.le_refl _, by omega⟩
  · rintro ⟨frame, inside, directive, among, covered⟩
    obtain ⟨event, given, member⟩ := List.mem_flatMap.mp among
    rw [Directive.covers, decide_eq_true_eq] at covered
    obtain ⟨onto, begun, unfinished⟩ := covered
    exact ⟨event, given, (Event.channel_eq_iff driven member).mp onto, directive, member,
      by omega⟩

include closure

/-- No directive carries the idle command, so a closure's channel rests only where none covers it. -/
theorem cell_eq_zero_iff (events : List Event) (frame : Nat) :
    cell events frame channel = 0 ↔
      ∀ directive ∈ events.flatMap Event.directives, ¬ directive.covers channel frame = true := by
  rw [cell_of_closure closure driven, ← lastCommand?_eq_none_iff]
  cases last : lastCommand? (events.flatMap Event.directives) channel frame with
  | none => simp
  | some command =>
      obtain ⟨other, -, possible⟩ := part_of_lastCommand? last
      simpa using Category.byte_ne_zero_of_mem_commands possible

variable {events : List Event} {durationMs : UInt64} {m : FrameMatrix}
  (compiled : compile events durationMs = .ok m)
include compiled

theorem transitions_eq_nil_iff_uncommanded :
    m.transitions channel = [] ↔ ¬ part.CommandedBy events m.frameCount := by
  rw [m.transitions_eq_nil_iff, commandedBy_iff driven]
  constructor
  · rintro dark ⟨frame, inside, directive, member, covered⟩
    have rest := dark frame inside
    rw [value_of_compile compiled inside, cell_eq_zero_iff closure driven] at rest
    exact rest directive member covered
  · intro uncommanded frame inside
    rw [value_of_compile compiled inside, cell_eq_zero_iff closure driven]
    intro directive member covered
    exact uncommanded ⟨frame, inside, directive, member, covered⟩

theorem value_mem_commandBytes {frame : Nat} (inside : frame < m.frameCount) :
    m.value frame channel ∈ [0, 64, 128, 192] := by
  rw [value_of_compile compiled inside]
  exact commandBytes_subset part.category (cell_mem_commandBytes closure driven events frame)

/-- The changes of a closure lead from one of four commands to another. -/
theorem bytes_of_mem_transitions {change : Transition} (member : change ∈ m.transitions channel) :
    change.before ∈ [0, 64, 128, 192] ∧ change.after ∈ [0, 64, 128, 192] := by
  obtain ⟨frame, inside, -, rfl⟩ := (m.mem_transitions_iff channel change).mp member
  refine ⟨?_, value_mem_commandBytes closure driven compiled inside⟩
  cases frame with
  | zero => exact List.mem_cons_self
  | succ previous =>
      exact value_mem_commandBytes closure driven compiled (Nat.lt_of_succ_lt inside)

end Closure
end VehicleShow
