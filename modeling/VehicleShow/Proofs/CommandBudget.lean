import VehicleShow.Proofs.ClosureChannels
import VehicleShow.Proofs.MatrixView
import VehicleShow.Proofs.CommandCount

/-! # The budget covers what the show commands

A closure's channel changes only in a frame in which one of its directives starts or ends, and where
no two events on the closure overlap it takes up a command only in a frame in which a directive
starts.  `budget_covers_commands` counts those frames against the commands that are booked on the
part. -/
set_option autoImplicit false
namespace VehicleShow

/-! ## Directives and their frames -/

namespace Directive

theorem covers_succ {directive : Directive} {frame : Nat} (channel : Channel)
    (noStart : frameAt directive.startMs ≠ frame + 1)
    (noEnd : frameAt directive.endMs ≠ frame + 1) :
    directive.covers channel (frame + 1) = directive.covers channel frame := by
  rw [frameAt_eq] at noStart noEnd
  rw [covers, covers, decide_eq_decide]
  apply and_congr_right
  intro _
  omega

def Apart (channel : Channel) (first second : Directive) : Prop :=
  ∀ frame, first.covers channel frame = true → second.covers channel frame = true → False

end Directive

/-- Where directives are apart, one that covers a frame is the only one. -/
theorem filter_covers_of_apart {directives : List Directive} {channel : Channel}
    (apart : directives.Pairwise (Directive.Apart channel)) {directive : Directive}
    (member : directive ∈ directives) {frame : Nat}
    (covered : directive.covers channel frame = true) :
    directives.filter (Directive.covers channel frame) = [directive] := by
  have kept := List.mem_filter.mpr ⟨member, covered⟩
  have keptApart := apart.sublist (List.filter_sublist (p := Directive.covers channel frame))
  have keptCover : ∀ other ∈ directives.filter (Directive.covers channel frame),
      other.covers channel frame = true := fun other among => (List.mem_filter.mp among).2
  generalize directives.filter (Directive.covers channel frame) = covering at *
  cases covering with
  | nil => cases kept
  | cons first rest =>
      cases rest with
      | nil => rw [List.mem_singleton.mp kept]
      | cons second others =>
          have both := (List.pairwise_cons.mp keptApart).1 second List.mem_cons_self
          exact (both frame (keptCover first (by simp)) (keptCover second (by simp))).elim

/-- Byte that directives leave on a channel that has no lights. -/
def commandByte (directives : List Directive) (channel : Channel) (frame : Nat) : UInt8 :=
  ((lastCommand? directives channel frame).map Command.byte).getD 0

def commandByteBefore (directives : List Directive) (channel : Channel) : Nat → UInt8
  | 0 => 0
  | frame + 1 => commandByte directives channel frame

section Changes
variable {directives : List Directive} {channel : Channel} {frame : Nat}

theorem exists_covering_of_commandByte (active : commandByte directives channel frame ≠ 0) :
    ∃ directive ∈ directives, directive.covers channel frame = true := by
  cases last : lastCommand? directives channel frame with
  | none =>
      rw [commandByte, last] at active
      exact absurd rfl active
  | some command =>
      obtain ⟨directive, member, covered, -⟩ := mem_of_lastCommand? last
      exact ⟨directive, member, covered⟩

theorem commandByte_congr {other : Nat}
    (same : directives.filter (Directive.covers channel frame) =
      directives.filter (Directive.covers channel other)) :
    commandByte directives channel frame = commandByte directives channel other := by
  rw [commandByte, commandByte, lastCommand?, lastCommand?, same]

/-- A change of command falls on the start or the end of a directive. -/
theorem mem_bounds_of_change
    (change : commandByte directives channel frame ≠ commandByteBefore directives channel frame) :
    frame ∈ directives.map (fun directive => frameAt directive.startMs) ++
      directives.map fun directive => frameAt directive.endMs := by
  cases frame with
  | zero =>
      obtain ⟨directive, member, covered⟩ := exists_covering_of_commandByte change
      rw [Directive.covers, decide_eq_true_eq] at covered
      have starts : frameAt directive.startMs = 0 := Nat.le_zero.mp covered.2.1
      exact List.mem_append_left _ (List.mem_map.mpr ⟨directive, member, starts⟩)
  | succ previous =>
      by_contra absent
      rw [List.mem_append, List.mem_map, List.mem_map] at absent
      apply change
      apply commandByte_congr
      apply List.filter_congr
      intro directive member
      exact Directive.covers_succ channel
        (fun starts => absent (Or.inl ⟨directive, member, starts⟩))
        (fun ends => absent (Or.inr ⟨directive, member, ends⟩))

/-- Where directives are apart, a command is taken up at the start of a directive. -/
theorem mem_starts_of_change (apart : directives.Pairwise (Directive.Apart channel))
    (change : commandByte directives channel frame ≠ commandByteBefore directives channel frame)
    (active : commandByte directives channel frame ≠ 0) :
    frame ∈ directives.map fun directive => frameAt directive.startMs := by
  obtain ⟨directive, member, covered⟩ := exists_covering_of_commandByte active
  have span := covered
  rw [Directive.covers, decide_eq_true_eq] at span
  by_cases starts : frameAt directive.startMs = frame
  · exact List.mem_map.mpr ⟨directive, member, starts⟩
  · -- Otherwise the directive covers the frame before as well, alone both times.
    rw [frameAt_eq] at starts
    obtain ⟨previous, rfl⟩ : ∃ previous, frame = previous + 1 := ⟨frame - 1, by omega⟩
    have earlier : directive.covers channel previous = true := by
      rw [Directive.covers, decide_eq_true_eq]
      exact ⟨span.1, by omega, by omega⟩
    have same : commandByte directives channel (previous + 1) =
        commandByte directives channel previous := by
      apply commandByte_congr
      rw [filter_covers_of_apart apart member covered, filter_covers_of_apart apart member earlier]
    exact absurd same change

end Changes

/-! ## Events that do not overlap -/

/-- One of two events ends before the other starts. -/
def Event.Apart (first second : Event) : Prop :=
  first.endMs ≤ second.startMs ∨ second.endMs ≤ first.startMs

instance (first second : Event) : Decidable (first.Apart second) :=
  inferInstanceAs (Decidable (_ ∨ _))

namespace Event

/-- The two halves of a fold do not overlap. -/
theorem directives_apart (event : Event) (channel : Channel) :
    event.directives.Pairwise (Directive.Apart channel) := by
  rcases event.directives_cases with none | ⟨own, command, one⟩ | ⟨own, both⟩
  · rw [none]
    exact List.Pairwise.nil
  · rw [one]
    exact List.pairwise_singleton _ _
  · rw [both, List.pairwise_pair]
    intro frame folding unfolding
    rw [Directive.covers, decide_eq_true_eq] at folding unfolding
    exact Nat.lt_irrefl _ (Nat.lt_of_lt_of_le folding.2.2 unfolding.2.1)

theorem directives_apart_of_apart {first second : Event} (apart : first.Apart second)
    (channel : Channel) :
    ∀ one ∈ first.directives, ∀ other ∈ second.directives, Directive.Apart channel one other := by
  intro one among other alsoAmong frame covered alsoCovered
  have firstSpan := span_of_covers among covered
  have secondSpan := span_of_covers alsoAmong alsoCovered
  rw [Event.Apart, UInt64.le_iff_toNat_le, UInt64.le_iff_toNat_le] at apart
  omega

end Event

theorem flatMap_directives_apart {events : List Event} (apart : events.Pairwise Event.Apart)
    (channel : Channel) :
    (events.flatMap Event.directives).Pairwise (Directive.Apart channel) := by
  rw [List.pairwise_flatMap]
  constructor
  · intro event _
    exact event.directives_apart channel
  · exact apart.imp fun pair => Event.directives_apart_of_apart pair channel

/-! ## Counting frames -/

section Compiled
variable {events : List Event} {durationMs : UInt64} {m : FrameMatrix}
  (compiled : compile events durationMs = .ok m) {part : Part} {channel : Channel}
  (closure : part.isClosure = true) (driven : channel ∈ part.channels)
include compiled closure driven

theorem value_eq_commandByte {frame : Nat} (inside : frame < m.frameCount) :
    m.value frame channel =
      commandByte ((eventsOn part events).flatMap Event.directives) channel frame := by
  rw [value_of_compile compiled inside, cell_of_closure closure driven, lastCommand?_of_driven driven,
    commandByte]

theorem valueBefore_eq_commandByteBefore {frame : Nat} (inside : frame < m.frameCount) :
    m.valueBefore channel frame =
      commandByteBefore ((eventsOn part events).flatMap Event.directives) channel frame := by
  cases frame with
  | zero => rfl
  | succ previous => exact value_eq_commandByte compiled closure driven (by omega)

theorem change_of_changesAt {frame : Nat} (inside : frame < m.frameCount)
    (changes : m.changesAt channel frame = true) :
    commandByte ((eventsOn part events).flatMap Event.directives) channel frame ≠
      commandByteBefore ((eventsOn part events).flatMap Event.directives) channel frame := by
  rw [FrameMatrix.changesAt, value_eq_commandByte compiled closure driven inside,
    valueBefore_eq_commandByteBefore compiled closure driven inside] at changes
  exact bne_iff_ne.mp changes

/-- Each directive accounts for two changes at the most. -/
theorem length_transitions_le :
    (m.transitions channel).length ≤ 2 * totalCost (eventsOn part events) := by
  have counted := length_filter_range_le fun frame inside changes =>
    mem_bounds_of_change (change_of_changesAt compiled closure driven inside changes)
  rw [List.length_append, List.length_map, List.length_map, ← totalCost_eq] at counted
  rw [FrameMatrix.transitions_eq, List.length_map]
  omega

/-- Where events do not overlap, each directive accounts for one command at the most. -/
theorem length_commands_le (apart : (eventsOn part events).Pairwise Event.Apart) :
    ((m.transitions channel).filter fun transition => transition.after != 0).length ≤
      totalCost (eventsOn part events) := by
  have counted : ((List.range m.frameCount).filter fun frame =>
      m.value frame channel != 0 && m.changesAt channel frame).length ≤
        (((eventsOn part events).flatMap Event.directives).map fun directive =>
          frameAt directive.startMs).length := by
    apply length_filter_range_le
    intro frame inside chosen
    obtain ⟨active, changes⟩ := Bool.and_eq_true_iff.mp chosen
    apply mem_starts_of_change (flatMap_directives_apart apart channel)
      (change_of_changesAt compiled closure driven inside changes)
    rw [← value_eq_commandByte compiled closure driven inside]
    exact bne_iff_ne.mp active
  rw [List.length_map, ← totalCost_eq] at counted
  rw [FrameMatrix.transitions_eq, List.filter_map, List.length_map, List.filter_filter]
  exact counted

end Compiled

/-- What the report books on a closure is the number of its directives.  The compiled channel changes
at most twice for each of them, and if no two events on the closure overlap, it takes up at most one
command for each. -/
theorem budget_covers_commands {events : List Event} (fits : totalCost events < UInt32.size)
    {durationMs : UInt64} {m : FrameMatrix} (compiled : compile events durationMs = .ok m)
    {part : Part} {channel : Channel} (closure : part.isClosure = true)
    (driven : channel ∈ part.channels) :
    (∀ event : Event, event.commandCost.toNat = event.directives.length) ∧
      (BudgetReport.tally events).usedFor part =
        ((events.flatMap Event.directives).filter fun directive =>
          directive.channel = channel).length ∧
      (m.transitions channel).length ≤ 2 * (BudgetReport.tally events).usedFor part ∧
      ((eventsOn part events).Pairwise Event.Apart →
        ((m.transitions channel).filter fun transition => transition.after != 0).length ≤
          (BudgetReport.tally events).usedFor part) := by
  rw [BudgetReport.usedFor_tally closure fits]
  refine ⟨Event.commandCost_eq, ?_, ?_, ?_⟩
  · rw [length_directives_on_channel driven]
  · exact length_transitions_le compiled closure driven
  · exact length_commands_le compiled closure driven

/-- A mirror that folds in and out, opens again at once and is asked to fold backwards in time, next
to two trunk events that overlap. -/
def carWash : List Event :=
  [{ part := .known .retroRight, startMs := 10, endMs := 101 },
   { part := .known .trunk, startMs := 0, endMs := 100 },
   { part := .known .retroRight, startMs := 101, endMs := 130,
     options := { mirrorMode := some .opening } },
   { part := .known .trunk, startMs := 40, endMs := 60, options := { trunkMode := some .dance } },
   { part := .known .retroRight, startMs := 200, endMs := 10 }]

theorem budget_covers_car_wash :
    totalCost carWash < UInt32.size ∧
      compile carWash 200 = .ok (.ofEvents 10 carWash) ∧
      (BudgetReport.tally carWash).usedFor .retroRight = 5 ∧
      (BudgetReport.tally carWash).usedFor .trunk = 2 ∧
      ((FrameMatrix.ofEvents 10 carWash).transitions 40).length ≤ 4 ∧
      (eventsOn .retroRight carWash).Pairwise Event.Apart ∧
      (((FrameMatrix.ofEvents 10 carWash).transitions 35).filter fun transition =>
        transition.after != 0).length ≤ 5 := by
  have fits : totalCost carWash < UInt32.size := by decide
  have compiled : compile carWash 200 = .ok (.ofEvents 10 carWash) := rfl
  have mirrorUse : (BudgetReport.tally carWash).usedFor .retroRight = 5 := by decide +kernel
  have trunkUse : (BudgetReport.tally carWash).usedFor .trunk = 2 := by decide +kernel
  have apart : (eventsOn .retroRight carWash).Pairwise Event.Apart := by decide +kernel
  obtain ⟨-, -, changes, -⟩ := budget_covers_commands fits compiled
    (rfl : Part.trunk.isClosure = true) (by decide : 40 ∈ Part.trunk.channels)
  obtain ⟨-, -, -, commands⟩ := budget_covers_commands fits compiled
    (rfl : Part.retroRight.isClosure = true) (by decide : 35 ∈ Part.retroRight.channels)
  rw [trunkUse] at changes
  refine ⟨fits, compiled, mirrorUse, trunkUse, changes, apart, ?_⟩
  rw [← mirrorUse]
  exact commands apart

end VehicleShow
