import VehicleShow.Proofs.FrameTimes
import VehicleShow.Proofs.MatrixView
import VehicleShow.Proofs.Ownership

/-! # What a compiled show holds in one place

`cell` tells the byte of a channel in a frame from the events alone: the command of the last
directive that covers the place, and where there is none the brightest light.  It mentions neither
the length of the show nor the frames that a pass visits.  `value_of_compile` says that compiling
gives just these bytes. -/
set_option autoImplicit false
namespace VehicleShow

namespace Event

def byteAt (event : Event) (timeMs : UInt64) : UInt8 := Brightness.toByte (event.brightness timeMs)

def reaches (channel : Channel) (event : Event) : Bool := event.part.channels.contains channel

theorem byteAt_of_closure {event : Event} {part : Part} (own : event.part? = some part)
    (closure : part.isClosure = true) (timeMs : UInt64) : event.byteAt timeMs = 0 := by
  rw [byteAt, brightness_of_closure own closure, Brightness.toByte_zero]

theorem byteAt_of_inactive {event : Event} {timeMs : UInt64}
    (inactive : ¬ event.isActiveAt timeMs = true) : event.byteAt timeMs = 0 := by
  rw [byteAt, brightness]
  cases event.lightSetting? with
  | none => exact Brightness.toByte_zero
  | some setting =>
      dsimp only
      rw [brightnessUnder, if_neg inactive, Brightness.toByte_zero]

end Event

def brightest (events : List Event) (timeMs : UInt64) : UInt8 :=
  (events.map fun event => event.byteAt timeMs).foldr max 0

/-- Whether a directive commands a channel in a frame.  Both ends of its span are rounded down. -/
def Directive.covers (channel : Channel) (frame : Nat) (directive : Directive) : Bool :=
  directive.channel = channel ∧
    directive.startMs.toNat / 20 ≤ frame ∧ frame < directive.endMs.toNat / 20

def lastCommand? (directives : List Directive) (channel : Channel) (frame : Nat) :
    Option Command :=
  ((directives.filter (Directive.covers channel frame)).getLast?).map Directive.command

def cell (events : List Event) (frame : Nat) (channel : Channel) : UInt8 :=
  ((lastCommand? (events.flatMap Event.directives) channel frame).map Command.byte).getD
    (brightest (events.filter (Event.reaches channel)) (frameTimeMs frame))

/-! ## The brightest event -/

@[simp] theorem brightest_nil (timeMs : UInt64) : brightest [] timeMs = 0 := rfl

theorem brightest_cons (event : Event) (events : List Event) (timeMs : UInt64) :
    brightest (event :: events) timeMs = max (event.byteAt timeMs) (brightest events timeMs) := rfl

theorem brightest_append (first second : List Event) (timeMs : UInt64) :
    brightest (first ++ second) timeMs = max (brightest first timeMs) (brightest second timeMs) := by
  induction first with
  | nil => rw [List.nil_append, brightest_nil, zero_max_byte]
  | cons event rest ih => rw [List.cons_append, brightest_cons, brightest_cons, ih, max_assoc_byte]

theorem brightest_eq_zero {events : List Event} {timeMs : UInt64}
    (dark : ∀ event ∈ events, event.byteAt timeMs = 0) : brightest events timeMs = 0 := by
  induction events with
  | nil => rfl
  | cons event rest ih =>
      rw [brightest_cons, dark event (by simp), ih fun other member => dark other (by simp [member])]
      rfl

theorem brightest_filter_reaches_cons (event : Event) (rest : List Event) (channel : Channel)
    (timeMs : UInt64) :
    brightest ((event :: rest).filter (Event.reaches channel)) timeMs =
      max (if event.reaches channel then event.byteAt timeMs else 0)
        (brightest (rest.filter (Event.reaches channel)) timeMs) := by
  by_cases reached : event.reaches channel = true
  · rw [if_pos reached, List.filter_cons_of_pos reached, brightest_cons]
  · rw [if_neg reached, List.filter_cons_of_neg reached, zero_max_byte]

/-! ## The last command -/

/-- Directives stay within the frames of their event's span, and so cover none if it is reversed. -/
theorem Event.span_of_covers {event : Event} {directive : Directive} {channel : Channel} {frame : Nat}
    (member : directive ∈ event.directives) (covered : directive.covers channel frame = true) :
    event.startMs.toNat / 20 ≤ frame ∧ frame < event.endMs.toNat / 20 := by
  have midpoint := event.toNat_midpointMs
  rw [Directive.covers, decide_eq_true_eq] at covered
  have forms := Event.span_of_mem_directives member
  simp only [← UInt64.toNat_inj] at forms
  omega

theorem lastCommand?_append (first second : List Directive) (channel : Channel) (frame : Nat) :
    lastCommand? (first ++ second) channel frame =
      (lastCommand? second channel frame).or (lastCommand? first channel frame) := by
  rw [lastCommand?, List.filter_append, List.getLast?_append, Option.map_or]
  rfl

theorem lastCommand?_singleton (directive : Directive) (channel : Channel) (frame : Nat) :
    lastCommand? [directive] channel frame =
      if directive.covers channel frame then some directive.command else none := by
  rw [lastCommand?]
  by_cases covered : directive.covers channel frame = true
  · simp [covered]
  · simp [covered]

theorem lastCommand?_eq_none_iff (directives : List Directive) (channel : Channel) (frame : Nat) :
    lastCommand? directives channel frame = none ↔
      ∀ directive ∈ directives, ¬ directive.covers channel frame = true := by
  rw [lastCommand?, Option.map_eq_none_iff, List.getLast?_eq_none_iff, List.filter_eq_nil_iff]

theorem mem_of_lastCommand? {directives : List Directive} {channel : Channel} {frame : Nat}
    {command : Command} (last : lastCommand? directives channel frame = some command) :
    ∃ directive ∈ directives, directive.covers channel frame = true ∧
      directive.command = command := by
  obtain ⟨directive, found, same⟩ := Option.map_eq_some_iff.mp last
  obtain ⟨member, covered⟩ := List.mem_filter.mp (List.mem_of_getLast? found)
  exact ⟨directive, member, covered, same⟩

/-- What events command on a channel is a command of the part that drives the channel. -/
theorem part_of_lastCommand? {events : List Event} {channel : Channel} {frame : Nat}
    {command : Command}
    (last : lastCommand? (events.flatMap Event.directives) channel frame = some command) :
    ∃ part : Part, channel ∈ part.channels ∧ command ∈ part.category.commands := by
  obtain ⟨directive, member, covered, rfl⟩ := mem_of_lastCommand? last
  obtain ⟨event, -, own⟩ := List.mem_flatMap.mp member
  obtain ⟨part, -, alone, possible⟩ := Event.mem_directives own
  rw [Directive.covers, decide_eq_true_eq] at covered
  rw [covered.1] at alone
  exact ⟨part, Part.mem_channels_of_alone alone, possible⟩

theorem lastCommand?_filter_channel (directives : List Directive) (channel : Channel)
    (frame : Nat) :
    lastCommand? (directives.filter fun directive => directive.channel = channel) channel frame =
      lastCommand? directives channel frame := by
  rw [lastCommand?, lastCommand?, List.filter_filter]
  congr 2
  apply List.filter_congr
  intro directive _
  rw [Bool.eq_iff_iff, Bool.and_eq_true, Directive.covers, decide_eq_true_eq, decide_eq_true_eq]
  exact and_iff_left_of_imp And.left

/-- Only the events on the part that drives a channel have a say in its last command. -/
theorem lastCommand?_of_driven {part : Part} {channel : Channel}
    (driven : channel ∈ part.channels) (events : List Event) (frame : Nat) :
    lastCommand? (events.flatMap Event.directives) channel frame =
      lastCommand? ((eventsOn part events).flatMap Event.directives) channel frame := by
  rw [← lastCommand?_filter_channel, directives_on_channel driven]

/-- A channel that no event's part drives holds no data. -/
theorem cell_of_unreached {events : List Event} {channel : Channel}
    (unreached : ∀ event ∈ events, channel ∉ event.part.channels) (frame : Nat) :
    cell events frame channel = 0 := by
  have unlit : events.filter (Event.reaches channel) = [] := by
    rw [List.filter_eq_nil_iff]
    intro event member reached
    exact unreached event member (List.contains_iff_mem.mp reached)
  have uncommanded : lastCommand? (events.flatMap Event.directives) channel frame = none := by
    rw [lastCommand?_eq_none_iff]
    intro directive member covered
    obtain ⟨event, given, own⟩ := List.mem_flatMap.mp member
    have driven := Event.channel_mem_of_mem_directives own
    rw [Directive.covers, decide_eq_true_eq] at covered
    rw [covered.1] at driven
    exact unreached event given driven
  rw [cell, uncommanded, unlit]
  rfl

/-! ## The pass over the lights -/

namespace FrameMatrix

theorem eachFrame_sampleLight (event : Event) (setting : LightSetting) :
    EachFrame (sampleLight event setting) (fun frame channel old =>
      if event.reaches channel then
        max old (Brightness.toByte (event.brightnessUnder setting (frameTimeMs frame)))
      else old) where
  frameCount_body m f := by
    rw [sampleLight]
    split
    · rfl
    · exact frameCount_raiseAll m f event.part.channels _
  value_body m f g d := by
    rw [sampleLight]
    by_cases dark : Brightness.toByte (event.brightnessUnder setting (frameTimeMs f)) = 0
    · simp [dark]
    · rw [if_neg dark, value_raiseAll]
      by_cases reached : event.part.channels.contains d = true
      · simp only [Event.reaches, reached, true_and, if_true]
      · simp only [Event.reaches, reached, false_and, and_false, if_false, Bool.false_eq_true,
          ite_self]

@[simp] theorem frameCount_writeLight (m : FrameMatrix) (event : Event) :
    (m.writeLight event).frameCount = m.frameCount := by
  rw [writeLight]
  cases event.lightSetting? with
  | none => rfl
  | some setting => exact frameCount_foldl (eachFrame_sampleLight event setting).frameCount_body m _

/-- Writing a light event raises its channels to its byte in every frame of the show.  In a frame
that the loop does not visit the event is not active, and its byte there is zero. -/
theorem value_writeLight (m : FrameMatrix) (event : Event) {frame : Nat} (channel : Channel)
    (inside : frame < m.frameCount) (counted : frame < UInt32.size) :
    (m.writeLight event).value frame channel =
      max (m.value frame channel)
        (if event.reaches channel then event.byteAt (frameTimeMs frame) else 0) := by
  rw [writeLight, Event.byteAt, Event.brightness]
  cases event.lightSetting? with
  | none => simp [Brightness.toByte_zero]
  | some setting =>
      dsimp only
      rw [(eachFrame_sampleLight event setting).value_loop]
      by_cases active : event.isActiveAt (frameTimeMs frame) = true
      · have span := (isActiveAt_frameTimeMs event counted).mp active
        rw [if_pos (by omega)]
        by_cases reached : event.reaches channel = true
        · simp [reached]
        · simp [reached]
      · have span := mt (isActiveAt_frameTimeMs event counted).mpr active
        rw [if_neg (by omega), Event.brightnessUnder, if_neg active, Brightness.toByte_zero]
        simp

@[simp] theorem frameCount_writeLights (m : FrameMatrix) (events : List Event) :
    (events.foldl writeLight m).frameCount = m.frameCount :=
  frameCount_foldl frameCount_writeLight m events

theorem value_writeLights (m : FrameMatrix) (events : List Event) {frame : Nat} (channel : Channel)
    (inside : frame < m.frameCount) (counted : frame < UInt32.size) :
    (events.foldl writeLight m).value frame channel =
      max (m.value frame channel)
        (brightest (events.filter (Event.reaches channel)) (frameTimeMs frame)) := by
  induction events generalizing m with
  | nil => simp
  | cons event rest ih =>
      have kept : frame < (m.writeLight event).frameCount := by simpa using inside
      rw [List.foldl_cons, ih _ kept, value_writeLight m event channel inside counted,
        max_assoc_byte, brightest_filter_reaches_cons]

/-! ## The pass over the commands -/

@[simp] theorem frameCount_writeDirective (m : FrameMatrix) (directive : Directive) :
    (m.writeDirective directive).frameCount = m.frameCount :=
  frameCount_fill m directive.channel _ _ _

theorem value_writeDirective (m : FrameMatrix) (directive : Directive) {frame : Nat}
    (channel : Channel) (inside : frame < m.frameCount) :
    (m.writeDirective directive).value frame channel =
      if directive.covers channel frame then directive.command.byte else m.value frame channel := by
  rw [writeDirective, value_fill]
  congr 1
  rw [Directive.covers, decide_eq_true_eq, frameAt_eq, frameAt_eq]
  apply propext
  constructor
  · rintro ⟨same, begun, unfinished, -⟩
    exact ⟨same, begun, by omega⟩
  · rintro ⟨same, begun, unfinished⟩
    exact ⟨same, begun, by omega, inside⟩

@[simp] theorem frameCount_writeDirectives (m : FrameMatrix) (directives : List Directive) :
    (directives.foldl writeDirective m).frameCount = m.frameCount :=
  frameCount_foldl frameCount_writeDirective m directives

/-- Of all the directives written, the last one that covers a place is the one to be seen. -/
theorem value_writeDirectives (m : FrameMatrix) (directives : List Directive) {frame : Nat}
    (channel : Channel) (inside : frame < m.frameCount) :
    (directives.foldl writeDirective m).value frame channel =
      ((lastCommand? directives channel frame).map Command.byte).getD (m.value frame channel) := by
  induction directives generalizing m with
  | nil => rfl
  | cons directive rest ih =>
      have kept : frame < (m.writeDirective directive).frameCount := by simpa using inside
      have split : directive :: rest = [directive] ++ rest := rfl
      rw [List.foldl_cons, ih _ kept, value_writeDirective m directive channel inside, split,
        lastCommand?_append, lastCommand?_singleton]
      cases lastCommand? rest channel frame with
      | some command => rfl
      | none =>
          by_cases covered : directive.covers channel frame = true
          · simp [covered]
          · simp [covered]

/-! ## Both passes -/

@[simp] theorem frameCount_ofEvents (frameCount : Nat) (events : List Event) :
    (ofEvents frameCount events).frameCount = frameCount := by
  simp [ofEvents]

theorem value_ofEvents {frameCount frame : Nat} (events : List Event) (channel : Channel)
    (inside : frame < frameCount) (counted : frame < UInt32.size) :
    (ofEvents frameCount events).value frame channel = cell events frame channel := by
  rw [ofEvents, value_writeDirectives _ _ _ (by simpa using inside),
    value_writeLights _ _ _ (by simpa using inside) counted, value_blank, zero_max_byte, cell]

theorem get?_ofEvents {frameCount frame : Nat} {events : List Event} {channel : Channel}
    {byte : UInt8} (inside : frame < frameCount) (counted : frame < UInt32.size)
    (held : cell events frame channel = byte) :
    (ofEvents frameCount events).get? frame channel = some byte := by
  rw [get?_eq_some_value _ (by rwa [frameCount_ofEvents]),
    value_ofEvents events channel inside counted, held]

end FrameMatrix

theorem frameCount_of_compile {events : List Event} {durationMs : UInt64} {m : FrameMatrix}
    (compiled : compile events durationMs = .ok m) :
    m.frameCount = frameCountFor durationMs ∧ m.frameCount < UInt32.size := by
  obtain ⟨-, counted, rfl⟩ := (compile_eq_ok_iff events durationMs m).mp compiled
  rw [FrameMatrix.frameCount_ofEvents]
  exact ⟨rfl, Nat.lt_of_le_of_lt counted (by decide)⟩

theorem value_of_compile {events : List Event} {durationMs : UInt64} {m : FrameMatrix}
    (compiled : compile events durationMs = .ok m) {frame : Nat} (inside : frame < m.frameCount)
    (channel : Channel) : m.value frame channel = cell events frame channel := by
  have counted := Nat.lt_trans inside (frameCount_of_compile compiled).2
  obtain ⟨-, -, rfl⟩ := (compile_eq_ok_iff events durationMs m).mp compiled
  rw [FrameMatrix.frameCount_ofEvents] at inside
  exact FrameMatrix.value_ofEvents events channel inside counted

/-- Lists that agree in every place of a matrix fill it alike. -/
theorem FrameMatrix.ofEvents_congr {first second : List Event} {frameCount : Nat}
    (counted : frameCount ≤ maxFrameCount)
    (same : ∀ frame < frameCount, ∀ channel : Channel,
      cell first frame channel = cell second frame channel) :
    ofEvents frameCount first = ofEvents frameCount second := by
  have limit : maxFrameCount < UInt32.size := by decide
  apply ext_value
  · rw [frameCount_ofEvents, frameCount_ofEvents]
  · intro frame inside channel
    rw [frameCount_ofEvents] at inside
    have small : frame < UInt32.size := by omega
    rw [value_ofEvents first channel inside small, value_ofEvents second channel inside small,
      same frame inside]

/-- Lists that agree everywhere compile alike, whether the length of the show is accepted or not. -/
theorem compile_congr {first second : List Event}
    (same : ∀ frame channel, cell first frame channel = cell second frame channel)
    (durationMs : UInt64) : compile first durationMs = compile second durationMs := by
  rw [compile, compile]
  by_cases empty : durationMs = 0
  · rw [if_pos empty, if_pos empty]
  · rw [if_neg empty, if_neg empty]
    by_cases tooLong : maxFrameCount < frameCountFor durationMs
    · rw [if_pos tooLong, if_pos tooLong]
    · rw [if_neg tooLong, if_neg tooLong,
        FrameMatrix.ofEvents_congr (Nat.not_lt.mp tooLong) fun frame _ => same frame]

/-! ## Events that leave no mark -/

structure Event.LeavesNoMark (frame : Nat) (channel : Channel) (event : Event) : Prop where
  commands : ∀ directive ∈ event.directives, directive.covers channel frame = false
  light : event.byteAt (frameTimeMs frame) = 0

/-- An event leaves its mark only in frames that some moment of its span falls into. -/
theorem Event.leavesNoMark_of_apart {event : Event} {frame : Nat} (counted : frame < UInt32.size)
    (apart : ¬ (event.startMs.toNat < event.endMs.toNat ∧
      event.startMs.toNat < 20 * (frame + 1) ∧ 20 * frame < event.endMs.toNat))
    (channel : Channel) : event.LeavesNoMark frame channel := by
  constructor
  · intro directive member
    apply Bool.eq_false_iff.mpr
    intro covered
    have span := span_of_covers member covered
    apply apart
    omega
  · apply byteAt_of_inactive
    intro active
    have span := (isActiveAt_frameTimeMs event counted).mp active
    rw [frameFrom_le_iff, lt_frameFrom_iff] at span
    apply apart
    omega

section Filter
variable {keep : Event → Bool} {frame : Nat} {channel : Channel} {events : List Event}
  (dropped : ∀ event ∈ events, keep event = false → event.LeavesNoMark frame channel)
include dropped

theorem lastCommand?_filter :
    lastCommand? ((events.filter keep).flatMap Event.directives) channel frame =
      lastCommand? (events.flatMap Event.directives) channel frame := by
  induction events with
  | nil => rfl
  | cons event rest ih =>
      have later := ih fun other member => dropped other (List.mem_cons_of_mem event member)
      by_cases kept : keep event = true
      · rw [List.filter_cons_of_pos kept, List.flatMap_cons, List.flatMap_cons,
          lastCommand?_append, lastCommand?_append, later]
      · have silent := (dropped event List.mem_cons_self (Bool.eq_false_iff.mpr kept)).commands
        have none : lastCommand? event.directives channel frame = none := by
          rw [lastCommand?_eq_none_iff]
          intro directive member
          rw [silent directive member]
          exact Bool.false_ne_true
        rw [List.filter_cons_of_neg kept, List.flatMap_cons, lastCommand?_append, none,
          Option.or_none, later]

theorem brightest_filter :
    brightest ((events.filter keep).filter (Event.reaches channel)) (frameTimeMs frame) =
      brightest (events.filter (Event.reaches channel)) (frameTimeMs frame) := by
  induction events with
  | nil => rfl
  | cons event rest ih =>
      have later := ih fun other member => dropped other (List.mem_cons_of_mem event member)
      by_cases kept : keep event = true
      · rw [List.filter_cons_of_pos kept, brightest_filter_reaches_cons,
          brightest_filter_reaches_cons, later]
      · have dark := (dropped event List.mem_cons_self (Bool.eq_false_iff.mpr kept)).light
        rw [List.filter_cons_of_neg kept, brightest_filter_reaches_cons, dark, ite_self,
          zero_max_byte, later]

/-- Events that leave no mark in a place may be left out. -/
theorem cell_filter : cell (events.filter keep) frame channel = cell events frame channel := by
  rw [cell, cell, lastCommand?_filter dropped, brightest_filter dropped]

end Filter

theorem cell_of_unmarked {events : List Event} {frame : Nat} {channel : Channel}
    (unmarked : ∀ event ∈ events, event.LeavesNoMark frame channel) :
    cell events frame channel = 0 := by
  have emptied : events.filter (fun _ => false) = [] := by simp
  rw [← cell_filter fun event member _ => unmarked event member, emptied]
  rfl

end VehicleShow
