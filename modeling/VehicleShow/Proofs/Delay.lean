import VehicleShow.Proofs.CompiledCell

/-! # Putting off a show by whole frames

A show whose events all start and end a whole number of frames later is the same show behind that
many dark frames.  `compile_delayed` rests on two facts: brightness sees the time only through the
distances to the two ends of a span, and rounding a time to frames, up or down, commutes with adding
whole frames. -/
set_option autoImplicit false
namespace VehicleShow

def Event.delay (frames : Nat) (event : Event) : Event :=
  { event with
    startMs := event.startMs + frameTimeMs frames
    endMs := event.endMs + frameTimeMs frames }

def Directive.delay (frames : Nat) (directive : Directive) : Directive :=
  { directive with
    startMs := directive.startMs + frameTimeMs frames
    endMs := directive.endMs + frameTimeMs frames }

/-- After the delay both ends of the span are still times that 64 bits can hold. -/
structure Event.HasRoom (frames : Nat) (event : Event) : Prop where
  startMs : event.startMs.toNat + 20 * frames < UInt64.size
  endMs : event.endMs.toNat + 20 * frames < UInt64.size

structure Directive.HasRoom (frames : Nat) (directive : Directive) : Prop where
  startMs : directive.startMs.toNat + 20 * frames < UInt64.size
  endMs : directive.endMs.toNat + 20 * frames < UInt64.size

instance (frames : Nat) (event : Event) : Decidable (event.HasRoom frames) :=
  decidable_of_iff
    (event.startMs.toNat + 20 * frames < UInt64.size ∧
      event.endMs.toNat + 20 * frames < UInt64.size)
    ⟨fun both => ⟨both.1, both.2⟩, fun room => ⟨room.startMs, room.endMs⟩⟩

theorem room_for_frameTimeMs {frame frames : Nat} (counted : frame + frames < UInt32.size) :
    (frameTimeMs frame).toNat + 20 * frames < UInt64.size := by
  have bound : UInt64.size = UInt32.size * UInt32.size := rfl
  have large : 20 < UInt32.size := by decide
  rw [toNat_frameTimeMs (by omega), ← Nat.mul_add, bound]
  exact Nat.mul_lt_mul'' large counted

section
variable {frames : Nat} (counted : frames < UInt32.size)
include counted

/-! ## One event -/

namespace Event
variable {event : Event}

theorem toNat_startMs_delay (room : event.HasRoom frames) :
    (event.delay frames).startMs.toNat = event.startMs.toNat + 20 * frames :=
  toNat_add_frameTimeMs counted room.startMs

theorem toNat_endMs_delay (room : event.HasRoom frames) :
    (event.delay frames).endMs.toNat = event.endMs.toNat + 20 * frames :=
  toNat_add_frameTimeMs counted room.endMs

theorem durationMs_delay (room : event.HasRoom frames) :
    (event.delay frames).durationMs = event.durationMs := by
  apply UInt64.toNat_inj.mp
  rw [toNat_durationMs, toNat_durationMs, toNat_startMs_delay counted room,
    toNat_endMs_delay counted room]
  omega

theorem isActiveAt_delay (room : event.HasRoom frames) {timeMs : UInt64}
    (timeRoom : timeMs.toNat + 20 * frames < UInt64.size) :
    (event.delay frames).isActiveAt (timeMs + frameTimeMs frames) = event.isActiveAt timeMs := by
  rw [Bool.eq_iff_iff, isActiveAt, isActiveAt, Bool.and_eq_true, Bool.and_eq_true]
  simp only [decide_eq_true_eq, UInt64.le_iff_toNat_le, UInt64.lt_iff_toNat_lt,
    toNat_startMs_delay counted room, toNat_endMs_delay counted room,
    toNat_add_frameTimeMs counted timeRoom]
  omega

/-- The brightness moves along with the event, whatever its ramps and its blinking. -/
theorem brightness_delay (room : event.HasRoom frames) {timeMs : UInt64}
    (timeRoom : timeMs.toNat + 20 * frames < UInt64.size) :
    (event.delay frames).brightness (timeMs + frameTimeMs frames) = event.brightness timeMs := by
  have elapsed : timeMs + frameTimeMs frames - (event.delay frames).startMs =
      timeMs - event.startMs := by
    grind [Event.delay]
  have remaining : (event.delay frames).endMs - (timeMs + frameTimeMs frames) =
      event.endMs - timeMs := by
    grind [Event.delay]
  have sameSetting : (event.delay frames).lightSetting? = event.lightSetting? := rfl
  rw [brightness, brightness, sameSetting]
  cases event.lightSetting? with
  | none => rfl
  | some setting =>
      dsimp only
      rw [brightnessUnder, brightnessUnder, isActiveAt_delay counted room timeRoom,
        durationMs_delay counted room, elapsed, remaining]

theorem leavesNoMark_before_delay (room : event.HasRoom frames) {frame : Nat}
    (early : frame < frames) (channel : Channel) :
    (event.delay frames).LeavesNoMark frame channel := by
  apply leavesNoMark_of_apart (Nat.lt_trans early counted)
  rw [toNat_startMs_delay counted room]
  omega

theorem midpointMs_delay (room : event.HasRoom frames) :
    (event.delay frames).midpointMs = event.midpointMs + frameTimeMs frames := by
  rw [midpointMs, midpointMs, durationMs_delay counted room]
  grind [Event.delay]

/-- A delayed event is resolved into the delayed directives. -/
theorem directives_delay (room : event.HasRoom frames) :
    (event.delay frames).directives = event.directives.map (Directive.delay frames) := by
  have samePayload : (event.delay frames).payload? = event.payload? := rfl
  have samePart : (event.delay frames).part = event.part := rfl
  rw [directives, directives, samePart, samePayload, midpointMs_delay counted room]
  cases event.part.channels with
  | nil => rfl
  | cons channel others =>
      dsimp only
      split <;> rfl

omit counted in
/-- The midpoint is no later than the later end of the span. -/
theorem hasRoom_of_mem_directives (room : event.HasRoom frames) {directive : Directive}
    (member : directive ∈ event.directives) : directive.HasRoom frames := by
  have startRoom := room.startMs
  have endRoom := room.endMs
  have midpoint := event.toNat_midpointMs
  have forms := span_of_mem_directives member
  simp only [← UInt64.toNat_inj] at forms
  constructor
  · omega
  · omega

end Event

/-! ## The last command -/

namespace Directive
variable {directive : Directive}

theorem covers_delay (room : directive.HasRoom frames) (channel : Channel) (frame : Nat) :
    (directive.delay frames).covers channel (frame + frames) = directive.covers channel frame := by
  have positive : 0 < 20 := by decide
  rw [covers, covers, decide_eq_decide, delay, toNat_add_frameTimeMs counted room.startMs,
    toNat_add_frameTimeMs counted room.endMs, Nat.add_mul_div_left _ _ positive,
    Nat.add_mul_div_left _ _ positive, Nat.add_le_add_iff_right, Nat.add_lt_add_iff_right]

end Directive

theorem lastCommand?_delay {directives : List Directive}
    (room : ∀ directive ∈ directives, directive.HasRoom frames) (channel : Channel) (frame : Nat) :
    lastCommand? (directives.map (Directive.delay frames)) channel (frame + frames) =
      lastCommand? directives channel frame := by
  have covered : directives.filter (Directive.covers channel (frame + frames) ∘
      Directive.delay frames) = directives.filter (Directive.covers channel frame) :=
    List.filter_congr fun directive member =>
      Directive.covers_delay counted (room directive member) channel frame
  rw [lastCommand?, List.filter_map, covered, List.getLast?_map, Option.map_map]
  rfl

/-! ## A list of events -/

theorem directives_delay_all {events : List Event}
    (room : ∀ event ∈ events, event.HasRoom frames) :
    (events.map (Event.delay frames)).flatMap Event.directives =
      (events.flatMap Event.directives).map (Directive.delay frames) := by
  induction events with
  | nil => rfl
  | cons event rest ih =>
      rw [List.map_cons, List.flatMap_cons, List.flatMap_cons, List.map_append,
        Event.directives_delay counted (room event (by simp)),
        ih fun other member => room other (by simp [member])]

omit counted in
theorem hasRoom_of_mem_flatMap {events : List Event}
    (room : ∀ event ∈ events, event.HasRoom frames) :
    ∀ directive ∈ events.flatMap Event.directives, directive.HasRoom frames := by
  intro directive member
  obtain ⟨event, given, own⟩ := List.mem_flatMap.mp member
  exact Event.hasRoom_of_mem_directives (room event given) own

theorem brightest_delay {events : List Event} (room : ∀ event ∈ events, event.HasRoom frames)
    {timeMs : UInt64} (timeRoom : timeMs.toNat + 20 * frames < UInt64.size) :
    brightest (events.map (Event.delay frames)) (timeMs + frameTimeMs frames) =
      brightest events timeMs := by
  rw [brightest, brightest, List.map_map]
  congr 1
  apply List.map_congr_left
  intro event member
  exact congrArg Brightness.toByte (Event.brightness_delay counted (room event member) timeRoom)

omit counted in
/-- A delayed event keeps its channels. -/
theorem filter_reaches_delay (events : List Event) (channel : Channel) :
    (events.map (Event.delay frames)).filter (Event.reaches channel) =
      (events.filter (Event.reaches channel)).map (Event.delay frames) :=
  List.filter_map

theorem cell_delay {events : List Event} (room : ∀ event ∈ events, event.HasRoom frames)
    {frame : Nat} (within : frame + frames < UInt32.size) (channel : Channel) :
    cell (events.map (Event.delay frames)) (frame + frames) channel = cell events frame channel := by
  have reaching : ∀ event ∈ events.filter (Event.reaches channel), event.HasRoom frames :=
    fun event member => room event (List.mem_filter.mp member).1
  rw [cell, cell, directives_delay_all counted room,
    lastCommand?_delay counted (hasRoom_of_mem_flatMap room), filter_reaches_delay,
    frameTimeMs_add, brightest_delay counted reaching (room_for_frameTimeMs within)]

theorem cell_before_delay {events : List Event} (room : ∀ event ∈ events, event.HasRoom frames)
    {frame : Nat} (early : frame < frames) (channel : Channel) :
    cell (events.map (Event.delay frames)) frame channel = 0 := by
  apply cell_of_unmarked
  intro delayed member
  obtain ⟨event, given, rfl⟩ := List.mem_map.mp member
  exact Event.leavesNoMark_before_delay counted (room event given) early channel

end

/-! ## The whole show -/

namespace FrameMatrix

def behindDark (frames : Nat) (matrix : FrameMatrix) : FrameMatrix where
  frameCount := frames + matrix.frameCount
  data := Array.replicate (frames * channelCount) 0 ++ matrix.data
  size_data := by rw [Array.size_append, Array.size_replicate, matrix.size_data, Nat.add_mul]

theorem value_behindDark (frames : Nat) (m : FrameMatrix) (f : Nat) (c : Channel) :
    (m.behindDark frames).value f c = if f < frames then 0 else m.value (f - frames) c := by
  rw [value, get?, behindDark, Array.getElem?_append, Array.size_replicate]
  by_cases early : f < frames
  · have reached := (place_lt_iff f c frames).mpr early
    rw [if_pos reached, if_pos early, Array.getElem?_replicate, if_pos reached]
    rfl
  · have passed := mt (place_lt_iff f c frames).mp early
    have moved : place f c - frames * channelCount = place (f - frames) c := by
      simp only [place, channelCount]
      omega
    rw [if_neg passed, if_neg early, moved]
    rfl

theorem ofEvents_delay {events : List Event} {frames frameCount : Nat}
    (counted : frameCount + frames < UInt32.size)
    (room : ∀ event ∈ events, event.HasRoom frames) :
    ofEvents (frames + frameCount) (events.map (Event.delay frames)) =
      (ofEvents frameCount events).behindDark frames := by
  have countable : frames < UInt32.size := by omega
  apply ext_value
  · simp [behindDark]
  · intro frame inside channel
    rw [frameCount_ofEvents] at inside
    rw [value_behindDark, value_ofEvents _ channel inside (by omega)]
    by_cases early : frame < frames
    · rw [if_pos early, cell_before_delay countable room early]
    · obtain ⟨own, rfl⟩ : ∃ own, frame = own + frames := ⟨frame - frames, by omega⟩
      rw [if_neg early, cell_delay countable room (by omega), Nat.add_sub_cancel,
        value_ofEvents _ channel (by omega) (by omega)]

end FrameMatrix

theorem toNat_duration_delay {durationMs : UInt64} {frames : Nat}
    (counted : frameCountFor durationMs + frames < UInt32.size) :
    (durationMs + frameTimeMs frames).toNat = durationMs.toNat + 20 * frames := by
  have count : frameCountFor durationMs = (durationMs.toNat + 19) / 20 := rfl
  have word : UInt64.size = 18446744073709551616 := rfl
  have halfWord : UInt32.size = 4294967296 := rfl
  exact toNat_add_frameTimeMs (by omega) (by omega)

theorem frameCountFor_delay {durationMs : UInt64} {frames : Nat}
    (counted : frameCountFor durationMs + frames < UInt32.size) :
    frameCountFor (durationMs + frameTimeMs frames) = frames + frameCountFor durationMs := by
  rw [frameCountFor, frameCountFor, toNat_duration_delay counted, toNat_stepMs]
  omega

/-- Delaying every event by whole frames, and lengthening the show by as much, gives the frames of
the show behind dark ones.  Nothing wraps on the way. -/
theorem compile_delayed {events : List Event} {durationMs : UInt64} {frames : Nat}
    (positive : 0 < durationMs) (counted : frameCountFor durationMs + frames < UInt32.size)
    (room : ∀ event ∈ events, event.HasRoom frames) :
    (durationMs + frameTimeMs frames).toNat = durationMs.toNat + 20 * frames ∧
      (∀ event ∈ events,
        (event.delay frames).startMs.toNat = event.startMs.toNat + 20 * frames ∧
          (event.delay frames).endMs.toNat = event.endMs.toNat + 20 * frames) ∧
      ∃ m later : FrameMatrix,
        compile events durationMs = .ok m ∧
          compile (events.map (Event.delay frames)) (durationMs + frameTimeMs frames) = .ok later ∧
          later.frameCount = frames + m.frameCount ∧
          later.data = Array.replicate (frames * channelCount) 0 ++ m.data := by
  have halfWord : UInt32.size = 4294967296 := rfl
  have limit : maxFrameCount = 4294967295 := rfl
  have countable : frames < UInt32.size := by omega
  have length := toNat_duration_delay counted
  have count := frameCountFor_delay counted
  have started : durationMs ≠ 0 := UInt64.pos_iff_ne_zero.mp positive
  have stillStarted : durationMs + frameTimeMs frames ≠ 0 := by
    intro none
    rw [none, UInt64.toNat_zero] at length
    exact started (UInt64.toNat_inj.mp (by rw [UInt64.toNat_zero]; omega))
  have compiled : compile events durationMs = .ok (.ofEvents (frameCountFor durationMs) events) :=
    (compile_eq_ok_iff _ _ _).mpr ⟨started, by omega, rfl⟩
  have later : compile (events.map (Event.delay frames)) (durationMs + frameTimeMs frames) =
      .ok ((FrameMatrix.ofEvents (frameCountFor durationMs) events).behindDark frames) := by
    rw [← FrameMatrix.ofEvents_delay counted room, ← count]
    exact (compile_eq_ok_iff _ _ _).mpr ⟨stillStarted, by omega, rfl⟩
  refine ⟨length, ?_, _, _, compiled, later, ?_, rfl⟩
  · intro event member
    exact ⟨Event.toNat_startMs_delay countable (room event member),
      Event.toNat_endMs_delay countable (room event member)⟩
  · rw [FrameMatrix.behindDark]

/-- A light that is eased and blinks, one that ends before it starts, a mirror that folds in and out
over an odd span, and a window that dances on when the show is over. -/
def overture : List Event :=
  [{ part := .known .lightLeftFront, startMs := 7, endMs := 333,
     options := { effect := some .blink, blinkSpeed := some 2, easeIn := true, easeOut := true } },
   { part := .known .lightRightBack, startMs := 60, endMs := 20 },
   { part := .known .retroLeft, startMs := 5, endMs := 76 },
   { part := .known .windowLeftBack, startMs := 40, endMs := 5000 }]

/-- The light of frame 2 and the window of frame 3 come three frames later, behind dark ones. -/
theorem compile_overture_delayed :
    0 < (90 : UInt64) ∧ frameCountFor 90 + 3 < UInt32.size ∧
      (∀ event ∈ overture, event.HasRoom 3) ∧
      ∃ m later : FrameMatrix,
        compile overture 90 = .ok m ∧ compile (overture.map (Event.delay 3)) 150 = .ok later ∧
          later.frameCount = 3 + m.frameCount ∧
          later.data = Array.replicate (3 * channelCount) 0 ++ m.data ∧
          m.get? 2 0 = some 86 ∧ m.get? 3 37 = some 128 ∧
          later.get? 5 0 = some 86 ∧ later.get? 6 37 = some 128 ∧ later.get? 2 0 = some 0 := by
  have positive : 0 < (90 : UInt64) := by decide
  have counted : frameCountFor 90 + 3 < UInt32.size := by decide
  have room : ∀ event ∈ overture, event.HasRoom 3 := by decide
  have longer : (90 : UInt64) + frameTimeMs 3 = 150 := by decide
  obtain ⟨-, -, shows⟩ := compile_delayed positive counted room
  rw [longer] at shows
  obtain ⟨m, later, compiled, delayed, count, data⟩ := shows
  obtain rfl : .ofEvents 5 overture = m := Except.ok.inj compiled
  have lit : (FrameMatrix.ofEvents 5 overture).get? 2 0 = some 86 := by decide +kernel
  have dances : (FrameMatrix.ofEvents 5 overture).get? 3 37 = some 128 := by decide +kernel
  have behind (place : Nat) : later.data[3 * channelCount + place]? =
      (FrameMatrix.ofEvents 5 overture).data[place]? := by
    rw [data, Array.getElem?_append_right (by simp)]
    simp
  have dark : later.data[2 * channelCount]? = some 0 := by
    rw [data, Array.getElem?_append_left (by simp [channelCount])]
    simp [channelCount]
  exact ⟨positive, counted, room, _, later, compiled, delayed, count, data, lit, dances,
    (behind (2 * channelCount)).trans lit, (behind (3 * channelCount + 37)).trans dances, dark⟩

end VehicleShow
