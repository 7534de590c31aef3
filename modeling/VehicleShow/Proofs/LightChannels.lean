import VehicleShow.Proofs.CompiledCell

/-! # The channels of the lights

`light_channels_show_brightest` compares a compiled show with the plain evaluation of its events: in
every frame a light's channels hold the brightest of the events on that light, whatever their spans,
and a channel without a part stays dark. -/
set_option autoImplicit false
namespace VehicleShow

/-- No directive reaches a channel that is not a closure's. -/
theorem lastCommand?_of_unclosed {channel : Channel}
    (unclosed : ∀ part : Part, part.isClosure = true → channel ∉ part.channels)
    (events : List Event) (frame : Nat) :
    lastCommand? (events.flatMap Event.directives) channel frame = none := by
  cases last : lastCommand? (events.flatMap Event.directives) channel frame with
  | none => rfl
  | some command =>
      obtain ⟨part, driven, possible⟩ := part_of_lastCommand? last
      have closure := Category.isClosure_of_mem_commands possible
      exact absurd driven (unclosed part closure)

theorem cell_of_unclosed {channel : Channel}
    (unclosed : ∀ part : Part, part.isClosure = true → channel ∉ part.channels)
    (events : List Event) (frame : Nat) :
    cell events frame channel =
      brightest (events.filter (Event.reaches channel)) (frameTimeMs frame) := by
  rw [cell, lastCommand?_of_unclosed unclosed]
  rfl

theorem unclosed_of_light {part : Part} {channel : Channel} (light : part.isClosure = false)
    (driven : channel ∈ part.channels) :
    ∀ other : Part, other.isClosure = true → channel ∉ other.channels := by
  intro other closure alsoDriven
  rw [Part.eq_of_mem_channels alsoDriven driven, light] at closure
  cases closure

theorem reaches_eq_of_mem {part : Part} {channel : Channel} (driven : channel ∈ part.channels) :
    Event.reaches channel = fun event => event.part? == some part := by
  funext event
  have same := event.mem_channels_iff_of_mem driven
  rw [Event.reaches, Bool.eq_iff_iff, List.contains_iff_mem, same, beq_iff_eq]

theorem cell_of_light {part : Part} {channel : Channel} (light : part.isClosure = false)
    (driven : channel ∈ part.channels) (events : List Event) (frame : Nat) :
    cell events frame channel =
      brightest (events.filter fun event => event.part? == some part) (frameTimeMs frame) := by
  rw [cell_of_unclosed (unclosed_of_light light driven), reaches_eq_of_mem driven]

theorem cell_of_lone_light {event : Event} {part : Part} (own : event.part? = some part)
    (light : part.isClosure = false) (frame : Nat) (channel : Channel) :
    cell [event] frame channel =
      if event.reaches channel then event.byteAt (frameTimeMs frame) else 0 := by
  rw [cell, List.flatMap_singleton, Event.directives_of_light own light,
    brightest_filter_reaches_cons, List.filter_nil, brightest_nil, max_zero_byte]
  rfl

/-- A show of one light event, of any accepted length, holds the bytes of the event. -/
theorem exists_show_of_light {event : Event} {part : Part} (own : event.part? = some part)
    (light : part.isClosure = false) {durationMs : UInt64} (lasting : durationMs ≠ 0)
    (counted : (durationMs.toNat + 19) / 20 < UInt32.size) :
    ∃ m, compile [event] durationMs = .ok m ∧ m.frameCount = (durationMs.toNat + 19) / 20 ∧
      ∀ frame < m.frameCount, ∀ channel : Channel,
        m.get? frame channel =
          some (if event.reaches channel then event.byteAt (frameTimeMs frame) else 0) := by
  have compiled : compile [event] durationMs = .ok (.ofEvents (frameCountFor durationMs) [event]) :=
    (compile_eq_ok_iff _ _ _).mpr ⟨lasting, Nat.le_of_lt_succ counted, rfl⟩
  refine ⟨_, compiled, (frameCount_of_compile compiled).1, ?_⟩
  intro frame inside channel
  rw [FrameMatrix.get?_eq_some_value _ inside, value_of_compile compiled inside,
    cell_of_lone_light own light]

theorem cell_of_undriven {channel : Channel} (undriven : ∀ part : Part, channel ∉ part.channels)
    (events : List Event) (frame : Nat) : cell events frame channel = 0 := by
  apply cell_of_unreached
  intro event _ reached
  obtain ⟨part, -, driven⟩ := (event.mem_channels_iff channel).mp reached
  exact undriven part driven

/-- The frames that a light event visits and the zero bytes that it skips leave no mark: each frame
of a light shows its brightest event, sampled at the time of the frame. -/
theorem light_channels_show_brightest {events : List Event} {durationMs : UInt64} {m : FrameMatrix}
    (compiled : compile events durationMs = .ok m) {frame : Nat} (inside : frame < m.frameCount)
    (channel : Channel) :
    (frameTimeMs frame).toNat = 20 * frame ∧
      (∀ part : Part, part.channelKind = .brightness → channel ∈ part.channels →
        m.get? frame channel =
            some (brightest (events.filter fun event => event.part? == some part)
              (frameTimeMs frame)) ∧
          ∀ other ∈ part.channels, m.column other = m.column channel) ∧
      ((∀ part : Part, channel ∉ part.channels) → m.get? frame channel = some 0) := by
  have counted := Nat.lt_trans inside (frameCount_of_compile compiled).2
  have shown : m.get? frame channel = some (cell events frame channel) := by
    rw [m.get?_eq_some_value inside, value_of_compile compiled inside]
  refine ⟨toNat_frameTimeMs counted, ?_, ?_⟩
  · intro part kind driven
    have light := part.channelKind_eq_brightness_iff.mp kind
    refine ⟨by rw [shown, cell_of_light light driven], ?_⟩
    intro other alsoDriven
    apply List.map_congr_left
    intro f member
    have within := List.mem_range.mp member
    rw [value_of_compile compiled within, value_of_compile compiled within,
      cell_of_light light driven, cell_of_light light alsoDriven]
  · intro undriven
    rw [shown, cell_of_undriven undriven]

/-- Overlapping lights on one part, one of them just too late for frame 2 and one that ends before it
starts, next to a closure and a part that is not in the catalog. -/
def twilight : List Event :=
  [{ part := .known .lightLeftBack, startMs := 0, endMs := 400, options := { power := some 40 } },
   { part := .known .lightLeftBack, startMs := 30, endMs := 600,
     options := { power := some 50, effect := some .blink, easeIn := true } },
   { part := .known .lightLeftBack, startMs := 41, endMs := 100 },
   { part := .known .lightLeftBack, startMs := 500, endMs := 20 },
   { part := .known .trunk, startMs := 0, endMs := 80 },
   { part := .unknown "frunk", startMs := 0, endMs := 80 }]

theorem light_channels_in_twilight :
    compile twilight 90 = .ok (.ofEvents 5 twilight) ∧
      2 < (FrameMatrix.ofEvents 5 twilight).frameCount ∧
      (FrameMatrix.ofEvents 5 twilight).get? 2 25 = some 102 ∧
      (FrameMatrix.ofEvents 5 twilight).get? 2 47 = some 0 := by
  have compiled : compile twilight 90 = .ok (.ofEvents 5 twilight) := rfl
  have inside : 2 < (FrameMatrix.ofEvents 5 twilight).frameCount := by
    rw [FrameMatrix.frameCount_ofEvents]
    decide
  obtain ⟨-, lit, -⟩ := light_channels_show_brightest compiled inside 25
  obtain ⟨-, -, dark⟩ := light_channels_show_brightest compiled inside 47
  have first : brightest (twilight.filter fun event => event.part? == some .lightLeftBack)
      (frameTimeMs 2) = 102 := by
    decide +kernel
  refine ⟨compiled, inside, ?_, dark ?_⟩
  · have value := (lit .lightLeftBack rfl (by decide)).1
    rw [first] at value
    exact value
  · intro part
    cases part <;> decide

end VehicleShow
