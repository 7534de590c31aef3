import VehicleShow.Brightness
import VehicleShow.Directive

/-! # Who writes to a channel

No channel belongs to two parts, and a closure has a channel to itself.  So an event reaches the
channels of its own part only: a light event by its brightness, a closure event by directives whose
commands are those of the part's category. -/
set_option autoImplicit false
namespace VehicleShow

namespace Part

def driving? (channel : Channel) : Option Part :=
  all.find? fun part => part.channels.contains channel

theorem driving?_of_mem {part : Part} {channel : Channel} (driven : channel ∈ part.channels) :
    driving? channel = some part := by
  have table : ∀ c ∈ part.channels, driving? c = some part := by
    cases part <;> decide
  exact table channel driven

theorem eq_of_mem_channels {part other : Part} {channel : Channel}
    (driven : channel ∈ part.channels) (alsoDriven : channel ∈ other.channels) : part = other :=
  Option.some.inj ((driving?_of_mem driven).symm.trans (driving?_of_mem alsoDriven))

theorem exists_channels_of_closure (part : Part) (closure : part.isClosure = true) :
    ∃ channel, part.channels = [channel] := by
  cases part <;> first | exact ⟨_, rfl⟩ | exact absurd closure (by decide)

theorem mem_channels_of_alone {part : Part} {channel : Channel} (alone : part.channels = [channel]) :
    channel ∈ part.channels := by
  rw [alone]
  exact List.mem_singleton_self channel

theorem channels_of_closure {part : Part} {channel : Channel} (closure : part.isClosure = true)
    (driven : channel ∈ part.channels) : part.channels = [channel] := by
  obtain ⟨only, alone⟩ := part.exists_channels_of_closure closure
  rw [alone, List.mem_singleton] at driven
  rw [alone, driven]

/-- A channel is a closure's, or no closure drives it. -/
theorem closed_or_unclosed (channel : Channel) :
    (∃ part : Part, part.isClosure = true ∧ channel ∈ part.channels) ∨
      ∀ part : Part, part.isClosure = true → channel ∉ part.channels := by
  by_cases closed : ∃ part : Part, part.isClosure = true ∧ channel ∈ part.channels
  · exact Or.inl closed
  · exact Or.inr fun part closure driven => closed ⟨part, closure, driven⟩

theorem channelKind_eq_brightness_iff (part : Part) :
    part.channelKind = .brightness ↔ part.isClosure = false := by
  cases part <;> decide

end Part

def Category.commands : Category → List Command
  | .light | .blinker => []
  | .mirror => [.opening, .closing]
  | .window => [.dance]
  | .trunk | .flap => [.opening, .closing, .dance]

theorem Category.isClosure_of_mem_commands {category : Category} {command : Command}
    (possible : command ∈ category.commands) : category.isClosure = true := by
  cases category with
  | light => cases possible
  | blinker => cases possible
  | mirror | window | trunk | flap => rfl

theorem Category.byte_ne_zero_of_mem_commands {category : Category} {command : Command}
    (possible : command ∈ category.commands) : command.byte ≠ 0 := by
  have table : ∀ c ∈ category.commands, c.byte ≠ 0 := by
    cases category <;> decide
  exact table command possible

namespace Event

theorem channels_of_part? {event : Event} {part : Part} (own : event.part? = some part) :
    event.part.channels = part.channels := by
  have known : event.part.part? = some part := own
  rw [PartKey.channels, known]

theorem channels_of_unknown {event : Event} (unknown : event.part? = none) :
    event.part.channels = [] := by
  have missing : event.part.part? = none := unknown
  rw [PartKey.channels, missing]

theorem mem_channels_iff (event : Event) (channel : Channel) :
    channel ∈ event.part.channels ↔ ∃ part, event.part? = some part ∧ channel ∈ part.channels := by
  cases known : event.part? with
  | none => simp [channels_of_unknown known]
  | some part => simp [channels_of_part? known]

theorem mem_channels_iff_of_mem {part : Part} {channel : Channel} (event : Event)
    (driven : channel ∈ part.channels) :
    channel ∈ event.part.channels ↔ event.part? = some part := by
  rw [mem_channels_iff]
  constructor
  · rintro ⟨other, own, alsoDriven⟩
    rw [own, Part.eq_of_mem_channels alsoDriven driven]
  · intro own
    exact ⟨part, own, driven⟩

theorem lightSetting?_of_closure {event : Event} {part : Part} (own : event.part? = some part)
    (closure : part.isClosure = true) : event.lightSetting? = none := by
  rw [lightSetting?, payload?, own]
  cases part <;> first | rfl | exact absurd closure (by decide)

theorem lightSetting?_of_light {event : Event} {part : Part} (own : event.part? = some part)
    (light : part.isClosure = false) :
    event.lightSetting? = some event.options.lightSetting := by
  rw [lightSetting?, payload?, own]
  cases part <;> first | rfl | exact absurd light (by decide)

theorem brightness_of_light {event : Event} {part : Part} (own : event.part? = some part)
    (light : part.isClosure = false) (timeMs : UInt64) :
    event.brightness timeMs = event.brightnessUnder event.options.lightSetting timeMs := by
  rw [brightness, lightSetting?_of_light own light]

theorem brightness_of_closure {event : Event} {part : Part} (own : event.part? = some part)
    (closure : part.isClosure = true) (timeMs : UInt64) : event.brightness timeMs = 0.0 := by
  rw [brightness, lightSetting?_of_closure own closure]

theorem directives_of_unknown {event : Event} (unknown : event.part? = none) :
    event.directives = [] := by
  rw [directives, channels_of_unknown unknown]

theorem directives_of_light {event : Event} {part : Part} (own : event.part? = some part)
    (light : part.isClosure = false) : event.directives = [] := by
  rw [directives, channels_of_part? own, payload?, own]
  cases part <;> first | rfl | exact absurd light (by decide)

/-- A closure event writes one command of its category over its span, except for a mirror that folds
in and out again, which closes up to the midpoint and opens from there. -/
theorem directives_of_closure {event : Event} {part : Part} {channel : Channel}
    (own : event.part? = some part) (closure : part.isClosure = true)
    (alone : part.channels = [channel]) :
    (part.category = .mirror ∧ event.payload? = some (.mirror .roundTrip) ∧
        event.directives =
          [⟨channel, event.startMs, event.midpointMs, .closing⟩,
           ⟨channel, event.midpointMs, event.endMs, .opening⟩]) ∨
      ∃ command ∈ part.category.commands,
        event.directives = [⟨channel, event.startMs, event.endMs, command⟩] := by
  have payload : event.payload? = some (event.options.payload part.category) := by
    rw [payload?, own]
    rfl
  rw [Part.isClosure] at closure
  rw [directives, channels_of_part? own, alone, payload]
  generalize part.category = category at closure
  cases category with
  | light => exact absurd closure (by decide)
  | blinker => exact absurd closure (by decide)
  | mirror =>
      rw [EventOptions.payload]
      cases event.options.mirrorMode.getD .roundTrip with
      | opening => exact Or.inr ⟨.opening, by decide, rfl⟩
      | closing => exact Or.inr ⟨.closing, by decide, rfl⟩
      | roundTrip => exact Or.inl ⟨rfl, rfl, rfl⟩
  | window =>
      rw [EventOptions.payload]
      cases event.options.windowMode.getD .dance with
      | dance => exact Or.inr ⟨.dance, by decide, rfl⟩
  | trunk =>
      rw [EventOptions.payload]
      cases event.options.trunkMode.getD .opening with
      | opening => exact Or.inr ⟨.opening, by decide, rfl⟩
      | closing => exact Or.inr ⟨.closing, by decide, rfl⟩
      | dance => exact Or.inr ⟨.dance, by decide, rfl⟩
  | flap =>
      rw [EventOptions.payload]
      cases event.options.flapMode.getD .opening with
      | opening => exact Or.inr ⟨.opening, by decide, rfl⟩
      | closing => exact Or.inr ⟨.closing, by decide, rfl⟩
      | rainbow => exact Or.inr ⟨.dance, by decide, rfl⟩

theorem directives_of_roundTrip {event : Event} {channel : Channel}
    (alone : event.part.channels = [channel]) (fold : event.payload? = some (.mirror .roundTrip)) :
    event.directives =
      [⟨channel, event.startMs, event.midpointMs, .closing⟩,
       ⟨channel, event.midpointMs, event.endMs, .opening⟩] := by
  rw [directives, alone, fold]

/-- A directive goes to the one channel of the event's part and carries a command of its category. -/
theorem mem_directives {event : Event} {directive : Directive}
    (member : directive ∈ event.directives) :
    ∃ part, event.part? = some part ∧ part.channels = [directive.channel] ∧
      directive.command ∈ part.category.commands := by
  cases own : event.part? with
  | none =>
      rw [directives_of_unknown own] at member
      cases member
  | some part =>
      by_cases closure : part.isClosure = true
      · obtain ⟨channel, alone⟩ := part.exists_channels_of_closure closure
        refine ⟨part, rfl, ?_⟩
        rcases directives_of_closure own closure alone with ⟨mirror, -, both⟩ | ⟨command, of, one⟩
        · rw [both] at member
          rw [mirror, alone]
          simp only [List.mem_cons, List.not_mem_nil, or_false] at member
          rcases member with rfl | rfl
          · exact ⟨rfl, by simp [Category.commands]⟩
          · exact ⟨rfl, by simp [Category.commands]⟩
        · rw [one] at member
          rw [List.mem_singleton.mp member]
          exact ⟨alone, of⟩
      · rw [directives_of_light own (Bool.eq_false_iff.mpr closure)] at member
        cases member

theorem channel_mem_of_mem_directives {event : Event} {directive : Directive}
    (member : directive ∈ event.directives) : directive.channel ∈ event.part.channels := by
  obtain ⟨part, own, alone, -⟩ := mem_directives member
  rw [channels_of_part? own]
  exact Part.mem_channels_of_alone alone

/-- The directives that go to a part's channel are those of the events on the part. -/
theorem channel_eq_iff {part : Part} {channel : Channel} (driven : channel ∈ part.channels)
    {event : Event} {directive : Directive} (member : directive ∈ event.directives) :
    directive.channel = channel ↔ event.part? = some part := by
  obtain ⟨own, named, alone, -⟩ := mem_directives member
  have onto := Part.mem_channels_of_alone alone
  rw [named, Option.some.injEq]
  constructor
  · rintro rfl
    exact Part.eq_of_mem_channels onto driven
  · rintro rfl
    rw [alone, List.mem_singleton] at driven
    exact driven.symm

/-- The three forms that the directives of an event can take. -/
theorem directives_cases (event : Event) :
    event.directives = [] ∨
      (∃ channel command, event.directives = [⟨channel, event.startMs, event.endMs, command⟩]) ∨
      ∃ channel, event.directives =
        [⟨channel, event.startMs, event.midpointMs, .closing⟩,
         ⟨channel, event.midpointMs, event.endMs, .opening⟩] := by
  cases own : event.part? with
  | none => exact Or.inl (directives_of_unknown own)
  | some part =>
      by_cases closure : part.isClosure = true
      · obtain ⟨channel, alone⟩ := part.exists_channels_of_closure closure
        rcases directives_of_closure own closure alone with ⟨-, -, both⟩ | ⟨command, -, one⟩
        · exact Or.inr (Or.inr ⟨channel, both⟩)
        · exact Or.inr (Or.inl ⟨channel, command, one⟩)
      · exact Or.inl (directives_of_light own (Bool.eq_false_iff.mpr closure))

/-- A directive runs from the event's start or midpoint to its midpoint or end. -/
theorem span_of_mem_directives {event : Event} {directive : Directive}
    (member : directive ∈ event.directives) :
    (directive.startMs = event.startMs ∧ directive.endMs = event.endMs) ∨
      (directive.startMs = event.startMs ∧ directive.endMs = event.midpointMs) ∨
      (directive.startMs = event.midpointMs ∧ directive.endMs = event.endMs) := by
  rcases event.directives_cases with none | ⟨channel, command, one⟩ | ⟨channel, both⟩
  · rw [none] at member
    cases member
  · rw [one] at member
    rw [List.mem_singleton.mp member]
    exact Or.inl ⟨rfl, rfl⟩
  · rw [both] at member
    rcases List.mem_cons.mp member with folding | member
    · rw [folding]
      exact Or.inr (Or.inl ⟨rfl, rfl⟩)
    · rw [List.mem_singleton.mp member]
      exact Or.inr (Or.inr ⟨rfl, rfl⟩)

end Event

/-! ## The events of one part -/

def eventsOn (part : Part) (events : List Event) : List Event :=
  events.filter fun event => event.part? == some part

theorem eventsOn_cons_of_own {part : Part} {event : Event} (own : event.part? = some part)
    (rest : List Event) : eventsOn part (event :: rest) = event :: eventsOn part rest :=
  List.filter_cons_of_pos (beq_iff_eq.mpr own)

theorem eventsOn_cons_of_other {part : Part} {event : Event} (other : event.part? ≠ some part)
    (rest : List Event) : eventsOn part (event :: rest) = eventsOn part rest :=
  List.filter_cons_of_neg (mt beq_iff_eq.mp other)

/-- The directives on a channel come from the events on its part alone, all of them. -/
theorem directives_on_channel {part : Part} {channel : Channel} (driven : channel ∈ part.channels)
    (events : List Event) :
    (events.flatMap Event.directives).filter (fun directive => directive.channel = channel) =
      (eventsOn part events).flatMap Event.directives := by
  induction events with
  | nil => rfl
  | cons event rest ih =>
      rw [List.flatMap_cons, List.filter_append, ih]
      by_cases own : event.part? = some part
      · have kept : event.directives.filter (fun directive => directive.channel = channel) =
            event.directives := by
          apply List.filter_eq_self.mpr
          intro directive member
          exact decide_eq_true ((Event.channel_eq_iff driven member).mpr own)
        rw [kept, eventsOn_cons_of_own own, List.flatMap_cons]
      · have dropped : event.directives.filter (fun directive => directive.channel = channel) =
            [] := by
          apply List.filter_eq_nil_iff.mpr
          intro directive member onto
          exact own ((Event.channel_eq_iff driven member).mp (of_decide_eq_true onto))
        rw [dropped, eventsOn_cons_of_other own, List.nil_append]

end VehicleShow
