import VehicleShow.Proofs.CompiledCell
import VehicleShow.Proofs.FrameTimes

/-! # Splitting events

An event that asks for one and the same thing all along may be cut in two at any time, on a frame or
between frames, and a mirror that folds in and out may be written as the two halves of its movement.
`compile_split` says so of any place in a show: lists that are `Interchangeable` leave the same mark
whatever stands before and after them. -/
set_option autoImplicit false
namespace VehicleShow

/-- Lists of events that command the same and shine the same. -/
structure Interchangeable (old new : List Event) : Prop where
  commands : ∀ channel frame,
    lastCommand? (new.flatMap Event.directives) channel frame =
      lastCommand? (old.flatMap Event.directives) channel frame
  lights : ∀ channel timeMs,
    brightest (new.filter (Event.reaches channel)) timeMs =
      brightest (old.filter (Event.reaches channel)) timeMs

theorem Interchangeable.compile_eq {old new : List Event} (same : Interchangeable old new)
    (before after : List Event) (durationMs : UInt64) :
    compile (before ++ new ++ after) durationMs = compile (before ++ old ++ after) durationMs := by
  apply compile_congr
  intro frame channel
  rw [cell, cell]
  simp only [List.flatMap_append, List.filter_append, lastCommand?_append, brightest_append,
    same.commands, same.lights]

/-! ## One command -/

def Payload.wholeCommand? : Payload → Option Command
  | .light _ | .mirror .roundTrip => none
  | .mirror .opening | .trunk .opening | .flap .opening => some .opening
  | .mirror .closing | .trunk .closing | .flap .closing => some .closing
  | .window .dance | .trunk .dance | .flap .rainbow => some .dance

namespace Event

def between (startMs endMs : UInt64) (event : Event) : Event :=
  { event with startMs := startMs, endMs := endMs }

def cutAt (cutMs : UInt64) (event : Event) : List Event :=
  [event.between event.startMs cutMs, event.between cutMs event.endMs]

def halves (folding unfolding : EventOptions) (event : Event) : List Event :=
  [{ part := event.part, startMs := event.startMs, endMs := event.midpointMs, options := folding },
   { part := event.part, startMs := event.midpointMs, endMs := event.endMs, options := unfolding }]

theorem directives_of_wholeCommand {event : Event} {channel : Channel} {payload : Payload}
    {command : Command} (alone : event.part.channels = [channel])
    (asked : event.payload? = some payload) (whole : payload.wholeCommand? = some command) :
    event.directives = [⟨channel, event.startMs, event.endMs, command⟩] := by
  rw [directives, alone, asked]
  cases payload with
  | light => cases whole
  | mirror mode => cases mode <;> cases whole <;> rfl
  | window mode => cases mode; cases whole; rfl
  | trunk mode => cases mode <;> cases whole <;> rfl
  | flap mode => cases mode <;> cases whole <;> rfl

end Event

theorem Payload.form_of_no_wholeCommand {payload : Payload} (none : payload.wholeCommand? = none) :
    (∃ setting, payload = .light setting) ∨ payload = .mirror .roundTrip := by
  cases payload with
  | light setting => exact Or.inl ⟨setting, rfl⟩
  | mirror mode =>
      cases mode with
      | roundTrip => exact Or.inr rfl
      | opening => cases none
      | closing => cases none
  | window mode => cases mode; cases none
  | trunk mode => cases mode <;> cases none
  | flap mode => cases mode <;> cases none

namespace Event

theorem exists_wholeCommand {event : Event} {part : Part} (own : event.part? = some part)
    (closure : part.isClosure = true) (single : event.payload? ≠ some (.mirror .roundTrip)) :
    ∃ payload command, event.payload? = some payload ∧ payload.wholeCommand? = some command := by
  have unlit := lightSetting?_of_closure own closure
  have asked : event.payload? = some (event.options.payload part.category) := by
    rw [payload?, own]
    rfl
  cases whole : (event.options.payload part.category).wholeCommand? with
  | some command => exact ⟨_, command, asked, whole⟩
  | none =>
      rcases Payload.form_of_no_wholeCommand whole with ⟨setting, light⟩ | fold
      · rw [lightSetting?, asked, light] at unlit
        cases unlit
      · exact absurd (fold ▸ asked) single

end Event

section Cut
variable {startMs cutMs endMs : UInt64} (started : startMs ≤ cutMs) (unfinished : cutMs ≤ endMs)
include started unfinished

/-- Rounding the cut down to a frame leaves neither a gap nor a frame outside the whole span. -/
theorem covers_cut (channel other : Channel) (command : Command) (frame : Nat) :
    Directive.covers other frame ⟨channel, startMs, endMs, command⟩ =
      (Directive.covers other frame ⟨channel, cutMs, endMs, command⟩ ||
        Directive.covers other frame ⟨channel, startMs, cutMs, command⟩) := by
  rw [UInt64.le_iff_toNat_le] at started unfinished
  rw [Bool.eq_iff_iff, Bool.or_eq_true]
  simp only [Directive.covers, decide_eq_true_eq]
  by_cases same : channel = other
  · simp only [same, true_and]
    omega
  · simp only [same, false_and, or_self]

theorem lastCommand?_cut (channel other : Channel) (command : Command) (frame : Nat) :
    lastCommand? [⟨channel, startMs, cutMs, command⟩, ⟨channel, cutMs, endMs, command⟩] other frame =
      lastCommand? [⟨channel, startMs, endMs, command⟩] other frame := by
  have pieces : ([⟨channel, startMs, cutMs, command⟩, ⟨channel, cutMs, endMs, command⟩] :
      List Directive) =
        [⟨channel, startMs, cutMs, command⟩] ++ [⟨channel, cutMs, endMs, command⟩] := rfl
  rw [pieces, lastCommand?_append, lastCommand?_singleton, lastCommand?_singleton,
    lastCommand?_singleton, covers_cut started unfinished]
  cases Directive.covers other frame ⟨channel, cutMs, endMs, command⟩ with
  | true => rfl
  | false => rfl

theorem isActiveAt_cut (event : Event) (timeMs : UInt64) :
    (event.between startMs endMs).isActiveAt timeMs =
      ((event.between startMs cutMs).isActiveAt timeMs ||
        (event.between cutMs endMs).isActiveAt timeMs) := by
  rw [UInt64.le_iff_toNat_le] at started unfinished
  rw [Bool.eq_iff_iff, Bool.or_eq_true]
  simp only [Event.isActiveAt, Event.between, Bool.and_eq_true, decide_eq_true_eq,
    UInt64.le_iff_toNat_le, UInt64.lt_iff_toNat_lt]
  omega

end Cut

/-! ## Steady light -/

structure LightSetting.IsSteady (setting : LightSetting) : Prop where
  effect : setting.effect = .solid
  easeIn : setting.easeIn = false
  easeOut : setting.easeOut = false

theorem LightSetting.brightness_of_steady {setting : LightSetting} (steady : setting.IsSteady)
    (durationMs elapsedMs remainingMs : UInt64) :
    setting.brightness durationMs elapsedMs remainingMs = setting.power.toFloat / 100.0 := by
  rw [brightness_of_solid steady.effect, level, steady.easeIn, steady.easeOut]
  simp [Brightness.ramp]

namespace Event

theorem byteAt_of_steady {event : Event} {setting : LightSetting}
    (own : event.lightSetting? = some setting) (steady : setting.IsSteady) (timeMs : UInt64) :
    event.byteAt timeMs =
      if event.isActiveAt timeMs then Brightness.toByte (setting.power.toFloat / 100.0) else 0 := by
  rw [byteAt, brightness, own]
  dsimp only
  rw [brightnessUnder, LightSetting.brightness_of_steady steady]
  by_cases active : event.isActiveAt timeMs = true
  · rw [if_pos active, if_pos active]
  · rw [if_neg active, if_neg active, Brightness.toByte_zero]

theorem exists_mirror_of_payload? {event : Event} {mode : MirrorMode}
    (asked : event.payload? = some (.mirror mode)) :
    ∃ part, event.part? = some part ∧ part.category = .mirror := by
  rw [payload?] at asked
  obtain ⟨part, own, same⟩ := Option.map_eq_some_iff.mp asked
  refine ⟨part, own, ?_⟩
  cases category : part.category with
  | mirror => rfl
  | light | blinker | window | trunk | flap => rw [category] at same; cases same

theorem directives_of_mirror {event : Event} {part : Part} {channel : Channel} {mode : MirrorMode}
    {command : Command} (own : event.part? = some part) (mirror : part.category = .mirror)
    (alone : part.channels = [channel]) (given : event.options.mirrorMode = some mode)
    (whole : (Payload.mirror mode).wholeCommand? = some command) :
    event.directives = [⟨channel, event.startMs, event.endMs, command⟩] := by
  have asked : event.payload? = some (.mirror mode) := by
    rw [payload?, own, Option.map_some, mirror, EventOptions.payload, given, Option.getD_some]
  exact directives_of_wholeCommand ((channels_of_part? own).trans alone) asked whole

theorem directives_of_lightSetting? {event : Event} {setting : LightSetting}
    (own : event.lightSetting? = some setting) : event.directives = [] := by
  cases known : event.part? with
  | none => exact directives_of_unknown known
  | some part =>
      by_cases closure : part.isClosure = true
      · rw [lightSetting?_of_closure known closure] at own
        cases own
      · exact directives_of_light known (Bool.eq_false_iff.mpr closure)

end Event

/-! ## The exchanges -/

/-- Closure events do not shine, so on one part only their directives count. -/
theorem interchangeable_of_closures {old new : List Event} {part : Part}
    (closure : part.isClosure = true) (oldOwn : ∀ event ∈ old, event.part? = some part)
    (newOwn : ∀ event ∈ new, event.part? = some part)
    (commands : ∀ channel frame,
      lastCommand? (new.flatMap Event.directives) channel frame =
        lastCommand? (old.flatMap Event.directives) channel frame) : Interchangeable old new where
  commands := commands
  lights channel timeMs := by
    have dark : ∀ events : List Event, (∀ event ∈ events, event.part? = some part) →
        brightest (events.filter (Event.reaches channel)) timeMs = 0 := by
      intro events own
      apply brightest_eq_zero
      intro event member
      exact Event.byteAt_of_closure (own event (List.mem_filter.mp member).1) closure timeMs
    rw [dark old oldOwn, dark new newOwn]

section Exchange
variable {event : Event}

theorem interchangeable_of_single {part : Part} (own : event.part? = some part)
    (closure : part.isClosure = true) (single : event.payload? ≠ some (.mirror .roundTrip))
    {cutMs : UInt64} (started : event.startMs ≤ cutMs) (unfinished : cutMs ≤ event.endMs) :
    Interchangeable [event] (event.cutAt cutMs) := by
  obtain ⟨channel, alone⟩ := part.exists_channels_of_closure closure
  obtain ⟨payload, command, asked, whole⟩ := Event.exists_wholeCommand own closure single
  have driving : event.part.channels = [channel] := (Event.channels_of_part? own).trans alone
  have directives : ∀ startMs endMs, (event.between startMs endMs).directives =
      [⟨channel, startMs, endMs, command⟩] := by
    intro startMs endMs
    have askedBetween : (event.between startMs endMs).payload? = some payload := asked
    exact Event.directives_of_wholeCommand driving askedBetween whole
  have uncut : event.directives = [⟨channel, event.startMs, event.endMs, command⟩] :=
    directives event.startMs event.endMs
  apply interchangeable_of_closures closure
  · simp [own]
  · intro piece member
    simp only [Event.cutAt, List.mem_cons, List.not_mem_nil, or_false] at member
    rcases member with rfl | rfl
    · exact own
    · exact own
  · intro other frame
    rw [Event.cutAt, List.flatMap_cons, List.flatMap_singleton, List.flatMap_singleton, directives,
      directives, uncut]
    exact lastCommand?_cut started unfinished channel other command frame

theorem interchangeable_of_steady {setting : LightSetting}
    (own : event.lightSetting? = some setting) (steady : setting.IsSteady) {cutMs : UInt64}
    (started : event.startMs ≤ cutMs) (unfinished : cutMs ≤ event.endMs) :
    Interchangeable [event] (event.cutAt cutMs) := by
  have ownBetween : ∀ startMs endMs, (event.between startMs endMs).lightSetting? = some setting :=
    fun _ _ => own
  constructor
  · intro channel frame
    rw [Event.cutAt, List.flatMap_cons, List.flatMap_singleton, List.flatMap_singleton,
      Event.directives_of_lightSetting? (ownBetween _ _),
      Event.directives_of_lightSetting? (ownBetween _ _), Event.directives_of_lightSetting? own]
    rfl
  · intro channel timeMs
    have sameReach : ∀ startMs endMs, (event.between startMs endMs).reaches channel =
        event.reaches channel := fun _ _ => rfl
    have active : event.isActiveAt timeMs =
        ((event.between event.startMs cutMs).isActiveAt timeMs ||
          (event.between cutMs event.endMs).isActiveAt timeMs) :=
      isActiveAt_cut started unfinished event timeMs
    simp only [Event.cutAt, brightest_filter_reaches_cons, List.filter_nil, brightest_nil,
      max_zero_byte, sameReach, Event.byteAt_of_steady own steady,
      Event.byteAt_of_steady (ownBetween _ _) steady, active]
    cases event.reaches channel with
    | false => rfl
    | true =>
        -- One piece shines, the other, or none; the maximum never meets two different bytes.
        cases (event.between event.startMs cutMs).isActiveAt timeMs with
        | false => simp
        | true => cases (event.between cutMs event.endMs).isActiveAt timeMs <;> simp

theorem interchangeable_of_fold (fold : event.payload? = some (.mirror .roundTrip))
    {folding unfolding : EventOptions} (closes : folding.mirrorMode = some .closing)
    (opens : unfolding.mirrorMode = some .opening) :
    Interchangeable [event] (event.halves folding unfolding) := by
  obtain ⟨part, own, mirror⟩ := Event.exists_mirror_of_payload? fold
  have closure : part.isClosure = true := by
    rw [Part.isClosure, mirror]
    rfl
  obtain ⟨channel, alone⟩ := part.exists_channels_of_closure closure
  have both := Event.directives_of_roundTrip ((Event.channels_of_part? own).trans alone) fold
  have closing : Event.directives
      { part := event.part, startMs := event.startMs, endMs := event.midpointMs,
        options := folding } =
        [⟨channel, event.startMs, event.midpointMs, .closing⟩] :=
    Event.directives_of_mirror own mirror alone closes rfl
  have opening : Event.directives
      { part := event.part, startMs := event.midpointMs, endMs := event.endMs,
        options := unfolding } =
        [⟨channel, event.midpointMs, event.endMs, .opening⟩] :=
    Event.directives_of_mirror own mirror alone opens rfl
  apply interchangeable_of_closures closure
  · simp [own]
  · intro half member
    simp only [Event.halves, List.mem_cons, List.not_mem_nil, or_false] at member
    rcases member with rfl | rfl
    · exact own
    · exact own
  · intro other frame
    rw [Event.halves, List.flatMap_cons, List.flatMap_singleton, List.flatMap_singleton, both,
      closing, opening]
    rfl

end Exchange

def Event.IsUniform (event : Event) : Prop :=
  (∃ part, event.part? = some part ∧ part.isClosure = true ∧
      event.payload? ≠ some (.mirror .roundTrip)) ∨
    ∃ setting, event.lightSetting? = some setting ∧ setting.IsSteady

/-- A uniform event may be cut in two at any time of its span.  A mirror event that folds in and out
may be written as one that folds in and one that folds out, whatever their other options. -/
theorem compile_split (before after : List Event) (event : Event) (durationMs : UInt64) :
    (event.IsUniform → ∀ cutMs, event.startMs ≤ cutMs → cutMs ≤ event.endMs →
        compile (before ++ event.cutAt cutMs ++ after) durationMs =
          compile (before ++ [event] ++ after) durationMs) ∧
      (event.payload? = some (.mirror .roundTrip) →
        event.midpointMs.toNat =
            event.startMs.toNat + (event.endMs.toNat - event.startMs.toNat) / 2 ∧
          ∀ folding unfolding : EventOptions,
            folding.mirrorMode = some .closing → unfolding.mirrorMode = some .opening →
              compile (before ++ event.halves folding unfolding ++ after) durationMs =
                compile (before ++ [event] ++ after) durationMs) := by
  constructor
  · intro uniform cutMs started unfinished
    rcases uniform with ⟨part, own, closure, single⟩ | ⟨setting, own, steady⟩
    · exact (interchangeable_of_single own closure single started unfinished).compile_eq before after
        durationMs
    · exact (interchangeable_of_steady own steady started unfinished).compile_eq before after
        durationMs
  · intro fold
    refine ⟨event.toNat_midpointMs, ?_⟩
    intro folding unfolding closes opens
    exact (interchangeable_of_fold fold closes opens).compile_eq before after durationMs

def glow : Event :=
  { part := .known .blinkFrontLeft, startMs := 15, endMs := 95, options := { power := some 70 } }

def sway : Event :=
  { part := .known .trunk, startMs := 30, endMs := 170, options := { trunkMode := some .dance } }

def bow : Event := { part := .known .retroRight, startMs := 5, endMs := 76 }

/-- A light and a closure, neither of them cut on a frame, and a fold over an odd span. -/
theorem compile_split_glow_sway_bow :
    glow.IsUniform ∧ sway.IsUniform ∧ bow.payload? = some (.mirror .roundTrip) ∧
      compile ([bow] ++ glow.cutAt 47 ++ [sway]) 150 = compile ([bow] ++ [glow] ++ [sway]) 150 ∧
      compile ([bow] ++ sway.cutAt 71 ++ [glow]) 150 = compile ([bow] ++ [sway] ++ [glow]) 150 ∧
      bow.halves { mirrorMode := some .closing } { mirrorMode := some .opening } =
        [{ part := .known .retroRight, startMs := 5, endMs := 40,
           options := { mirrorMode := some .closing } },
         { part := .known .retroRight, startMs := 40, endMs := 76,
           options := { mirrorMode := some .opening } }] ∧
      compile
          ([sway] ++ bow.halves { mirrorMode := some .closing } { mirrorMode := some .opening } ++
            [glow]) 150 =
        compile ([sway] ++ [bow] ++ [glow]) 150 ∧
      ∃ m, compile ([sway] ++ [bow] ++ [glow]) 150 = .ok m ∧ m.get? 3 12 = some 179 ∧
        m.get? 3 40 = some 128 ∧ m.column 35 = [192, 192, 64, 0, 0, 0, 0, 0] := by
  have steady : glow.IsUniform := Or.inr ⟨_, rfl, rfl, rfl, rfl⟩
  have single : sway.IsUniform := Or.inl ⟨.trunk, rfl, rfl, by decide⟩
  have fold : bow.payload? = some (.mirror .roundTrip) := rfl
  have compiled : compile [sway, bow, glow] 150 = .ok (.ofEvents 8 [sway, bow, glow]) := rfl
  have lit : (FrameMatrix.ofEvents 8 [sway, bow, glow]).get? 3 12 = some 179 := by decide +kernel
  have dances : (FrameMatrix.ofEvents 8 [sway, bow, glow]).get? 3 40 = some 128 := by
    decide +kernel
  have folds : (FrameMatrix.ofEvents 8 [sway, bow, glow]).column 35 =
      [192, 192, 64, 0, 0, 0, 0, 0] := by decide +kernel
  refine ⟨steady, single, fold, ?_, ?_, rfl, ?_, _, compiled, lit, dances, folds⟩
  · exact (compile_split [bow] [sway] glow 150).1 steady 47 (by decide) (by decide)
  · exact (compile_split [bow] [glow] sway 150).1 single 71 (by decide) (by decide)
  · obtain ⟨-, exchange⟩ := (compile_split [sway] [glow] bow 150).2 fold
    exact exchange { mirrorMode := some .closing } { mirrorMode := some .opening } rfl rfl

end VehicleShow
