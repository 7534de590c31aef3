import Mathlib.Data.List.Forall2
import Mathlib.Logic.Relation
import VehicleShow.Proofs.Blinking
import VehicleShow.Proofs.CommandCount
import VehicleShow.Proofs.StrayChannels

/-! # What a show reads of its events

An event holds the options of every category side by side.  Nothing but the payload of its own part is
read back: `Event.Alike` collects what the compiler, the report and the scan for stray channels learn
of one event, `alike_of_samePayload` says that part, span and payload determine all of it, and
`sameResults_of_alike` carries this over to lists.  So options of other categories, defaults that are
written out and the exact value of a speed that is not in the table make no difference, and neither do
events on unknown parts. -/
set_option autoImplicit false
namespace VehicleShow

/-! ## Options and payloads -/

namespace EventOptions

def own (options : EventOptions) : Category → EventOptions
  | .light | .blinker =>
      { effect := options.effect, power := options.power, blinkSpeed := options.blinkSpeed
        easeIn := options.easeIn, easeOut := options.easeOut }
  | .mirror => { mirrorMode := options.mirrorMode }
  | .window => { windowMode := options.windowMode }
  | .trunk => { trunkMode := options.trunkMode }
  | .flap => { flapMode := options.flapMode }

def spelledOut (options : EventOptions) : EventOptions where
  effect := some (options.effect.getD .solid)
  power := some (options.power.getD defaultPower)
  blinkSpeed := some (options.blinkSpeed.getD 0)
  easeIn := options.easeIn
  easeOut := options.easeOut
  mirrorMode := some (options.mirrorMode.getD .roundTrip)
  windowMode := some (options.windowMode.getD .dance)
  trunkMode := some (options.trunkMode.getD .opening)
  flapMode := some (options.flapMode.getD .opening)

theorem payload_own (options : EventOptions) (category : Category) :
    (options.own category).payload category = options.payload category := by
  cases category <;> rfl

theorem payload_spelledOut (options : EventOptions) (category : Category) :
    options.spelledOut.payload category = options.payload category := by
  cases category <;> rfl

theorem payload_blinkSpeed_of_closure (options : EventOptions) {category : Category}
    (closure : category.isClosure = true) (speed : Option UInt64) :
    { options with blinkSpeed := speed }.payload category = options.payload category := by
  cases category <;> first | rfl | cases closure

end EventOptions

namespace Event

def ownOptions (event : Event) : EventOptions :=
  match event.part? with
  | some part => event.options.own part.category
  | none => {}

theorem ownOptions_of_part? {event : Event} {part : Part} (own : event.part? = some part) :
    event.ownOptions = event.options.own part.category := by
  rw [ownOptions, own]

/-! ## What is read of one event -/

structure SamePayload (first second : Event) : Prop where
  part : first.part = second.part
  startMs : first.startMs = second.startMs
  endMs : first.endMs = second.endMs
  payload? : first.payload? = second.payload?

structure Alike (first second : Event) : Prop where
  part : first.part = second.part
  directives : first.directives = second.directives
  brightness : ∀ timeMs, first.brightness timeMs = second.brightness timeMs
  commandCost : first.commandCost = second.commandCost
  longDance? : first.longDance? = second.longDance?

theorem Alike.refl (event : Event) : event.Alike event :=
  ⟨rfl, rfl, fun _ => rfl, rfl, rfl⟩

theorem Alike.trans {first second third : Event} (before : first.Alike second)
    (after : second.Alike third) : first.Alike third where
  part := before.part.trans after.part
  directives := before.directives.trans after.directives
  brightness timeMs := (before.brightness timeMs).trans (after.brightness timeMs)
  commandCost := before.commandCost.trans after.commandCost
  longDance? := before.longDance?.trans after.longDance?

section Alike
variable {first second : Event}

theorem alike_of_samePayload (same : first.SamePayload second) : first.Alike second := by
  obtain ⟨part, startMs, endMs, payload⟩ := same
  have part? : first.part? = second.part? := congrArg PartKey.part? part
  have durationMs : first.durationMs = second.durationMs := by
    rw [Event.durationMs, Event.durationMs, startMs, endMs]
  have lightSetting? : first.lightSetting? = second.lightSetting? := by
    rw [Event.lightSetting?, Event.lightSetting?, payload]
  refine ⟨part, ?_, ?_, ?_, ?_⟩
  · simp only [directives, midpointMs, part, startMs, endMs, payload, durationMs]
  · intro timeMs
    have active : first.isActiveAt timeMs = second.isActiveAt timeMs := by
      rw [isActiveAt, isActiveAt, startMs, endMs]
    rw [brightness, brightness, lightSetting?]
    cases second.lightSetting? with
    | none => rfl
    | some setting =>
        dsimp only
        rw [brightnessUnder, brightnessUnder, active, startMs, endMs, durationMs]
  · simp only [commandCost, payload]
  · simp only [longDance?, part?, payload, startMs, durationMs]

/-- On one part over one span, options with the same payload are as good as each other. -/
theorem alike_of_payload {event : Event} {options : EventOptions}
    (same : ∀ part, event.part? = some part →
      options.payload part.category = event.options.payload part.category) :
    event.Alike { event with options := options } := by
  apply alike_of_samePayload
  refine ⟨rfl, rfl, rfl, ?_⟩
  change event.part?.map _ = event.part?.map _
  exact Option.map_congr fun part own => (same part own).symm

/-- Of an event on a light there is nothing to be seen but its brightness. -/
theorem alike_of_light {part : Part} (samePart : first.part = second.part)
    (own : first.part? = some part) (light : part.isClosure = false)
    (brightness : ∀ timeMs, first.brightness timeMs = second.brightness timeMs) :
    first.Alike second := by
  have alsoOwn : second.part? = some part := by rw [part?, ← samePart, ← part?, own]
  have free := commandCost_of_light own light
  have alsoFree := commandCost_of_light alsoOwn light
  refine ⟨samePart, ?_, brightness, free.trans alsoFree.symm, ?_⟩
  · rw [directives_of_light own light, directives_of_light alsoOwn light]
  · rw [longDance?_of_free free, longDance?_of_free alsoFree]

/-- A blink at a speed that is not in the table is a blink at the slowest. -/
theorem alike_withBlinkSpeed_zero {event : Event} {speed : UInt64}
    (given : event.options.blinkSpeed = some speed) (unlisted : 3 ≤ speed) :
    event.Alike (event.withBlinkSpeed 0) := by
  by_cases onLight : ∃ part, event.part? = some part ∧ part.isClosure = false
  · obtain ⟨part, own, light⟩ := onLight
    have ownAfter : (event.withBlinkSpeed 0).part? = some part := own
    refine alike_of_light rfl own light fun timeMs => ?_
    have before : event.options.lightSetting.blinkSpeed = speed := by
      rw [EventOptions.lightSetting, given, Option.getD_some]
    rw [brightness_of_light own light, brightness_of_light ownAfter light]
    simp only [brightnessUnder, LightSetting.brightness, before,
      Brightness.isDark_of_unlisted unlisted]
    rfl
  · apply alike_of_payload
    intro part own
    have closure : part.isClosure = true :=
      Bool.of_not_eq_false fun light => onLight ⟨part, own, light⟩
    exact event.options.payload_blinkSpeed_of_closure closure (some 0)

end Alike

/-! ## Changes that make no difference -/

/-- One change to the options of an event. -/
inductive Respelled (event : Event) : Event → Prop where
  /-- Options of other categories take any values. -/
  | foreign (options : EventOptions)
      (same : { event with options := options }.ownOptions = event.ownOptions) :
      event.Respelled { event with options := options }
  /-- Absent options take their defaults, or the other way round. -/
  | spelledOut (options : EventOptions) (same : options.spelledOut = event.options.spelledOut) :
      event.Respelled { event with options := options }
  /-- A speed that is not in the table becomes the slowest. -/
  | slowest (speed : UInt64) (given : event.options.blinkSpeed = some speed)
      (unlisted : 3 ≤ speed) : event.Respelled (event.withBlinkSpeed 0)

theorem alike_of_respelled {event changed : Event} (step : event.Respelled changed) :
    event.Alike changed := by
  cases step with
  | foreign options same =>
      apply alike_of_payload
      intro part own
      have ownAfter : { event with options := options }.part? = some part := own
      rw [ownOptions_of_part? own, ownOptions_of_part? ownAfter] at same
      rw [← options.payload_own, same, EventOptions.payload_own]
  | spelledOut options same =>
      apply alike_of_payload
      intro part _
      rw [← options.payload_spelledOut, same, EventOptions.payload_spelledOut]
  | slowest speed given unlisted => exact alike_withBlinkSpeed_zero given unlisted

/-- Any number of changes makes no more difference than one. -/
theorem alike_of_respellings {event changed : Event}
    (steps : Relation.ReflTransGen Respelled event changed) : event.Alike changed := by
  induction steps with
  | refl => exact Alike.refl event
  | tail _ step ih => exact ih.trans (alike_of_respelled step)

end Event

/-! ## What is read of a list of events -/

/-- Lists that compile alike, are reported alike and account for the same channels. -/
structure SameResults (first second : List Event) : Prop where
  compile : ∀ durationMs, compile first durationMs = compile second durationMs
  tally : BudgetReport.tally first = BudgetReport.tally second
  strayChannels : ∀ matrix : FrameMatrix,
    matrix.strayChannels first = matrix.strayChannels second

section Lists
variable {first second : List Event} (alike : List.Forall₂ Event.Alike first second)
include alike

theorem flatMap_of_alike {α : Type} {f : Event → List α}
    (same : ∀ {event other : Event}, event.Alike other → f event = f other) :
    first.flatMap f = second.flatMap f := by
  induction alike with
  | nil => rfl
  | cons head _ ih => rw [List.flatMap_cons, List.flatMap_cons, same head, ih]

theorem brightest_of_alike (channel : Channel) (timeMs : UInt64) :
    brightest (first.filter (Event.reaches channel)) timeMs =
      brightest (second.filter (Event.reaches channel)) timeMs := by
  induction alike with
  | nil => rfl
  | cons head _ ih =>
      rw [brightest_filter_reaches_cons, brightest_filter_reaches_cons, ih, Event.reaches,
        Event.reaches, head.part, Event.byteAt, Event.byteAt, head.brightness]

theorem foldl_add_of_alike (ledger : Ledger) :
    first.foldl Ledger.add ledger = second.foldl Ledger.add ledger := by
  induction alike generalizing ledger with
  | nil => rfl
  | cons head _ ih =>
      have part? := congrArg PartKey.part? head.part
      rw [List.foldl_cons, List.foldl_cons, ih]
      congr 1
      simp only [Ledger.add, Event.part?, part?, head.commandCost, head.longDance?]

theorem sameResults_of_alike : SameResults first second where
  compile := by
    apply compile_congr
    intro frame channel
    rw [cell, cell, flatMap_of_alike alike Event.Alike.directives, brightest_of_alike alike]
  tally := by rw [BudgetReport.tally, BudgetReport.tally, foldl_add_of_alike alike]
  strayChannels matrix := by
    have sameChannels : (first.flatMap fun event => event.part.channels) =
        second.flatMap fun event => event.part.channels :=
      flatMap_of_alike alike fun pair => congrArg PartKey.channels pair.part
    rw [FrameMatrix.strayChannels, FrameMatrix.strayChannels, sameChannels]

end Lists

/-! ## Events on unknown parts -/

def Event.isKnown (event : Event) : Bool := event.part?.isSome

theorem Event.leavesNoMark_of_unknown {event : Event} (unknown : event.part? = none) (frame : Nat)
    (channel : Channel) : event.LeavesNoMark frame channel where
  commands directive member := by
    rw [directives_of_unknown unknown] at member
    cases member
  light := by
    rw [byteAt, brightness, lightSetting?, payload?, unknown]
    exact Brightness.toByte_zero

section Filter
variable (events : List Event)

theorem foldl_add_filter_isKnown (ledger : Ledger) :
    (events.filter Event.isKnown).foldl Ledger.add ledger = events.foldl Ledger.add ledger := by
  induction events generalizing ledger with
  | nil => rfl
  | cons event rest ih =>
      by_cases known : event.isKnown = true
      · rw [List.filter_cons_of_pos known, List.foldl_cons, List.foldl_cons, ih]
      · have unknown := Option.not_isSome_iff_eq_none.mp known
        rw [List.filter_cons_of_neg known, List.foldl_cons, ledger.add_of_silent (Or.inl unknown),
          ih]

theorem channels_filter_isKnown :
    ((events.filter Event.isKnown).flatMap fun event => event.part.channels) =
      events.flatMap fun event => event.part.channels := by
  induction events with
  | nil => rfl
  | cons event rest ih =>
      by_cases known : event.isKnown = true
      · rw [List.filter_cons_of_pos known, List.flatMap_cons, List.flatMap_cons, ih]
      · have unknown := Option.not_isSome_iff_eq_none.mp known
        rw [List.filter_cons_of_neg known, List.flatMap_cons, Event.channels_of_unknown unknown,
          List.nil_append, ih]

theorem sameResults_filter_isKnown : SameResults (events.filter Event.isKnown) events where
  compile := by
    apply compile_congr
    intro frame channel
    apply cell_filter
    intro event _ dropped
    have unknown := Option.not_isSome_iff_eq_none.mp (Bool.eq_false_iff.mp dropped)
    exact Event.leavesNoMark_of_unknown unknown frame channel
  tally := by rw [BudgetReport.tally, BudgetReport.tally, foldl_add_filter_isKnown]
  strayChannels matrix := by
    rw [FrameMatrix.strayChannels, FrameMatrix.strayChannels, channels_filter_isKnown]

end Filter

/-- Of an event nothing matters but its part, its span and its payload.  Lists that agree in these
place by place resolve, shine and cost the same and give the same results, and so do lists whose events
differ in options of other categories, in defaults that are written out or left out and in speeds that
are not in the table.  Events on unknown parts may as well be left out. -/
theorem payload_decides :
    (∀ first second, List.Forall₂ Event.SamePayload first second →
      SameResults first second ∧ List.Forall₂ Event.Alike first second) ∧
    (∀ first second, List.Forall₂ (Relation.ReflTransGen Event.Respelled) first second →
      SameResults first second) ∧
    ∀ events, SameResults (events.filter Event.isKnown) events := by
  refine ⟨?_, ?_, sameResults_filter_isKnown⟩
  · intro first second same
    have alike := same.imp fun _ _ => Event.alike_of_samePayload
    exact ⟨sameResults_of_alike alike, alike⟩
  · intro first second changes
    exact sameResults_of_alike (changes.imp fun _ _ => Event.alike_of_respellings)

/-- A blinking light, a trunk that moves backwards in time and a part that is not in the catalog. -/
def terse : List Event :=
  [{ part := .known .lightLeftBack, startMs := 0, endMs := 400,
     options := { effect := some .blink, blinkSpeed := some 9 } },
   { part := .known .trunk, startMs := 100, endMs := 60 },
   { part := .unknown "frunk", startMs := 0, endMs := 80 }]

/-- The same events with defaults written out, at the slowest speed and with options of other
categories. -/
def wordy : List Event :=
  [{ part := .known .lightLeftBack, startMs := 0, endMs := 400,
     options := { effect := some .blink, power := some 100, blinkSpeed := some 0,
                  flapMode := some .rainbow } },
   { part := .known .trunk, startMs := 100, endMs := 60,
     options := { trunkMode := some .opening, power := some 7, easeIn := true } },
   { part := .unknown "frunk", startMs := 0, endMs := 80,
     options := { mirrorMode := some .closing } }]

theorem payload_decides_wordy :
    terse ≠ wordy ∧ List.Forall₂ Event.SamePayload terse.tail wordy.tail ∧
      List.Forall₂ (Relation.ReflTransGen Event.Respelled) terse wordy ∧
      SameResults terse.tail wordy.tail ∧ SameResults terse wordy ∧
      (wordy.filter Event.isKnown).length = 2 ∧ SameResults (wordy.filter Event.isKnown) wordy ∧
      ∃ m, compile terse 130 = .ok m ∧ compile wordy 130 = .ok m ∧
        m.column 25 = [255, 255, 0, 0, 255, 255, 0] := by
  obtain ⟨samePayload, respelled, unknown⟩ := payload_decides
  have tails : List.Forall₂ Event.SamePayload terse.tail wordy.tail :=
    .cons ⟨rfl, rfl, rfl, rfl⟩ (.cons ⟨rfl, rfl, rfl, rfl⟩ .nil)
  have light : Relation.ReflTransGen Event.Respelled terse[0] wordy[0] :=
    .head (.slowest 9 rfl (by decide))
      (.head (.spelledOut
          { effect := some .blink, power := some 100, blinkSpeed := some 0 } rfl)
        (.single (.foreign wordy[0].options rfl)))
  have trunk : Relation.ReflTransGen Event.Respelled terse[1] wordy[1] :=
    .head (.spelledOut { trunkMode := some .opening } rfl)
      (.single (.foreign wordy[1].options rfl))
  have frunk : Relation.ReflTransGen Event.Respelled terse[2] wordy[2] :=
    .single (.foreign wordy[2].options rfl)
  have changes : List.Forall₂ (Relation.ReflTransGen Event.Respelled) terse wordy :=
    .cons light (.cons trunk (.cons frunk .nil))
  have same := respelled _ _ changes
  have compiled : compile terse 130 = .ok (.ofEvents 7 terse) := rfl
  have blinks : (FrameMatrix.ofEvents 7 terse).column 25 = [255, 255, 0, 0, 255, 255, 0] := by
    decide +kernel
  exact ⟨by decide, tails, changes, (samePayload _ _ tails).1, same, by decide, unknown wordy, _,
    compiled, (same.compile 130).symm.trans compiled, blinks⟩

end VehicleShow
