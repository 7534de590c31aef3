import VehicleShow.Proofs.LightChannels

/-! # Blinking

A blink takes away light and does nothing else.  `blink_only_gates` compares an event that blinks with
the same event shining steadily: while the blink is dark the light is off, and otherwise both show the
same brightness, ramps and all.  When it is dark is told by the start of the span and the speed. -/
set_option autoImplicit false
namespace VehicleShow

/-! ## The dark half -/

namespace Brightness

/-- Speeds that are not in the table blink at the slowest. -/
theorem blinkPeriodMs_of_unlisted {speed : UInt64} (unlisted : 3 ≤ speed) :
    blinkPeriodMs speed = 80 := by
  have beyond : blinkPeriodsMs.length ≤ speed.toNat := UInt64.le_iff_toNat_le.mp unlisted
  rw [blinkPeriodMs, List.getElem?_eq_none beyond, Option.getD_none]

theorem isDark_of_unlisted {speed : UInt64} (unlisted : 3 ≤ speed) (elapsedMs : UInt64) :
    isDark elapsedMs speed = isDark elapsedMs 0 := by
  rw [isDark, isDark, blinkPeriodMs_of_unlisted unlisted]
  rfl

theorem blinkPeriodMs_mem (speed : UInt64) : blinkPeriodMs speed ∈ blinkPeriodsMs := by
  by_cases listed : speed.toNat < blinkPeriodsMs.length
  · rw [blinkPeriodMs, List.getElem?_eq_getElem listed]
    exact List.getElem_mem listed
  · rw [blinkPeriodMs, List.getElem?_eq_none (Nat.le_of_not_lt listed)]
    decide

/-- A blink starts lit. -/
theorem isDark_zero (speed : UInt64) : isDark 0 speed = false := by
  have listed := blinkPeriodMs_mem speed
  simp only [blinkPeriodsMs, List.mem_cons, List.not_mem_nil, or_false] at listed
  rw [isDark]
  rcases listed with same | same | same
  all_goals
    rw [same]
    decide +kernel

def isGated (startMs speed : UInt64) (frame : Nat) : Bool :=
  startMs ≤ frameTimeMs frame && isDark (frameTimeMs frame - startMs) speed

end Brightness

/-! ## One event, blinking and steady -/

namespace Event

def blinkSpeed (event : Event) : UInt64 := event.options.lightSetting.blinkSpeed

section Light
variable {event : Event} {part : Part} (own : event.part? = some part)
  (light : part.isClosure = false)
include own light

theorem brightness_withEffect_blink (timeMs : UInt64) :
    (event.withEffect .blink).brightness timeMs =
      if event.isActiveAt timeMs ∧ Brightness.isDark (timeMs - event.startMs) event.blinkSpeed then
        0.0
      else (event.withEffect .solid).brightness timeMs := by
  have ownAfter (effect : Effect) : (event.withEffect effect).part? = some part := own
  have sameSpan (effect : Effect) :
      (event.withEffect effect).isActiveAt timeMs = event.isActiveAt timeMs := rfl
  rw [brightness_of_light (ownAfter .blink) light, brightness_of_light (ownAfter .solid) light,
    brightnessUnder, brightnessUnder, LightSetting.brightness_of_blink rfl,
    LightSetting.brightness_of_solid rfl, sameSpan, sameSpan]
  by_cases active : event.isActiveAt timeMs = true
  · simp only [active, if_true, true_and]
    rfl
  · simp only [active, false_and, if_false, Bool.false_eq_true]

/-- Before the start and from the end on both are dark, so the gate need not know the end. -/
theorem byteAt_withEffect_blink (frame : Nat) :
    (event.withEffect .blink).byteAt (frameTimeMs frame) =
      if Brightness.isGated event.startMs event.blinkSpeed frame then 0
      else (event.withEffect .solid).byteAt (frameTimeMs frame) := by
  rw [byteAt, brightness_withEffect_blink own light, Brightness.isGated]
  by_cases active : event.isActiveAt (frameTimeMs frame) = true
  · have begun : event.startMs ≤ frameTimeMs frame := by
      rw [isActiveAt, Bool.and_eq_true, decide_eq_true_eq] at active
      exact active.1
    simp only [active, begun, true_and, decide_true, Bool.true_and]
    split
    · exact Brightness.toByte_zero
    · rfl
  · have steadyDark : (event.withEffect .solid).byteAt (frameTimeMs frame) = 0 :=
      byteAt_of_inactive active
    rw [if_neg fun both => active both.1, steadyDark, ite_self]
    exact steadyDark

end Light
end Event

/-! ## Compiled shows -/

/-- A blink starts lit and takes away light in its dark half only.  In a show of any length it empties
the frames that `isGated` tells by the start of the span and the speed, whatever the power, the ramps,
the end of the span and the part are, and leaves the others as they would be without it. -/
theorem blink_only_gates :
    (∀ speed, Brightness.isDark 0 speed = false) ∧
      (∀ elapsedMs speed, 3 ≤ speed →
        Brightness.isDark elapsedMs speed = Brightness.isDark elapsedMs 0) ∧
      ∀ (event : Event) (part : Part), event.part? = some part → part.isClosure = false →
        (∀ timeMs, (event.withEffect .blink).brightness timeMs =
          if event.isActiveAt timeMs ∧
              Brightness.isDark (timeMs - event.startMs) event.blinkSpeed then 0.0
          else (event.withEffect .solid).brightness timeMs) ∧
        ∀ durationMs, durationMs ≠ 0 → (durationMs.toNat + 19) / 20 < UInt32.size →
          ∃ blinking steady, compile [event.withEffect .blink] durationMs = .ok blinking ∧
            compile [event.withEffect .solid] durationMs = .ok steady ∧
            blinking.frameCount = steady.frameCount ∧
            ∀ frame < steady.frameCount, ∀ channel : Channel, ∃ byte,
              steady.get? frame channel = some byte ∧
                blinking.get? frame channel =
                  some (if Brightness.isGated event.startMs event.blinkSpeed frame then 0
                    else byte) := by
  refine ⟨Brightness.isDark_zero, fun elapsedMs _ unlisted =>
    Brightness.isDark_of_unlisted unlisted elapsedMs, ?_⟩
  intro event part own light
  refine ⟨event.brightness_withEffect_blink own light, ?_⟩
  intro durationMs lasting counted
  have ownAfter (effect : Effect) : (event.withEffect effect).part? = some part := own
  obtain ⟨blinking, blinkCompiled, blinkCount, blinkShown⟩ :=
    exists_show_of_light (ownAfter .blink) light lasting counted
  obtain ⟨steady, steadyCompiled, steadyCount, steadyShown⟩ :=
    exists_show_of_light (ownAfter .solid) light lasting counted
  refine ⟨blinking, steady, blinkCompiled, steadyCompiled, blinkCount.trans steadyCount.symm, ?_⟩
  intro frame inside channel
  refine ⟨_, steadyShown frame inside channel, ?_⟩
  have sameReach : (event.withEffect .blink).reaches channel =
      (event.withEffect .solid).reaches channel := rfl
  rw [blinkShown frame (by omega) channel, sameReach, event.byteAt_withEffect_blink own light]
  by_cases reached : (event.withEffect .solid).reaches channel = true
  · rw [if_pos reached, if_pos reached]
  · rw [if_neg reached, if_neg reached, ite_self]

/-- A light that is eased in over an uneven span, at a speed that is not in the table. -/
def shimmer : Event :=
  { part := .known .blinkBackRight, startMs := 30, endMs := 431,
    options := { power := some 70, blinkSpeed := some 7, easeIn := true } }

/-- The first dark half takes frames 4 and 5, and frame 2 shows the ramp. -/
theorem blink_gates_shimmer :
    (3 : UInt64) ≤ 7 ∧ Brightness.isDark 50 7 = Brightness.isDark 50 0 ∧
      shimmer.part? = some .blinkBackRight ∧ Part.blinkBackRight.isClosure = false ∧
      ∃ blinking steady, compile [shimmer.withEffect .blink] 200 = .ok blinking ∧
        compile [shimmer.withEffect .solid] 200 = .ok steady ∧
        blinking.get? 4 23 = some 0 ∧ blinking.get? 5 23 = some 0 ∧
        ∃ byte, steady.get? 2 23 = some byte ∧ blinking.get? 2 23 = some byte := by
  have unlisted : (3 : UInt64) ≤ 7 := by decide
  have own : shimmer.part? = some .blinkBackRight := rfl
  have light : Part.blinkBackRight.isClosure = false := rfl
  obtain ⟨-, slowest, gates⟩ := blink_only_gates
  obtain ⟨blinking, steady, blinkCompiled, steadyCompiled, -, shown⟩ :=
    (gates shimmer .blinkBackRight own light).2 200 (by decide) (by decide)
  have frames : steady.frameCount = 10 := (frameCount_of_compile steadyCompiled).1
  obtain ⟨_, -, darkened⟩ := shown 4 (by omega) 23
  obtain ⟨_, -, stillDark⟩ := shown 5 (by omega) 23
  obtain ⟨byte, ramped, lit⟩ := shown 2 (by omega) 23
  have gatedFrames : Brightness.isGated 30 7 4 = true ∧ Brightness.isGated 30 7 5 = true ∧
      Brightness.isGated 30 7 2 = false := by
    decide +kernel
  have start : shimmer.startMs = 30 := rfl
  have speed : shimmer.blinkSpeed = 7 := rfl
  simp only [start, speed, gatedFrames, if_true, Bool.false_eq_true, if_false]
    at darkened stillDark lit
  exact ⟨unlisted, slowest 50 7 unlisted, own, light, blinking, steady, blinkCompiled,
    steadyCompiled, darkened, stillDark, byte, ramped, lit⟩

end VehicleShow
