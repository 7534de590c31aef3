import VehicleShow.Proofs.Blinking

/-! # Ramps at both ends

A light that is eased in rises as it falls when it is eased out.  `ramps_mirrored` says so of any two
moments that are as far from the start as from the end, and of the frames that sample them when the
span starts and ends on a frame. -/
set_option autoImplicit false
namespace VehicleShow

/-- A ramp sees the distance to its own end of the span and nothing else. -/
theorem LightSetting.level_mirrored (setting : LightSetting)
    (durationMs distanceMs untilEndMs sinceStartMs : UInt64) :
    { setting with easeIn := true, easeOut := false }.level durationMs distanceMs untilEndMs =
      { setting with easeIn := false, easeOut := true }.level durationMs sinceStartMs
        distanceMs := by
  simp only [level, Brightness.ramp, Bool.false_and, Bool.false_eq_true, if_false]

/-! ## Moments -/

/-- A moment at a distance from the start of the span, and the one at that distance from its end. -/
structure Event.Opposite (event : Event) (distanceMs earlyMs lateMs : UInt64) : Prop where
  apart : 0 < distanceMs.toNat
  early : earlyMs.toNat = event.startMs.toNat + distanceMs.toNat
  late : lateMs.toNat + distanceMs.toNat = event.endMs.toNat
  inside : earlyMs.toNat < event.endMs.toNat

namespace Event
section Opposite
variable {event : Event} {distanceMs earlyMs lateMs : UInt64}
  (opposite : event.Opposite distanceMs earlyMs lateMs)
include opposite

theorem isActiveAt_of_opposite :
    event.isActiveAt earlyMs = true ∧ event.isActiveAt lateMs = true := by
  obtain ⟨apart, early, late, inside⟩ := opposite
  simp only [isActiveAt, Bool.and_eq_true, decide_eq_true_eq, UInt64.le_iff_toNat_le,
    UInt64.lt_iff_toNat_lt]
  omega

theorem sub_of_opposite :
    earlyMs - event.startMs = distanceMs ∧ event.endMs - lateMs = distanceMs := by
  obtain ⟨apart, early, late, inside⟩ := opposite
  have begun : event.startMs ≤ earlyMs := UInt64.le_iff_toNat_le.mpr (by omega)
  have unfinished : lateMs ≤ event.endMs := UInt64.le_iff_toNat_le.mpr (by omega)
  rw [← UInt64.toNat_inj, ← UInt64.toNat_inj, UInt64.toNat_sub_of_le _ _ begun,
    UInt64.toNat_sub_of_le _ _ unfinished]
  omega

end Opposite

section Light
variable {event : Event} {part : Part} (own : event.part? = some part)
  (light : part.isClosure = false) (solid : event.options.lightSetting.effect = .solid)
include own light solid

theorem brightness_of_solid {timeMs : UInt64} (active : event.isActiveAt timeMs = true) :
    event.brightness timeMs = event.options.lightSetting.level event.durationMs
      (timeMs - event.startMs) (event.endMs - timeMs) := by
  rw [brightness_of_light own light, brightnessUnder, if_pos active,
    LightSetting.brightness_of_solid solid]

theorem brightness_of_opposite {distanceMs earlyMs lateMs : UInt64}
    (opposite : event.Opposite distanceMs earlyMs lateMs) :
    (event.withEase true false).brightness earlyMs =
      (event.withEase false true).brightness lateMs := by
  have ownAfter (easeIn easeOut : Bool) : (event.withEase easeIn easeOut).part? = some part := own
  obtain ⟨earlyActive, lateActive⟩ := isActiveAt_of_opposite opposite
  obtain ⟨fromStart, toEnd⟩ := sub_of_opposite opposite
  calc (event.withEase true false).brightness earlyMs
    _ = (event.withEase true false).options.lightSetting.level event.durationMs
          (earlyMs - event.startMs) (event.endMs - earlyMs) :=
      brightness_of_solid (ownAfter true false) light solid earlyActive
    _ = (event.withEase true false).options.lightSetting.level event.durationMs
          distanceMs (event.endMs - earlyMs) := by rw [fromStart]
    _ = (event.withEase false true).options.lightSetting.level event.durationMs
          (lateMs - event.startMs) distanceMs :=
      event.options.lightSetting.level_mirrored _ _ _ _
    _ = (event.withEase false true).options.lightSetting.level event.durationMs
          (lateMs - event.startMs) (event.endMs - lateMs) := by rw [toEnd]
    _ = (event.withEase false true).brightness lateMs :=
      (brightness_of_solid (ownAfter false true) light solid lateActive).symm

end Light

/-! ## Frames -/

theorem opposite_of_distance {event : Event} {distanceMs : UInt64} (apart : 0 < distanceMs)
    (inside : event.startMs.toNat + distanceMs.toNat < event.endMs.toNat) :
    event.Opposite distanceMs (event.startMs + distanceMs) (event.endMs - distanceMs) := by
  have representable := event.endMs.toNat_lt
  have early : (event.startMs + distanceMs).toNat = event.startMs.toNat + distanceMs.toNat := by
    rw [UInt64.toNat_add, Nat.mod_eq_of_lt (by omega)]
  have late : (event.endMs - distanceMs).toNat = event.endMs.toNat - distanceMs.toNat :=
    UInt64.toNat_sub_of_le _ _ (UInt64.le_iff_toNat_le.mpr (by omega))
  have apart := UInt64.lt_iff_toNat_lt.mp apart
  rw [UInt64.toNat_zero] at apart
  constructor <;> omega

/-- Of a span that starts and ends on a frame, frames as far from the start as from the end sample
opposite moments. -/
theorem opposite_of_frame {event : Event} {j : Nat} (startsOnFrame : 20 ∣ event.startMs.toNat)
    (endsOnFrame : 20 ∣ event.endMs.toNat) (apart : 0 < j)
    (inside : j < (event.endMs.toNat - event.startMs.toNat) / 20)
    (counted : event.endMs.toNat / 20 < UInt32.size) :
    event.Opposite (frameTimeMs j) (frameTimeMs (event.startMs.toNat / 20 + j))
      (frameTimeMs (event.endMs.toNat / 20 - j)) := by
  have distance : (frameTimeMs j).toNat = 20 * j := toNat_frameTimeMs (by omega)
  have early : (frameTimeMs (event.startMs.toNat / 20 + j)).toNat =
      20 * (event.startMs.toNat / 20 + j) := toNat_frameTimeMs (by omega)
  have late : (frameTimeMs (event.endMs.toNat / 20 - j)).toNat =
      20 * (event.endMs.toNat / 20 - j) := toNat_frameTimeMs (by omega)
  constructor <;> omega

end Event

/-- The ramp at the start of a steady light is the mirror image of the one at its end, at every moment
strictly inside the span and in every frame of a show that covers a span of whole frames. -/
theorem ramps_mirrored {event : Event} {part : Part} (own : event.part? = some part)
    (light : part.isClosure = false) (solid : event.options.lightSetting.effect = .solid) :
    (∀ distanceMs : UInt64, 0 < distanceMs →
      event.startMs.toNat + distanceMs.toNat < event.endMs.toNat →
        (event.startMs + distanceMs).toNat = event.startMs.toNat + distanceMs.toNat ∧
        (event.endMs - distanceMs).toNat = event.endMs.toNat - distanceMs.toNat ∧
        (event.withEase true false).brightness (event.startMs + distanceMs) =
          (event.withEase false true).brightness (event.endMs - distanceMs)) ∧
      ∀ durationMs : UInt64, durationMs ≠ 0 → (durationMs.toNat + 19) / 20 < UInt32.size →
        20 ∣ event.startMs.toNat → 20 ∣ event.endMs.toNat →
        event.endMs.toNat ≤ 20 * ((durationMs.toNat + 19) / 20) →
        ∃ rising falling, compile [event.withEase true false] durationMs = .ok rising ∧
          compile [event.withEase false true] durationMs = .ok falling ∧
          ∀ j, 0 < j → j < (event.endMs.toNat - event.startMs.toNat) / 20 →
            ∀ channel : Channel, ∃ byte,
              rising.get? (event.startMs.toNat / 20 + j) channel = some byte ∧
                falling.get? (event.endMs.toNat / 20 - j) channel = some byte := by
  refine ⟨?_, ?_⟩
  · intro distanceMs apart inside
    have opposite := Event.opposite_of_distance apart inside
    have late := opposite.late
    exact ⟨opposite.early, by omega, event.brightness_of_opposite own light solid opposite⟩
  · intro durationMs lasting counted startsOnFrame endsOnFrame covered
    have ownAfter (easeIn easeOut : Bool) : (event.withEase easeIn easeOut).part? = some part := own
    obtain ⟨rising, risingCompiled, risingCount, risingShown⟩ :=
      exists_show_of_light (ownAfter true false) light lasting counted
    obtain ⟨falling, fallingCompiled, fallingCount, fallingShown⟩ :=
      exists_show_of_light (ownAfter false true) light lasting counted
    refine ⟨rising, falling, risingCompiled, fallingCompiled, ?_⟩
    intro j apart inside channel
    have opposite :=
      Event.opposite_of_frame startsOnFrame endsOnFrame apart inside (by omega)
    have sameByte :
        (event.withEase true false).byteAt (frameTimeMs (event.startMs.toNat / 20 + j)) =
          (event.withEase false true).byteAt (frameTimeMs (event.endMs.toNat / 20 - j)) :=
      congrArg Brightness.toByte (event.brightness_of_opposite own light solid opposite)
    have sameReach : (event.withEase true false).reaches channel =
        (event.withEase false true).reaches channel := rfl
    refine ⟨_, risingShown _ (by omega) channel, ?_⟩
    rw [fallingShown _ (by omega) channel, sameByte, sameReach]

/-- A light of 400 ms, with ramps of 120. -/
def swell : Event :=
  { part := .known .blinkBackRight, startMs := 40, endMs := 440, options := { power := some 70 } }

/-- Half of the ramp is half of the light: 89 where it is 179 without ramps. -/
theorem ramps_mirrored_in_swell :
    (swell.withEase true false).brightness 103 = (swell.withEase false true).brightness 377 ∧
      ∃ rising falling, compile [swell.withEase true false] 430 = .ok rising ∧
        compile [swell.withEase false true] 430 = .ok falling ∧
        rising.get? 5 23 = some 89 ∧ falling.get? 19 23 = some 89 ∧
        rising.get? 19 23 = some 179 ∧ falling.get? 5 23 = some 179 := by
  have own : swell.part? = some .blinkBackRight := rfl
  have light : Part.blinkBackRight.isClosure = false := rfl
  have solid : swell.options.lightSetting.effect = .solid := rfl
  obtain ⟨moments, frames⟩ := ramps_mirrored own light solid
  obtain ⟨-, -, sameBrightness⟩ := moments 63 (by decide) (by decide)
  obtain ⟨rising, falling, risingCompiled, fallingCompiled, mirrored⟩ :=
    frames 430 (by decide) (by decide) (by decide) (by decide) (by decide)
  obtain ⟨byte, risen, fallen⟩ := mirrored 3 (by decide) (by decide) 23
  obtain rfl : .ofEvents 22 [swell.withEase true false] = rising := Except.ok.inj risingCompiled
  obtain rfl : .ofEvents 22 [swell.withEase false true] = falling := Except.ok.inj fallingCompiled
  have half : cell [swell.withEase true false] 5 23 = 89 := by decide +kernel
  have full : cell [swell.withEase true false] 19 23 = 179 := by decide +kernel
  have early : cell [swell.withEase false true] 5 23 = 179 := by decide +kernel
  have risenHalf := FrameMatrix.get?_ofEvents (by decide : 5 < 22) (by decide) half
  obtain rfl : byte = 89 := Option.some.inj (risen.symm.trans risenHalf)
  have risenFull := FrameMatrix.get?_ofEvents (by decide : 19 < 22) (by decide) full
  have fallingFull := FrameMatrix.get?_ofEvents (by decide : 5 < 22) (by decide) early
  exact ⟨sameBrightness, _, _, risingCompiled, fallingCompiled, risen, fallen, risenFull,
    fallingFull⟩

end VehicleShow
