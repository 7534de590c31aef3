import VehicleShow.Binary64
import VehicleShow.Event.Basic

/-! # Brightness of a light event

The brightness of a light or blinker at a point of show time is a double between 0 and 1, nominally:
its power, scaled down by a ramp near either end of the span, and cut to nothing in the dark half of
a blink.  It depends on the time only through the distances to the two ends.  `toByte` gives the
channel value. -/
set_option autoImplicit false
namespace VehicleShow

namespace Brightness

def easeCapMs : Float := 300.0

def easeFraction : Float := 0.3

/-- A full on and off cycle for each blink speed. -/
def blinkPeriodsMs : List UInt32 := [80, 50, 30]

/-- A speed that is not in the table blinks at the slowest. -/
def blinkPeriodMs (speed : UInt64) : UInt32 := blinkPeriodsMs[speed.toNat]?.getD 80

def easeDurationMs (durationMs : UInt64) : Float :=
  let share := durationMs.toFloat * easeFraction
  if share < easeCapMs then share else easeCapMs

/-- A value scaled by the distance to an end of the span, as far as the ramp goes. -/
def ramp (enabled : Bool) (distance ease value : Float) : Float :=
  if enabled && distance < ease then value * (distance / ease) else value

/-- Whether a blinking light is off, this long after the start of its span: every half period the
light changes, and it starts lit. -/
def isDark (elapsedMs : UInt64) (speed : UInt64) : Bool :=
  let halfPeriod := (blinkPeriodMs speed).toFloat / 2.0
  Binary64.floorNat (elapsedMs.toFloat / halfPeriod) % 2 == 1

/-- Channel value of a brightness: the nearest byte, a half going up. -/
def toByte (brightness : Float) : UInt8 :=
  match Binary64.decode (brightness * 255.0) with
  | .finite false mantissa exponent =>
      UInt8.ofNat (min 255 (Binary64.roundHalfUp mantissa exponent))
  | .infinite false => 255
  | _ => 0

theorem toByte_zero : toByte 0.0 = 0 := by
  have zero : Binary64.decode (0.0 * 255.0) = .finite false 0 (-1074) := by decide
  simp only [toByte, zero, Binary64.roundHalfUp_zero]
  rfl

end Brightness

namespace LightSetting

/-- Brightness with both ramps and without blinking. -/
def level (setting : LightSetting) (durationMs elapsedMs remainingMs : UInt64) : Float :=
  let full := setting.power.toFloat / 100.0
  let ease := Brightness.easeDurationMs durationMs
  if 0.0 < ease then
    Brightness.ramp setting.easeOut remainingMs.toFloat ease
      (Brightness.ramp setting.easeIn elapsedMs.toFloat ease full)
  else full

def brightness (setting : LightSetting) (durationMs elapsedMs remainingMs : UInt64) : Float :=
  if setting.effect = .blink ∧ Brightness.isDark elapsedMs setting.blinkSpeed then 0.0
  else setting.level durationMs elapsedMs remainingMs

section Effects
variable {setting : LightSetting} {durationMs elapsedMs remainingMs : UInt64}

theorem brightness_of_solid (solid : setting.effect = .solid) :
    setting.brightness durationMs elapsedMs remainingMs =
      setting.level durationMs elapsedMs remainingMs := by
  simp [brightness, solid]

theorem brightness_of_blink (blinks : setting.effect = .blink) :
    setting.brightness durationMs elapsedMs remainingMs =
      if Brightness.isDark elapsedMs setting.blinkSpeed then 0.0
      else setting.level durationMs elapsedMs remainingMs := by
  simp [brightness, blinks]

end Effects
end LightSetting

namespace Event

def brightnessUnder (event : Event) (setting : LightSetting) (timeMs : UInt64) : Float :=
  if event.isActiveAt timeMs then
    setting.brightness event.durationMs (timeMs - event.startMs) (event.endMs - timeMs)
  else 0.0

/-- Brightness at a point of show time: zero outside the span and for parts without brightness. -/
def brightness (event : Event) (timeMs : UInt64) : Float :=
  match event.lightSetting? with
  | some setting => event.brightnessUnder setting timeMs
  | none => 0.0

end Event
end VehicleShow
