import VehicleShow.Brightness
import VehicleShow.Directive
import VehicleShow.Fault

/-! # Frame matrices

One byte for each channel of each frame, row after row.  `value` is the view through which every
write is described: `value_update` says that a write changes the one place it names.  The transitions
of a channel are its changes of value, from an implied zero before the first frame.

Compiling fills a matrix with events.  Lights are sampled at every frame they cover, and where two of
them meet on a channel the brighter one shows.  Directives overwrite what was there, in the order of
the events, so the later of two wins.  Events on unknown parts are passed over. -/
set_option autoImplicit false
namespace VehicleShow

/-- Time from one frame to the next. -/
def stepMs : UInt64 := 20

def frameCountFor (durationMs : UInt64) : Nat :=
  (durationMs.toNat + (stepMs.toNat - 1)) / stepMs.toNat

def frameTimeMs (frame : Nat) : UInt64 := UInt64.ofNat frame * stepMs

def frameTimeMs? (frame : Nat) : Option UInt64 :=
  if frame * stepMs.toNat < UInt64.size then some (frameTimeMs frame) else none

/-- The frames of a show are counted in 32 bits, so all of them have a time. -/
theorem frameTimeMs?_eq_some {frame : Nat} (h : frame < UInt32.size) :
    frameTimeMs? frame = some (frameTimeMs frame) := by
  have step : stepMs.toNat = 20 := rfl
  have bound : UInt64.size = UInt32.size * UInt32.size := rfl
  have large : 20 < UInt32.size := by decide
  rw [frameTimeMs?, if_pos]
  rw [step, bound]
  exact Nat.mul_lt_mul'' h large

structure FrameMatrix where
  frameCount : Nat
  data : Array UInt8
  size_data : data.size = frameCount * channelCount
  deriving DecidableEq

namespace FrameMatrix

def blank (frameCount : Nat) : FrameMatrix where
  frameCount := frameCount
  data := Array.replicate (frameCount * channelCount) 0
  size_data := by simp

def place (frame channel : Nat) : Nat := frame * channelCount + channel

def get? (matrix : FrameMatrix) (frame channel : Nat) : Option UInt8 :=
  matrix.data[place frame channel]?

def value (matrix : FrameMatrix) (frame : Nat) (channel : Channel) : UInt8 :=
  (matrix.get? frame channel).getD 0

def column (matrix : FrameMatrix) (channel : Channel) : List UInt8 :=
  (List.range matrix.frameCount).map fun frame => matrix.value frame channel

/-! ## Writing -/

def update (matrix : FrameMatrix) (frame : Nat) (channel : Channel) (change : UInt8 → UInt8) :
    FrameMatrix where
  frameCount := matrix.frameCount
  data := matrix.data.modify (place frame channel) change
  size_data := by rw [Array.size_modify, matrix.size_data]

def raise (matrix : FrameMatrix) (frame : Nat) (channel : Channel) (byte : UInt8) : FrameMatrix :=
  matrix.update frame channel fun old => if old < byte then byte else old

def put (matrix : FrameMatrix) (frame : Nat) (channel : Channel) (byte : UInt8) : FrameMatrix :=
  matrix.update frame channel fun _ => byte

/-- Writes a byte to a channel over the frames from `first` up to `last`, which is left out. -/
def fill (matrix : FrameMatrix) (channel : Channel) (first last : Nat) (byte : UInt8) :
    FrameMatrix :=
  (List.range' first (last - first)).foldl (fun m frame => m.put frame channel byte) matrix

/-! ## Views of writes -/

theorem place_injective {f g : Nat} {c d : Channel} (h : place f c = place g d) : f = g ∧ c = d := by
  have hc := c.isLt
  have hd := d.isLt
  simp only [place, channelCount] at h hc hd
  refine ⟨by omega, Fin.ext (by omega)⟩

theorem place_lt_iff (f : Nat) (c : Channel) (frames : Nat) :
    place f c < frames * channelCount ↔ f < frames := by
  have hc := c.isLt
  simp only [place, channelCount] at *
  omega

theorem place_lt_size (m : FrameMatrix) (f : Nat) (c : Channel) :
    place f c < m.data.size ↔ f < m.frameCount := by
  rw [m.size_data, place_lt_iff]

@[simp] theorem frameCount_update (m : FrameMatrix) (f : Nat) (c : Channel)
    (change : UInt8 → UInt8) : (m.update f c change).frameCount = m.frameCount := rfl

theorem value_update (m : FrameMatrix) (f g : Nat) (c d : Channel) (change : UInt8 → UInt8) :
    (m.update f c change).value g d =
      if f = g ∧ c = d ∧ f < m.frameCount then change (m.value g d) else m.value g d := by
  simp only [value, get?, update, Array.getElem?_modify]
  by_cases same : place f c = place g d
  · obtain ⟨hf, hc⟩ := place_injective same
    subst hf hc
    by_cases inside : f < m.frameCount
    · have := (place_lt_size m f c).mpr inside
      simp [inside, this]
    · have := mt (place_lt_size m f c).mp inside
      simp [inside, Array.getElem?_eq_none (Nat.le_of_not_lt this)]
  · have other : ¬ (f = g ∧ c = d ∧ f < m.frameCount) := by
      rintro ⟨rfl, rfl, _⟩
      exact same rfl
    simp [same, other]

@[simp] theorem frameCount_blank (n : Nat) : (blank n).frameCount = n := rfl

@[simp] theorem value_blank (n f : Nat) (c : Channel) : (blank n).value f c = 0 := by
  simp only [value, get?, blank, Array.getElem?_replicate]
  split <;> rfl

/-! ## Channels without an owner -/

def isActive (matrix : FrameMatrix) (channel : Channel) : Bool :=
  (matrix.column channel).any fun byte => byte != 0

def activeOutside (matrix : FrameMatrix) (expected : List Channel) : List Channel :=
  (List.finRange channelCount).filter fun channel =>
    !expected.contains channel && matrix.isActive channel

def unmappedChannels (matrix : FrameMatrix) : List Channel :=
  matrix.activeOutside (Part.all.flatMap Part.channels)

end FrameMatrix

/-! ## Transitions -/

structure Transition where
  frame : Nat
  timeMs : UInt64
  before : UInt8
  after : UInt8
  deriving DecidableEq, Repr

namespace Transition

/-- Changes along a run of values whose first one belongs to `frame`. -/
def along (previous : UInt8) (frame : Nat) : List UInt8 → List Transition
  | [] => []
  | byte :: rest =>
      if byte = previous then along previous (frame + 1) rest
      else ⟨frame, frameTimeMs frame, previous, byte⟩ :: along byte (frame + 1) rest

end Transition

def FrameMatrix.transitions (matrix : FrameMatrix) (channel : Channel) : List Transition :=
  Transition.along 0 0 (matrix.column channel)

/-! ## Compiling -/

/-- First frame that is sampled at a time or later. -/
def frameFrom (timeMs : UInt64) : Nat := (timeMs.toNat + (stepMs.toNat - 1)) / stepMs.toNat

/-- Frame that is on show at a time. -/
def frameAt (timeMs : UInt64) : Nat := timeMs.toNat / stepMs.toNat

/-- Frame counts are stored in four bytes. -/
def maxFrameCount : Nat := UInt32.size - 1

namespace FrameMatrix

def raiseAll (matrix : FrameMatrix) (frame : Nat) (channels : List Channel) (byte : UInt8) :
    FrameMatrix :=
  channels.foldl (fun m channel => m.raise frame channel byte) matrix

def sampleLight (event : Event) (setting : LightSetting) (matrix : FrameMatrix) (frame : Nat) :
    FrameMatrix :=
  let byte := Brightness.toByte (event.brightnessUnder setting (frameTimeMs frame))
  if byte = 0 then matrix else matrix.raiseAll frame event.part.channels byte

/-- Samples a light event in the frames that lie in its span; other events leave no trace. -/
def writeLight (matrix : FrameMatrix) (event : Event) : FrameMatrix :=
  match event.lightSetting? with
  | none => matrix
  | some setting =>
      let first := frameFrom event.startMs
      let last := min (frameFrom event.endMs) matrix.frameCount
      (List.range' first (last - first)).foldl (sampleLight event setting) matrix

/-- Writes a command from the frame on show at the start of the span to the one before the frame on
show at its end. -/
def writeDirective (matrix : FrameMatrix) (directive : Directive) : FrameMatrix :=
  matrix.fill directive.channel (frameAt directive.startMs)
    (min (frameAt directive.endMs) matrix.frameCount) directive.command.byte

def ofEvents (frameCount : Nat) (events : List Event) : FrameMatrix :=
  (events.flatMap Event.directives).foldl writeDirective
    (events.foldl writeLight (blank frameCount))

def strayChannels (matrix : FrameMatrix) (events : List Event) : List Channel :=
  matrix.activeOutside (events.flatMap fun event => event.part.channels)

end FrameMatrix

def compile (events : List Event) (durationMs : UInt64) : Except Fault FrameMatrix :=
  if durationMs = 0 then .error (.invalidDuration durationMs)
  else if maxFrameCount < frameCountFor durationMs then
    .error (.durationTooLong durationMs (frameCountFor durationMs))
  else .ok (.ofEvents (frameCountFor durationMs) events)

end VehicleShow
