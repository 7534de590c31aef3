import VehicleShow.Part.Basic

/-! # Timeline events

An event places one action on one part over a span of show time.  Its options stand side by side,
whatever the part; `payload?` is the view that only the part's own options reach. -/
set_option autoImplicit false
namespace VehicleShow

/-! ## Modes -/

inductive Effect where
  | solid
  | blink
  deriving DecidableEq, Repr

inductive MirrorMode where
  | opening
  | closing
  | roundTrip
  deriving DecidableEq, Repr

inductive WindowMode where
  | dance
  deriving DecidableEq, Repr

inductive TrunkMode where
  | opening
  | closing
  | dance
  deriving DecidableEq, Repr

/-- The rainbow drives the LED ring around the charge socket. -/
inductive FlapMode where
  | opening
  | closing
  | rainbow
  deriving DecidableEq, Repr

def Effect.all : List Effect := [.solid, .blink]
def MirrorMode.all : List MirrorMode := [.opening, .closing, .roundTrip]
def WindowMode.all : List WindowMode := [.dance]
def TrunkMode.all : List TrunkMode := [.opening, .closing, .dance]
def FlapMode.all : List FlapMode := [.opening, .closing, .rainbow]

def Effect.name : Effect → String
  | .solid => "solid"
  | .blink => "blink"

def MirrorMode.name : MirrorMode → String
  | .opening => "open"
  | .closing => "close"
  | .roundTrip => "roundtrip"

def WindowMode.name : WindowMode → String
  | .dance => "window_dance"

def TrunkMode.name : TrunkMode → String
  | .opening => "trunk_open"
  | .closing => "trunk_close"
  | .dance => "trunk_dance"

def FlapMode.name : FlapMode → String
  | .opening => "flap_open"
  | .closing => "flap_close"
  | .rainbow => "flap_rainbow"

def Effect.ofName? (name : String) : Option Effect := all.find? (·.name == name)
def MirrorMode.ofName? (name : String) : Option MirrorMode := all.find? (·.name == name)
def WindowMode.ofName? (name : String) : Option WindowMode := all.find? (·.name == name)
def TrunkMode.ofName? (name : String) : Option TrunkMode := all.find? (·.name == name)
def FlapMode.ofName? (name : String) : Option FlapMode := all.find? (·.name == name)

theorem Effect.ofName?_name (mode : Effect) : ofName? mode.name = some mode := by
  cases mode <;> decide

theorem MirrorMode.ofName?_name (mode : MirrorMode) : ofName? mode.name = some mode := by
  cases mode <;> decide

theorem WindowMode.ofName?_name (mode : WindowMode) : ofName? mode.name = some mode := by
  cases mode; decide

theorem TrunkMode.ofName?_name (mode : TrunkMode) : ofName? mode.name = some mode := by
  cases mode <;> decide

theorem FlapMode.ofName?_name (mode : FlapMode) : ofName? mode.name = some mode := by
  cases mode <;> decide

/-! ## Events -/

/-- Options as a document gives them. Which ones apply depends on the part. -/
structure EventOptions where
  effect : Option Effect := none
  power : Option UInt32 := none
  blinkSpeed : Option UInt64 := none
  easeIn : Bool := false
  easeOut : Bool := false
  mirrorMode : Option MirrorMode := none
  windowMode : Option WindowMode := none
  trunkMode : Option TrunkMode := none
  flapMode : Option FlapMode := none
  deriving DecidableEq, Repr

structure Event where
  part : PartKey
  startMs : UInt64
  endMs : UInt64
  options : EventOptions := {}
  deriving DecidableEq, Repr

/-! ## Payloads -/

def defaultPower : UInt32 := 100
def defaultLightDurationMs : UInt64 := 500
def defaultWindowDurationMs : UInt64 := 5000

/-- Options of a light or blinker with the defaults filled in. Power is a percentage. -/
structure LightSetting where
  effect : Effect
  power : UInt32
  blinkSpeed : UInt64
  easeIn : Bool
  easeOut : Bool
  deriving DecidableEq, Repr

inductive Payload where
  | light (setting : LightSetting)
  | mirror (mode : MirrorMode)
  | window (mode : WindowMode)
  | trunk (mode : TrunkMode)
  | flap (mode : FlapMode)
  deriving DecidableEq, Repr

def Payload.defaultDurationMs : Payload → UInt64
  | .light _ => defaultLightDurationMs
  | .mirror .opening | .mirror .closing => 2000
  | .mirror .roundTrip => 4000
  | .window .dance => defaultWindowDurationMs
  | .trunk .opening | .trunk .closing => 13000
  | .trunk .dance => 5000
  | .flap .opening | .flap .closing => 2000
  | .flap .rainbow => 5000

def EventOptions.lightSetting (options : EventOptions) : LightSetting where
  effect := options.effect.getD .solid
  power := options.power.getD defaultPower
  blinkSpeed := options.blinkSpeed.getD 0
  easeIn := options.easeIn
  easeOut := options.easeOut

def EventOptions.payload (options : EventOptions) : Category → Payload
  | .light | .blinker => .light options.lightSetting
  | .mirror => .mirror (options.mirrorMode.getD .roundTrip)
  | .window => .window (options.windowMode.getD .dance)
  | .trunk => .trunk (options.trunkMode.getD .opening)
  | .flap => .flap (options.flapMode.getD .opening)

namespace Event

def part? (event : Event) : Option Part := event.part.part?

/-- Length of the span; a span that ends before it starts has none. -/
def durationMs (event : Event) : UInt64 :=
  if event.startMs ≤ event.endMs then event.endMs - event.startMs else 0

def isActiveAt (event : Event) (timeMs : UInt64) : Bool :=
  event.startMs ≤ timeMs && timeMs < event.endMs

def payload? (event : Event) : Option Payload :=
  event.part?.map fun part => event.options.payload part.category

def lightSetting? (event : Event) : Option LightSetting :=
  match event.payload? with
  | some (.light setting) => some setting
  | _ => none

/-! ## Setting options -/

def withEffect (event : Event) (effect : Effect) : Event :=
  { event with options := { event.options with effect := some effect } }

def withPower (event : Event) (power : UInt32) : Event :=
  { event with options := { event.options with power := some power } }

def withBlinkSpeed (event : Event) (speed : UInt64) : Event :=
  { event with options := { event.options with blinkSpeed := some speed } }

def withEase (event : Event) (easeIn easeOut : Bool) : Event :=
  { event with options := { event.options with easeIn := easeIn, easeOut := easeOut } }

def withMirrorMode (event : Event) (mode : MirrorMode) : Event :=
  { event with options := { event.options with mirrorMode := some mode } }

def withTrunkMode (event : Event) (mode : TrunkMode) : Event :=
  { event with options := { event.options with trunkMode := some mode } }

def withFlapMode (event : Event) (mode : FlapMode) : Event :=
  { event with options := { event.options with flapMode := some mode } }

end Event
end VehicleShow
