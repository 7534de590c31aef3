/-! # The catalog of vehicle parts

Sixteen parts, each with a name, a category, the channels it drives and, for the closures, the
number of commands the hardware takes per show.  A document may name parts that the catalog does not
hold: such a name is kept as it stands, and whatever refers to it drives no channel. -/
set_option autoImplicit false
namespace VehicleShow

abbrev channelCount : Nat := 48

abbrev Channel : Type := Fin channelCount

inductive Part where
  | windowLeftFront
  | windowRightFront
  | windowLeftBack
  | windowRightBack
  | retroLeft
  | retroRight
  | flap
  | trunk
  | lightLeftFront
  | lightRightFront
  | lightLeftBack
  | lightRightBack
  | blinkFrontLeft
  | blinkFrontRight
  | blinkBackLeft
  | blinkBackRight
  deriving DecidableEq, Repr

inductive Category where
  | light
  | blinker
  | mirror
  | window
  | trunk
  | flap
  deriving DecidableEq, Repr

/-- What the bytes of a part's channels mean: an intensity, or one of the command bytes. -/
inductive ChannelKind where
  | brightness
  | command
  deriving DecidableEq, Repr

def Category.isClosure : Category → Bool
  | .light | .blinker => false
  | .mirror | .window | .trunk | .flap => true

namespace Part

def all : List Part :=
  [.windowLeftFront, .windowRightFront, .windowLeftBack, .windowRightBack,
   .retroLeft, .retroRight, .flap, .trunk,
   .lightLeftFront, .lightRightFront, .lightLeftBack, .lightRightBack,
   .blinkFrontLeft, .blinkFrontRight, .blinkBackLeft, .blinkBackRight]

instance : Ord Part where
  compare := compareOn fun part => all.idxOf part

def name : Part → String
  | .windowLeftFront => "window_left_front"
  | .windowRightFront => "window_right_front"
  | .windowLeftBack => "window_left_back"
  | .windowRightBack => "window_right_back"
  | .retroLeft => "retro_left"
  | .retroRight => "retro_right"
  | .flap => "flap"
  | .trunk => "trunk"
  | .lightLeftFront => "light_left_front"
  | .lightRightFront => "light_right_front"
  | .lightLeftBack => "light_left_back"
  | .lightRightBack => "light_right_back"
  | .blinkFrontLeft => "blink_front_left"
  | .blinkFrontRight => "blink_front_right"
  | .blinkBackLeft => "blink_back_left"
  | .blinkBackRight => "blink_back_right"

def ofName? (name : String) : Option Part := all.find? fun part => part.name == name

def category : Part → Category
  | .windowLeftFront | .windowRightFront | .windowLeftBack | .windowRightBack => .window
  | .retroLeft | .retroRight => .mirror
  | .flap => .flap
  | .trunk => .trunk
  | .lightLeftFront | .lightRightFront | .lightLeftBack | .lightRightBack => .light
  | .blinkFrontLeft | .blinkFrontRight | .blinkBackLeft | .blinkBackRight => .blinker

def isClosure (part : Part) : Bool := part.category.isClosure

def channelKind (part : Part) : ChannelKind :=
  if part.isClosure then .command else .brightness

/-- Channels the part drives. No channel belongs to two parts. -/
def channels : Part → List Channel
  | .windowLeftFront => [36]
  | .windowRightFront => [38]
  | .windowLeftBack => [37]
  | .windowRightBack => [39]
  | .retroLeft => [34]
  | .retroRight => [35]
  | .flap => [45]
  | .trunk => [40]
  | .lightLeftFront => [0, 2, 4, 6, 8, 10]
  | .lightRightFront => [1, 3, 5, 7, 9, 11]
  | .lightLeftBack => [25]
  | .lightRightBack => [26]
  | .blinkFrontLeft => [12]
  | .blinkFrontRight => [13]
  | .blinkBackLeft => [22]
  | .blinkBackRight => [23]

def commandChannel? (part : Part) : Option Channel :=
  if part.isClosure then part.channels.head? else none

/-- Commands the hardware takes per show, closures only. -/
def commandLimit? (part : Part) : Option UInt32 :=
  match part.category with
  | .light | .blinker => none
  | .mirror => some 20
  | .flap => some 3
  | .window | .trunk => some 6

theorem mem_all (part : Part) : part ∈ all := by cases part <;> decide

theorem ofName?_name (part : Part) : ofName? part.name = some part := by
  cases part <;> decide

end Part

/-! ## References to parts -/

inductive PartKey where
  | known (part : Part)
  | unknown (name : String)
  deriving DecidableEq, Repr

namespace PartKey

def ofName (name : String) : PartKey :=
  match Part.ofName? name with
  | some part => .known part
  | none => .unknown name

def name : PartKey → String
  | .known part => part.name
  | .unknown name => name

def part? : PartKey → Option Part
  | .known part => some part
  | .unknown _ => none

def channels (key : PartKey) : List Channel :=
  match key.part? with
  | some part => part.channels
  | none => []

theorem name_ofName (name : String) : (ofName name).name = name := by
  unfold ofName
  split
  · next part h =>
    have := List.find?_some h
    simpa [PartKey.name] using this
  · rfl

theorem ofName_name_known (part : Part) : ofName (PartKey.known part).name = .known part := by
  simp only [ofName, PartKey.name, Part.ofName?_name]

end PartKey

end VehicleShow
