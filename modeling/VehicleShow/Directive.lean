import VehicleShow.Event.Basic

/-! # Commands for mechanical parts

A closure event comes down to directives: each writes one command byte to the part's channel over a
span of time.  Outside every directive a channel stays idle, so none ever commands a part to rest. -/
set_option autoImplicit false
namespace VehicleShow

/-- Commands that a closure channel takes. No mode gives `stop`. -/
inductive Command where
  | idle
  | opening
  | dance
  | closing
  | stop
  deriving DecidableEq, Repr

namespace Command

def all : List Command := [.idle, .opening, .dance, .closing, .stop]

def byte : Command → UInt8
  | .idle => 0
  | .opening => 64
  | .dance => 128
  | .closing => 192
  | .stop => 255

def ofByte? (byte : UInt8) : Option Command := all.find? fun command => command.byte == byte

def name : Command → String
  | .idle => "IDLE"
  | .opening => "OPEN"
  | .dance => "DANCE"
  | .closing => "CLOSE"
  | .stop => "STOP"

theorem ofByte?_byte (command : Command) : ofByte? command.byte = some command := by
  cases command <;> decide

end Command

/-- Write a command to a channel over a span of time that holds its start and not its end. -/
structure Directive where
  channel : Channel
  startMs : UInt64
  endMs : UInt64
  command : Command
  deriving DecidableEq, Repr

namespace Event

/-- Where a mirror that folds in turns back: halfway, rounded down. -/
def midpointMs (event : Event) : UInt64 := event.startMs + event.durationMs / 2

def directives (event : Event) : List Directive :=
  match event.part.channels with
  | [] => []
  | channel :: _ =>
      let whole (command : Command) : List Directive :=
        [⟨channel, event.startMs, event.endMs, command⟩]
      match event.payload? with
      | some (.mirror .opening) => whole .opening
      | some (.mirror .closing) => whole .closing
      | some (.mirror .roundTrip) =>
          [⟨channel, event.startMs, event.midpointMs, .closing⟩,
           ⟨channel, event.midpointMs, event.endMs, .opening⟩]
      | some (.window .dance) => whole .dance
      | some (.trunk .opening) => whole .opening
      | some (.trunk .closing) => whole .closing
      | some (.trunk .dance) => whole .dance
      | some (.flap .opening) => whole .opening
      | some (.flap .closing) => whole .closing
      | some (.flap .rainbow) => whole .dance
      | some (.light _) | none => []

end Event
end VehicleShow
