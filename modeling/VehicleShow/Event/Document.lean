import VehicleShow.Event.Basic
import VehicleShow.Fault
import VehicleShow.Json.Printer
import VehicleShow.Json.Reader

/-! # Parts and events in documents

A part is asked for by its name, which has to be in the catalog, or read from a JSON text of its own.
An event is an object with a flat list of members.  `part`, `startMs` and `endMs` are checked as
soon as they are met; everything else waits until the object has been read to its end, when the
options are picked out and foreign members dropped. -/
set_option autoImplicit false
namespace VehicleShow

/-! ## Parts -/

namespace Part

def ofName (name : String) : Except Fault Part :=
  match ofName? name with
  | some part => .ok part
  | none => .error (.unknownPart name)

def nameFault (name : String) : Except Json.Fault Part :=
  match ofName? name with
  | some part => .ok part
  | none => .error .mismatch

/-- A part that is a text of its own: its name in quotes, or an object whose one member has that
name and holds null. Nothing else is taken, not even as a value of the wrong type. -/
def reader : Json.Reader Part
  | .str (some name) :: rest => do
      let part ← nameFault name
      .ok (part, rest)
  | .opening .curly :: tokens => do
      let (name, tokens) ← Json.Reader.key tokens
      let part ← nameFault name
      let ((), tokens) ← Json.Reader.colon tokens
      match tokens with
      | .null :: .closing .curly :: rest => .ok (part, rest)
      | .null :: rest => .error (Json.punctuationFault rest)
      | tokens => .error (Json.typeFault tokens)
  | .broken true fault _ :: _ => .error fault
  | tokens => .error (Json.punctuationFault tokens)

def ofText (text : String) : Except Json.Fault Part :=
  Json.Reader.complete reader (Json.lex text.toList)

end Part

def PartKey.ofText (text : String) : Except Json.Fault PartKey :=
  (Json.Reader.complete Json.Reader.string (Json.lex text.toList)).map PartKey.ofName

/-! ## Options -/

namespace EventOptions

def flag : Option Json → Except Json.Fault Bool
  | none => .ok false
  | some json => json.asBool

/-- Every option is checked, whether it applies to the part or not. -/
def ofMembers (members : List (String × Json)) : Except Json.Fault EventOptions := do
  let option (key : String) := Json.unique? key members
  let effect ← Json.optional (Json.asChoice Effect.ofName?) (← option "effect")
  let power ← Json.optional Json.asUInt32 (← option "power")
  let blinkSpeed ← Json.optional Json.asUInt64 (← option "blinkSpeed")
  let easeIn ← flag (← option "easeIn")
  let easeOut ← flag (← option "easeOut")
  let mirrorMode ← Json.optional (Json.asChoice MirrorMode.ofName?) (← option "retroMode")
  let windowMode ← Json.optional (Json.asChoice WindowMode.ofName?) (← option "windowMode")
  let trunkMode ← Json.optional (Json.asChoice TrunkMode.ofName?) (← option "trunkMode")
  let flapMode ← Json.optional (Json.asChoice FlapMode.ofName?) (← option "flapMode")
  .ok { effect, power, blinkSpeed, easeIn, easeOut, mirrorMode, windowMode, trunkMode, flapMode }

def toMembers (options : EventOptions) : List (String × Json) :=
  let present {α : Type} (key : String) (write : α → Json) (value : Option α) :=
    (value.map fun value => (key, write value)).toList
  let set (key : String) (value : Bool) := if value then [(key, Json.bool true)] else []
  present "effect" (fun mode => .str mode.name) options.effect
    ++ present "power" (fun power => Json.natural power.toUInt64) options.power
    ++ present "blinkSpeed" Json.natural options.blinkSpeed
    ++ set "easeIn" options.easeIn
    ++ set "easeOut" options.easeOut
    ++ present "retroMode" (fun mode => .str mode.name) options.mirrorMode
    ++ present "windowMode" (fun mode => .str mode.name) options.windowMode
    ++ present "trunkMode" (fun mode => .str mode.name) options.trunkMode
    ++ present "flapMode" (fun mode => .str mode.name) options.flapMode

end EventOptions

/-! ## Events from members -/

/-- The members of an event met so far. The other members are kept last first. -/
structure EventDraft where
  part : Option PartKey := none
  startMs : Option UInt64 := none
  endMs : Option UInt64 := none
  others : List (String × Json) := []

namespace EventDraft

def required {α : Type} : Option α → Except Json.Fault α
  | some value => .ok value
  | none => .error .mismatch

def finish (draft : EventDraft) : Except Json.Fault Event := do
  let part ← required draft.part
  let startMs ← required draft.startMs
  let endMs ← required draft.endMs
  let options ← EventOptions.ofMembers draft.others.reverse
  .ok { part, startMs, endMs, options }

def unset {α : Type} : Option α → Except Json.Fault Unit
  | some _ => .error .mismatch
  | none => .ok ()

def add (draft : EventDraft) (key : String) (value : Json) : Except Json.Fault EventDraft :=
  match key with
  | "part" => do
      unset draft.part
      let name ← value.asString
      .ok { draft with part := some (.ofName name) }
  | "startMs" => do
      unset draft.startMs
      let time ← value.asUInt64
      .ok { draft with startMs := some time }
  | "endMs" => do
      unset draft.endMs
      let time ← value.asUInt64
      .ok { draft with endMs := some time }
  | _ => .ok { draft with others := (key, value) :: draft.others }

def addMember (draft : EventDraft) (member : String × Json) : Except Json.Fault EventDraft :=
  draft.add member.1 member.2

/-- Reads a member from its colon on. A repeated key is refused before anything after it is looked
at. -/
def read (any : Json.Reader Json) (draft : EventDraft) (key : String) : Json.Reader EventDraft :=
  fun tokens =>
    match key with
    | "part" => do
        unset draft.part
        let (name, rest) ← Json.Reader.field Json.Reader.string tokens
        .ok ({ draft with part := some (.ofName name) }, rest)
    | "startMs" => do
        unset draft.startMs
        let (time, rest) ← Json.Reader.field Json.Reader.uint64 tokens
        .ok ({ draft with startMs := some time }, rest)
    | "endMs" => do
        unset draft.endMs
        let (time, rest) ← Json.Reader.field Json.Reader.uint64 tokens
        .ok ({ draft with endMs := some time }, rest)
    | _ => do
        let (others, rest) ← Json.Reader.anyMember any draft.others key tokens
        .ok ({ draft with others := others }, rest)

end EventDraft

namespace Event

def ofJson : Json → Except Json.Fault Event
  | .obj members => do
      let draft ← members.foldlM EventDraft.addMember {}
      draft.finish
  | _ => .error .mismatch

def toJson (event : Event) : Json :=
  .obj ([("part", .str event.part.name), ("startMs", .natural event.startMs),
    ("endMs", .natural event.endMs)] ++ event.options.toMembers)

def reader : Nat → Json.Reader Event
  | 0, .opening .curly :: _ => .error .malformed
  | depth + 1, .opening .curly :: tokens => do
      let (draft, rest) ←
        Json.Reader.members (EventDraft.read (Json.Reader.value depth)) {} tokens
      let event ← draft.finish
      .ok (event, rest)
  | _, tokens => .error (Json.typeFault tokens)

def ofText (text : String) : Except Json.Fault Event :=
  Json.Reader.complete (reader Json.maxDepth) (Json.lex text.toList)

def toText (event : Event) : String := event.toJson.compact

/-! ## Lists of events -/

def listReader : Json.Reader (List Event)
  | .opening .square :: tokens => Json.Reader.elements (reader (Json.maxDepth - 1)) tokens
  | tokens => .error (Json.typeFault tokens)

def listOfText (text : String) : Except Json.Fault (List Event) :=
  Json.Reader.complete listReader (Json.lex text.toList)

end Event
end VehicleShow
