import VehicleShow.Event.Document
import VehicleShow.Fault

/-! # Shared shows

A share document is an object with a tag, a name and a list of events.  It is read as one JSON value
first, so a text that is no JSON is refused as such whatever else is wrong with it; then its tag is
checked, then that it has a list of events, then the rest, and last that the list holds an event. -/
set_option autoImplicit false
namespace VehicleShow

structure SharedShow where
  format : String
  name : String
  events : List Event
  deriving DecidableEq, Repr

namespace SharedShow

def ofEvents (name : String) (events : List Event) : SharedShow := ⟨shareFormat, name, events⟩

/-! ## Reading -/

/-- The tag: `_format` if there is such a member, whatever it holds, and else `format`. -/
def tag? (json : Json) : Option Json :=
  match json.member? "_format" with
  | some tag => some tag
  | none => json.member? "format"

def hasOneTag (json : Json) : Bool :=
  !((json.member? "_format").isSome && (json.member? "format").isSome)

/-- A show without a name has the empty one. -/
def nameOf (json : Json) : Except Json.Fault String :=
  match json.member? "name" with
  | none => .ok ""
  | some name => name.asString

def contents (json : Json) (items : List Json) : Except Json.Fault SharedShow := do
  if hasOneTag json then
    let name ← nameOf json
    let events ← items.mapM Event.ofJson
    .ok (.ofEvents name events)
  else .error .mismatch

def ofJson (json : Json) : Except Fault SharedShow :=
  match tag? json with
  | some (.str tag) =>
      if tag = shareFormat then
        match json.member? "events" with
        | some (.arr items) =>
            match contents json items with
            | .error fault => .error (.json fault)
            | .ok document =>
                if document.events.isEmpty then .error (.invalidShow .noEvents)
                else .ok document
        | _ => .error (.invalidShow .eventsNotArray)
      else .error (.invalidShow .wrongFormat)
  | _ => .error (.invalidShow .wrongFormat)

def ofText (text : String) : Except Fault SharedShow :=
  match Json.parse text with
  | .error fault => .error (.json fault)
  | .ok json => ofJson json.collapse

/-! ## Writing -/

def toJson (document : SharedShow) : Json :=
  .obj [("_format", .str document.format), ("name", .str document.name),
    ("events", .arr (document.events.map Event.toJson))]

def toText (document : SharedShow) : String := document.toJson.pretty

/-- Characters of a show's name that its file name keeps. -/
def isPlain (c : Char) : Bool := c.isAlphanum || c == '_' || c == '-'

def fileName (document : SharedShow) : String :=
  if document.name = "" then "lightshow.json"
  else
    String.ofList (document.name.toList.map fun c => if isPlain c then c else '_') ++ ".json"

end SharedShow

/-- The characters with the property `White_Space`. -/
def isWhiteSpace (c : Char) : Bool :=
  let n := c.toNat
  (0x09 ≤ n && n ≤ 0x0D) || n == 0x20 || n == 0x85 || n == 0xA0 || n == 0x1680
    || (0x2000 ≤ n && n ≤ 0x200A) || n == 0x2028 || n == 0x2029 || n == 0x202F
    || n == 0x205F || n == 0x3000

/-- Events of a text that holds either a bare list of them or a share document. White space of any
kind may stand before the bracket that tells the two apart. -/
def eventsOfText (text : String) : Except Fault (List Event) :=
  match text.toList.dropWhile isWhiteSpace with
  | '[' :: _ =>
      match Event.listOfText text with
      | .ok events => .ok events
      | .error fault => .error (.json fault)
  | _ =>
      match SharedShow.ofText text with
      | .ok document => .ok document.events
      | .error fault => .error fault

end VehicleShow
