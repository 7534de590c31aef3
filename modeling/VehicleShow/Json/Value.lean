import VehicleShow.Json.Token

/-! # JSON values

An object keeps its members in the order of the text, repeats included.  `collapse` gives the value
in which of the members with one key only the last is left. -/
set_option autoImplicit false
namespace VehicleShow

inductive Json where
  | null
  | bool (value : Bool)
  | num (numeral : Json.Numeral)
  | str (content : String)
  | arr (items : List Json)
  | obj (members : List (String × Json))
  deriving Repr

namespace Json

def natural (n : UInt64) : Json := .num (.ofUInt64 n)

/-- Drops every member that a later one with the same key overrides. -/
def lastOfEach : List (String × Json) → List (String × Json)
  | [] => []
  | (key, value) :: rest =>
      if rest.any fun member => member.1 == key then lastOfEach rest
      else (key, value) :: lastOfEach rest

mutual

def collapse : Json → Json
  | .arr items => .arr (collapseItems items)
  | .obj members => .obj (lastOfEach (collapseMembers members))
  | other => other

def collapseItems : List Json → List Json
  | [] => []
  | item :: rest => item.collapse :: collapseItems rest

def collapseMembers : List (String × Json) → List (String × Json)
  | [] => []
  | (key, value) :: rest => (key, value.collapse) :: collapseMembers rest

end

def member? (key : String) : Json → Option Json
  | .obj members => members.lookup key
  | _ => none

theorem collapseItems_eq_map (items : List Json) : collapseItems items = items.map collapse := by
  induction items with
  | nil => rfl
  | cons item rest ih => rw [collapseItems, ih, List.map_cons]

theorem collapseMembers_eq_map (members : List (String × Json)) :
    collapseMembers members = members.map fun member => (member.1, member.2.collapse) := by
  induction members with
  | nil => rfl
  | cons member rest ih =>
    obtain ⟨key, value⟩ := member
    rw [collapseMembers, ih, List.map_cons]

/-! ## Values as they stand in documents -/

def asUInt64 : Json → Except Fault UInt64
  | .num n => match n.toUInt64? with
      | some value => .ok value
      | none => .error .mismatch
  | _ => .error .mismatch

def asUInt32 (json : Json) : Except Fault UInt32 :=
  match asUInt64 json with
  | .ok value => if value.toNat < UInt32.size then .ok value.toUInt32 else .error .mismatch
  | .error fault => .error fault

def asString : Json → Except Fault String
  | .str content => .ok content
  | _ => .error .mismatch

def asBool : Json → Except Fault Bool
  | .bool value => .ok value
  | _ => .error .mismatch

/-- A choice with no data of its own: its name, or an object whose one member has that name and
holds null or an empty object. -/
def asChoice {α : Type} (ofName? : String → Option α) : Json → Except Fault α
  | .str name => (ofName? name).elim (.error .mismatch) .ok
  | .obj [(name, .null)] => (ofName? name).elim (.error .mismatch) .ok
  | .obj [(name, .obj [])] => (ofName? name).elim (.error .mismatch) .ok
  | _ => .error .mismatch

/-- The one member under a key, if there is any. A repeated key is refused. -/
def unique? (key : String) (members : List (String × Json)) : Except Fault (Option Json) :=
  match members.filter fun member => member.1 == key with
  | [] => .ok none
  | [member] => .ok (some member.2)
  | _ => .error .mismatch

/-- An optional value: absent and null are the same. -/
def optional {α : Type} (read : Json → Except Fault α) : Option Json → Except Fault (Option α)
  | none | some .null => .ok none
  | some json => (read json).map some

end Json
end VehicleShow
