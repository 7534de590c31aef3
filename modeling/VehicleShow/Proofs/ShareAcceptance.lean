import VehicleShow.SharedShow
import VehicleShow.Proofs.Event.Refusing
import VehicleShow.Proofs.Json.Refusing

/-! # Which share documents are accepted

A text that is JSON is decided by its value with repeated keys collapsed.  Four checks are made, and
the first that fails gives the error: the tag, the list of events, then the key of the tag, the name
and every event together, and last that there is an event. -/
set_option autoImplicit false
namespace VehicleShow

open Json

namespace SharedShow

/-! ## The checks -/

/-- The tag stands under `_format`, or under `format` where there is no `_format` at all. -/
def Tagged (json : Json) : Prop :=
  json.member? "_format" = some (.str shareFormat) ∨
    json.member? "_format" = none ∧ json.member? "format" = some (.str shareFormat)

def Lists (json : Json) (items : List Json) : Prop := json.member? "events" = some (.arr items)

/-- The name is a string; without one it is empty. -/
def Named (json : Json) (name : String) : Prop :=
  json.member? "name" = none ∧ name = "" ∨ json.member? "name" = some (.str name)

/-- Not both keys of the tag are there, the name may be missing but is no other value than a string,
and every item describes an event. -/
structure Sound (json : Json) (items : List Json) : Prop where
  oneTag : json.member? "_format" = none ∨ json.member? "format" = none
  named : ∃ name, Named json name
  described : ∀ item ∈ items, ∃ event, item.Describes event

structure Conveys (json : Json) (items : List Json) (document : SharedShow) : Prop where
  format : document.format = shareFormat
  name : Named json document.name
  events : List.Forall₂ Json.Describes items document.events

/-! ## Deciding them -/

section Checks
variable {json : Json}

theorem tag?_eq_iff : tag? json = some (.str shareFormat) ↔ Tagged json := by
  rw [tag?, Tagged]
  cases json.member? "_format" <;> simp

theorem hasOneTag_iff :
    hasOneTag json = true ↔ json.member? "_format" = none ∨ json.member? "format" = none := by
  rw [hasOneTag]
  cases json.member? "_format" <;> simp

theorem nameOf_eq_ok_iff (name : String) : nameOf json = .ok name ↔ Named json name := by
  rw [nameOf, Named]
  cases json.member? "name" with
  | none => simp [eq_comm]
  | some value => simp [asString_eq_ok_iff]

theorem onlyMismatch_nameOf : OnlyMismatch (nameOf json) := by
  rw [nameOf]
  split
  · exact onlyMismatch_ok _
  · exact onlyMismatch_asString _

theorem exists_forall₂_iff {items : List Json} :
    (∃ events, List.Forall₂ Json.Describes items events) ↔
      ∀ item ∈ items, ∃ event, item.Describes event := by
  induction items with
  | nil => simp
  | cons item items ih =>
      rw [List.forall_mem_cons, ← ih]
      simp only [List.forall₂_cons_left_iff]
      constructor
      · rintro ⟨_, event, events, first, others, rfl⟩
        exact ⟨⟨event, first⟩, events, others⟩
      · rintro ⟨⟨event, first⟩, events, others⟩
        exact ⟨_, event, events, first, others, rfl⟩

theorem Sound.exists_conveys {items : List Json} (sound : Sound json items) :
    ∃ document, Conveys json items document := by
  obtain ⟨name, named⟩ := sound.named
  obtain ⟨events, described⟩ := exists_forall₂_iff.mpr sound.described
  exact ⟨ofEvents name events, rfl, named, described⟩

theorem Conveys.events_eq_nil_iff {items : List Json} {document : SharedShow}
    (conveys : Conveys json items document) : document.events = [] ↔ items = [] := by
  have same := conveys.events.length_eq
  rw [← List.length_eq_zero_iff, ← List.length_eq_zero_iff, same]

theorem contents_eq_ok_iff (items : List Json) (document : SharedShow) :
    contents json items = .ok document ↔ Sound json items ∧ Conveys json items document := by
  rw [contents]
  constructor
  · intro read
    split at read
    · next oneTag =>
      obtain ⟨name, named, read⟩ := bind_eq_ok_iff.mp read
      obtain ⟨events, described, read⟩ := bind_eq_ok_iff.mp read
      cases read
      rw [nameOf_eq_ok_iff] at named
      rw [Event.ofJsons_eq_ok_iff] at described
      exact ⟨⟨hasOneTag_iff.mp oneTag, ⟨name, named⟩, exists_forall₂_iff.mp ⟨events, described⟩⟩,
        rfl, named, described⟩
    · cases read
  · rintro ⟨sound, format, named, described⟩
    rw [if_pos (hasOneTag_iff.mpr sound.oneTag), (nameOf_eq_ok_iff _).mpr named,
      (Event.ofJsons_eq_ok_iff _ _).mpr described]
    cases document
    cases format
    rfl

theorem onlyMismatch_contents (items : List Json) : OnlyMismatch (contents json items) := by
  rw [contents]
  split
  · exact onlyMismatch_nameOf.bind fun _ => (Event.onlyMismatch_ofJsons items).bind fun _ =>
      onlyMismatch_ok _
  · exact onlyMismatch_error

theorem contents_of_unsound {items : List Json} (unsound : ¬ Sound json items) :
    contents json items = .error .mismatch := by
  cases read : contents json items with
  | error fault => rw [onlyMismatch_contents items fault read]
  | ok document => exact absurd ((contents_eq_ok_iff items document).mp read).1 unsound

/-! ## Documents -/

theorem ofJson_of_untagged (untagged : ¬ Tagged json) :
    ofJson json = .error (.invalidShow .wrongFormat) := by
  rw [ofJson.eq_def]
  split
  · next tag found =>
    rw [if_neg]
    rintro rfl
    exact untagged (tag?_eq_iff.mp found)
  · rfl

theorem ofJson_of_unlisted (tagged : Tagged json) (unlisted : ¬ ∃ items, Lists json items) :
    ofJson json = .error (.invalidShow .eventsNotArray) := by
  rw [ofJson, tag?_eq_iff.mpr tagged]
  dsimp only
  rw [if_pos rfl]
  split
  · next items found => exact absurd ⟨items, found⟩ unlisted
  · rfl

theorem ofJson_of_listed {items : List Json} (tagged : Tagged json) (lists : Lists json items) :
    ofJson json = match contents json items with
      | .error fault => .error (.json fault)
      | .ok document =>
          if document.events.isEmpty then .error (.invalidShow .noEvents) else .ok document := by
  rw [ofJson, tag?_eq_iff.mpr tagged]
  dsimp only
  rw [if_pos rfl]
  split
  · next found =>
    cases lists.symm.trans found
    rfl
  · next other => exact absurd lists (other items)

theorem ofJson_of_unsound {items : List Json} (tagged : Tagged json) (lists : Lists json items)
    (unsound : ¬ Sound json items) : ofJson json = .error (.json .mismatch) := by
  rw [ofJson_of_listed tagged lists, contents_of_unsound unsound]

theorem ofJson_of_empty (tagged : Tagged json) (lists : Lists json [])
    (sound : Sound json []) : ofJson json = .error (.invalidShow .noEvents) := by
  obtain ⟨document, conveys⟩ := sound.exists_conveys
  rw [ofJson_of_listed tagged lists, (contents_eq_ok_iff [] document).mpr ⟨sound, conveys⟩]
  exact if_pos (List.isEmpty_iff.mpr (conveys.events_eq_nil_iff.mpr rfl))

theorem ofJson_of_conveys {items : List Json} {document : SharedShow} (tagged : Tagged json)
    (lists : Lists json items) (sound : Sound json items) (some : items ≠ [])
    (conveys : Conveys json items document) : ofJson json = .ok document := by
  rw [ofJson_of_listed tagged lists, (contents_eq_ok_iff items document).mpr ⟨sound, conveys⟩]
  refine if_neg fun none => some ?_
  exact conveys.events_eq_nil_iff.mp (List.isEmpty_iff.mp none)

/-- The documents that are accepted, and the show each of them conveys. -/
theorem ofJson_eq_ok_iff (document : SharedShow) : ofJson json = .ok document ↔
    Tagged json ∧ ∃ items, Lists json items ∧ Sound json items ∧ items ≠ [] ∧
      Conveys json items document := by
  constructor
  · intro read
    by_cases tagged : Tagged json
    · by_cases listed : ∃ items, Lists json items
      · obtain ⟨items, lists⟩ := listed
        rw [ofJson_of_listed tagged lists] at read
        split at read
        · cases read
        · next found got =>
          split at read
          · cases read
          · next some =>
            cases read
            obtain ⟨sound, conveys⟩ := (contents_eq_ok_iff items document).mp got
            refine ⟨tagged, items, lists, sound, fun none => some ?_, conveys⟩
            exact List.isEmpty_iff.mpr (conveys.events_eq_nil_iff.mpr none)
      · rw [ofJson_of_unlisted tagged listed] at read
        cases read
    · rw [ofJson_of_untagged tagged] at read
      cases read
  · rintro ⟨tagged, items, lists, sound, some, conveys⟩
    exact ofJson_of_conveys tagged lists sound some conveys

theorem ofJson_congr {other : Json} (same : ∀ key ∈ ["_format", "format", "name", "events"],
    other.member? key = json.member? key) : ofJson other = ofJson json := by
  simp only [List.forall_mem_cons] at same
  obtain ⟨newTag, oldTag, name, events, -⟩ := same
  have tag : tag? other = tag? json := by rw [tag?, tag?, newTag, oldTag]
  have rest : contents other = contents json := by
    funext items
    rw [contents, contents, hasOneTag, hasOneTag, nameOf, nameOf, newTag, oldTag, name]
  rw [ofJson, ofJson, tag, rest, events]

end Checks

theorem ofText_of_isJson {raw : String} {json : Json} (isJson : IsJson raw json) :
    ofText raw = ofJson json.collapse := by
  rw [ofText, (parse_eq_ok_iff raw json).mpr isJson]

theorem ofText_of_not_json {raw : String} (notJson : ¬ ∃ json, IsJson raw json) :
    ofText raw = .error (.json .malformed) ∨ ofText raw = .error (.json .truncated) := by
  rw [ofText]
  cases read : parse raw with
  | ok json => exact absurd ⟨json, (parse_eq_ok_iff raw json).mp read⟩ notJson
  | error fault =>
      cases fault with
      | malformed => exact .inl rfl
      | truncated => exact .inr rfl
      | mismatch => exact absurd rfl (parse_grammatical read)

theorem ofText_eq_ok_iff (raw : String) (document : SharedShow) : ofText raw = .ok document ↔
    ∃ json, IsJson raw json ∧ ofJson json.collapse = .ok document := by
  by_cases some : ∃ json, IsJson raw json
  · obtain ⟨json, isJson⟩ := some
    rw [ofText_of_isJson isJson]
    constructor
    · exact fun read => ⟨json, isJson, read⟩
    · rintro ⟨other, isOther, read⟩
      rw [← ofText_of_isJson isOther, ofText_of_isJson isJson] at read
      exact read
  · constructor
    · intro read
      rcases ofText_of_not_json some with refused | refused <;> rw [refused] at read <;> cases read
    · rintro ⟨json, isJson, -⟩
      exact absurd ⟨json, isJson⟩ some

/-- What is made of any text: the first check that fails decides, and members that no check looks
at change nothing. -/
theorem ofText_decided (raw : String) :
    ((¬ ∃ json, IsJson raw json) →
      ofText raw = .error (.json .malformed) ∨ ofText raw = .error (.json .truncated)) ∧
    ∀ json, IsJson raw json →
      (¬ Tagged json.collapse → ofText raw = .error (.invalidShow .wrongFormat)) ∧
      (Tagged json.collapse → (¬ ∃ items, Lists json.collapse items) →
        ofText raw = .error (.invalidShow .eventsNotArray)) ∧
      (∀ items, Tagged json.collapse → Lists json.collapse items →
        (¬ Sound json.collapse items → ofText raw = .error (.json .mismatch)) ∧
        (Sound json.collapse items → items = [] → ofText raw = .error (.invalidShow .noEvents)) ∧
        (Sound json.collapse items → items ≠ [] →
          ∃ document, ofText raw = .ok document ∧ Conveys json.collapse items document)) ∧
      ∀ other twin, IsJson other twin →
        (∀ key ∈ ["_format", "format", "name", "events"],
          twin.collapse.member? key = json.collapse.member? key) →
        ofText other = ofText raw := by
  refine ⟨ofText_of_not_json, fun json isJson => ?_⟩
  rw [ofText_of_isJson isJson]
  refine ⟨ofJson_of_untagged, ofJson_of_unlisted, fun items tagged lists => ⟨?_, ?_, ?_⟩, ?_⟩
  · exact ofJson_of_unsound tagged lists
  · rintro sound rfl
    exact ofJson_of_empty tagged lists sound
  · intro sound some
    obtain ⟨document, conveys⟩ := sound.exists_conveys
    exact ⟨document, ofJson_of_conveys tagged lists sound some conveys, conveys⟩
  · intro other twin isTwin same
    rw [ofText_of_isJson isTwin]
    exact ofJson_congr same

end SharedShow
end VehicleShow
