import VehicleShow.Proofs.Event.Reading
import VehicleShow.Proofs.Event.Writing
import VehicleShow.Proofs.Json.Printing
import VehicleShow.Proofs.ShareAcceptance

/-! # The two forms of a list of events

A list of events may be given bare or inside a share document; the first bracket of the text tells
which.  The bare list is read in one pass, the document as a value that is then taken apart, and both
give the same events. -/
set_option autoImplicit false
namespace VehicleShow

open Json

/-! ## The first bracket -/

theorem isWhiteSpace_of_isBlank {c : Char} (blank : isBlank c = true) : isWhiteSpace c = true := by
  simp only [isBlank, Bool.or_eq_true, beq_iff_eq] at blank
  rcases blank with ((rfl | rfl) | rfl) | rfl <;> rfl

theorem exists_first_token {token : Token} {tokens : List Token} {text : List Char}
    (written : Written (token :: tokens) text) :
    ∃ gap first rest, text = gap ++ (first ++ rest) ∧ TokenText token first ∧
      ∀ c ∈ gap, isWhiteSpace c = true := by
  cases written with
  | @cons _ _ gap first rest blank tokenText others =>
      exact ⟨gap, first, rest, List.append_assoc gap first rest, tokenText,
        fun c member => isWhiteSpace_of_isBlank (blank c member)⟩

theorem eventsOfText_of_array {items : List Json} {text : String}
    (document : Document (.arr items) text) :
    eventsOfText text = match Event.listOfText text with
      | .ok events => .ok events
      | .error fault => .error (.json fault) := by
  obtain ⟨gap, first, rest, whole, square, blank⟩ := exists_first_token document
  cases square
  have start : text.toList.dropWhile isWhiteSpace = '[' :: rest := by
    rw [whole, List.dropWhile_append_of_pos blank]
    rfl
  rw [eventsOfText, start]
  rfl

theorem eventsOfText_of_object {members : List (String × Json)} {text : String}
    (document : Document (.obj members) text) :
    eventsOfText text = match SharedShow.ofText text with
      | .ok document => .ok document.events
      | .error fault => .error fault := by
  obtain ⟨gap, first, rest, whole, curly, blank⟩ := exists_first_token document
  cases curly
  have start : text.toList.dropWhile isWhiteSpace = '\x7b' :: rest := by
    rw [whole, List.dropWhile_append_of_pos blank]
    rfl
  rw [eventsOfText, start]
  rfl

/-! ## A list inside a document -/

/-- The text of a share document without a name, around the text of its list. -/
def wrapList (text : String) : String :=
  "\x7b\"_format\":\"lightstudio_v1\",\"events\":" ++ text ++ "\x7d"

def wrapped (items : List Json) : Json := .obj [("_format", .str shareFormat), ("events", .arr items)]

/-- What stands in front of the list, token by token. -/
def listOpening : List Char :=
  ['\x7b'] ++ (Json.quoted "_format" ++ ([':'] ++ (Json.quoted shareFormat ++ ([','] ++
    (Json.quoted "events" ++ [':'])))))

theorem toList_wrapList (text : String) :
    (wrapList text).toList = listOpening ++ (text.toList ++ ['\x7d']) := by
  have joined (before after : String) :
      (before ++ text ++ after).toList = before.toList ++ (text.toList ++ after.toList) := by
    rw [String.toList_append, String.toList_append, List.append_assoc]
  have opening : "\x7b\"_format\":\"lightstudio_v1\",\"events\":".toList = listOpening := by
    decide
  have closing : "\x7d".toList = ['\x7d'] := by decide
  unfold wrapList
  simp only [joined, opening, closing]

theorem document_wrapList {items : List Json} {text : String}
    (document : Document (.arr items) text) : Document (wrapped items) (wrapList text) := by
  have list := Written.append document (written_token .closeCurly)
  have whole := written_cons .openCurly <| written_cons (.str (stringText_quoted "_format")) <|
    written_cons .colon <| written_cons (.str (stringText_quoted shareFormat)) <|
    written_cons .comma <| written_cons (.str (stringText_quoted "events")) <|
    written_cons .colon list
  rw [Document, toList_wrapList, listOpening]
  simp only [List.append_assoc]
  exact whole

theorem fits_wrapped_iff {items : List Json} {depth : Nat} :
    (wrapped items).Fits (depth + 1) ↔ (Json.arr items).Fits depth := by
  rw [wrapped, Fits, within_obj]
  simp [within_str]

theorem collapse_wrapped (items : List Json) :
    (wrapped items).collapse = wrapped (items.map collapse) := by
  simp [wrapped, collapse, collapseMembers, collapseItems_eq_map, lastOfEach]

/-! ## Agreement -/

theorem forall₂_collapse {items : List Json} {events : List Event}
    (described : List.Forall₂ Json.Describes items events) :
    List.Forall₂ Json.Describes (items.map collapse) events := by
  rw [List.forall₂_map_left_iff]
  exact described.imp fun _ _ => Describes.collapse

theorem tagged_wrapped (items : List Json) : SharedShow.Tagged (wrapped items) := .inl rfl

theorem lists_wrapped_iff {items others : List Json} :
    SharedShow.Lists (wrapped items) others ↔ items = others := by
  constructor
  · intro lists
    exact Json.arr.inj (Option.some.inj lists)
  · rintro rfl
    rfl

/-- A wrapped list conveys a show without a name. -/
theorem conveys_wrapped {items : List Json} {events : List Event}
    (described : List.Forall₂ Json.Describes items events) :
    SharedShow.Sound (wrapped items) items ∧
      SharedShow.Conveys (wrapped items) items (.ofEvents "" events) :=
  ⟨⟨.inr rfl, ⟨"", .inl ⟨rfl, rfl⟩⟩, SharedShow.exists_forall₂_iff.mp ⟨events, described⟩⟩,
    rfl, .inl ⟨rfl, rfl⟩, described⟩

theorem ofJson_wrapped {items : List Json} (some : items ≠ []) {events : List Event}
    (described : List.Forall₂ Json.Describes items events) :
    SharedShow.ofJson (wrapped items) = .ok (.ofEvents "" events) := by
  obtain ⟨sound, conveys⟩ := conveys_wrapped described
  exact SharedShow.ofJson_of_conveys (tagged_wrapped items) (lists_wrapped_iff.mpr rfl) sound some
    conveys

theorem eventsOfText_array_iff {items : List Json} {text : String}
    (document : Document (.arr items) text) (events : List Event) :
    eventsOfText text = .ok events ↔ (Json.arr items).Fits maxDepth ∧
      List.Forall₂ Json.Describes items events := by
  have read : eventsOfText text = .ok events ↔ Event.listOfText text = .ok events := by
    rw [eventsOfText_of_array document]
    cases Event.listOfText text <;> simp
  rw [read, Event.listOfText_eq_ok_iff]
  constructor
  · rintro ⟨others, again, described⟩
    cases document.unique again
    exact described
  · exact fun described => ⟨items, document, described⟩

theorem eventsOfText_wrapList_iff {items : List Json} {text : String}
    (document : Document (.arr items) text) (some : items ≠ []) (events : List Event) :
    eventsOfText (wrapList text) = .ok events ↔ (Json.arr items).Fits (maxDepth - 1) ∧
      List.Forall₂ Json.Describes (items.map collapse) events := by
  have whole := document_wrapList document
  rw [eventsOfText_of_object whole]
  constructor
  · intro read
    cases accepted : SharedShow.ofText (wrapList text) with
    | error fault =>
        rw [accepted] at read
        cases read
    | ok found =>
        rw [accepted] at read
        cases read
        obtain ⟨json, isJson, accepted⟩ := (SharedShow.ofText_eq_ok_iff _ found).mp accepted
        cases whole.unique isJson.1
        rw [collapse_wrapped, SharedShow.ofJson_eq_ok_iff] at accepted
        obtain ⟨-, others, lists, -, -, conveys⟩ := accepted
        cases lists_wrapped_iff.mp lists
        exact ⟨fits_wrapped_iff.mp isJson.2, conveys.events⟩
  · rintro ⟨fits, described⟩
    have isJson : IsJson (wrapList text) (wrapped items) := ⟨whole, fits_wrapped_iff.mpr fits⟩
    rw [SharedShow.ofText_of_isJson isJson, collapse_wrapped,
      ofJson_wrapped (mt List.map_eq_nil_iff.mp some) described]
    rfl

/-- Both forms of a list that is not empty give the same events.  Only a repeated key inside the list
can make the document succeed where the bare list fails. -/
theorem list_forms_agree {items : List Json} {text : String} (document : Document (.arr items) text)
    (some : items ≠ []) (shallow : (Json.arr items).Nests 126) (events : List Event) :
    (eventsOfText text = .ok events → eventsOfText (wrapList text) = .ok events) ∧
      ((Json.arr items).NoRepeats → eventsOfText (wrapList text) = .ok events →
        eventsOfText text = .ok events) := by
  -- In the document the list stands one bracket deeper, and its values are collapsed.
  rw [eventsOfText_array_iff document, eventsOfText_wrapList_iff document some]
  constructor
  · rintro ⟨fits, described⟩
    exact ⟨fits.of_nests shallow, forall₂_collapse described⟩
  · rintro single ⟨fits, described⟩
    have same : items.map collapse = items := by
      rw [← collapseItems_eq_map]
      exact Json.arr.inj single.collapse_eq
    rw [same] at described
    exact ⟨fits.mono (fun _ inRange => inRange) (Nat.sub_le maxDepth 1), described⟩

def trunkOpens : Event := ⟨.known .trunk, 0, 13000, { trunkMode := some .opening }⟩

theorem list_forms_agree_trunk : let text := (Json.arr ([trunkOpens].map Event.toJson)).pretty
    eventsOfText text = .ok [trunkOpens] ∧ eventsOfText (wrapList text) = .ok [trunkOpens] ∧
      (eventsOfText (wrapList text) = .ok [trunkOpens] → eventsOfText text = .ok [trunkOpens]) := by
  intro text
  have document : Document (Json.arr ([trunkOpens].map Event.toJson)) text :=
    document_pretty (Event.within_toJsons Numeral.wellFormed_ofUInt64 _)
  have fits : (Json.arr ([trunkOpens].map Event.toJson)).Fits maxDepth :=
    (Event.within_toJsons Numeral.inRange_ofUInt64 _).mono (fun _ inRange => inRange) (by decide)
  have shallow : (Json.arr ([trunkOpens].map Event.toJson)).Nests 126 :=
    (Event.within_toJsons (fun _ => trivial) _).mono (fun _ always => always) (by decide)
  have described := @Event.describes_toJsons [trunkOpens] (by simp [trunkOpens, PartKey.Proper])
  have bare := (eventsOfText_array_iff document [trunkOpens]).mpr ⟨fits, described⟩
  have agree := list_forms_agree document (List.cons_ne_nil _ _) shallow [trunkOpens]
  exact ⟨bare, agree.1 bare, agree.2 (Event.noRepeats_toJsons [trunkOpens])⟩

end VehicleShow
