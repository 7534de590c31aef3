import VehicleShow.Proofs.EventListForms

/-! # Share documents written and read back

A show that is written as a document is read back as it was, if it has the tag and an event.  The
shows that are read from any text at all are such shows, so reading, writing and reading again gives
the show that was read first. -/
set_option autoImplicit false
namespace VehicleShow

open Json

namespace SharedShow

/-! ## The written value -/

theorem within_toJson {allowed : Numeral → Prop} (words : ∀ n, allowed (.ofUInt64 n))
    (document : SharedShow) : document.toJson.Within allowed 3 := by
  rw [toJson, within_obj]
  simp only [List.forall_mem_cons]
  exact ⟨within_str _, within_str _, Event.within_toJsons words document.events, by simp⟩

theorem noRepeats_toJson (document : SharedShow) : document.toJson.NoRepeats := by
  have keys : ["_format", "name", "events"].Nodup := by decide
  refine .obj keys ?_
  simp only [List.forall_mem_cons]
  exact ⟨.str _, .str _, Event.noRepeats_toJsons document.events, by simp⟩

theorem isJson_toText (document : SharedShow) : IsJson document.toText document.toJson :=
  ⟨document_pretty (document.within_toJson Numeral.wellFormed_ofUInt64),
    (document.within_toJson Numeral.inRange_ofUInt64).mono (fun _ inRange => inRange) (by decide)⟩

theorem ofText_toText (document : SharedShow) : ofText document.toText = ofJson document.toJson := by
  rw [ofText_of_isJson document.isJson_toText, document.noRepeats_toJson.collapse_eq]

/-! ## Reading it back -/

section Written
variable {document : SharedShow}

theorem tagged_toJson_iff : Tagged document.toJson ↔ document.format = shareFormat := by
  simp [Tagged, toJson, member?]

theorem lists_toJson (document : SharedShow) :
    Lists document.toJson (document.events.map Event.toJson) := rfl

theorem sound_toJson (proper : ∀ event ∈ document.events, event.part.Proper) :
    Sound document.toJson (document.events.map Event.toJson) where
  oneTag := .inr rfl
  named := ⟨document.name, .inr rfl⟩
  described := exists_forall₂_iff.mp ⟨_, Event.describes_toJsons proper⟩

theorem conveys_toJson (tag : document.format = shareFormat)
    (proper : ∀ event ∈ document.events, event.part.Proper) :
    Conveys document.toJson (document.events.map Event.toJson) document where
  format := tag
  name := .inr rfl
  events := Event.describes_toJsons proper

end Written

/-! ## Round trip -/

/-- What is asked of a show that is to be read back as it was written. -/
structure Exchangeable (document : SharedShow) : Prop where
  format : document.format = shareFormat
  some : document.events ≠ []
  proper : ∀ event ∈ document.events, event.part.Proper

theorem Exchangeable.ofText_toText {document : SharedShow} (exchangeable : document.Exchangeable) :
    ofText document.toText = .ok document := by
  obtain ⟨tag, some, proper⟩ := exchangeable
  rw [SharedShow.ofText_toText]
  exact ofJson_of_conveys (tagged_toJson_iff.mpr tag) document.lists_toJson (sound_toJson proper)
    (mt List.map_eq_nil_iff.mp some) (conveys_toJson tag proper)

theorem ofText_of_wrong_tag {document : SharedShow} (wrong : document.format ≠ shareFormat) :
    ofText document.toText = .error (.invalidShow .wrongFormat) := by
  rw [ofText_toText]
  exact ofJson_of_untagged (mt tagged_toJson_iff.mp wrong)

theorem ofText_of_no_events {document : SharedShow} (tag : document.format = shareFormat)
    (none : document.events = []) : ofText document.toText = .error (.invalidShow .noEvents) := by
  have lists := document.lists_toJson
  have sound := @sound_toJson document (by simp [none])
  rw [none, List.map_nil] at lists sound
  rw [ofText_toText]
  exact ofJson_of_empty (tagged_toJson_iff.mpr tag) lists sound

theorem exchangeable_of_ofText {raw : String} {document : SharedShow}
    (read : ofText raw = .ok document) : document.Exchangeable := by
  obtain ⟨json, -, accepted⟩ := (ofText_eq_ok_iff raw document).mp read
  obtain ⟨-, items, -, -, some, conveys⟩ := (ofJson_eq_ok_iff document).mp accepted
  exact ⟨conveys.format, mt conveys.events_eq_nil_iff.mp some, proper_of_described conveys.events⟩

theorem share_round_trip :
    (∀ document : SharedShow, document.Exchangeable →
      ofText document.toText = .ok document ∧
        eventsOfText document.toText = .ok document.events) ∧
    (∀ document : SharedShow, document.format ≠ shareFormat ∨ document.events = [] →
      ∃ defect, ofText document.toText = .error (.invalidShow defect)) ∧
    ∀ raw document, ofText raw = .ok document →
      document.Exchangeable ∧ ofText document.toText = .ok document := by
  refine ⟨fun document exchangeable => ?_, fun document defective => ?_, fun raw document read => ?_⟩
  · have read := exchangeable.ofText_toText
    refine ⟨read, ?_⟩
    rw [eventsOfText_of_object document.isJson_toText.1, read]
  · by_cases tag : document.format = shareFormat
    · exact ⟨_, ofText_of_no_events tag (defective.resolve_left (not_not_intro tag))⟩
    · exact ⟨_, ofText_of_wrong_tag tag⟩
  · have exchangeable := exchangeable_of_ofText read
    exact ⟨exchangeable, exchangeable.ofText_toText⟩

end SharedShow
end VehicleShow
