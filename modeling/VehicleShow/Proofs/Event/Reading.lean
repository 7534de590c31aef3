import VehicleShow.Proofs.Event.Drafts

/-! # Events in texts

Events are read straight from the tokens of a text.  The reader takes off exactly the values that
describe an event and keep the bounds of depth and range (`Event.reads_reader`), so a text is read as
a list of events just if it is a list of such values (`Event.listOfText_eq_ok_iff`). -/
set_option autoImplicit false
namespace VehicleShow

open Json

theorem Json.IsNatural.fits {json : Json} {word : UInt64} (natural : json.IsNatural word.toNat)
    (depth : Nat) : json.Fits depth := by
  obtain ⟨digits, rfl, value⟩ := natural
  have read := (isNatural_num_iff _ word).mp ⟨digits, rfl, value⟩
  refine within_num.mpr ?_
  rw [Numeral.inRange, read]
  rfl

theorem reads_natural : Reads Reader.uint64 fun json word => json.IsNatural word.toNat := by
  intro tokens word rest
  rw [reads_uint64]
  constructor
  · rintro ⟨_, whole, n, rfl, read⟩
    exact ⟨.num n, whole, (isNatural_num_iff n word).mpr read⟩
  · rintro ⟨_, whole, digits, rfl, value⟩
    exact ⟨_, whole, _, rfl, (isNatural_num_iff _ word).mp ⟨digits, rfl, value⟩⟩

/-! ## Members -/

section Members
variable {depth : Nat} {draft next : EventDraft} {key : String} {rest : List Token}

theorem step_of_read {tokens : List Token}
    (read : EventDraft.read (Reader.value depth) draft key tokens = .ok (next, rest)) :
    ∃ value : Json, tokens = .colon :: (value.tokens ++ rest) ∧ value.Fits depth ∧
      draft.Step (key, value) next := by
  rw [EventDraft.read.eq_def] at read
  dsimp only at read
  split at read
  · obtain ⟨_, unset, read⟩ := bind_eq_ok_iff.mp read
    obtain ⟨⟨name, left⟩, field, same⟩ := bind_eq_ok_iff.mp read
    cases same
    obtain ⟨_, rfl, rfl⟩ := (reads_string.field _ _ _).mp field
    exact ⟨_, rfl, within_str name, .part ((unset_eq_ok_iff _).mp unset)⟩
  · obtain ⟨_, unset, read⟩ := bind_eq_ok_iff.mp read
    obtain ⟨⟨time, left⟩, field, same⟩ := bind_eq_ok_iff.mp read
    cases same
    obtain ⟨_, rfl, natural⟩ := (reads_natural.field _ _ _).mp field
    exact ⟨_, rfl, natural.fits depth, .startMs ((unset_eq_ok_iff _).mp unset) natural⟩
  · obtain ⟨_, unset, read⟩ := bind_eq_ok_iff.mp read
    obtain ⟨⟨time, left⟩, field, same⟩ := bind_eq_ok_iff.mp read
    cases same
    obtain ⟨_, rfl, natural⟩ := (reads_natural.field _ _ _).mp field
    exact ⟨_, rfl, natural.fits depth, .endMs ((unset_eq_ok_iff _).mp unset) natural⟩
  · next notPart notStart notEnd =>
    obtain ⟨⟨others, left⟩, field, same⟩ := bind_eq_ok_iff.mp read
    cases same
    obtain ⟨_, rfl, fits, rfl⟩ := (readsMember_anyMember (reads_value depth) _ _ _ _ _).mp field
    exact ⟨_, rfl, fits, .other notPart notStart notEnd⟩

theorem read_of_step {value : Json} (fits : value.Fits depth) (step : draft.Step (key, value) next) :
    EventDraft.read (Reader.value depth) draft key (.colon :: (value.tokens ++ rest)) =
      .ok (next, rest) := by
  cases step with
  | @part name unset =>
      have field := (reads_string.field _ rest name).mpr ⟨.str name, rfl, rfl⟩
      rw [EventDraft.read, unset, field]
      rfl
  | @startMs _ time unset natural =>
      have field := (reads_natural.field _ rest time).mpr ⟨value, rfl, natural⟩
      rw [EventDraft.read, unset, field]
      rfl
  | @endMs _ time unset natural =>
      have field := (reads_natural.field _ rest time).mpr ⟨value, rfl, natural⟩
      rw [EventDraft.read, unset, field]
      rfl
  | other notPart notStart notEnd =>
      have field := (readsMember_anyMember (reads_value depth) draft.others key
        (.colon :: (value.tokens ++ rest)) _ rest).mpr ⟨value, rfl, fits, rfl⟩
      rw [EventDraft.read.eq_4 _ _ _ _ notPart notStart notEnd]
      exact bind_eq_ok_iff.mpr ⟨_, field, rfl⟩

end Members

theorem readsMember_read (depth : Nat) : ReadsMember (EventDraft.read (Reader.value depth))
    fun draft member next => member.2.Fits depth ∧ draft.Step member next := by
  intro draft key tokens next rest
  constructor
  · exact step_of_read
  · rintro ⟨value, rfl, fits, step⟩
    exact read_of_step fits step

/-! ## Events -/

theorem Event.reads_reader (depth : Nat) :
    Reads (Event.reader depth) fun json event => json.Fits depth ∧ json.Describes event := by
  intro tokens event rest
  constructor
  · intro read
    rw [reader.eq_def] at read
    split at read
    · cases read
    · next depth tokens =>
      obtain ⟨⟨draft, left⟩, members, read⟩ := bind_eq_ok_iff.mp read
      obtain ⟨event, finished, same⟩ := bind_eq_ok_iff.mp read
      cases same
      obtain ⟨found, rfl, chain⟩ := ((readsMember_read depth).members _ _ _ _).mp members
      obtain ⟨fits, chain⟩ := chain_and_iff.mp chain
      exact ⟨.obj found, rfl, fits, found, rfl,
        (exists_draft_iff found event).mp ⟨draft, chain, finished⟩⟩
    · cases read
  · rintro ⟨_, rfl, fits, members, rfl, stated⟩
    cases depth with
    | zero => exact fits.elim
    | succ depth =>
        obtain ⟨draft, chain, finished⟩ := (exists_draft_iff members event).mpr stated
        have read := ((readsMember_read depth).members (memberTokens members ++ rest) rest {}
          draft).mpr ⟨members, rfl, chain_and_iff.mpr ⟨fits, chain⟩⟩
        change (Reader.members (EventDraft.read (Reader.value depth)) {}
          (memberTokens members ++ rest) >>= _) = _
        rw [read]
        change (draft.finish >>= _) = _
        rw [finished]
        rfl

/-! ## Lists -/

theorem Event.reads_listReader : Reads Event.listReader fun json events =>
    ∃ items, json = .arr items ∧ (arr items).Fits maxDepth ∧
      List.Forall₂ Json.Describes items events := by
  intro tokens events rest
  constructor
  · intro read
    rw [listReader.eq_def] at read
    split at read
    · obtain ⟨items, rfl, each⟩ := ((reads_reader (maxDepth - 1)).elements _ _ _).mp read
      obtain ⟨fits, described⟩ := (List.forall₂_and_left _ _).mp each
      exact ⟨.arr items, rfl, items, rfl, fits, described⟩
    · cases read
  · rintro ⟨_, rfl, items, rfl, fits, described⟩
    have each := (List.forall₂_and_left _ _).mpr ⟨fits, described⟩
    exact ((reads_reader (maxDepth - 1)).elements _ _ _).mpr ⟨items, rfl, each⟩

theorem Event.listOfText_eq_ok_iff (text : String) (events : List Event) :
    listOfText text = .ok events ↔ ∃ items, Document (.arr items) text ∧
      (Json.arr items).Fits maxDepth ∧ List.Forall₂ Json.Describes items events := by
  rw [listOfText, complete_eq_ok_iff reads_listReader]
  constructor
  · rintro ⟨_, document, items, rfl, fits, described⟩
    exact ⟨items, document, fits, described⟩
  · rintro ⟨items, document, fits, described⟩
    exact ⟨.arr items, document, items, rfl, fits, described⟩

end VehicleShow
