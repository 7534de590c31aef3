import VehicleShow.Proofs.Event.Values

/-! # Reading an event from a value

Members are added to a draft one after the other (`EventDraft.Step`); what a list of them makes of a
draft is told key by key (`EventDraft.Grows`).  So an event is read from exactly the values that
describe it (`Event.ofJson_eq_ok_iff`). -/
set_option autoImplicit false
namespace VehicleShow

open Json

/-! ## Reading members one after the other -/

inductive EventDraft.Step (draft : EventDraft) : String × Json → EventDraft → Prop
  | part {name : String} (unset : draft.part = none) :
      Step draft ("part", .str name) { draft with part := some (.ofName name) }
  | startMs {json : Json} {time : UInt64} (unset : draft.startMs = none)
      (natural : json.IsNatural time.toNat) :
      Step draft ("startMs", json) { draft with startMs := some time }
  | endMs {json : Json} {time : UInt64} (unset : draft.endMs = none)
      (natural : json.IsNatural time.toNat) :
      Step draft ("endMs", json) { draft with endMs := some time }
  | other {key : String} {value : Json} (notPart : key ≠ "part") (notStart : key ≠ "startMs")
      (notEnd : key ≠ "endMs") :
      Step draft (key, value) { draft with others := (key, value) :: draft.others }

theorem unset_eq_ok_iff {α : Type} (value : Option α) :
    EventDraft.unset value = .ok () ↔ value = none := by
  cases value <;> simp [EventDraft.unset]

theorem EventDraft.addMember_eq_ok_iff (draft next : EventDraft) (member : String × Json) :
    draft.addMember member = .ok next ↔ draft.Step member next := by
  obtain ⟨key, value⟩ := member
  constructor
  · intro read
    rw [addMember, add.eq_def] at read
    dsimp only at read
    split at read
    · obtain ⟨_, unset, read⟩ := bind_eq_ok_iff.mp read
      obtain ⟨name, isName, read⟩ := bind_eq_ok_iff.mp read
      cases read
      rw [asString_eq_ok_iff] at isName
      rw [isName]
      exact .part ((unset_eq_ok_iff _).mp unset)
    · obtain ⟨_, unset, read⟩ := bind_eq_ok_iff.mp read
      obtain ⟨time, natural, read⟩ := bind_eq_ok_iff.mp read
      cases read
      exact .startMs ((unset_eq_ok_iff _).mp unset) ((asUInt64_eq_ok_iff value time).mp natural)
    · obtain ⟨_, unset, read⟩ := bind_eq_ok_iff.mp read
      obtain ⟨time, natural, read⟩ := bind_eq_ok_iff.mp read
      cases read
      exact .endMs ((unset_eq_ok_iff _).mp unset) ((asUInt64_eq_ok_iff value time).mp natural)
    · next notPart notStart notEnd =>
      cases read
      exact .other notPart notStart notEnd
  · intro step
    cases step with
    | part unset =>
        rw [addMember, add, unset]
        rfl
    | startMs unset natural =>
        rw [addMember, add, unset, (asUInt64_eq_ok_iff _ _).mpr natural]
        rfl
    | endMs unset natural =>
        rw [addMember, add, unset, (asUInt64_eq_ok_iff _ _).mpr natural]
        rfl
    | other notPart notStart notEnd =>
        rw [addMember, add.eq_4 _ _ _ notPart notStart notEnd]

/-- A slot that takes one value, filled by the values that stand under its key. -/
def Fills {α : Type} (means : Json → α → Prop) : Option α → List Json → Option α → Prop
  | before, [], after => after = before
  | none, json :: values, after => ∃ value, means json value ∧ Fills means (some value) values after
  | some _, _ :: _, _ => False

theorem fills_cons_iff {α : Type} {means : Json → α → Prop} {before after : Option α} {json : Json}
    {values : List Json} : Fills means before (json :: values) after ↔
      before = none ∧ ∃ value, means json value ∧ Fills means (some value) values after := by
  cases before <;> simp [Fills]

theorem fills_none_iff {α : Type} {means : Json → α → Prop} {values : List Json} {value : α} :
    Fills means none values (some value) ↔ ∃ json, values = [json] ∧ means json value := by
  cases values with
  | nil => simp [Fills]
  | cons json others =>
      rw [fills_cons_iff]
      cases others with
      | nil =>
          constructor
          · rintro ⟨-, found, meant, same⟩
            cases same
            exact ⟨json, rfl, meant⟩
          · rintro ⟨_, same, meant⟩
            cases same
            exact ⟨rfl, value, meant, rfl⟩
      | cons next others => simp [Fills]

def isOption (key : String) : Bool := key != "part" && key != "startMs" && key != "endMs"

structure EventDraft.Grows (draft : EventDraft) (members : List (String × Json))
    (last : EventDraft) : Prop where
  part : Fills (fun json key => ∃ name, json = .str name ∧ key = .ofName name) draft.part
    (valuesUnder "part" members) last.part
  startMs : Fills (fun json time => json.IsNatural time.toNat) draft.startMs
    (valuesUnder "startMs" members) last.startMs
  endMs : Fills (fun json time => json.IsNatural time.toNat) draft.endMs
    (valuesUnder "endMs" members) last.endMs
  others : last.others = (members.filter fun member => isOption member.1).reverse ++ draft.others

theorem EventDraft.Step.grows {draft next last : EventDraft} {member : String × Json}
    {members : List (String × Json)} (step : draft.Step member next)
    (grows : next.Grows members last) : draft.Grows (member :: members) last := by
  obtain ⟨part, startMs, endMs, others⟩ := grows
  cases step with
  | part unset =>
      refine ⟨?_, by simpa using startMs, by simpa using endMs, by simpa [isOption] using others⟩
      rw [valuesUnder_cons, if_pos rfl, fills_cons_iff]
      exact ⟨unset, _, ⟨_, rfl, rfl⟩, part⟩
  | startMs unset natural =>
      refine ⟨by simpa using part, ?_, by simpa using endMs, by simpa [isOption] using others⟩
      rw [valuesUnder_cons, if_pos rfl, fills_cons_iff]
      exact ⟨unset, _, natural, startMs⟩
  | endMs unset natural =>
      refine ⟨by simpa using part, by simpa using startMs, ?_, by simpa [isOption] using others⟩
      rw [valuesUnder_cons, if_pos rfl, fills_cons_iff]
      exact ⟨unset, _, natural, endMs⟩
  | other notPart notStart notEnd =>
      refine ⟨by simpa [notPart] using part, by simpa [notStart] using startMs,
        by simpa [notEnd] using endMs, ?_⟩
      simpa [isOption, notPart, notStart, notEnd] using others

theorem EventDraft.Grows.step {draft last : EventDraft} {member : String × Json}
    {members : List (String × Json)} (grows : draft.Grows (member :: members) last) :
    ∃ next, draft.Step member next ∧ next.Grows members last := by
  obtain ⟨part, startMs, endMs, others⟩ := grows
  obtain ⟨key, value⟩ := member
  -- The key says which slot the member fills; the other slots do not see it.
  by_cases isPart : key = "part"
  · subst isPart
    rw [valuesUnder_cons, if_pos rfl, fills_cons_iff] at part
    obtain ⟨unset, _, ⟨name, rfl, rfl⟩, part⟩ := part
    exact ⟨_, .part unset, part, by simpa using startMs, by simpa using endMs,
      by simpa [isOption] using others⟩
  by_cases isStart : key = "startMs"
  · subst isStart
    rw [valuesUnder_cons, if_pos rfl, fills_cons_iff] at startMs
    obtain ⟨unset, time, natural, startMs⟩ := startMs
    exact ⟨_, .startMs unset natural, by simpa using part, startMs, by simpa using endMs,
      by simpa [isOption] using others⟩
  by_cases isEnd : key = "endMs"
  · subst isEnd
    rw [valuesUnder_cons, if_pos rfl, fills_cons_iff] at endMs
    obtain ⟨unset, time, natural, endMs⟩ := endMs
    exact ⟨_, .endMs unset natural, by simpa using part, by simpa using startMs, endMs,
      by simpa [isOption] using others⟩
  · refine ⟨_, .other isPart isStart isEnd, by simpa [isPart] using part,
      by simpa [isStart] using startMs, by simpa [isEnd] using endMs, ?_⟩
    simpa [isOption, isPart, isStart, isEnd] using others

theorem EventDraft.chain_iff {draft last : EventDraft} {members : List (String × Json)} :
    Chain EventDraft.Step draft members last ↔ draft.Grows members last := by
  induction members generalizing draft with
  | nil =>
      constructor
      · intro chain
        cases chain
        exact ⟨rfl, rfl, rfl, rfl⟩
      · rintro ⟨part, startMs, endMs, others⟩
        have same : last = draft := by
          cases draft
          cases last
          simp_all [Fills]
        rw [same]
        exact .nil draft
  | cons member members ih =>
      constructor
      · intro chain
        cases chain with
        | cons step chain => exact step.grows (ih.mp chain)
      · intro grows
        obtain ⟨next, step, grows⟩ := grows.step
        exact .cons step (ih.mpr grows)

/-! ## Reading an event -/

theorem EventOptions.StatedBy.congr {options : EventOptions} {members others : List (String × Json)}
    (same : ∀ key, isOption key = true → valuesUnder key members = valuesUnder key others)
    (stated : options.StatedBy members) : options.StatedBy others where
  effect := same "effect" rfl ▸ stated.effect
  power := same "power" rfl ▸ stated.power
  blinkSpeed := same "blinkSpeed" rfl ▸ stated.blinkSpeed
  easeIn := same "easeIn" rfl ▸ stated.easeIn
  easeOut := same "easeOut" rfl ▸ stated.easeOut
  mirrorMode := same "retroMode" rfl ▸ stated.mirrorMode
  windowMode := same "windowMode" rfl ▸ stated.windowMode
  trunkMode := same "trunkMode" rfl ▸ stated.trunkMode
  flapMode := same "flapMode" rfl ▸ stated.flapMode

theorem required_eq_ok_iff {α : Type} (found : Option α) (value : α) :
    EventDraft.required found = .ok value ↔ found = some value := by
  cases found <;> simp [EventDraft.required]

theorem EventDraft.finish_eq_ok_iff (draft : EventDraft) (event : Event) :
    draft.finish = .ok event ↔ draft.part = some event.part ∧ draft.startMs = some event.startMs ∧
      draft.endMs = some event.endMs ∧ event.options.StatedBy draft.others.reverse := by
  rw [finish]
  constructor
  · intro read
    obtain ⟨part, readPart, read⟩ := bind_eq_ok_iff.mp read
    obtain ⟨startMs, readStart, read⟩ := bind_eq_ok_iff.mp read
    obtain ⟨endMs, readEnd, read⟩ := bind_eq_ok_iff.mp read
    obtain ⟨options, readOptions, read⟩ := bind_eq_ok_iff.mp read
    cases read
    exact ⟨(required_eq_ok_iff _ _).mp readPart, (required_eq_ok_iff _ _).mp readStart,
      (required_eq_ok_iff _ _).mp readEnd, (EventOptions.ofMembers_eq_ok_iff _ _).mp readOptions⟩
  · rintro ⟨part, startMs, endMs, options⟩
    rw [part, startMs, endMs, (EventOptions.ofMembers_eq_ok_iff _ _).mpr options]
    rfl

/-- The members of an object, taken one by one from an empty draft, make the event they state. -/
theorem exists_draft_iff (members : List (String × Json)) (event : Event) :
    (∃ draft, Chain EventDraft.Step {} members draft ∧ draft.finish = .ok event) ↔
      event.StatedBy members := by
  have options : ∀ key, isOption key = true →
      valuesUnder key (members.filter fun member => isOption member.1) = valuesUnder key members :=
    fun key isKey => valuesUnder_filter isKey members
  simp only [EventDraft.chain_iff, EventDraft.finish_eq_ok_iff]
  constructor
  · rintro ⟨draft, grows, part, startMs, endMs, stated⟩
    obtain ⟨partFills, startFills, endFills, others⟩ := grows
    rw [part, fills_none_iff] at partFills
    rw [startMs, fills_none_iff] at startFills
    rw [endMs, fills_none_iff] at endFills
    rw [others, List.append_nil, List.reverse_reverse] at stated
    obtain ⟨_, single, name, rfl, isPart⟩ := partFills
    exact ⟨⟨name, single, isPart⟩, startFills, endFills, stated.congr options⟩
  · rintro ⟨⟨name, single, isPart⟩, startMs, endMs, stated⟩
    have others := stated.congr fun key isKey => (options key isKey).symm
    refine ⟨⟨some event.part, some event.startMs, some event.endMs,
      (members.filter fun member => isOption member.1).reverse⟩, ⟨?_, ?_, ?_, ?_⟩, rfl, rfl, rfl, ?_⟩
    · exact fills_none_iff.mpr ⟨_, single, name, rfl, isPart⟩
    · exact fills_none_iff.mpr startMs
    · exact fills_none_iff.mpr endMs
    · exact (List.append_nil _).symm
    · rwa [List.reverse_reverse]

theorem EventDraft.addMembers_eq_ok_iff {draft last : EventDraft} {members : List (String × Json)} :
    members.foldlM EventDraft.addMember draft = .ok last ↔ Chain EventDraft.Step draft members last := by
  induction members generalizing draft with
  | nil =>
      constructor
      · intro same
        cases same
        exact .nil _
      · intro chain
        cases chain
        rfl
  | cons member members ih =>
      rw [List.foldlM_cons, bind_eq_ok_iff]
      simp only [addMember_eq_ok_iff, ih]
      constructor
      · rintro ⟨next, first, others⟩
        exact .cons first others
      · intro chain
        cases chain with
        | cons first others => exact ⟨_, first, others⟩

theorem Event.ofJson_eq_ok_iff (json : Json) (event : Event) :
    ofJson json = .ok event ↔ json.Describes event := by
  constructor
  · intro read
    cases json with
    | obj members =>
        obtain ⟨draft, read, finished⟩ := bind_eq_ok_iff.mp read
        have chain := EventDraft.addMembers_eq_ok_iff.mp read
        exact ⟨members, rfl, (exists_draft_iff members event).mp ⟨draft, chain, finished⟩⟩
    | _ => cases read
  · rintro ⟨members, rfl, stated⟩
    obtain ⟨draft, chain, finished⟩ := (exists_draft_iff members event).mpr stated
    rw [ofJson, EventDraft.addMembers_eq_ok_iff.mpr chain]
    exact finished

theorem Event.ofJsons_eq_ok_iff (items : List Json) (events : List Event) :
    items.mapM ofJson = .ok events ↔ List.Forall₂ Json.Describes items events := by
  induction items generalizing events with
  | nil =>
      rw [List.forall₂_nil_left_iff]
      constructor
      · intro same
        cases same
        rfl
      · rintro rfl
        rfl
  | cons item items ih =>
      rw [List.mapM_cons, List.forall₂_cons_left_iff, bind_eq_ok_iff]
      simp only [ofJson_eq_ok_iff]
      constructor
      · rintro ⟨event, first, read⟩
        obtain ⟨others, later, same⟩ := bind_eq_ok_iff.mp read
        cases same
        exact ⟨event, others, first, (ih others).mp later, rfl⟩
      · rintro ⟨event, others, first, later, rfl⟩
        refine ⟨event, first, ?_⟩
        rw [(ih others).mpr later]
        rfl

end VehicleShow
