import VehicleShow.Proofs.Event.Reading
import VehicleShow.Proofs.Event.Writing

/-! # Members in any order

An event is read back from its members in any order, with foreign members anywhere between them.  An
option that is absent may also be given as null, and a flag that is not set as false.
`Event.ofText_of_arranged` says so of every text of such an object. -/
set_option autoImplicit false
namespace VehicleShow

open Json

/-! ## Members that say nothing -/

def nullMember {α : Type} (key : String) (value : Option α) : List (String × Json) :=
  if value.isNone then [(key, .null)] else []

def falseMember (key : String) (value : Bool) : List (String × Json) :=
  if value then [] else [(key, .bool false)]

def EventOptions.silentMembers (options : EventOptions) : List (String × Json) :=
  nullMember "effect" options.effect
    ++ nullMember "power" options.power
    ++ nullMember "blinkSpeed" options.blinkSpeed
    ++ falseMember "easeIn" options.easeIn
    ++ falseMember "easeOut" options.easeOut
    ++ nullMember "retroMode" options.mirrorMode
    ++ nullMember "windowMode" options.windowMode
    ++ nullMember "trunkMode" options.trunkMode
    ++ nullMember "flapMode" options.flapMode

def eventKeys : List String := "part" :: "startMs" :: "endMs" :: optionKeys

@[simp] theorem valuesUnder_nullMember {α : Type} (key other : String) (value : Option α) :
    valuesUnder key (nullMember other value) =
      if other = key then (if value.isNone then [.null] else []) else [] := by
  cases value <;> simp [nullMember]

@[simp] theorem valuesUnder_falseMember (key other : String) (value : Bool) :
    valuesUnder key (falseMember other value) =
      if other = key then (if value then [] else [.bool false]) else [] := by
  cases value <;> simp [falseMember]

/-! ## Values under one key -/

/-- Written values and some of the silent ones, in any order. -/
def Arranged (written silent values : List Json) : Prop :=
  ∃ spare : List Json, spare.Sublist silent ∧ values.Perm (written ++ spare)

theorem Arranged.eq_of_written {json : Json} {values : List Json}
    (arranged : Arranged [json] [] values) : values = [json] := by
  obtain ⟨spare, silent, perm⟩ := arranged
  rw [List.sublist_nil.mp silent, List.append_nil] at perm
  exact List.perm_singleton.mp perm

theorem Arranged.eq_of_silent {json : Json} {values : List Json}
    (arranged : Arranged [] [json] values) : values = [] ∨ values = [json] := by
  obtain ⟨spare, silent, perm⟩ := arranged
  rw [List.nil_append] at perm
  rcases List.sublist_singleton.mp silent with none | all
  · rw [none] at perm
    exact Or.inl perm.eq_nil
  · rw [all] at perm
    exact Or.inr (List.perm_singleton.mp perm)

theorem optionally_of_arranged {α : Type} {means : Json → α → Prop} {write : α → Json}
    (meant : ∀ value, means (write value) value) {value : Option α} {values : List Json}
    (arranged : Arranged (value.map write).toList (if value.isNone then [.null] else []) values) :
    Optionally means values value := by
  cases value with
  | none =>
      rcases arranged.eq_of_silent with absent | null
      · rw [absent]
        exact .absent
      · rw [null]
        exact .null
  | some value =>
      rw [arranged.eq_of_written]
      exact .given (meant value)

theorem flagged_of_arranged {value : Bool} {values : List Json}
    (arranged : Arranged (if value then [.bool true] else [])
      (if value then [] else [.bool false]) values) : Flagged values value := by
  cases value with
  | false =>
      rcases arranged.eq_of_silent with absent | unset
      · rw [absent]
        exact .absent
      · rw [unset]
        exact .given false
  | true =>
      rw [arranged.eq_of_written]
      exact .given true

theorem arranged_valuesUnder {own silent spare foreign members : List (String × Json)} {key : String}
    (some : spare.Sublist silent) (unknown : ∀ member ∈ foreign, member.1 ≠ key)
    (arranged : members.Perm (own ++ spare ++ foreign)) :
    Arranged (valuesUnder key own) (valuesUnder key silent) (valuesUnder key members) := by
  have none : valuesUnder key foreign = [] := by
    rw [valuesUnder_eq_nil_iff, List.any_eq_false]
    intro member isMember same
    exact unknown member isMember (eq_of_beq same)
  refine ⟨valuesUnder key spare, (some.filter _).map _, ?_⟩
  have under := (arranged.filter fun member => member.1 == key).map Prod.snd
  change (valuesUnder key members).Perm (valuesUnder key (own ++ spare ++ foreign)) at under
  rwa [valuesUnder_append, valuesUnder_append, none, List.append_nil] at under

/-! ## Events -/

theorem EventOptions.statedBy_of_arranged {options : EventOptions} {members : List (String × Json)}
    (arranged : ∀ key ∈ optionKeys, Arranged (valuesUnder key options.toMembers)
      (valuesUnder key options.silentMembers) (valuesUnder key members)) :
    options.StatedBy members := by
  have under (key : String) (known : key ∈ optionKeys) := arranged key known
  simp only [toMembers_eq, silentMembers] at under
  constructor
  · exact optionally_of_arranged (names_name Effect.ofName?_name)
      (by simpa using under "effect" (by decide))
  · exact optionally_of_arranged (fun power => by simpa using isNatural_natural power.toUInt64)
      (by simpa using under "power" (by decide))
  · exact optionally_of_arranged isNatural_natural (by simpa using under "blinkSpeed" (by decide))
  · exact flagged_of_arranged (by simpa using under "easeIn" (by decide))
  · exact flagged_of_arranged (by simpa using under "easeOut" (by decide))
  · exact optionally_of_arranged (names_name MirrorMode.ofName?_name)
      (by simpa using under "retroMode" (by decide))
  · exact optionally_of_arranged (names_name WindowMode.ofName?_name)
      (by simpa using under "windowMode" (by decide))
  · exact optionally_of_arranged (names_name TrunkMode.ofName?_name)
      (by simpa using under "trunkMode" (by decide))
  · exact optionally_of_arranged (names_name FlapMode.ofName?_name)
      (by simpa using under "flapMode" (by decide))

theorem Event.ofText_eq_ok_iff (text : String) (event : Event) :
    ofText text = .ok event ↔ ∃ json, IsJson text json ∧ json.Describes event := by
  rw [ofText, complete_eq_ok_iff (reads_reader maxDepth)]
  simp only [IsJson, and_assoc]

theorem Event.statedBy_of_arranged {event : Event} (proper : event.part.Proper)
    {own spare foreign members : List (String × Json)} (written : event.toJson = .obj own)
    (silent : spare.Sublist event.options.silentMembers)
    (unknown : ∀ member ∈ foreign, member.1 ∉ eventKeys)
    (arranged : members.Perm (own ++ spare ++ foreign)) : event.StatedBy members := by
  -- No foreign member stands under a known key, so all that is left there is written or silent.
  have under : ∀ key ∈ eventKeys, Arranged (valuesUnder key own)
      (valuesUnder key event.options.silentMembers) (valuesUnder key members) := by
    intro key known
    refine arranged_valuesUnder silent (fun member isMember same => ?_) arranged
    rw [← same] at known
    exact unknown member isMember known
  cases written
  refine ⟨⟨event.part.name, ?_, (PartKey.ofName_name proper).symm⟩,
    ⟨_, ?_, isNatural_natural event.startMs⟩, ⟨_, ?_, isNatural_natural event.endMs⟩, ?_⟩
  · apply Arranged.eq_of_written
    simpa [EventOptions.toMembers_eq, EventOptions.silentMembers] using under "part" (by decide)
  · apply Arranged.eq_of_written
    simpa [EventOptions.toMembers_eq, EventOptions.silentMembers] using under "startMs" (by decide)
  · apply Arranged.eq_of_written
    simpa [EventOptions.toMembers_eq, EventOptions.silentMembers] using under "endMs" (by decide)
  · apply EventOptions.statedBy_of_arranged
    intro key known
    have option : ∀ key ∈ optionKeys, isOption key = true := by decide
    rw [← valuesUnder_of_isOption rfl (option key known)]
    exact under key (by simp [eventKeys, known])

theorem Event.ofText_of_arranged {event : Event} (proper : event.part.Proper)
    {own spare foreign members : List (String × Json)} (written : event.toJson = .obj own)
    (silent : spare.Sublist event.options.silentMembers)
    (unknown : ∀ member ∈ foreign, member.1 ∉ eventKeys)
    (arranged : members.Perm (own ++ spare ++ foreign)) {text : String}
    (isText : IsJson text (.obj members)) : ofText text = .ok event :=
  (ofText_eq_ok_iff text event).mpr
    ⟨_, isText, _, rfl, statedBy_of_arranged proper written silent unknown arranged⟩

/-- An event on a part that is not in the catalog, with an option that only lights have. -/
def smoke : Event where
  part := .unknown "smoke"
  startMs := 40
  endMs := 25
  options := { power := some 7 }

/-- Its members, last first, after foreign ones and options that are given as null or false. -/
def smokeText : String :=
  "\x7b\"note\": 3, \"note\": [\x7b\"part\": 1\x7d], \"easeOut\": false, \"effect\":null,\n"
    ++ " \"power\": 7, \"endMs\": 25, \"startMs\": 40, \"part\" : \"smoke\"\x7d"

theorem Event.ofText_of_arranged_smoke :
    smoke.part.Proper ∧ Event.ofText smokeText = .ok smoke := by
  have proper : smoke.part.Proper := PartKey.proper_ofName "smoke"
  obtain ⟨own, written⟩ : ∃ own, smoke.toJson = .obj own := ⟨_, rfl⟩
  have silent : [("effect", .null), ("easeOut", .bool false)].Sublist smoke.options.silentMembers :=
    .cons_cons _ (.cons _ (.cons _ (.cons_cons _ (List.nil_sublist _))))
  have unknown : ∀ member ∈ [("note", Json.arr [.obj [("part", natural 1)]]), ("note", natural 3)],
      member.1 ∉ eventKeys := by
    simp only [List.forall_mem_cons]
    decide
  refine ⟨proper, ofText_of_arranged proper written silent unknown (List.reverse_perm _) ⟨?_, ?_⟩⟩
  · cases written
    rw [document_iff_lex]
    decide +kernel
  · cases written
    suffices shallow : Fits 3 _ from shallow.mono (fun _ inRange => inRange) (by decide)
    simp [Within, EventOptions.toMembers_eq, optionMember, flagMember, smoke, natural,
      Numeral.inRange_ofUInt64]

end VehicleShow
