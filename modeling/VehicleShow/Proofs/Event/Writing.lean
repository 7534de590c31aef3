import VehicleShow.Proofs.Event.Drafts

/-! # The value written for an event

The value describes the event again, as long as the event's part is not a name of the catalog that
is kept as an unknown one.  Its keys are distinct and its members hold no brackets. -/
set_option autoImplicit false
namespace VehicleShow

open Json

/-! ## Parts that can be written -/

/-- The name of a part in the catalog does not stand as an unknown one. -/
def PartKey.Proper (key : PartKey) : Prop := ∀ part : Part, key ≠ .unknown part.name

theorem PartKey.ofName_name {key : PartKey} (proper : key.Proper) : ofName key.name = key := by
  cases key with
  | known part => exact ofName_name_known part
  | unknown name =>
      rw [PartKey.name, ofName]
      split
      · next part found =>
        have named : part.name = name := by simpa using List.find?_some found
        exact absurd (congrArg PartKey.unknown named.symm) (proper part)
      · rfl

theorem PartKey.proper_ofName (name : String) : (ofName name).Proper := by
  intro part same
  rw [ofName] at same
  split at same
  · cases same
  · next absent =>
    cases same
    rw [Part.ofName?_name] at absent
    cases absent

theorem Json.Describes.proper {json : Json} {event : Event} (describes : json.Describes event) :
    event.part.Proper := by
  obtain ⟨_, -, ⟨name, -, isPart⟩, -⟩ := describes
  rw [isPart]
  exact PartKey.proper_ofName name

/-! ## Members that may be left out -/

def optionMember {α : Type} (key : String) (write : α → Json) (value : Option α) :
    List (String × Json) :=
  (value.map fun value => (key, write value)).toList

def flagMember (key : String) (value : Bool) : List (String × Json) :=
  if value then [(key, .bool true)] else []

theorem EventOptions.toMembers_eq (options : EventOptions) : options.toMembers =
    optionMember "effect" (fun mode => .str mode.name) options.effect
      ++ optionMember "power" (fun power => natural power.toUInt64) options.power
      ++ optionMember "blinkSpeed" natural options.blinkSpeed
      ++ flagMember "easeIn" options.easeIn
      ++ flagMember "easeOut" options.easeOut
      ++ optionMember "retroMode" (fun mode => .str mode.name) options.mirrorMode
      ++ optionMember "windowMode" (fun mode => .str mode.name) options.windowMode
      ++ optionMember "trunkMode" (fun mode => .str mode.name) options.trunkMode
      ++ optionMember "flapMode" (fun mode => .str mode.name) options.flapMode := rfl

@[simp] theorem valuesUnder_optionMember {α : Type} (key other : String) (write : α → Json)
    (value : Option α) : valuesUnder key (optionMember other write value) =
      if other = key then (value.map write).toList else [] := by
  cases value <;> simp [optionMember]

@[simp] theorem valuesUnder_flagMember (key other : String) (value : Bool) :
    valuesUnder key (flagMember other value) =
      if other = key then (if value then [.bool true] else []) else [] := by
  cases value <;> simp [flagMember]

theorem keys_optionMember {α : Type} (key : String) (write : α → Json) (value : Option α) :
    ((optionMember key write value).map Prod.fst).Sublist [key] := by
  cases value <;> simp [optionMember]

theorem keys_flagMember (key : String) (value : Bool) :
    ((flagMember key value).map Prod.fst).Sublist [key] := by
  cases value <;> simp [flagMember]

theorem optionally_written {α : Type} {means : Json → α → Prop} {write : α → Json}
    (meant : ∀ value, means (write value) value) (value : Option α) :
    Optionally means (value.map write).toList value := by
  cases value with
  | none => exact .absent
  | some value => exact .given (meant value)

theorem flagged_written (value : Bool) :
    Flagged (if value then [.bool true] else []) value := by
  cases value with
  | false => exact .absent
  | true => exact .given true

theorem isNatural_natural (n : UInt64) : (natural n).IsNatural n.toNat :=
  ⟨Digit.ofNat n.toNat, rfl, Digit.value_ofNat n.toNat⟩

theorem names_name {α : Type} {ofName? : String → Option α} {name : α → String}
    (found : ∀ choice, ofName? (name choice) = some choice) (choice : α) :
    (Json.str (name choice)).Names ofName? choice :=
  ⟨name choice, found choice, .inl rfl⟩

/-! ## What the written value says -/

theorem EventOptions.statedBy_toMembers (options : EventOptions) :
    options.StatedBy options.toMembers := by
  rw [toMembers_eq]
  constructor
  · simpa using optionally_written (names_name Effect.ofName?_name) options.effect
  · simpa using optionally_written (fun power => by simpa using isNatural_natural power.toUInt64)
      options.power
  · simpa using optionally_written isNatural_natural options.blinkSpeed
  · simpa using flagged_written options.easeIn
  · simpa using flagged_written options.easeOut
  · simpa using optionally_written (names_name MirrorMode.ofName?_name) options.mirrorMode
  · simpa using optionally_written (names_name WindowMode.ofName?_name) options.windowMode
  · simpa using optionally_written (names_name TrunkMode.ofName?_name) options.trunkMode
  · simpa using optionally_written (names_name FlapMode.ofName?_name) options.flapMode

/-- Under the key of an option the event says what its options say. -/
theorem Event.valuesUnder_of_isOption {event : Event} {own : List (String × Json)}
    (written : event.toJson = .obj own) {key : String} (option : isOption key = true) :
    valuesUnder key own = valuesUnder key event.options.toMembers := by
  cases written
  simp only [isOption, Bool.and_eq_true, bne_iff_ne] at option
  simp [option.1.1.symm, option.1.2.symm, option.2.symm]

theorem Event.describes_toJson {event : Event} (proper : event.part.Proper) :
    event.toJson.Describes event := by
  refine ⟨_, rfl, ⟨event.part.name, ?_, (PartKey.ofName_name proper).symm⟩,
    ⟨_, ?_, isNatural_natural event.startMs⟩, ⟨_, ?_, isNatural_natural event.endMs⟩, ?_⟩
  · simp [EventOptions.toMembers_eq]
  · simp [EventOptions.toMembers_eq]
  · simp [EventOptions.toMembers_eq]
  · exact event.options.statedBy_toMembers.congr fun key option =>
      (valuesUnder_of_isOption rfl option).symm

/-! ## The shape of the written value -/

/-- A value without brackets, its number written from a word. -/
inductive Json.Plain : Json → Prop
  | str (content : String) : Plain (.str content)
  | natural (n : UInt64) : Plain (natural n)
  | bool (value : Bool) : Plain (.bool value)

theorem Json.Plain.noRepeats {json : Json} (plain : json.Plain) : json.NoRepeats := by
  cases plain with
  | str content => exact .str content
  | natural n => exact .num _
  | bool value => exact .bool value

theorem Json.Plain.within {allowed : Numeral → Prop} (words : ∀ n, allowed (.ofUInt64 n))
    {json : Json} (plain : json.Plain) : json.Within allowed 0 := by
  cases plain with
  | str => trivial
  | natural n => exact words n
  | bool => trivial

theorem plain_optionMember {α : Type} (key : String) {write : α → Json}
    (plain : ∀ value, (write value).Plain) (value : Option α) :
    ∀ member ∈ optionMember key write value, member.2.Plain := by
  cases value with
  | none => simp [optionMember]
  | some value => simpa [optionMember] using plain value

theorem plain_flagMember (key : String) (value : Bool) :
    ∀ member ∈ flagMember key value, member.2.Plain := by
  cases value with
  | false => simp [flagMember]
  | true => simpa [flagMember] using Plain.bool true

theorem EventOptions.plain_toMembers (options : EventOptions) :
    ∀ member ∈ options.toMembers, member.2.Plain := by
  simp only [toMembers_eq, List.forall_mem_append]
  refine ⟨⟨⟨⟨⟨⟨⟨⟨?_, ?_⟩, ?_⟩, ?_⟩, ?_⟩, ?_⟩, ?_⟩, ?_⟩, ?_⟩
  · exact plain_optionMember _ (fun _ => .str _) _
  · exact plain_optionMember _ (fun _ => .natural _) _
  · exact plain_optionMember _ .natural _
  · exact plain_flagMember _ _
  · exact plain_flagMember _ _
  · exact plain_optionMember _ (fun _ => .str _) _
  · exact plain_optionMember _ (fun _ => .str _) _
  · exact plain_optionMember _ (fun _ => .str _) _
  · exact plain_optionMember _ (fun _ => .str _) _

def optionKeys : List String :=
  ["effect", "power", "blinkSpeed", "easeIn", "easeOut", "retroMode", "windowMode", "trunkMode",
   "flapMode"]

theorem EventOptions.keys_toMembers (options : EventOptions) :
    (options.toMembers.map Prod.fst).Sublist optionKeys := by
  rw [toMembers_eq]
  simp only [List.map_append]
  exact (keys_optionMember ..).append (keys_optionMember ..) |>.append (keys_optionMember ..)
    |>.append (keys_flagMember ..) |>.append (keys_flagMember ..) |>.append (keys_optionMember ..)
    |>.append (keys_optionMember ..) |>.append (keys_optionMember ..)
    |>.append (keys_optionMember ..)

theorem Event.exists_members (event : Event) : ∃ members, event.toJson = .obj members ∧
    (members.map Prod.fst).Nodup ∧ ∀ member ∈ members, member.2.Plain := by
  refine ⟨_, rfl, ?_, ?_⟩
  · have distinct : ("part" :: "startMs" :: "endMs" :: optionKeys).Nodup := by decide
    have keys := event.options.keys_toMembers
    exact (((keys.cons_cons "endMs").cons_cons "startMs").cons_cons "part").nodup distinct
  · rw [List.forall_mem_append]
    refine ⟨?_, event.options.plain_toMembers⟩
    simp only [List.forall_mem_cons]
    exact ⟨.str _, .natural _, .natural _, by simp⟩

theorem Event.noRepeats_toJson (event : Event) : event.toJson.NoRepeats := by
  obtain ⟨members, written, distinct, plain⟩ := event.exists_members
  rw [written]
  exact .obj distinct fun member isMember => (plain member isMember).noRepeats

theorem Event.within_toJson {allowed : Numeral → Prop} (words : ∀ n, allowed (.ofUInt64 n))
    (event : Event) : event.toJson.Within allowed 1 := by
  obtain ⟨members, written, -, plain⟩ := event.exists_members
  rw [written]
  exact fun member isMember => (plain member isMember).within words

/-! ## Lists of events -/

theorem Event.within_toJsons {allowed : Numeral → Prop} (words : ∀ n, allowed (.ofUInt64 n))
    (events : List Event) : (Json.arr (events.map toJson)).Within allowed 2 := by
  intro item member
  obtain ⟨event, -, rfl⟩ := List.mem_map.mp member
  exact event.within_toJson words

theorem Event.noRepeats_toJsons (events : List Event) :
    (Json.arr (events.map toJson)).NoRepeats := by
  refine .arr fun item member => ?_
  obtain ⟨event, -, rfl⟩ := List.mem_map.mp member
  exact event.noRepeats_toJson

theorem Event.describes_toJsons {events : List Event}
    (proper : ∀ event ∈ events, event.part.Proper) :
    List.Forall₂ Json.Describes (events.map toJson) events := by
  rw [List.forall₂_map_left_iff, List.forall₂_same]
  exact fun event member => describes_toJson (proper event member)

theorem proper_of_described {items : List Json} {events : List Event}
    (described : List.Forall₂ Json.Describes items events) :
    ∀ event ∈ events, event.part.Proper := by
  induction described with
  | nil => simp
  | cons first _ ih =>
      rw [List.forall_mem_cons]
      exact ⟨first.proper, ih⟩

end VehicleShow
