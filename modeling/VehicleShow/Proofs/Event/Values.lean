import VehicleShow.Event.Document
import VehicleShow.Proofs.Json.Members
import VehicleShow.Proofs.Json.Reading

/-! # What values describe an event

`Json.Describes` says which values an event is read from, key by key and whatever their order:
`part`, `startMs` and `endMs` stand once, every option at most once, and what else stands there does
not matter.  Collapsing a value keeps what it describes. -/
set_option autoImplicit false
namespace VehicleShow

namespace Json

/-! ## Single values -/

/-- A bare run of digits. -/
def IsNatural (json : Json) (n : Nat) : Prop :=
  ∃ digits, json = .num ⟨false, digits, [], none⟩ ∧ Digit.value digits = n

/-- The name of a choice, or an object whose one member has that name and holds nothing. -/
def Names {α : Type} (ofName? : String → Option α) (json : Json) (choice : α) : Prop :=
  ∃ name, ofName? name = some choice ∧
    (json = .str name ∨ json = .obj [(name, .null)] ∨ json = .obj [(name, .obj [])])

inductive Optionally {α : Type} (means : Json → α → Prop) : List Json → Option α → Prop
  | absent : Optionally means [] none
  | null : Optionally means [.null] none
  | given {json : Json} {value : α} (meant : means json value) :
      Optionally means [json] (some value)

inductive Flagged : List Json → Bool → Prop
  | absent : Flagged [] false
  | given (value : Bool) : Flagged [.bool value] value

theorem Numeral.toUInt64?_eq_some_iff (n : Numeral) (word : UInt64) :
    n.toUInt64? = some word ↔ n.negative = false ∧ n.fraction = [] ∧ n.exponent = none ∧
      Digit.value n.whole = word.toNat := by
  rw [toUInt64?]
  constructor
  · intro read
    split at read
    · next plain =>
      obtain ⟨sign, fraction, exponent, small⟩ := plain
      cases read
      exact ⟨sign, fraction, exponent, (UInt64.toNat_ofNat_of_lt' small).symm⟩
    · cases read
  · rintro ⟨sign, fraction, exponent, value⟩
    have small : Digit.value n.whole < UInt64.size := value ▸ word.toNat_lt_size
    rw [if_pos ⟨sign, fraction, exponent, small⟩, value, UInt64.ofNat_toNat]

theorem isNatural_num_iff (n : Numeral) (word : UInt64) :
    (num n).IsNatural word.toNat ↔ n.toUInt64? = some word := by
  rw [Numeral.toUInt64?_eq_some_iff]
  obtain ⟨negative, whole, fraction, exponent⟩ := n
  constructor
  · rintro ⟨digits, same, value⟩
    cases same
    exact ⟨rfl, rfl, rfl, value⟩
  · rintro ⟨rfl, rfl, rfl, value⟩
    exact ⟨whole, rfl, value⟩

theorem asUInt64_eq_ok_iff (json : Json) (word : UInt64) :
    asUInt64 json = .ok word ↔ json.IsNatural word.toNat := by
  cases json with
  | num n =>
      rw [isNatural_num_iff, asUInt64]
      cases n.toUInt64? <;> simp
  | _ =>
      constructor
      · intro never
        cases never
      · rintro ⟨_, never, -⟩
        cases never

theorem asUInt32_eq_ok_iff (json : Json) (word : UInt32) :
    asUInt32 json = .ok word ↔ json.IsNatural word.toNat := by
  have wide : json.IsNatural word.toNat ↔ asUInt64 json = .ok word.toUInt64 := by
    rw [asUInt64_eq_ok_iff, UInt32.toNat_toUInt64]
  rw [wide, asUInt32]
  cases asUInt64 json with
  | error fault => simp
  | ok found =>
      dsimp only
      constructor
      · intro read
        split at read
        · next small =>
          cases read
          congr 1
          apply UInt64.toNat_inj.mp
          simp [Nat.mod_eq_of_lt small]
        · cases read
      · intro same
        cases same
        have small : word.toUInt64.toNat < UInt32.size := by simpa using word.toNat_lt_size
        rw [if_pos small, UInt32.toUInt32_toUInt64]

theorem asString_eq_ok_iff (json : Json) (content : String) :
    asString json = .ok content ↔ json = .str content := by
  cases json <;> simp [asString]

theorem asChoice_eq_ok_iff {α : Type} (ofName? : String → Option α) (json : Json) (choice : α) :
    asChoice ofName? json = .ok choice ↔ json.Names ofName? choice := by
  have found : ∀ name, (ofName? name).elim (.error Fault.mismatch) Except.ok = .ok choice ↔
      ofName? name = some choice := by
    intro name
    cases ofName? name <;> simp
  constructor
  · intro read
    rw [asChoice.eq_def] at read
    split at read
    · exact ⟨_, (found _).mp read, .inl rfl⟩
    · exact ⟨_, (found _).mp read, .inr (.inl rfl)⟩
    · exact ⟨_, (found _).mp read, .inr (.inr rfl)⟩
    · cases read
  · rintro ⟨name, chosen, rfl | rfl | rfl⟩
    · exact (found name).mpr chosen
    · exact (found name).mpr chosen
    · exact (found name).mpr chosen

/-! ## Options and flags -/

section Options
variable {key : String} {members : List (String × Json)}

theorem optional_eq_ok_iff {α : Type} {read : Json → Except Fault α} {means : Json → α → Prop}
    (reads : ∀ json value, read json = .ok value ↔ means json value)
    (notNull : ∀ value, ¬ means .null value) (value : Option α) :
    (unique? key members >>= optional read) = .ok value ↔
      Optionally means (valuesUnder key members) value := by
  rw [bind_eq_ok_iff]
  simp only [unique?_eq_ok_iff]
  constructor
  · rintro ⟨found, under, result⟩
    rw [under]
    cases found with
    | none =>
        cases result
        exact .absent
    | some json =>
        by_cases null : json = .null
        · subst null
          cases result
          exact .null
        · rw [optional.eq_3 read json null] at result
          cases got : read json with
          | error fault =>
              rw [got] at result
              cases result
          | ok meant =>
              rw [got] at result
              cases result
              exact .given ((reads json meant).mp got)
  · intro stated
    generalize valuesUnder key members = values at stated
    cases stated with
    | absent => exact ⟨none, rfl, rfl⟩
    | null => exact ⟨some .null, rfl, rfl⟩
    | @given json value meant =>
        refine ⟨some json, rfl, ?_⟩
        rw [optional, (reads json value).mpr meant]
        · rfl
        · rintro rfl
          exact notNull value meant

theorem flag_eq_ok_iff (value : Bool) :
    (unique? key members >>= EventOptions.flag) = .ok value ↔
      Flagged (valuesUnder key members) value := by
  rw [bind_eq_ok_iff]
  simp only [unique?_eq_ok_iff]
  constructor
  · rintro ⟨found, under, result⟩
    rw [under]
    cases found with
    | none =>
        cases result
        exact .absent
    | some json =>
        cases json with
        | bool value =>
            cases result
            exact .given value
        | _ => cases result
  · intro stated
    generalize valuesUnder key members = values at stated
    cases stated with
    | absent => exact ⟨none, rfl, rfl⟩
    | given => exact ⟨some (.bool value), rfl, rfl⟩

end Options

end Json

open Json

/-! ## What an object says of an event -/

structure EventOptions.StatedBy (options : EventOptions) (members : List (String × Json)) :
    Prop where
  effect : Optionally (Names Effect.ofName?) (valuesUnder "effect" members) options.effect
  power : Optionally (fun json power => json.IsNatural power.toNat)
    (valuesUnder "power" members) options.power
  blinkSpeed : Optionally (fun json speed => json.IsNatural speed.toNat)
    (valuesUnder "blinkSpeed" members) options.blinkSpeed
  easeIn : Flagged (valuesUnder "easeIn" members) options.easeIn
  easeOut : Flagged (valuesUnder "easeOut" members) options.easeOut
  mirrorMode : Optionally (Names MirrorMode.ofName?) (valuesUnder "retroMode" members)
    options.mirrorMode
  windowMode : Optionally (Names WindowMode.ofName?) (valuesUnder "windowMode" members)
    options.windowMode
  trunkMode : Optionally (Names TrunkMode.ofName?) (valuesUnder "trunkMode" members)
    options.trunkMode
  flapMode : Optionally (Names FlapMode.ofName?) (valuesUnder "flapMode" members) options.flapMode

structure Event.StatedBy (event : Event) (members : List (String × Json)) : Prop where
  part : ∃ name, valuesUnder "part" members = [.str name] ∧ event.part = .ofName name
  startMs : ∃ json, valuesUnder "startMs" members = [json] ∧ json.IsNatural event.startMs.toNat
  endMs : ∃ json, valuesUnder "endMs" members = [json] ∧ json.IsNatural event.endMs.toNat
  options : event.options.StatedBy members

def Json.Describes (json : Json) (event : Event) : Prop :=
  ∃ members, json = .obj members ∧ event.StatedBy members

/-! ## Reading options -/

theorem not_names_null {α : Type} {ofName? : String → Option α} (choice : α) :
    ¬ Names ofName? .null choice := by
  rintro ⟨_, -, never | never | never⟩ <;> cases never

theorem not_isNatural_null (n : Nat) : ¬ IsNatural .null n := by
  rintro ⟨_, never, -⟩
  cases never

theorem EventOptions.ofMembers_eq_ok_iff (members : List (String × Json)) (options : EventOptions) :
    ofMembers members = .ok options ↔ options.StatedBy members := by
  have choice {α : Type} (ofName? : String → Option α) (key : String) :=
    @optional_eq_ok_iff key members α _ _ (asChoice_eq_ok_iff ofName?) not_names_null
  have power (key : String) := @optional_eq_ok_iff key members _ _ _ asUInt32_eq_ok_iff
    fun power => not_isNatural_null power.toNat
  have speed (key : String) := @optional_eq_ok_iff key members _ _ _ asUInt64_eq_ok_iff
    fun speed => not_isNatural_null speed.toNat
  -- Each option is looked up and read before the next one.
  simp only [ofMembers, ← bind_assoc]
  constructor
  · intro read
    obtain ⟨effect, readEffect, read⟩ := bind_eq_ok_iff.mp read
    obtain ⟨percent, readPower, read⟩ := bind_eq_ok_iff.mp read
    obtain ⟨blinkSpeed, readBlinkSpeed, read⟩ := bind_eq_ok_iff.mp read
    obtain ⟨easeIn, readEaseIn, read⟩ := bind_eq_ok_iff.mp read
    obtain ⟨easeOut, readEaseOut, read⟩ := bind_eq_ok_iff.mp read
    obtain ⟨mirrorMode, readMirrorMode, read⟩ := bind_eq_ok_iff.mp read
    obtain ⟨windowMode, readWindowMode, read⟩ := bind_eq_ok_iff.mp read
    obtain ⟨trunkMode, readTrunkMode, read⟩ := bind_eq_ok_iff.mp read
    obtain ⟨flapMode, readFlapMode, read⟩ := bind_eq_ok_iff.mp read
    cases read
    exact ⟨(choice _ _ _).mp readEffect, (power _ _).mp readPower, (speed _ _).mp readBlinkSpeed,
      (flag_eq_ok_iff _).mp readEaseIn, (flag_eq_ok_iff _).mp readEaseOut,
      (choice _ _ _).mp readMirrorMode, (choice _ _ _).mp readWindowMode,
      (choice _ _ _).mp readTrunkMode, (choice _ _ _).mp readFlapMode⟩
  · intro stated
    rw [(choice _ _ _).mpr stated.effect, (power _ _).mpr stated.power,
      (speed _ _).mpr stated.blinkSpeed, (flag_eq_ok_iff _).mpr stated.easeIn,
      (flag_eq_ok_iff _).mpr stated.easeOut, (choice _ _ _).mpr stated.mirrorMode,
      (choice _ _ _).mpr stated.windowMode, (choice _ _ _).mpr stated.trunkMode,
      (choice _ _ _).mpr stated.flapMode]
    rfl

/-! ## Collapsed values -/

theorem Json.IsNatural.collapse {json : Json} {n : Nat} (natural : json.IsNatural n) :
    json.collapse.IsNatural n := by
  obtain ⟨digits, rfl, value⟩ := natural
  exact ⟨digits, rfl, value⟩

theorem Json.Names.collapse {α : Type} {ofName? : String → Option α} {json : Json} {choice : α}
    (names : json.Names ofName? choice) : json.collapse.Names ofName? choice := by
  obtain ⟨name, chosen, rfl | rfl | rfl⟩ := names
  · exact ⟨name, chosen, .inl rfl⟩
  · exact ⟨name, chosen, .inr (.inl rfl)⟩
  · exact ⟨name, chosen, .inr (.inr rfl)⟩

theorem Json.Optionally.collapse {α : Type} {means : Json → α → Prop} {values : List Json}
    {value : Option α} (kept : ∀ json value, means json value → means json.collapse value)
    (stated : Optionally means values value) :
    Optionally means (values.getLast?.map Json.collapse).toList value := by
  cases stated with
  | absent => exact .absent
  | null => exact .null
  | given meant => exact .given (kept _ _ meant)

theorem Json.Flagged.collapse {values : List Json} {value : Bool} (stated : Flagged values value) :
    Flagged (values.getLast?.map Json.collapse).toList value := by
  cases stated with
  | absent => exact .absent
  | given => exact .given value

theorem EventOptions.StatedBy.collapse {options : EventOptions} {members : List (String × Json)}
    (stated : options.StatedBy members) :
    options.StatedBy (lastOfEach (collapseMembers members)) := by
  constructor
  · rw [valuesUnder_collapse]
    exact stated.effect.collapse fun _ _ => Names.collapse
  · rw [valuesUnder_collapse]
    exact stated.power.collapse fun _ _ => IsNatural.collapse
  · rw [valuesUnder_collapse]
    exact stated.blinkSpeed.collapse fun _ _ => IsNatural.collapse
  · rw [valuesUnder_collapse]
    exact stated.easeIn.collapse
  · rw [valuesUnder_collapse]
    exact stated.easeOut.collapse
  · rw [valuesUnder_collapse]
    exact stated.mirrorMode.collapse fun _ _ => Names.collapse
  · rw [valuesUnder_collapse]
    exact stated.windowMode.collapse fun _ _ => Names.collapse
  · rw [valuesUnder_collapse]
    exact stated.trunkMode.collapse fun _ _ => Names.collapse
  · rw [valuesUnder_collapse]
    exact stated.flapMode.collapse fun _ _ => Names.collapse

/-- An event that a value describes is described by the collapsed value too. -/
theorem Json.Describes.collapse {json : Json} {event : Event} (describes : json.Describes event) :
    json.collapse.Describes event := by
  obtain ⟨members, rfl, ⟨name, single, isPart⟩, ⟨start, isStart, startNatural⟩,
    ⟨stop, isEnd, endNatural⟩, options⟩ := describes
  refine ⟨_, rfl, ⟨name, ?_, isPart⟩, ⟨_, ?_, startNatural.collapse⟩, ⟨_, ?_, endNatural.collapse⟩,
    options.collapse⟩
  · rw [valuesUnder_collapse, single]
    rfl
  · rw [valuesUnder_collapse, isStart]
    rfl
  · rw [valuesUnder_collapse, isEnd]
    rfl

end VehicleShow
