import VehicleShow.Proofs.SequenceRoundTrip

/-! # Which bytes are a sequence

Six checks are made of the bytes, and the first that fails gives the defect.  `ofSequence_decided`
tells what is made of any bytes at all: which of them are a sequence, what the header and the frames
are then, and what is reported otherwise.  Nothing is looked for beyond the end of the bytes, and the
end of the frames is a number that 64 bits can hold. -/
set_option autoImplicit false
namespace VehicleShow

open Header (byteAt numberAt)

/-! ## The checks -/

inductive SequenceCheck where
  | length
  | magic
  | version
  | compression
  | channels
  | extent
  deriving DecidableEq, Repr

namespace SequenceCheck

def all : List SequenceCheck := [.length, .magic, .version, .compression, .channels, .extent]

def framesEnd (bytes : List UInt8) : Nat := numberAt bytes 4 2 + 48 * numberAt bytes 14 4

def Holds (bytes : List UInt8) : SequenceCheck → Prop
  | .length => 32 ≤ bytes.length
  | .magic => [0x50, 0x53, 0x45, 0x51] <+: bytes
  | .version => bytes[7]? = some 2
  | .compression => bytes[20]? = some 0
  | .channels => numberAt bytes 10 4 = 48
  | .extent => framesEnd bytes ≤ bytes.length

instance (bytes : List UInt8) : (check : SequenceCheck) → Decidable (check.Holds bytes)
  | .length => inferInstanceAs (Decidable (32 ≤ bytes.length))
  | .magic => inferInstanceAs (Decidable ([0x50, 0x53, 0x45, 0x51] <+: bytes))
  | .version => inferInstanceAs (Decidable (bytes[7]? = some 2))
  | .compression => inferInstanceAs (Decidable (bytes[20]? = some 0))
  | .channels => inferInstanceAs (Decidable (numberAt bytes 10 4 = 48))
  | .extent => inferInstanceAs (Decidable (framesEnd bytes ≤ bytes.length))

def defect (bytes : List UInt8) : SequenceCheck → SequenceDefect
  | .length => .shortHeader bytes.length
  | .magic => .missingMagic
  | .version => .unsupportedVersion (byteAt bytes 7)
  | .compression => .compressed
  | .channels => .channelCount (UInt32.ofNat (numberAt bytes 10 4))
  | .extent => .truncated (framesEnd bytes) bytes.length

def firstFailed? (bytes : List UInt8) : Option SequenceCheck :=
  all.find? fun check => ¬ check.Holds bytes

theorem mem_all (check : SequenceCheck) : check ∈ all := by cases check <;> decide

theorem firstFailed?_eq_none_iff (bytes : List UInt8) :
    firstFailed? bytes = none ↔ ∀ check : SequenceCheck, check.Holds bytes := by
  rw [firstFailed?, List.find?_eq_none]
  constructor
  · intro passed check
    simpa using passed check (mem_all check)
  · intro passed check _
    simpa using passed check

/-- An offset of two bytes and forty-eight times a count of four stay far below 64 bits. -/
theorem framesEnd_lt (bytes : List UInt8) : framesEnd bytes < UInt64.size := by
  have offset : numberAt bytes 4 2 < 65536 := Header.numberAt_lt bytes 4 2
  have count : numberAt bytes 14 4 < 4294967296 := Header.numberAt_lt bytes 14 4
  have word : UInt64.size = 18446744073709551616 := rfl
  rw [framesEnd]
  omega

end SequenceCheck

/-! ## What a check means for the header -/

namespace Header
variable {bytes : List UInt8}

theorem toNat_dataOffset_fields (bytes : List UInt8) :
    (fields bytes).dataOffset.toNat = numberAt bytes 4 2 :=
  UInt16.toNat_ofNat_of_lt' (numberAt_lt bytes 4 2)

theorem toNat_channelCount_fields (bytes : List UInt8) :
    (fields bytes).channelCount.toNat = numberAt bytes 10 4 :=
  UInt32.toNat_ofNat_of_lt' (numberAt_lt bytes 10 4)

theorem toNat_frameCount_fields (bytes : List UInt8) :
    (fields bytes).frameCount.toNat = numberAt bytes 14 4 :=
  UInt32.toNat_ofNat_of_lt' (numberAt_lt bytes 14 4)

theorem holds_magic_iff :
    SequenceCheck.magic.Holds bytes ↔ bytes.take magic.length = magic := by
  rw [SequenceCheck.Holds, eq_comm]
  exact List.prefix_iff_eq_take

theorem holds_version_iff (long : SequenceCheck.length.Holds bytes) :
    SequenceCheck.version.Holds bytes ↔ (fields bytes).versionMajor = supportedMajor := by
  rw [SequenceCheck.Holds, (standsIn_fields long).versionMajor]
  exact Option.some_inj

theorem holds_compression_iff (long : SequenceCheck.length.Holds bytes) :
    SequenceCheck.compression.Holds bytes ↔ (fields bytes).compression = 0 := by
  rw [SequenceCheck.Holds, (standsIn_fields long).compression]
  exact Option.some_inj

theorem holds_channels_iff :
    SequenceCheck.channels.Holds bytes ↔
      (fields bytes).channelCount.toNat = VehicleShow.channelCount := by
  rw [toNat_channelCount_fields]
  exact Iff.rfl

theorem framesEnd_eq (bytes : List UInt8) :
    (fields bytes).dataOffset.toNat + (fields bytes).frameCount.toNat * VehicleShow.channelCount =
      SequenceCheck.framesEnd bytes := by
  rw [toNat_dataOffset_fields, toNat_frameCount_fields, Nat.mul_comm]
  rfl

end Header

/-! ## The first check that fails -/

namespace FrameMatrix
variable {bytes : List UInt8}

theorem ofSequence_of_short (short : ¬ SequenceCheck.length.Holds bytes) :
    ofSequence bytes = .error (.malformedSequence (SequenceCheck.length.defect bytes)) := by
  have tooShort : bytes.length < headerLength := Nat.not_le.mp short
  apply ofSequence_of_refused
  rw [Header.parse, if_pos tooShort]
  rfl

section Long
variable (long : SequenceCheck.length.Holds bytes)
include long

theorem ofSequence_of_unmarked (unmarked : ¬ SequenceCheck.magic.Holds bytes) :
    ofSequence bytes = .error (.malformedSequence (SequenceCheck.magic.defect bytes)) := by
  have enough : ¬ bytes.length < headerLength := Nat.not_lt.mpr long
  rw [Header.holds_magic_iff] at unmarked
  apply ofSequence_of_refused
  rw [Header.parse, if_neg enough, if_pos unmarked]
  rfl

variable (marked : SequenceCheck.magic.Holds bytes)
include marked

theorem ofSequence_of_unsupported (unsupported : ¬ SequenceCheck.version.Holds bytes) :
    ofSequence bytes = .error (.malformedSequence (SequenceCheck.version.defect bytes)) := by
  have enough : ¬ bytes.length < headerLength := Nat.not_lt.mpr long
  rw [Header.holds_magic_iff] at marked
  rw [Header.holds_version_iff long] at unsupported
  apply ofSequence_of_refused
  rw [Header.parse, if_neg enough, if_neg (not_not_intro marked), if_pos unsupported]
  rfl

variable (supported : SequenceCheck.version.Holds bytes)
include supported

theorem parse_of_supported : Header.parse bytes = .ok (Header.fields bytes) :=
  (Header.parse_eq_ok_iff bytes _).mpr
    ⟨long, Header.holds_magic_iff.mp marked, (Header.holds_version_iff long).mp supported, rfl⟩

theorem ofSequence_of_compressed (compressed : ¬ SequenceCheck.compression.Holds bytes) :
    ofSequence bytes = .error (.malformedSequence (SequenceCheck.compression.defect bytes)) := by
  rw [Header.holds_compression_iff long] at compressed
  rw [ofSequence_of_parse (parse_of_supported long marked supported), if_pos compressed]
  rfl

variable (plain : SequenceCheck.compression.Holds bytes)
include plain

theorem ofSequence_of_other_width (other : ¬ SequenceCheck.channels.Holds bytes) :
    ofSequence bytes = .error (.malformedSequence (SequenceCheck.channels.defect bytes)) := by
  rw [Header.holds_compression_iff long] at plain
  rw [Header.holds_channels_iff] at other
  rw [ofSequence_of_parse (parse_of_supported long marked supported),
    if_neg (not_not_intro plain), if_pos other]
  rfl

variable (wide : SequenceCheck.channels.Holds bytes)
include wide

theorem ofSequence_of_cut_off (cutOff : ¬ SequenceCheck.extent.Holds bytes) :
    ofSequence bytes = .error (.malformedSequence (SequenceCheck.extent.defect bytes)) := by
  rw [Header.holds_compression_iff long] at plain
  rw [Header.holds_channels_iff] at wide
  rw [ofSequence_of_parse (parse_of_supported long marked supported),
    if_neg (not_not_intro plain), if_neg (not_not_intro wide)]
  cases found : ofBytes? bytes (Header.fields bytes).dataOffset.toNat
      (Header.fields bytes).frameCount.toNat with
  | none => rw [Header.framesEnd_eq, SequenceCheck.defect]
  | some m =>
      obtain ⟨within, -⟩ := (ofBytes?_eq_some_iff _ _ _ _).mp found
      rw [Header.framesEnd_eq] at within
      exact absurd within cutOff

theorem ofSequence_of_reached (reached : SequenceCheck.extent.Holds bytes) :
    ∃ m, ofSequence bytes = .ok (Header.fields bytes, m) := by
  have parsed := parse_of_supported long marked supported
  rw [Header.holds_compression_iff long] at plain
  rw [Header.holds_channels_iff] at wide
  rw [SequenceCheck.Holds, ← Header.framesEnd_eq] at reached
  cases found : ofBytes? bytes (Header.fields bytes).dataOffset.toNat
      (Header.fields bytes).frameCount.toNat with
  | none =>
      rw [ofBytes?, dif_pos reached] at found
      cases found
  | some m => exact ⟨m, (ofSequence_eq_ok_iff _ _ _).mpr ⟨parsed, plain, wide, found⟩⟩

end Long

/-- The checks go one by one, each made only where those before it have been passed. -/
theorem ofSequence_cases (bytes : List UInt8) :
    (SequenceCheck.firstFailed? bytes = none ∧
        ∃ m, ofSequence bytes = .ok (Header.fields bytes, m)) ∨
      ∃ check, SequenceCheck.firstFailed? bytes = some check ∧
        ofSequence bytes = .error (.malformedSequence (check.defect bytes)) := by
  rw [SequenceCheck.firstFailed?, SequenceCheck.all]
  by_cases long : SequenceCheck.length.Holds bytes
  · by_cases marked : SequenceCheck.magic.Holds bytes
    · by_cases supported : SequenceCheck.version.Holds bytes
      · by_cases plain : SequenceCheck.compression.Holds bytes
        · by_cases wide : SequenceCheck.channels.Holds bytes
          · by_cases reached : SequenceCheck.extent.Holds bytes
            · have read := ofSequence_of_reached long marked supported plain wide reached
              exact Or.inl ⟨by simp [long, marked, supported, plain, wide, reached], read⟩
            · have refused := ofSequence_of_cut_off long marked supported plain wide reached
              exact Or.inr ⟨_, by simp [long, marked, supported, plain, wide, reached], refused⟩
          · have refused := ofSequence_of_other_width long marked supported plain wide
            exact Or.inr ⟨_, by simp [long, marked, supported, plain, wide], refused⟩
        · have refused := ofSequence_of_compressed long marked supported plain
          exact Or.inr ⟨_, by simp [long, marked, supported, plain], refused⟩
      · have refused := ofSequence_of_unsupported long marked supported
        exact Or.inr ⟨_, by simp [long, marked, supported], refused⟩
    · have refused := ofSequence_of_unmarked long marked
      exact Or.inr ⟨_, by simp [long, marked], refused⟩
  · have refused := ofSequence_of_short long
    exact Or.inr ⟨_, by simp [long], refused⟩

theorem ofSequence_decided (bytes : List UInt8) :
    ((∃ header m, ofSequence bytes = .ok (header, m)) ↔
        ∀ check : SequenceCheck, check.Holds bytes) ∧
      (∀ header m, ofSequence bytes = .ok (header, m) →
        header.StandsIn bytes ∧ m.frameCount = numberAt bytes 14 4 ∧
          m.data.toList =
            (bytes.drop (numberAt bytes 4 2)).take (48 * numberAt bytes 14 4)) ∧
      (∀ fault, ofSequence bytes = .error fault ↔
        ∃ check, SequenceCheck.firstFailed? bytes = some check ∧
          fault = .malformedSequence (check.defect bytes)) ∧
      (SequenceCheck.length.Holds bytes → (Header.fields bytes).StandsIn bytes) ∧
      SequenceCheck.framesEnd bytes < UInt64.size := by
  refine ⟨?_, ?_, ?_, Header.standsIn_fields, SequenceCheck.framesEnd_lt bytes⟩
  · rw [← SequenceCheck.firstFailed?_eq_none_iff]
    rcases ofSequence_cases bytes with ⟨passed, m, read⟩ | ⟨check, failed, refused⟩
    · simp [passed, read]
    · simp [failed, refused]
  · intro header m read
    obtain ⟨parsed, -, -, data⟩ := (ofSequence_eq_ok_iff bytes header m).mp read
    obtain ⟨long, -, -, rfl⟩ := (Header.parse_eq_ok_iff bytes header).mp parsed
    obtain ⟨-, count, frames⟩ := (ofBytes?_eq_some_iff _ _ _ _).mp data
    rw [Header.toNat_frameCount_fields] at count frames
    rw [Header.toNat_dataOffset_fields, Nat.mul_comm] at frames
    exact ⟨Header.standsIn_fields long, count, frames⟩
  · intro fault
    rcases ofSequence_cases bytes with ⟨passed, m, read⟩ | ⟨check, failed, refused⟩
    · simp [passed, read]
    · simp [failed, refused, eq_comm]

/-- Frames may start anywhere, also inside the header, and without a frame nothing more is needed. -/
example : ofSequence ({ Header.plain 0 7 with dataOffset := 5 } : Header).toBytes =
    .ok ({ Header.plain 0 7 with dataOffset := 5 }, blank 0) := rfl

end FrameMatrix
end VehicleShow
