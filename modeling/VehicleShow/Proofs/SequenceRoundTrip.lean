import VehicleShow.Proofs.HeaderCodec
import VehicleShow.Proofs.MatrixView
import VehicleShow.Sequence

/-! # Sequences written and read back

A sequence gives back the header and the matrix it was written from, also when more bytes follow it,
and none of its strict prefixes is a sequence.  What is read from any bytes at all can be written
again without loss. -/
set_option autoImplicit false
namespace VehicleShow.FrameMatrix

/-! ## Reading -/

theorem ofBytes?_eq_some_iff (bytes : List UInt8) (start frameCount : Nat) (m : FrameMatrix) :
    ofBytes? bytes start frameCount = some m ↔
      start + frameCount * channelCount ≤ bytes.length ∧ m.frameCount = frameCount ∧
        m.data.toList = (bytes.drop start).take (frameCount * channelCount) := by
  rw [ofBytes?]
  by_cases within : start + frameCount * channelCount ≤ bytes.length
  · rw [dif_pos within, Option.some.injEq]
    constructor
    · rintro rfl
      exact ⟨within, rfl, rfl⟩
    · rintro ⟨-, count, data⟩
      apply ext_data count.symm
      change ((bytes.drop start).take (frameCount * channelCount)).toArray = m.data
      rw [← data, Array.toArray_toList]
  · rw [dif_neg within]
    constructor
    · intro never
      cases never
    · rintro ⟨enough, -⟩
      exact absurd enough within

/-- What is left to check once the header has been read. -/
theorem ofSequence_of_parse {bytes : List UInt8} {header : Header}
    (parsed : Header.parse bytes = .ok header) :
    ofSequence bytes =
      if header.compression ≠ 0 then .error (.malformedSequence .compressed)
      else if header.channelCount.toNat ≠ channelCount then
        .error (.malformedSequence (.channelCount header.channelCount))
      else
        match ofBytes? bytes header.dataOffset.toNat header.frameCount.toNat with
        | some m => .ok (header, m)
        | none =>
            .error (.malformedSequence (.truncated
              (header.dataOffset.toNat + header.frameCount.toNat * channelCount)
              bytes.length)) := by
  rw [ofSequence, parsed]
  rfl

theorem ofSequence_of_refused {bytes : List UInt8} {fault : Fault}
    (refused : Header.parse bytes = .error fault) : ofSequence bytes = .error fault := by
  rw [ofSequence, refused]
  rfl

theorem ofSequence_eq_ok_iff (bytes : List UInt8) (header : Header) (m : FrameMatrix) :
    ofSequence bytes = .ok (header, m) ↔
      Header.parse bytes = .ok header ∧ header.compression = 0 ∧
        header.channelCount.toNat = channelCount ∧
        ofBytes? bytes header.dataOffset.toNat header.frameCount.toNat = some m := by
  constructor
  · intro read
    cases parsed : Header.parse bytes with
    | error fault =>
        rw [ofSequence_of_refused parsed] at read
        cases read
    | ok found =>
        rw [ofSequence_of_parse parsed] at read
        by_cases plain : found.compression = 0
        · rw [if_neg (not_not_intro plain)] at read
          by_cases wide : found.channelCount.toNat = channelCount
          · rw [if_neg (not_not_intro wide)] at read
            cases data : ofBytes? bytes found.dataOffset.toNat found.frameCount.toNat with
            | none =>
                rw [data] at read
                cases read
            | some matrix =>
                rw [data] at read
                cases read
                exact ⟨rfl, plain, wide, data⟩
          · rw [if_pos wide] at read
            cases read
        · rw [if_pos plain] at read
          cases read
  · rintro ⟨parsed, plain, wide, data⟩
    rw [ofSequence_of_parse parsed, if_neg (not_not_intro plain), if_neg (not_not_intro wide), data]

theorem ofSequence_refuses {bytes : List UInt8} {fault : Fault}
    (refused : ofSequence bytes = .error fault) : ∃ defect, fault = .malformedSequence defect := by
  cases parsed : Header.parse bytes with
  | error cause =>
      rw [ofSequence_of_refused parsed] at refused
      cases refused
      exact Header.parse_refuses parsed
  | ok header =>
      rw [ofSequence_of_parse parsed] at refused
      split at refused
      · cases refused
        exact ⟨_, rfl⟩
      · split at refused
        · cases refused
          exact ⟨_, rfl⟩
        · split at refused
          · cases refused
          · cases refused
            exact ⟨_, rfl⟩

/-! ## Writing -/

/-- The bytes that a matrix of few enough frames is written as. -/
def sequenceBytes (m : FrameMatrix) (uniqueId : UInt64) : List UInt8 :=
  (Header.plain (UInt32.ofNat m.frameCount) uniqueId).toBytes ++ m.data.toList

theorem toSequence_of_counted {m : FrameMatrix} (counted : m.frameCount ≤ maxFrameCount)
    (uniqueId : UInt64) : m.toSequence uniqueId = .ok (m.sequenceBytes uniqueId) := by
  rw [toSequence, if_neg (Nat.not_lt.mpr counted)]
  rfl

theorem length_sequenceBytes (m : FrameMatrix) (uniqueId : UInt64) :
    (m.sequenceBytes uniqueId).length = 32 + 48 * m.frameCount := by
  rw [sequenceBytes, List.length_append, Header.length_toBytes, Array.length_toList, m.size_data,
    Nat.mul_comm, headerLength]

theorem fields_sequenceBytes (m : FrameMatrix) (uniqueId : UInt64) (tail : List UInt8) :
    Header.fields (m.sequenceBytes uniqueId ++ tail) =
      Header.plain (UInt32.ofNat m.frameCount) uniqueId := by
  rw [sequenceBytes, List.append_assoc, Header.fields_toBytes]

theorem toNat_frameCount {m : FrameMatrix} (counted : m.frameCount ≤ maxFrameCount) :
    (UInt32.ofNat m.frameCount).toNat = m.frameCount :=
  UInt32.toNat_ofNat_of_lt' (Nat.lt_of_le_of_lt counted (by decide))

/-! ## Round trips -/

/-- A header that fits a matrix reads back with it, whatever its step and its flags are. -/
theorem ofSequence_toBytes_append {header : Header} {m : FrameMatrix}
    (supported : header.versionMajor = Header.supportedMajor) (plain : header.compression = 0)
    (wide : header.channelCount.toNat = channelCount)
    (start : header.dataOffset.toNat = headerLength)
    (count : header.frameCount.toNat = m.frameCount) (tail : List UInt8) :
    ofSequence (header.toBytes ++ m.data.toList ++ tail) = .ok (header, m) := by
  have front := header.length_toBytes
  have size : m.data.toList.length = m.frameCount * channelCount :=
    m.data.length_toList.trans m.size_data
  rw [ofSequence_eq_ok_iff, Header.parse_eq_ok_iff, ofBytes?_eq_some_iff, start, count,
    List.append_assoc, Header.fields_toBytes]
  refine ⟨⟨?_, rfl, supported, rfl⟩, plain, wide, ?_, rfl, ?_⟩
  · rw [List.length_append, front]
    exact Nat.le_add_right _ _
  · rw [List.length_append, List.length_append, front, size]
    omega
  · rw [List.drop_left' front, List.take_left' size]

theorem ofSequence_sequenceBytes {m : FrameMatrix} (counted : m.frameCount ≤ maxFrameCount)
    (uniqueId : UInt64) (tail : List UInt8) :
    ofSequence (m.sequenceBytes uniqueId ++ tail) =
      .ok (Header.plain (UInt32.ofNat m.frameCount) uniqueId, m) :=
  ofSequence_toBytes_append rfl rfl rfl rfl (toNat_frameCount counted) tail

theorem ofSequence_of_strict_prefix {m : FrameMatrix} (counted : m.frameCount ≤ maxFrameCount)
    {uniqueId : UInt64} {short : List UInt8} (isPart : short <+: m.sequenceBytes uniqueId)
    (strict : short ≠ m.sequenceBytes uniqueId) :
    ∃ defect, ofSequence short = .error (.malformedSequence defect) := by
  obtain ⟨rest, whole⟩ := isPart
  cases outcome : ofSequence short with
  | error fault =>
      obtain ⟨defect, rfl⟩ := ofSequence_refuses outcome
      exact ⟨defect, rfl⟩
  | ok read =>
      -- The header alone says how long the sequence is, so the rest would have to be empty.
      obtain ⟨header, found⟩ := read
      obtain ⟨parsed, -, -, data⟩ := (ofSequence_eq_ok_iff short header found).mp outcome
      obtain ⟨long, -, -, same⟩ := (Header.parse_eq_ok_iff short header).mp parsed
      have asWritten := m.fields_sequenceBytes uniqueId []
      rw [List.append_nil, ← whole, Header.fields_append rest long, ← same] at asWritten
      obtain ⟨reach, -, -⟩ := (ofBytes?_eq_some_iff _ _ _ _).mp data
      have start : header.dataOffset.toNat = 32 := by
        rw [asWritten]
        rfl
      have count : header.frameCount.toNat = m.frameCount := by
        rw [asWritten]
        exact toNat_frameCount counted
      rw [start, count, channelCount] at reach
      have size := m.length_sequenceBytes uniqueId
      rw [← whole, List.length_append] at size
      have nothing : rest = [] := List.eq_nil_of_length_eq_zero (by omega)
      rw [nothing, List.append_nil] at whole
      exact absurd whole strict

/-- What a sequence with a plain header is written from is what it starts with. -/
theorem sequenceBytes_of_ofSequence {bytes : List UInt8} {header : Header} {m : FrameMatrix}
    (read : ofSequence bytes = .ok (header, m))
    (plain : header = Header.plain header.frameCount header.uniqueId) :
    m.sequenceBytes header.uniqueId = bytes.take (32 + 48 * header.frameCount.toNat) := by
  obtain ⟨parsed, -, -, data⟩ := (ofSequence_eq_ok_iff bytes header m).mp read
  obtain ⟨long, marked, -, same⟩ := (Header.parse_eq_ok_iff bytes header).mp parsed
  obtain ⟨-, count, frames⟩ := (ofBytes?_eq_some_iff _ _ _ _).mp data
  have start : header.dataOffset.toNat = 32 := by
    rw [plain]
    rfl
  have front : header.toBytes = bytes.take 32 := by
    rw [same]
    exact Header.toBytes_fields long marked
  rw [start, channelCount, Nat.mul_comm] at frames
  rw [sequenceBytes, count, UInt32.ofNat_toNat, ← plain, front, frames, List.take_add]

theorem sequence_round_trip :
    (∀ (m : FrameMatrix) (uniqueId : UInt64), m.frameCount < UInt32.size →
      ∃ bytes, m.toSequence uniqueId = .ok bytes ∧ bytes.length = 32 + 48 * m.frameCount ∧
        (∀ tail, ofSequence (bytes ++ tail) =
          .ok (Header.plain (UInt32.ofNat m.frameCount) uniqueId, m)) ∧
        ∀ short, short <+: bytes → short ≠ bytes →
          ∃ defect, ofSequence short = .error (.malformedSequence defect)) ∧
      ∀ (bytes : List UInt8) (header : Header) (m : FrameMatrix),
        ofSequence bytes = .ok (header, m) →
        ∃ again, m.toSequence header.uniqueId = .ok again ∧
          ofSequence again = .ok (Header.plain header.frameCount header.uniqueId, m) ∧
          (header = Header.plain header.frameCount header.uniqueId →
            again = bytes.take (32 + 48 * header.frameCount.toNat)) := by
  constructor
  · intro m uniqueId small
    have counted : m.frameCount ≤ maxFrameCount := Nat.le_of_lt_succ small
    refine ⟨m.sequenceBytes uniqueId, toSequence_of_counted counted uniqueId,
      m.length_sequenceBytes uniqueId, ofSequence_sequenceBytes counted uniqueId, ?_⟩
    intro short isPart strict
    exact ofSequence_of_strict_prefix counted isPart strict
  · intro bytes header m read
    obtain ⟨-, -, -, data⟩ := (ofSequence_eq_ok_iff bytes header m).mp read
    obtain ⟨-, count, -⟩ := (ofBytes?_eq_some_iff _ _ _ _).mp data
    have counted : m.frameCount ≤ maxFrameCount := by
      rw [count]
      exact Nat.le_of_lt_succ header.frameCount.toNat_lt
    have back := ofSequence_sequenceBytes counted header.uniqueId []
    rw [List.append_nil, count, UInt32.ofNat_toNat] at back
    exact ⟨m.sequenceBytes header.uniqueId, toSequence_of_counted counted header.uniqueId, back,
      sequenceBytes_of_ofSequence read⟩

def evenFrame (byte : UInt8) : FrameMatrix where
  frameCount := 1
  data := Array.replicate 48 byte
  size_data := Array.size_replicate

/-- A header that another program might write: its frames start one byte late. -/
def lateHeader : Header := { Header.plain 1 7 with dataOffset := 33, versionMinor := 1 }

theorem sequence_round_trip_late_start :
    ((evenFrame 5).frameCount < UInt32.size ∧
      ∃ bytes, (evenFrame 5).toSequence 7 = .ok bytes ∧ bytes.length = 80 ∧
        ofSequence (bytes ++ [1, 2, 3]) = .ok (Header.plain 1 7, evenFrame 5)) ∧
      ofSequence (lateHeader.toBytes ++ 9 :: List.replicate 48 5) =
          .ok (lateHeader, evenFrame 5) ∧
        ∃ again, (evenFrame 5).toSequence 7 = .ok again ∧
          ofSequence again = .ok (Header.plain 1 7, evenFrame 5) := by
  have counted : (evenFrame 5).frameCount < UInt32.size := by
    change 1 < UInt32.size
    decide
  have late : ofSequence (lateHeader.toBytes ++ 9 :: List.replicate 48 5) =
      .ok (lateHeader, evenFrame 5) := rfl
  obtain ⟨bytes, written, size, back, -⟩ := sequence_round_trip.1 (evenFrame 5) 7 counted
  obtain ⟨again, rewritten, reread, -⟩ := sequence_round_trip.2 _ lateHeader (evenFrame 5) late
  exact ⟨⟨counted, bytes, written, size, back [1, 2, 3]⟩, late, again, rewritten, reread⟩

end VehicleShow.FrameMatrix
