import VehicleShow.Proofs.CompiledCell
import VehicleShow.Proofs.SequenceRoundTrip
import VehicleShow.Sequence

/-! # Exported shows

Whether a show can be exported is a matter of its length alone: `exportShow_decided` says when it is
refused, and that what is exported otherwise covers the length and reads back as the compiled show.
The unique id shows in its own eight bytes and nowhere else. -/
set_option autoImplicit false
namespace VehicleShow

/-! ## The bytes of a sequence -/

/-- Bytes that differ in one piece only are the same outside of it. -/
theorem getElem?_of_outside {front piece other : List UInt8} (back : List UInt8)
    (sameWidth : piece.length = other.length) {place : Nat}
    (outside : ¬ (front.length ≤ place ∧ place < front.length + piece.length)) :
    (front ++ piece ++ back)[place]? = (front ++ other ++ back)[place]? := by
  by_cases early : place < front.length
  · rw [List.append_assoc, List.append_assoc, List.getElem?_append_left early,
      List.getElem?_append_left early]
  · have late : front.length + piece.length ≤ place := by omega
    rw [List.getElem?_append_right (by rw [List.length_append]; omega),
      List.getElem?_append_right (by rw [List.length_append]; omega), List.length_append,
      List.length_append, sameWidth]

namespace Header

/-- What a plain header holds before its frame count. -/
def plainFront : List UInt8 := [0x50, 0x53, 0x45, 0x51, 32, 0, 0, 2, 32, 0, 48, 0, 0, 0]

def plainMiddle : List UInt8 := [20, 0, 0, 0, 0, 0]

theorem toBytes_plain (frameCount : UInt32) (uniqueId : UInt64) :
    (plain frameCount uniqueId).toBytes =
      plainFront ++ LittleEndian.encode 4 frameCount.toNat ++
        (plainMiddle ++ LittleEndian.encode 8 uniqueId.toNat) := by
  have front : magic ++ LittleEndian.encode 2 (UInt16.ofNat headerLength).toNat ++
      [supportedMinor, supportedMajor] ++
      LittleEndian.encode 2 (UInt16.ofNat headerLength).toNat ++
      LittleEndian.encode 4 (UInt32.ofNat VehicleShow.channelCount).toNat = plainFront := by decide
  rw [toBytes, plain, ← front, List.append_assoc _ _ (LittleEndian.encode 8 _)]
  rfl

/-- Four bytes times one byte are far below 64 bits. -/
theorem toNat_durationMs (header : Header) :
    header.durationMs.toNat = header.frameCount.toNat * header.stepTimeMs.toNat := by
  have count := header.frameCount.toNat_lt
  have step := header.stepTimeMs.toNat_lt
  rw [durationMs, UInt64.toNat_mul, UInt32.toNat_toUInt64, UInt8.toNat_toUInt64]
  apply Nat.mod_eq_of_lt
  exact Nat.lt_trans (Nat.mul_lt_mul'' count step) (by decide)

end Header

namespace FrameMatrix

theorem toNat_durationMs_plain {m : FrameMatrix} (counted : m.frameCount ≤ maxFrameCount)
    (uniqueId : UInt64) :
    (Header.plain (UInt32.ofNat m.frameCount) uniqueId).durationMs.toNat = 20 * m.frameCount := by
  have kept : (Header.plain (UInt32.ofNat m.frameCount) uniqueId).frameCount.toNat =
      m.frameCount := toNat_frameCount counted
  have step : (Header.plain (UInt32.ofNat m.frameCount) uniqueId).stepTimeMs.toNat = 20 := rfl
  rw [Header.toNat_durationMs, kept, step, Nat.mul_comm]

theorem sequenceBytes_around_count (m : FrameMatrix) (uniqueId : UInt64) :
    m.sequenceBytes uniqueId =
      Header.plainFront ++ LittleEndian.encode 4 (UInt32.ofNat m.frameCount).toNat ++
        (Header.plainMiddle ++ LittleEndian.encode 8 uniqueId.toNat ++ m.data.toList) := by
  rw [sequenceBytes, Header.toBytes_plain]
  simp only [List.append_assoc]

theorem sequenceBytes_around_id (m : FrameMatrix) (uniqueId : UInt64) :
    m.sequenceBytes uniqueId =
      (Header.plainFront ++ LittleEndian.encode 4 (UInt32.ofNat m.frameCount).toNat ++
        Header.plainMiddle) ++ LittleEndian.encode 8 uniqueId.toNat ++ m.data.toList := by
  rw [sequenceBytes, Header.toBytes_plain]
  simp only [List.append_assoc]

theorem sequenceBytes_id (m : FrameMatrix) (uniqueId : UInt64) :
    ((m.sequenceBytes uniqueId).drop 24).take 8 = LittleEndian.encode 8 uniqueId.toNat := by
  rw [sequenceBytes_around_id, List.append_assoc]
  rfl

theorem sequenceBytes_outside_id (m : FrameMatrix) (uniqueId otherId : UInt64) {place : Nat}
    (outside : ¬ (24 ≤ place ∧ place < 32)) :
    (m.sequenceBytes otherId)[place]? = (m.sequenceBytes uniqueId)[place]? := by
  rw [sequenceBytes_around_id, sequenceBytes_around_id]
  apply getElem?_of_outside
  · rw [LittleEndian.length_encode, LittleEndian.length_encode]
  · exact outside

end FrameMatrix

/-! ## Exporting -/

section Compiled
variable {events : List Event} {durationMs : UInt64}

theorem exportShow_of_compile {m : FrameMatrix} (compiled : compile events durationMs = .ok m)
    (uniqueId : UInt64) :
    exportShow events durationMs uniqueId =
      .ok { bytes := m.sequenceBytes uniqueId, frameCount := m.frameCount, channelCount } := by
  have counted : m.frameCount ≤ maxFrameCount :=
    Nat.le_of_lt_succ (frameCount_of_compile compiled).2
  rw [exportShow, compiled]
  change (FrameMatrix.toSequence _ uniqueId >>= _) = _
  rw [FrameMatrix.toSequence_of_counted counted]
  rfl

theorem compile_of_exportShow {uniqueId : UInt64} {exported : ExportedShow}
    (made : exportShow events durationMs uniqueId = .ok exported) :
    ∃ m, compile events durationMs = .ok m ∧
      exported =
        { bytes := m.sequenceBytes uniqueId, frameCount := m.frameCount, channelCount } := by
  cases compiled : compile events durationMs with
  | ok m =>
      rw [exportShow_of_compile compiled] at made
      exact ⟨m, rfl, (Except.ok.inj made).symm⟩
  | error fault =>
      rw [exportShow, compiled] at made
      cases made

/-- Writing the bytes never fails. -/
theorem exportShow_eq_error_iff (uniqueId : UInt64) (fault : Fault) :
    exportShow events durationMs uniqueId = .error fault ↔
      compile events durationMs = .error fault := by
  cases outcome : compile events durationMs with
  | ok m => simp [exportShow_of_compile outcome]
  | error cause =>
      have refused : exportShow events durationMs uniqueId = .error cause := by
        rw [exportShow, outcome]
        rfl
      rw [refused, Except.error.injEq, Except.error.injEq]

end Compiled

theorem exportShow_decided (events : List Event) (durationMs uniqueId : UInt64) :
    (∀ fault, exportShow events durationMs uniqueId = .error fault ↔
        (durationMs = 0 ∧ fault = .invalidDuration durationMs) ∨
          (UInt32.size ≤ (durationMs.toNat + 19) / 20 ∧
            fault = .durationTooLong durationMs ((durationMs.toNat + 19) / 20))) ∧
      (durationMs ≠ 0 → (durationMs.toNat + 19) / 20 < UInt32.size →
        ∃ m exported, compile events durationMs = .ok m ∧
          exportShow events durationMs uniqueId = .ok exported ∧
          exported.frameCount = (durationMs.toNat + 19) / 20 ∧ exported.channelCount = 48 ∧
          exported.bytes.length = 32 + 48 * ((durationMs.toNat + 19) / 20) ∧
          (∃ header, FrameMatrix.ofSequence exported.bytes = .ok (header, m) ∧
            durationMs.toNat ≤ header.durationMs.toNat ∧
            header.durationMs.toNat < durationMs.toNat + 20) ∧
          (exported.bytes.drop 24).take 8 = LittleEndian.encode 8 uniqueId.toNat ∧
          ∀ otherId, ∃ other, exportShow events durationMs otherId = .ok other ∧
            (other.bytes.drop 24).take 8 = LittleEndian.encode 8 otherId.toNat ∧
            ∀ place, ¬ (24 ≤ place ∧ place < 32) →
              other.bytes[place]? = exported.bytes[place]?) := by
  constructor
  · intro fault
    rw [exportShow_eq_error_iff]
    exact compile_eq_error_iff events durationMs fault
  · intro started counted
    have compiled : compile events durationMs = .ok (.ofEvents (frameCountFor durationMs) events) :=
      (compile_eq_ok_iff _ _ _).mpr ⟨started, Nat.le_of_lt_succ counted, rfl⟩
    generalize FrameMatrix.ofEvents (frameCountFor durationMs) events = m at compiled
    have count : m.frameCount = (durationMs.toNat + 19) / 20 := (frameCount_of_compile compiled).1
    have countable : m.frameCount ≤ maxFrameCount := Nat.le_of_lt_succ (count ▸ counted)
    have size := m.length_sequenceBytes uniqueId
    have back := FrameMatrix.ofSequence_sequenceBytes countable uniqueId []
    rw [List.append_nil] at back
    have length := FrameMatrix.toNat_durationMs_plain countable uniqueId
    refine ⟨m, _, compiled, exportShow_of_compile compiled uniqueId, count, rfl, ?_,
      ⟨_, back, ?_, ?_⟩, m.sequenceBytes_id uniqueId, ?_⟩
    · rw [size, count]
    · omega
    · omega
    · intro otherId
      exact ⟨_, exportShow_of_compile compiled otherId, m.sequenceBytes_id otherId,
        fun place outside => m.sequenceBytes_outside_id uniqueId otherId outside⟩

/-- A mirror that is still folded out when the show ends, and a light that goes on after that. -/
def encore : List Event :=
  [{ part := .known .retroRight, startMs := 0, endMs := 4000 },
   { part := .known .lightRightFront, startMs := 60, endMs := 900 }]

/-- A length that is not a whole number of frames, no length, and the shortest that is refused. -/
theorem exportShow_encore :
    (41 : UInt64) ≠ 0 ∧ ((41 : UInt64).toNat + 19) / 20 < UInt32.size ∧
      (∃ m exported, compile encore 41 = .ok m ∧ exportShow encore 41 7 = .ok exported ∧
        exported.frameCount = 3 ∧ exported.bytes.length = 176 ∧
        (∃ header, FrameMatrix.ofSequence exported.bytes = .ok (header, m) ∧
          41 ≤ header.durationMs.toNat ∧ header.durationMs.toNat < 61) ∧
        (exported.bytes.drop 24).take 8 = [7, 0, 0, 0, 0, 0, 0, 0]) ∧
      exportShow encore 0 7 = .error (.invalidDuration 0) ∧
      exportShow encore 85899345901 7 = .error (.durationTooLong 85899345901 4294967296) := by
  have started : (41 : UInt64) ≠ 0 := by decide
  have counted : ((41 : UInt64).toNat + 19) / 20 < UInt32.size := by decide
  obtain ⟨m, exported, compiled, made, count, -, size, decoded, id, -⟩ :=
    (exportShow_decided encore 41 7).2 started counted
  refine ⟨started, counted, ⟨m, exported, compiled, made, count, size, decoded, id⟩, ?_, ?_⟩
  · exact ((exportShow_decided encore 0 7).1 _).mpr (Or.inl ⟨rfl, rfl⟩)
  · exact ((exportShow_decided encore 85899345901 7).1 _).mpr (Or.inr ⟨by decide, rfl⟩)

end VehicleShow
