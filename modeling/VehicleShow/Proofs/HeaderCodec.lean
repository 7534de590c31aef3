import VehicleShow.Sequence

/-! # Headers and their bytes

Writing and reading a header undo each other: `fields_toBytes` reads back what was written, whatever
follows it, and `toBytes_fields` writes back what was read.  Both go field by field, a field being a
piece of the bytes at a place and of a width.  So the headers of the supported version and the
thirty-two bytes that are read as a header are in bijection (`header_codec`). -/
set_option autoImplicit false
namespace VehicleShow.Header

/-! ## Numbers at a place -/

theorem numberAt_lt (bytes : List UInt8) (start width : Nat) :
    numberAt bytes start width < Nat.pow 256 width := by
  have bound := LittleEndian.decode_lt ((bytes.drop start).take width)
  have short : ((bytes.drop start).take width).length ≤ width := List.length_take_le ..
  exact Nat.lt_of_lt_of_le bound (Nat.pow_le_pow_right (by decide) short)

theorem numberAt_of_piece {bytes : List UInt8} {start width n : Nat}
    (piece : (bytes.drop start).take width = LittleEndian.encode width n)
    (fits : n < Nat.pow 256 width) : numberAt bytes start width = n := by
  rw [numberAt, piece, LittleEndian.decode_encode width n fits]

theorem encode_numberAt {bytes : List UInt8} {start width : Nat}
    (within : start + width ≤ bytes.length) :
    LittleEndian.encode width (numberAt bytes start width) = (bytes.drop start).take width := by
  have whole : ((bytes.drop start).take width).length = width := by
    rw [List.length_take, List.length_drop]
    omega
  have back := LittleEndian.encode_decode ((bytes.drop start).take width)
  rw [whole] at back
  exact back

theorem getElem?_eq_byteAt {bytes : List UInt8} {start : Nat} (within : start < bytes.length) :
    bytes[start]? = some (byteAt bytes start) := by
  rw [byteAt, List.getD_eq_getElem?_getD, List.getElem?_eq_getElem within]
  rfl

theorem byteAt_cons_piece {bytes : List UInt8} {start width : Nat} (within : start < bytes.length) :
    byteAt bytes start :: (bytes.drop (start + 1)).take width =
      (bytes.drop start).take (width + 1) := by
  have here := getElem?_eq_byteAt within
  rw [List.getElem?_eq_getElem within] at here
  rw [← Option.some.inj here, List.drop_eq_getElem_cons within]
  rfl

theorem numberAt_append {bytes : List UInt8} (tail : List UInt8) {start width : Nat}
    (within : start + width ≤ bytes.length) :
    numberAt (bytes ++ tail) start width = numberAt bytes start width := by
  rw [numberAt, numberAt, List.drop_append_of_le_length (by omega),
    List.take_append_of_le_length (by rw [List.length_drop]; omega)]

theorem byteAt_append {bytes : List UInt8} (tail : List UInt8) {start : Nat}
    (within : start < bytes.length) : byteAt (bytes ++ tail) start = byteAt bytes start := by
  rw [byteAt, byteAt, List.getD_eq_getElem?_getD, List.getD_eq_getElem?_getD,
    List.getElem?_append_left within]

/-! ## Whole headers -/

theorem fields_toBytes (header : Header) (tail : List UInt8) :
    fields (header.toBytes ++ tail) = header := by
  have dataOffset : numberAt (header.toBytes ++ tail) 4 2 = header.dataOffset.toNat :=
    numberAt_of_piece rfl header.dataOffset.toNat_lt
  have variableHeaderOffset :
      numberAt (header.toBytes ++ tail) 8 2 = header.variableHeaderOffset.toNat :=
    numberAt_of_piece rfl header.variableHeaderOffset.toNat_lt
  have channelCount : numberAt (header.toBytes ++ tail) 10 4 = header.channelCount.toNat :=
    numberAt_of_piece rfl header.channelCount.toNat_lt
  have frameCount : numberAt (header.toBytes ++ tail) 14 4 = header.frameCount.toNat :=
    numberAt_of_piece rfl header.frameCount.toNat_lt
  have uniqueId : numberAt (header.toBytes ++ tail) 24 8 = header.uniqueId.toNat :=
    numberAt_of_piece rfl header.uniqueId.toNat_lt
  rw [fields, dataOffset, variableHeaderOffset, channelCount, frameCount, uniqueId,
    UInt16.ofNat_toNat, UInt16.ofNat_toNat, UInt32.ofNat_toNat, UInt32.ofNat_toNat,
    UInt64.ofNat_toNat]
  rfl

/-- Reading looks at the first thirty-two bytes only. -/
theorem fields_append {bytes : List UInt8} (tail : List UInt8)
    (long : headerLength ≤ bytes.length) : fields (bytes ++ tail) = fields bytes := by
  rw [headerLength] at long
  simp (disch := omega) only [fields, numberAt_append, byteAt_append]

/-- The fields of a header at their places in some bytes, numbers as their little-endian digits.  All
the places are there. -/
structure StandsIn (bytes : List UInt8) (header : Header) : Prop where
  dataOffset : (bytes.drop 4).take 2 = LittleEndian.encode 2 header.dataOffset.toNat
  versionMinor : bytes[6]? = some header.versionMinor
  versionMajor : bytes[7]? = some header.versionMajor
  variableHeaderOffset :
    (bytes.drop 8).take 2 = LittleEndian.encode 2 header.variableHeaderOffset.toNat
  channelCount : (bytes.drop 10).take 4 = LittleEndian.encode 4 header.channelCount.toNat
  frameCount : (bytes.drop 14).take 4 = LittleEndian.encode 4 header.frameCount.toNat
  stepTimeMs : bytes[18]? = some header.stepTimeMs
  flags : bytes[19]? = some header.flags
  compression : bytes[20]? = some header.compression
  compressionBlocks : bytes[21]? = some header.compressionBlocks
  sparseRanges : bytes[22]? = some header.sparseRanges
  flags2 : bytes[23]? = some header.flags2
  uniqueId : (bytes.drop 24).take 8 = LittleEndian.encode 8 header.uniqueId.toNat

theorem standsIn_fields {bytes : List UInt8} (long : headerLength ≤ bytes.length) :
    (fields bytes).StandsIn bytes := by
  rw [headerLength] at long
  constructor
  case dataOffset =>
    rw [fields, UInt16.toNat_ofNat_of_lt' (numberAt_lt bytes 4 2), encode_numberAt (by omega)]
  case variableHeaderOffset =>
    rw [fields, UInt16.toNat_ofNat_of_lt' (numberAt_lt bytes 8 2), encode_numberAt (by omega)]
  case channelCount =>
    rw [fields, UInt32.toNat_ofNat_of_lt' (numberAt_lt bytes 10 4), encode_numberAt (by omega)]
  case frameCount =>
    rw [fields, UInt32.toNat_ofNat_of_lt' (numberAt_lt bytes 14 4), encode_numberAt (by omega)]
  case uniqueId =>
    rw [fields, UInt64.toNat_ofNat_of_lt' (numberAt_lt bytes 24 8), encode_numberAt (by omega)]
  all_goals exact getElem?_eq_byteAt (by omega)

theorem toBytes_fields {bytes : List UInt8} (long : headerLength ≤ bytes.length)
    (marked : bytes.take magic.length = magic) :
    (fields bytes).toBytes = bytes.take headerLength := by
  have stands := standsIn_fields long
  rw [headerLength] at long
  have word : magic = bytes.take 4 := marked.symm
  have joined : ∀ start width, bytes.take start ++ (bytes.drop start).take width =
      bytes.take (start + width) := fun start width => List.take_add.symm
  have versions : [byteAt bytes 6, byteAt bytes 7] = (bytes.drop 6).take 2 := by
    rw [← byteAt_cons_piece (by omega), ← byteAt_cons_piece (by omega)]
    rfl
  have flags : [byteAt bytes 18, byteAt bytes 19, byteAt bytes 20, byteAt bytes 21,
      byteAt bytes 22, byteAt bytes 23] = (bytes.drop 18).take 6 := by
    rw [← byteAt_cons_piece (by omega), ← byteAt_cons_piece (by omega),
      ← byteAt_cons_piece (by omega), ← byteAt_cons_piece (by omega),
      ← byteAt_cons_piece (by omega), ← byteAt_cons_piece (by omega)]
    rfl
  rw [toBytes, ← stands.dataOffset, ← stands.variableHeaderOffset, ← stands.channelCount,
    ← stands.frameCount, ← stands.uniqueId]
  simp only [fields]
  rw [versions, flags, word, joined, joined, joined, joined, joined, joined, joined]
  rfl

/-! ## Accepted headers -/

theorem parse_eq_ok_iff (bytes : List UInt8) (header : Header) :
    parse bytes = .ok header ↔
      headerLength ≤ bytes.length ∧ bytes.take magic.length = magic ∧
        (fields bytes).versionMajor = supportedMajor ∧ header = fields bytes := by
  rw [parse]
  by_cases short : bytes.length < headerLength
  · simp [short, Nat.not_le.mpr short]
  · rw [if_neg short]
    have long : headerLength ≤ bytes.length := Nat.not_lt.mp short
    by_cases marked : bytes.take magic.length = magic
    · rw [if_neg (not_not_intro marked)]
      by_cases supported : (fields bytes).versionMajor = supportedMajor
      · simp [long, marked, supported, eq_comm]
      · simp [supported]
    · simp [marked]

theorem parse_refuses {bytes : List UInt8} {fault : Fault} (refused : parse bytes = .error fault) :
    ∃ defect, fault = .malformedSequence defect := by
  rw [parse] at refused
  split at refused
  · exact ⟨_, (Except.error.inj refused).symm⟩
  · split at refused
    · exact ⟨_, (Except.error.inj refused).symm⟩
    · split at refused
      · exact ⟨_, (Except.error.inj refused).symm⟩
      · cases refused

/-! ## The codec -/

theorem parse_toBytes_append (header : Header) (tail : List UInt8) :
    parse (header.toBytes ++ tail) =
      if header.versionMajor = supportedMajor then .ok header
      else .error (.malformedSequence (.unsupportedVersion header.versionMajor)) := by
  have long : ¬ (header.toBytes ++ tail).length < headerLength := by
    rw [List.length_append, length_toBytes]
    exact Nat.not_lt.mpr (Nat.le_add_right _ _)
  have marked : (header.toBytes ++ tail).take magic.length = magic := rfl
  rw [parse, if_neg long, if_neg (not_not_intro marked), fields_toBytes, ite_not]

/-- A header is read from just those bytes that begin with its own. -/
theorem parse_eq_ok_iff_stands (bytes : List UInt8) (header : Header) :
    parse bytes = .ok header ↔
      header.versionMajor = supportedMajor ∧ header.toBytes <+: bytes := by
  constructor
  · intro read
    obtain ⟨long, marked, supported, rfl⟩ := (parse_eq_ok_iff bytes header).mp read
    refine ⟨supported, ?_⟩
    rw [toBytes_fields long marked]
    exact List.take_prefix headerLength bytes
  · rintro ⟨supported, tail, rfl⟩
    rw [parse_toBytes_append, if_pos supported]

theorem toBytes_of_parse {bytes : List UInt8} {header : Header} (read : parse bytes = .ok header) :
    header.toBytes = bytes.take headerLength := by
  obtain ⟨-, front⟩ := (parse_eq_ok_iff_stands bytes header).mp read
  rw [List.prefix_iff_eq_take.mp front, length_toBytes]

theorem toBytes_injective : Function.Injective toBytes := by
  intro header other same
  rw [← fields_toBytes header [], same, fields_toBytes]

theorem standsIn_toBytes (header : Header) : header.StandsIn header.toBytes := by
  have stands := standsIn_fields (Nat.le_of_eq header.length_toBytes.symm)
  have back := fields_toBytes header []
  rw [List.append_nil] at back
  rwa [back] at stands

theorem header_codec :
    (∀ header : Header, header.toBytes.length = 32 ∧ [0x50, 0x53, 0x45, 0x51] <+: header.toBytes ∧
      header.StandsIn header.toBytes) ∧
    (∀ (header : Header) (tail : List UInt8),
      (header.versionMajor = 2 → parse (header.toBytes ++ tail) = .ok header) ∧
        (header.versionMajor ≠ 2 → parse (header.toBytes ++ tail) =
          .error (.malformedSequence (.unsupportedVersion header.versionMajor)))) ∧
    (∀ bytes header, parse bytes = .ok header → header.toBytes = bytes.take 32) ∧
    (∀ bytes header, bytes.length = 32 →
      (parse bytes = .ok header ↔ header.versionMajor = 2 ∧ header.toBytes = bytes)) ∧
    (∀ bytes other header, bytes.length = 32 → other.length = 32 →
      parse bytes = .ok header → parse other = .ok header → bytes = other) ∧
    Function.Injective toBytes := by
  have whole : ∀ {bytes : List UInt8} {header : Header}, bytes.length = 32 →
      parse bytes = .ok header → header.toBytes = bytes := by
    intro bytes header length read
    rw [toBytes_of_parse read, headerLength, ← length, List.take_length]
  refine ⟨?_, ?_, ?_, ?_, ?_, toBytes_injective⟩
  · intro header
    exact ⟨header.length_toBytes, List.prefix_append .., header.standsIn_toBytes⟩
  · intro header tail
    have read := parse_toBytes_append header tail
    exact ⟨fun supported => read.trans (if_pos supported),
      fun unsupported => read.trans (if_neg unsupported)⟩
  · intro bytes header read
    exact toBytes_of_parse read
  · intro bytes header length
    constructor
    · intro read
      exact ⟨((parse_eq_ok_iff_stands bytes header).mp read).1, whole length read⟩
    · rintro ⟨supported, rfl⟩
      exact (parse_eq_ok_iff_stands _ header).mpr ⟨supported, List.prefix_rfl⟩
  · intro bytes other header length otherLength read otherRead
    exact (whole length read).symm.trans (whole otherLength otherRead)

/-- No two bytes of this header are the same. -/
def motley : Header where
  dataOffset := 0x0401
  versionMinor := 0x03
  versionMajor := 2
  variableHeaderOffset := 0x0605
  channelCount := 0x0a090807
  frameCount := 0x0e0d0c0b
  stepTimeMs := 0x0f
  flags := 0x10
  compression := 0x11
  compressionBlocks := 0x12
  sparseRanges := 0x13
  flags2 := 0x14
  uniqueId := 0x1c1b1a1918171615

theorem header_codec_motley :
    motley.versionMajor = 2 ∧ parse (motley.toBytes ++ [7, 7]) = .ok motley ∧
      motley.toBytes = (motley.toBytes ++ [7, 7]).take 32 ∧
      parse ({ motley with versionMajor := 3 }.toBytes ++ [7]) =
        .error (.malformedSequence (.unsupportedVersion 3)) := by
  obtain ⟨-, reading, front, -⟩ := header_codec
  have read := (reading motley [7, 7]).1 rfl
  exact ⟨rfl, read, front _ motley read, (reading { motley with versionMajor := 3 } [7]).2 (by decide)⟩

end VehicleShow.Header
