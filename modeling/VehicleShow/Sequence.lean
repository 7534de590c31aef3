import VehicleShow.FrameMatrix

/-! # Sequences

A sequence is a header and then the bytes of every frame.  The header has thirty-two bytes: a magic
word, a version, sizes and offsets, flags and a unique id, with numbers of more than one byte in
little-endian order.  `FrameMatrix.toSequence` writes a sequence and `FrameMatrix.ofSequence` reads
one; what follows the last frame is ignored. -/
set_option autoImplicit false
namespace VehicleShow

/-! ## Little-endian numbers -/

namespace LittleEndian

def encode : Nat → Nat → List UInt8
  | 0, _ => []
  | width + 1, n => UInt8.ofNat n :: encode width (n / 256)

def decode : List UInt8 → Nat
  | [] => 0
  | byte :: rest => byte.toNat + 256 * decode rest

@[simp] theorem length_encode (width n : Nat) : (encode width n).length = width := by
  induction width generalizing n with
  | zero => rfl
  | succ width ih => simp [encode, ih]

theorem decode_encode (width n : Nat) (h : n < Nat.pow 256 width) : decode (encode width n) = n := by
  induction width generalizing n with
  | zero =>
    have : n = 0 := by simpa using h
    rw [this]
    rfl
  | succ width ih =>
    have high : n / 256 < Nat.pow 256 width := (Nat.div_lt_iff_lt_mul (by decide)).mpr h
    have low : (UInt8.ofNat n).toNat = n % 256 := by simp
    rw [encode, decode, ih _ high, low]
    exact Nat.mod_add_div n 256

theorem decode_lt (bytes : List UInt8) : decode bytes < Nat.pow 256 bytes.length := by
  induction bytes with
  | nil => decide
  | cons byte rest ih =>
    have := byte.toNat_lt
    have grow : Nat.pow 256 (rest.length + 1) = Nat.pow 256 rest.length * 256 := rfl
    rw [decode, List.length_cons, grow]
    omega

theorem encode_decode (bytes : List UInt8) : encode bytes.length (decode bytes) = bytes := by
  induction bytes with
  | nil => rfl
  | cons byte rest ih =>
    have small : byte.toNat < 256 := byte.toNat_lt
    have low : UInt8.ofNat (byte.toNat + 256 * decode rest) = byte := by
      apply UInt8.toNat_inj.mp
      simp
    have high : (byte.toNat + 256 * decode rest) / 256 = decode rest := by omega
    rw [decode, List.length_cons, encode, low, high, ih]

end LittleEndian

/-! ## The header -/

structure Header where
  dataOffset : UInt16
  versionMinor : UInt8
  versionMajor : UInt8
  variableHeaderOffset : UInt16
  channelCount : UInt32
  frameCount : UInt32
  stepTimeMs : UInt8
  flags : UInt8
  compression : UInt8
  compressionBlocks : UInt8
  sparseRanges : UInt8
  flags2 : UInt8
  uniqueId : UInt64
  deriving DecidableEq, Repr

namespace Header

/-- The letters `PSEQ`. -/
def magic : List UInt8 := [0x50, 0x53, 0x45, 0x51]

def supportedMajor : UInt8 := 2
def supportedMinor : UInt8 := 0

/-- Header of a sequence without compression and without variable headers. -/
def plain (frameCount : UInt32) (uniqueId : UInt64) : Header where
  dataOffset := UInt16.ofNat headerLength
  versionMinor := supportedMinor
  versionMajor := supportedMajor
  variableHeaderOffset := UInt16.ofNat headerLength
  channelCount := UInt32.ofNat VehicleShow.channelCount
  frameCount := frameCount
  stepTimeMs := stepMs.toUInt8
  flags := 0
  compression := 0
  compressionBlocks := 0
  sparseRanges := 0
  flags2 := 0
  uniqueId := uniqueId

def toBytes (header : Header) : List UInt8 :=
  magic
    ++ LittleEndian.encode 2 header.dataOffset.toNat
    ++ [header.versionMinor, header.versionMajor]
    ++ LittleEndian.encode 2 header.variableHeaderOffset.toNat
    ++ LittleEndian.encode 4 header.channelCount.toNat
    ++ LittleEndian.encode 4 header.frameCount.toNat
    ++ [header.stepTimeMs, header.flags, header.compression, header.compressionBlocks,
        header.sparseRanges, header.flags2]
    ++ LittleEndian.encode 8 header.uniqueId.toNat

def byteAt (bytes : List UInt8) (start : Nat) : UInt8 := bytes.getD start 0

def numberAt (bytes : List UInt8) (start width : Nat) : Nat :=
  LittleEndian.decode ((bytes.drop start).take width)

def fields (bytes : List UInt8) : Header where
  dataOffset := UInt16.ofNat (numberAt bytes 4 2)
  versionMinor := byteAt bytes 6
  versionMajor := byteAt bytes 7
  variableHeaderOffset := UInt16.ofNat (numberAt bytes 8 2)
  channelCount := UInt32.ofNat (numberAt bytes 10 4)
  frameCount := UInt32.ofNat (numberAt bytes 14 4)
  stepTimeMs := byteAt bytes 18
  flags := byteAt bytes 19
  compression := byteAt bytes 20
  compressionBlocks := byteAt bytes 21
  sparseRanges := byteAt bytes 22
  flags2 := byteAt bytes 23
  uniqueId := UInt64.ofNat (numberAt bytes 24 8)

def parse (bytes : List UInt8) : Except Fault Header :=
  if bytes.length < headerLength then
    .error (.malformedSequence (.shortHeader bytes.length))
  else if bytes.take magic.length ≠ magic then
    .error (.malformedSequence .missingMagic)
  else if (fields bytes).versionMajor ≠ supportedMajor then
    .error (.malformedSequence (.unsupportedVersion (fields bytes).versionMajor))
  else .ok (fields bytes)

/-- Length of the show by the header's own step. -/
def durationMs (header : Header) : UInt64 :=
  header.frameCount.toUInt64 * header.stepTimeMs.toUInt64

theorem length_toBytes (header : Header) : header.toBytes.length = headerLength := by
  simp [toBytes, magic, headerLength]

end Header

/-! ## Header and frames -/

namespace FrameMatrix

def toSequence (matrix : FrameMatrix) (uniqueId : UInt64) : Except Fault (List UInt8) :=
  if maxFrameCount < matrix.frameCount then .error .tooManyFrames
  else
    .ok ((Header.plain (UInt32.ofNat matrix.frameCount) uniqueId).toBytes ++ matrix.data.toList)

def ofBytes? (bytes : List UInt8) (start frameCount : Nat) : Option FrameMatrix :=
  if h : start + frameCount * channelCount ≤ bytes.length then
    some {
      frameCount := frameCount
      data := ((bytes.drop start).take (frameCount * channelCount)).toArray
      size_data := by
        rw [List.size_toArray, List.length_take, List.length_drop]
        omega }
  else none

def ofSequence (bytes : List UInt8) : Except Fault (Header × FrameMatrix) := do
  let header ← Header.parse bytes
  if header.compression ≠ 0 then
    .error (.malformedSequence .compressed)
  else if header.channelCount.toNat ≠ channelCount then
    .error (.malformedSequence (.channelCount header.channelCount))
  else
    let start := header.dataOffset.toNat
    let frameCount := header.frameCount.toNat
    match ofBytes? bytes start frameCount with
    | some matrix => .ok (header, matrix)
    | none =>
        .error (.malformedSequence (.truncated (start + frameCount * channelCount) bytes.length))

end FrameMatrix

/-! ## Shows that are ready to be stored -/

structure ExportedShow where
  bytes : List UInt8
  frameCount : Nat
  channelCount : Nat
  deriving DecidableEq

def exportShow (events : List Event) (durationMs uniqueId : UInt64) :
    Except Fault ExportedShow := do
  let matrix ← compile events durationMs
  let bytes ← matrix.toSequence uniqueId
  .ok { bytes, frameCount := matrix.frameCount, channelCount }

end VehicleShow
