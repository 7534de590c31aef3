import VehicleShow.Json.Token
import VehicleShow.Part.Basic

/-! # Faults

Every way in which a part of the library refuses its input, as a cause.  `Fault.message` holds the
wording. -/
set_option autoImplicit false
namespace VehicleShow

inductive ShowDefect where
  | wrongFormat
  | eventsNotArray
  | noEvents
  deriving DecidableEq, Repr

/-- Why a byte string is no sequence, in the order in which the checks are made. -/
inductive SequenceDefect where
  | shortHeader (size : Nat)
  | missingMagic
  | unsupportedVersion (major : UInt8)
  | compressed
  | channelCount (declared : UInt32)
  | truncated (needed size : Nat)
  deriving DecidableEq, Repr

inductive FileFault where
  | notFound
  | notText
  | isDirectory
  | nameTooLong
  | other (reason : String)
  deriving DecidableEq, Repr

inductive Fault where
  | invalidDuration (durationMs : UInt64)
  | durationTooLong (durationMs : UInt64) (frameCount : Nat)
  | invalidShow (defect : ShowDefect)
  | malformedSequence (defect : SequenceDefect)
  | unknownPart (name : String)
  | tooManyFrames
  | json (fault : Json.Fault)
  | file (fault : FileFault)
  deriving DecidableEq, Repr

def shareFormat : String := "lightstudio_v1"

def headerLength : Nat := 32

def ShowDefect.message : ShowDefect → String
  | .wrongFormat => "expected format `" ++ shareFormat ++ "`"
  | .eventsNotArray => "`events` must be an array"
  | .noEvents => "show contains no events"

def SequenceDefect.message : SequenceDefect → String
  | .shortHeader size =>
      "expected at least " ++ Nat.repr headerLength ++ " header bytes, got " ++ Nat.repr size
  | .missingMagic => "missing PSEQ magic"
  | .unsupportedVersion major => "unsupported major version " ++ Nat.repr major.toNat
  | .compressed => "compressed sequences are not supported"
  | .channelCount declared =>
      "expected " ++ Nat.repr VehicleShow.channelCount ++ " channels, header declares "
        ++ Nat.repr declared.toNat
  | .truncated needed size =>
      "channel data truncated: need " ++ Nat.repr needed ++ " bytes, have " ++ Nat.repr size

def FileFault.message : FileFault → String
  | .notFound => "no such file or directory"
  | .notText => "the file is not valid UTF-8"
  | .isDirectory => "is a directory"
  | .nameTooLong => "file name too long"
  | .other reason => reason

def Json.Fault.message : Json.Fault → String
  | .malformed => "the text is not JSON"
  | .truncated => "the text ends too early"
  | .mismatch => "the text has the wrong shape"

def Fault.message : Fault → String
  | .invalidDuration durationMs =>
      "show duration must be positive (got " ++ Nat.repr durationMs.toNat
        ++ " ms); is an audio track loaded?"
  | .durationTooLong durationMs frameCount =>
      "show duration of " ++ Nat.repr durationMs.toNat ++ " ms needs " ++ Nat.repr frameCount
        ++ " frames, more than a sequence can hold"
  | .invalidShow defect => "invalid show file: " ++ defect.message
  | .malformedSequence defect => "malformed sequence: " ++ defect.message
  | .unknownPart name => "unknown part `" ++ name ++ "`"
  | .tooManyFrames => "show has too many frames for an FSEQ header"
  | .json fault => fault.message
  | .file fault => fault.message

end VehicleShow
