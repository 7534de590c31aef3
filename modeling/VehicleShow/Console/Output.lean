import VehicleShow.Binary64
import VehicleShow.QuotedText
import VehicleShow.Sequence
import VehicleShow.Usage

/-! # What a run prints and logs

The lines of each command's answer, without their line ends, and the entries that report what a run
does besides.  An entry names the part of the program that speaks and carries its facts as fields. -/
set_option autoImplicit false
namespace VehicleShow.Console

/-! ## Printed lines -/

namespace Print

open Binary64 (fixed padLeft padRight)

def seconds (places : Nat) (ms : UInt64) : String := fixed places (ms.toFloat / 1000.0)

/-! ### Budgets -/

def usageLine (usage : PartUsage) : String :=
  "  " ++ padRight 20 usage.part.name ++ " " ++ padLeft 3 ' ' (Nat.repr usage.used.toNat) ++ "/"
    ++ padRight 3 (Nat.repr usage.limit.toNat) ++ (if usage.isOverLimit then "  OVER" else "")

def danceLine (dance : LongDance) : String :=
  "  " ++ dance.part.name ++ " dances for " ++ seconds 1 dance.durationMs ++ " s from "
    ++ seconds 1 dance.startMs ++ " s (30 s recommended max)"

def budgetLines (report : BudgetReport) : List String :=
  if report.usage.isEmpty then ["no closure commands"]
  else "closure commands:" :: report.usage.map usageLine ++ report.longDances.map danceLine

/-! ### Exports -/

def exportLines (path : String) (exported : ExportedShow) : List String :=
  ["wrote " ++ path,
   "  frames:   " ++ Nat.repr exported.frameCount,
   "  channels: " ++ Nat.repr exported.channelCount,
   "  bytes:    " ++ Nat.repr exported.bytes.length]

/-! ### Sequences -/

def hexadecimal (n : Nat) : String := "0x" ++ String.ofList (Nat.toDigits 16 n)

def headerLine (header : Header) : String :=
  "PSEQ v" ++ Nat.repr header.versionMajor.toNat ++ "." ++ Nat.repr header.versionMinor.toNat
    ++ ": " ++ Nat.repr header.channelCount.toNat ++ " channels, "
    ++ Nat.repr header.frameCount.toNat ++ " frames @ " ++ Nat.repr header.stepTimeMs.toNat
    ++ " ms (" ++ seconds 1 header.durationMs ++ " s), id " ++ hexadecimal header.uniqueId.toNat

/-- A command byte with its name, any other byte as a bare number. -/
def commandLabel (byte : UInt8) : String :=
  match Command.ofByte? byte with
  | some command => command.name ++ "(" ++ Nat.repr byte.toNat ++ ")"
  | none => Nat.repr byte.toNat

def transitionLine (transition : Transition) : String :=
  "  " ++ padLeft 8 ' ' (seconds 2 transition.timeMs) ++ "s (frame " ++ Nat.repr transition.frame
    ++ "): " ++ commandLabel transition.before ++ " -> " ++ commandLabel transition.after

def channelLines (part : Part) (channel : Channel) (transitions : List Transition) : List String :=
  let title := "ch " ++ padLeft 2 ' ' (Nat.repr channel.val) ++ " (" ++ part.name ++ "):"
  if transitions.isEmpty then [title ++ " no activity"]
  else title :: transitions.map transitionLine

def partLines (matrix : FrameMatrix) (part : Part) : List String :=
  match part.commandChannel? with
  | some channel => channelLines part channel (matrix.transitions channel)
  | none => []

def inspectionLines (header : Header) (matrix : FrameMatrix) : List String :=
  headerLine header :: Part.all.flatMap (partLines matrix)
    ++ (if matrix.unmappedChannels.isEmpty then ["all active channels belong to known parts"]
        else [])

end Print

/-! ## Log entries -/

inductive LogLevel where
  | warn
  | info
  | debug
  deriving DecidableEq, Repr

def LogLevel.name : LogLevel → String
  | .warn => "WARN"
  | .info => "INFO"
  | .debug => "DEBUG"

/-- How much each level says; a log that takes `n` shows the levels up to `n`. -/
def LogLevel.detail : LogLevel → Nat
  | .warn => 1
  | .info => 2
  | .debug => 3

/-- How much of the log is asked for: up to a level, nothing, or else what a run has to tell. -/
def LogLevel.detailOf (asked : Option String) : Nat :=
  match asked.map String.toLower with
  | some "" | some "off" | some "error" => 0
  | some "warn" => LogLevel.warn.detail
  | some "debug" | some "trace" => LogLevel.debug.detail
  | _ => LogLevel.info.detail

structure LogEntry where
  level : LogLevel
  target : String
  message : String
  fields : List (String × String)
  deriving DecidableEq, Repr

namespace LogEntry

def line (entry : LogEntry) : String :=
  entry.level.name ++ " " ++ entry.target ++ ": " ++ entry.message
    ++ String.join (entry.fields.map fun field => " " ++ field.1 ++ "=" ++ field.2)

/-! ### The entries of a run -/

def number (name : String) (n : Nat) : String × String := (name, Nat.repr n)

def compilingShow (path : String) (durationMs : UInt64) : LogEntry :=
  ⟨.info, "light_show", "compiling show",
    [("events", quoted path), number "duration_ms" durationMs.toNat]⟩

def compiledMatrix (events : List Event) (frameCount : Nat) : LogEntry :=
  let lights := events.countP fun event => event.lightSetting?.isSome
  let skipped := events.countP fun event => event.part?.isNone
  ⟨.debug, "light_show_core::timeline", "compiled frame matrix",
    [number "frame_count" frameCount, number "brightness_events" lights,
      number "directives" (events.flatMap Event.directives).length, number "skipped" skipped]⟩

def exportedShow (events : List Event) (durationMs : UInt64) (exported : ExportedShow) : LogEntry :=
  ⟨.info, "light_show_core::fseq", "exported show",
    [number "events" events.length, number "duration_ms" durationMs.toNat,
      number "frame_count" exported.frameCount, number "bytes" exported.bytes.length]⟩

def wroteSequence (path : String) (size : Nat) : LogEntry :=
  ⟨.info, "light_show_core::fseq", "wrote sequence", [("path", path), number "bytes" size]⟩

def overLimit (usage : PartUsage) : LogEntry :=
  ⟨.warn, "light_show_core::budget", "closure command budget exceeded",
    [("part", usage.part.name), number "used" usage.used.toNat, number "limit" usage.limit.toNat]⟩

def longDance (dance : LongDance) : LogEntry :=
  ⟨.warn, "light_show_core::budget", "window dance exceeds recommended length",
    [("part", dance.part.name), number "start_ms" dance.startMs.toNat,
      number "duration_ms" dance.durationMs.toNat]⟩

def unmappedChannel (channel : Channel) : LogEntry :=
  ⟨.warn, "light_show", "channel carries data but is not mapped to any part",
    [number "channel" channel.val]⟩

/-- Warnings of a budget report: first the parts over their limit, then the long dances. -/
def ofReport (report : BudgetReport) : List LogEntry :=
  report.overLimit.map overLimit ++ report.longDances.map longDance

end LogEntry

end VehicleShow.Console
