import Std.Time.DateTime.Timestamp
import VehicleShow.Console.Run

/-! # The program

The acts of a run on the files, the output and the clock of the system. -/
set_option autoImplicit false
namespace VehicleShow.Console

/-- Acts on the system; the log shows the levels up to the given one. -/
abbrev Terminal : Type → Type := ReaderT Nat IO

def causeOf : IO.Error → FileFault
  | .noFileOrDirectory _ _ _ => .notFound
  | reason => .other reason.toString

def attempt {α : Type} (act : IO α) : IO (Except FileFault α) := do
  match ← act.toBaseIO with
  | .ok value => return .ok value
  | .error reason => return .error (causeOf reason)

instance : MonadConsole Terminal where
  read path := attempt do
    let bytes ← IO.FS.readBinFile path
    return bytes.toList
  write path bytes := attempt (IO.FS.writeBinFile path ⟨bytes.toArray⟩)
  print line := IO.println line
  log entry := do
    if entry.level.detail ≤ (← read) then IO.println entry.line
  clockMs := do
    let now ← Std.Time.Timestamp.now
    return UInt64.ofNat now.toMillisecondsSinceUnixEpoch.toInt.toNat

def usage : String :=
  "usage: light-show (compile EVENTS -d MS [-o PATH] [-c PATH] | inspect FILE | budget EVENTS)"

def report : Ending → IO Unit
  | .done => return
  | .failed fault => IO.eprintln ("Error: " ++ fault.message)
  | .misused => IO.eprintln usage

def start (arguments : List String) : IO UInt32 := do
  let detail := LogLevel.detailOf (← IO.getEnv "RUST_LOG")
  let ending ← (obey arguments : Terminal Ending).run detail
  report ending
  return UInt32.ofNat ending.exitCode

end VehicleShow.Console

def main (arguments : List String) : IO UInt32 := VehicleShow.Console.start arguments
