import VehicleShow.Console.Arguments
import VehicleShow.Console.Files
import VehicleShow.Console.Output
import VehicleShow.Settings
import VehicleShow.SharedShow

/-! # Runs of the command line

Each command is a program over the acts of `MonadConsole`, in the order in which they happen, and
stops at the first fault.  `run` lets a command line act on a file system and keeps what it prints
and logs on the way. -/
set_option autoImplicit false
namespace VehicleShow.Console

class MonadConsole (m : Type → Type) where
  read : String → m (Except FileFault (List UInt8))
  write : String → List UInt8 → m (Except FileFault Unit)
  print : String → m Unit
  log : LogEntry → m Unit
  clockMs : m UInt64

/-! ## What files hold -/

def textOf (content : Except FileFault (List UInt8)) : Except Fault String :=
  match content with
  | .error fault => .error (.file fault)
  | .ok bytes =>
      match textOfBytes bytes with
      | .error fault => .error (.file fault)
      | .ok text => .ok text

def eventsOf (content : Except FileFault (List UInt8)) : Except Fault (List Event) := do
  let text ← textOf content
  eventsOfText text

def settingsOf (content : Except FileFault (List UInt8)) : Except Fault Settings := do
  let text ← textOf content
  match Settings.ofText text with
  | .ok settings => .ok settings
  | .error fault => .error (.json fault)

def loadShow (files : FileReader) (path : String) : Except Fault SharedShow := do
  let text ← textOf (files path)
  SharedShow.ofText text

def loadSettings (files : FileReader) (path : String) : Except Fault Settings :=
  settingsOf (files path)

/-! ## The three commands -/

section Commands
variable {m : Type → Type} [Monad m] [MonadConsole m]

instance : MonadConsole (ExceptT Fault m) where
  read path := ExceptT.lift (MonadConsole.read path)
  write path bytes := ExceptT.lift (MonadConsole.write path bytes)
  print line := ExceptT.lift (MonadConsole.print line)
  log entry := ExceptT.lift (MonadConsole.log entry)
  clockMs := ExceptT.lift MonadConsole.clockMs

open MonadConsole (read write print log clockMs)

def settingsAt : Option String → ExceptT Fault m Settings
  | some path => do settingsOf (← read path)
  | none => pure {}

def eventsAt (path : String) : ExceptT Fault m (List Event) := do
  eventsOf (← read path)

def makeExport (events : List Event) (durationMs uniqueId : UInt64) :
    ExceptT Fault m ExportedShow := do
  let exported ← exportShow events durationMs uniqueId
  log (.compiledMatrix events exported.frameCount)
  log (.exportedShow events durationMs exported)
  return exported

def store (path : String) (exported : ExportedShow) : ExceptT Fault m Unit := do
  match ← write path exported.bytes with
  | .ok () => log (.wroteSequence path exported.bytes.length)
  | .error fault => throw (.file fault)

/-- The warnings of the report come before its lines. -/
def showBudget (events : List Event) : ExceptT Fault m Unit := do
  let report := BudgetReport.tally events
  (LogEntry.ofReport report).forM log
  (Print.budgetLines report).forM print

def runCompile (eventsPath : String) (durationMs : UInt64) (output settingsPath : Option String) :
    ExceptT Fault m Unit := do
  let settings ← settingsAt settingsPath
  log (.compilingShow eventsPath durationMs)
  let events ← eventsAt eventsPath
  let exported ← makeExport events durationMs (settings.resolveId (← clockMs))
  let path := output.getD settings.fileName
  store path exported
  (Print.exportLines path exported).forM print
  showBudget events

def runInspect (input : String) : ExceptT Fault m Unit := do
  match ← read input with
  | .error fault => throw (.file fault)
  | .ok bytes =>
      let (header, matrix) ← FrameMatrix.ofSequence bytes
      (Print.inspectionLines header matrix).forM print
      (matrix.unmappedChannels.map LogEntry.unmappedChannel).forM log

def runBudget (eventsPath : String) : ExceptT Fault m Unit := do
  let events ← eventsAt eventsPath
  showBudget events

def Invocation.program : Invocation → ExceptT Fault m Unit
  | .compile events durationMs output settings => runCompile events durationMs output settings
  | .inspect input => runInspect input
  | .budget events => runBudget events

inductive Ending where
  | done
  | failed (fault : Fault)
  | misused
  deriving DecidableEq, Repr

def Ending.ofResult : Except Fault Unit → Ending
  | .ok () => .done
  | .error fault => .failed fault

def Ending.exitCode : Ending → Nat
  | .done => 0
  | .failed _ => 1
  | .misused => 2

def Ending.fault? : Ending → Option Fault
  | .failed fault => some fault
  | .done | .misused => none

def obey (arguments : List String) : m Ending := do
  match Invocation.ofArguments arguments with
  | none => return .misused
  | some invocation => return .ofResult (← invocation.program.run)

end Commands

/-! ## Runs on a file system -/

structure Session (σ : Type) where
  files : σ
  clockMs : UInt64
  printed : List String := []
  logged : List LogEntry := []

instance {σ : Type} [FileSystem σ] : MonadConsole (StateM (Session σ)) where
  read path session := (FileSystem.read session.files path, session)
  write path bytes session :=
    let (result, files) := FileSystem.write session.files path bytes
    (result, { session with files })
  print line session := ((), { session with printed := session.printed ++ [line] })
  log entry session := ((), { session with logged := session.logged ++ [entry] })
  clockMs session := (session.clockMs, session)

structure Outcome (σ : Type) extends Session σ where
  ending : Ending

def Outcome.exitCode {σ : Type} (outcome : Outcome σ) : Nat := outcome.ending.exitCode

def run {σ : Type} [FileSystem σ] (files : σ) (clockMs : UInt64) (arguments : List String) :
    Outcome σ :=
  let (ending, session) := (obey arguments : StateM (Session σ) Ending).run { files, clockMs }
  { session with ending }

end VehicleShow.Console
