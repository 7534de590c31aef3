import VehicleShow.Console.Run
import VehicleShow.Proofs.Json.Reading

/-! # Programs on a session

`Reaches` says what a program makes of a session, whether it comes to its end or stops at a fault.
Each act has its own lemma, and `Reaches.bind` and `Reaches.stop` put a program's acts together in
their order.  What is loaded from a file is told by what the file holds. -/
set_option autoImplicit false
namespace VehicleShow.Console

/-! ## What files hold -/

def HoldsText (files : FileReader) (path text : String) : Prop :=
  files path = .ok text.toUTF8.data.toList

/-- A path holds a list of events: there is a file, it is text, and the text is such a list. -/
def HoldsEvents (files : FileReader) (path : String) (events : List Event) : Prop :=
  ∃ text, HoldsText files path text ∧ eventsOfText text = .ok events

/-- The settings are those that a path holds; without a path they are the default ones. -/
def HoldsSettings (files : FileReader) : Option String → Settings → Prop
  | some path, settings => ∃ text, HoldsText files path text ∧ Settings.ofText text = .ok settings
  | none, settings => settings = {}

theorem textOfBytes_eq_ok_iff {bytes : List UInt8} {text : String} :
    textOfBytes bytes = .ok text ↔ bytes = text.toUTF8.data.toList := by
  constructor
  · intro decoded
    rw [textOfBytes, String.fromUTF8?] at decoded
    split at decoded
    · next found given =>
      split at given <;> cases given
      cases decoded
      rfl
    · cases decoded
  · rintro rfl
    have stored : (⟨text.toUTF8.data.toList.toArray⟩ : ByteArray) = text.toByteArray := by
      rw [Array.toArray_toList]
      rfl
    rw [textOfBytes, stored, String.fromUTF8?, dif_pos text.isValidUTF8]
    rfl

section Holding
variable {files : FileReader} {path : String}

theorem textOf_eq_ok_iff {text : String} :
    textOf (files path) = .ok text ↔ HoldsText files path text := by
  rw [HoldsText]
  cases files path with
  | error fault => simp [textOf]
  | ok bytes =>
      rw [textOf, Except.ok.injEq, ← textOfBytes_eq_ok_iff]
      cases textOfBytes bytes <;> simp

theorem eventsOf_eq_ok_iff {events : List Event} :
    eventsOf (files path) = .ok events ↔ HoldsEvents files path events := by
  simp only [eventsOf, HoldsEvents, bind_eq_ok_iff, textOf_eq_ok_iff]

theorem settingsOf_eq_ok_iff {settings : Settings} :
    settingsOf (files path) = .ok settings ↔ HoldsSettings files (some path) settings := by
  simp only [settingsOf, HoldsSettings, bind_eq_ok_iff, textOf_eq_ok_iff]
  apply exists_congr
  intro text
  cases Settings.ofText text <;> simp

theorem holdsEvents_unique {events others : List Event} (held : HoldsEvents files path events)
    (alsoHeld : HoldsEvents files path others) : events = others :=
  Except.ok.inj ((eventsOf_eq_ok_iff.mpr held).symm.trans (eventsOf_eq_ok_iff.mpr alsoHeld))

theorem holdsSettings_unique {settingsPath : Option String} {settings others : Settings}
    (held : HoldsSettings files settingsPath settings)
    (alsoHeld : HoldsSettings files settingsPath others) : settings = others := by
  cases settingsPath with
  | none => exact held.trans alsoHeld.symm
  | some path =>
      have loaded := settingsOf_eq_ok_iff.mpr held
      exact Except.ok.inj (loaded.symm.trans (settingsOf_eq_ok_iff.mpr alsoHeld))

end Holding

/-! ## Sessions -/

namespace Session
variable {σ : Type}

def logging (session : Session σ) (entries : List LogEntry) : Session σ :=
  { session with logged := session.logged ++ entries }

def printing (session : Session σ) (lines : List String) : Session σ :=
  { session with printed := session.printed ++ lines }

theorem logging_nil (session : Session σ) : session.logging [] = session := by
  simp [logging]

theorem logging_logging (session : Session σ) (entries others : List LogEntry) :
    (session.logging entries).logging others = session.logging (entries ++ others) := by
  simp [logging]

theorem printing_nil (session : Session σ) : session.printing [] = session := by
  simp [printing]

theorem printing_printing (session : Session σ) (lines others : List String) :
    (session.printing lines).printing others = session.printing (lines ++ others) := by
  simp [printing]

end Session

/-! ## Acts in their order -/

section Acts
variable {σ α β : Type}

abbrev Program (σ α : Type) : Type := ExceptT Fault (StateM (Session σ)) α

/-- From one session the program comes to a result and another session. -/
def Reaches (program : Program σ α) (before : Session σ) (result : Except Fault α)
    (after : Session σ) : Prop :=
  program.run before = (result, after)

/-- The program stops at a fault before it has done anything but log. -/
def StopsQuietly (program : Program σ α) (before : Session σ) : Prop :=
  ∃ fault entries, Reaches program before (.error fault) (before.logging entries)

variable {program : Program σ α} {next : α → Program σ β} {before between after : Session σ}
  {value : α} {result : Except Fault β} {fault : Fault}

theorem run_bind (program : Program σ α) (next : α → Program σ β) (before : Session σ) :
    (program >>= next).run before =
      match program.run before with
      | (.ok value, between) => (next value).run between
      | (.error fault, between) => (.error fault, between) := by
  change (match program.run before with | (found, between) => ExceptT.bindCont next found between) = _
  rcases program.run before with ⟨fault | value, between⟩ <;> rfl

theorem Reaches.congr {found : Except Fault α} (reaches : Reaches program before found between)
    (same : between = after) : Reaches program before found after := same ▸ reaches

theorem Reaches.bind (first : Reaches program before (.ok value) between)
    (later : Reaches (next value) between result after) :
    Reaches (program >>= next) before result after := by
  rw [Reaches, run_bind, first]
  exact later

theorem Reaches.stop (first : Reaches program before (.error fault) after) :
    Reaches (program >>= next) before (.error fault) after := by
  rw [Reaches, run_bind, first]

theorem Reaches.stopsQuietly (stops : Reaches program before (.error fault) before) :
    StopsQuietly program before := by
  refine ⟨fault, [], ?_⟩
  rwa [Session.logging_nil]

theorem StopsQuietly.stop (first : StopsQuietly program before) :
    StopsQuietly (program >>= next) before := by
  obtain ⟨fault, entries, stops⟩ := first
  exact ⟨fault, entries, stops.stop⟩

theorem StopsQuietly.pass (first : Reaches program before (.ok value) before)
    (later : StopsQuietly (next value) before) : StopsQuietly (program >>= next) before := by
  obtain ⟨fault, entries, stops⟩ := later
  exact ⟨fault, entries, first.bind stops⟩

theorem StopsQuietly.bind {entries : List LogEntry}
    (first : Reaches program before (.ok value) (before.logging entries))
    (later : StopsQuietly (next value) (before.logging entries)) :
    StopsQuietly (program >>= next) before := by
  obtain ⟨fault, others, stops⟩ := later
  rw [Session.logging_logging] at stops
  exact ⟨fault, entries ++ others, first.bind stops⟩

theorem reaches_pure (value : α) (before : Session σ) :
    Reaches (pure value) before (.ok value) before := rfl

theorem reaches_throw (fault : Fault) (before : Session σ) :
    Reaches (throw fault : Program σ α) before (.error fault) before := rfl

theorem reaches_except {value found : Except Fault α} (comes : value = found)
    (before : Session σ) : Reaches (liftM value) before found before := by
  rw [comes]
  rfl

variable [FileSystem σ]

theorem reaches_read (path : String) (before : Session σ) :
    Reaches (MonadConsole.read path) before (.ok (FileSystem.read before.files path)) before := rfl

theorem reaches_write (path : String) (bytes : List UInt8) (before : Session σ) :
    Reaches (MonadConsole.write path bytes) before
      (.ok (FileSystem.write before.files path bytes).1)
      { before with files := (FileSystem.write before.files path bytes).2 } := rfl

theorem reaches_clockMs (before : Session σ) :
    Reaches MonadConsole.clockMs before (.ok before.clockMs) before := rfl

theorem reaches_log (entry : LogEntry) (before : Session σ) :
    Reaches (MonadConsole.log entry) before (.ok ()) (before.logging [entry]) := rfl

theorem reaches_logs (entries : List LogEntry) (before : Session σ) :
    Reaches (entries.forM MonadConsole.log) before (.ok ()) (before.logging entries) := by
  induction entries generalizing before with
  | nil =>
      rw [Session.logging_nil]
      rfl
  | cons entry others ih =>
      have later := ih (before.logging [entry])
      rw [Session.logging_logging] at later
      exact (reaches_log entry before).bind later

theorem reaches_prints (lines : List String) (before : Session σ) :
    Reaches (lines.forM MonadConsole.print) before (.ok ()) (before.printing lines) := by
  induction lines generalizing before with
  | nil =>
      rw [Session.printing_nil]
      rfl
  | cons line others ih =>
      have first : Reaches (MonadConsole.print line) before (.ok ()) (before.printing [line]) := rfl
      have later := ih (before.printing [line])
      rw [Session.printing_printing] at later
      exact first.bind later

end Acts

/-! ## Steps of the commands -/

section Steps
variable {σ : Type} [FileSystem σ] {before : Session σ}

theorem reaches_settingsAt {settingsPath : Option String} {settings : Settings}
    (set : HoldsSettings (FileSystem.read before.files) settingsPath settings) :
    Reaches (settingsAt settingsPath) before (.ok settings) before := by
  cases settingsPath with
  | none =>
      rw [show settings = {} from set]
      exact reaches_pure _ before
  | some path =>
      exact (reaches_read path before).bind (reaches_except (settingsOf_eq_ok_iff.mpr set) before)

theorem settingsAt_stops {settingsPath : Option String}
    (unheld : ∀ settings, ¬ HoldsSettings (FileSystem.read before.files) settingsPath settings) :
    StopsQuietly (settingsAt settingsPath) before := by
  cases settingsPath with
  | none => exact absurd rfl (unheld {})
  | some path =>
      cases loaded : settingsOf (FileSystem.read before.files path) with
      | error fault =>
          exact ((reaches_read path before).bind (reaches_except loaded before)).stopsQuietly
      | ok settings => exact absurd (settingsOf_eq_ok_iff.mp loaded) (unheld settings)

theorem reaches_eventsAt (before : Session σ) {path : String} {loaded : Except Fault (List Event)}
    (load : eventsOf (FileSystem.read before.files path) = loaded) :
    Reaches (eventsAt path) before loaded before :=
  (reaches_read path before).bind (reaches_except load before)

theorem eventsAt_stops (before : Session σ) {path : String}
    (unheld : ∀ events, ¬ HoldsEvents (FileSystem.read before.files) path events) :
    StopsQuietly (eventsAt path) before := by
  cases loaded : eventsOf (FileSystem.read before.files path) with
  | error fault => exact (reaches_eventsAt before loaded).stopsQuietly
  | ok events => exact absurd (eventsOf_eq_ok_iff.mp loaded) (unheld events)

section Export
variable {events : List Event} {durationMs uniqueId : UInt64}

theorem reaches_makeExport {exported : ExportedShow}
    (made : exportShow events durationMs uniqueId = .ok exported) (before : Session σ) :
    Reaches (makeExport events durationMs uniqueId) before (.ok exported)
      (before.logging [.compiledMatrix events exported.frameCount,
        .exportedShow events durationMs exported]) := by
  refine (reaches_except made before).bind ((reaches_log _ before).bind ?_)
  have last := reaches_log (.exportedShow events durationMs exported)
    (before.logging [.compiledMatrix events exported.frameCount])
  rw [Session.logging_logging] at last
  exact last.bind (reaches_pure exported _)

theorem makeExport_stops {fault : Fault}
    (failed : exportShow events durationMs uniqueId = .error fault) (before : Session σ) :
    StopsQuietly (makeExport events durationMs uniqueId) before :=
  (reaches_except failed before).stop.stopsQuietly

end Export

section Store
variable {path : String} {exported : ExportedShow} (before : Session σ)

theorem reaches_store
    (stored : (FileSystem.write before.files path exported.bytes).1 = .ok ()) :
    Reaches (store path exported) before (.ok ())
      ({ before with files := (FileSystem.write before.files path exported.bytes).2 }.logging
        [.wroteSequence path exported.bytes.length]) := by
  have act := reaches_write path exported.bytes before
  rw [stored] at act
  exact act.bind (reaches_log _ _)

theorem store_stops [LawfulFileSystem σ] {fault : FileFault}
    (refused : (FileSystem.write before.files path exported.bytes).1 = .error fault) :
    StopsQuietly (store path exported) before := by
  have act := reaches_write path exported.bytes before
  rw [refused, LawfulFileSystem.write_refused refused] at act
  exact (act.bind (reaches_throw (.file fault) before)).stopsQuietly

end Store

theorem reaches_showBudget (events : List Event) (before : Session σ) :
    Reaches (showBudget events) before (.ok ())
      ((before.logging (LogEntry.ofReport (BudgetReport.tally events))).printing
        (Print.budgetLines (BudgetReport.tally events))) :=
  (reaches_logs _ before).bind (reaches_prints _ _)

end Steps

/-! ## The other commands -/

section Other
variable {σ : Type} [FileSystem σ] {before : Session σ}

theorem reaches_runBudget {path : String} {events : List Event}
    (listed : HoldsEvents (FileSystem.read before.files) path events) :
    Reaches (runBudget path) before (.ok ())
      ((before.logging (LogEntry.ofReport (BudgetReport.tally events))).printing
        (Print.budgetLines (BudgetReport.tally events))) :=
  (reaches_eventsAt before (eventsOf_eq_ok_iff.mpr listed)).bind (reaches_showBudget events before)

theorem runBudget_stops {path : String}
    (unheld : ∀ events, ¬ HoldsEvents (FileSystem.read before.files) path events) :
    StopsQuietly (runBudget path) before :=
  (eventsAt_stops before unheld).stop

section Inspect
variable {input : String}

theorem reaches_runInspect {bytes : List UInt8} {header : Header} {m : FrameMatrix}
    (found : FileSystem.read before.files input = .ok bytes)
    (decoded : FrameMatrix.ofSequence bytes = .ok (header, m)) :
    Reaches (runInspect input) before (.ok ())
      ((before.printing (Print.inspectionLines header m)).logging
        (m.unmappedChannels.map LogEntry.unmappedChannel)) := by
  have act := reaches_read input before
  rw [found] at act
  exact act.bind ((reaches_except decoded before).bind ((reaches_prints _ before).bind
    (reaches_logs _ _)))

theorem runInspect_stops_of_unread {fault : FileFault}
    (unread : FileSystem.read before.files input = .error fault) :
    StopsQuietly (runInspect input) before := by
  have act := reaches_read input before
  rw [unread] at act
  exact (act.bind (reaches_throw (.file fault) before)).stopsQuietly

theorem runInspect_stops_of_undecoded {bytes : List UInt8} {fault : Fault}
    (found : FileSystem.read before.files input = .ok bytes)
    (undecoded : FrameMatrix.ofSequence bytes = .error fault) :
    StopsQuietly (runInspect input) before := by
  have act := reaches_read input before
  rw [found] at act
  exact (act.bind (reaches_except undecoded before).stop).stopsQuietly

end Inspect

/-- Only the compile command writes. -/
theorem keeps_files_of_other {invocation : Invocation}
    (other : ∀ eventsPath durationMs output settingsPath,
      invocation ≠ .compile eventsPath durationMs output settingsPath) (before : Session σ) :
    ∃ result after, Reaches invocation.program before result after ∧
      after.files = before.files := by
  have quiet {program : Program σ Unit} (stops : StopsQuietly program before) :
      ∃ result after, Reaches program before result after ∧ after.files = before.files := by
    obtain ⟨fault, entries, reaches⟩ := stops
    exact ⟨_, _, reaches, rfl⟩
  cases invocation with
  | compile eventsPath durationMs output settingsPath =>
      exact absurd rfl (other eventsPath durationMs output settingsPath)
  | inspect input =>
      cases found : FileSystem.read before.files input with
      | error fault => exact quiet (runInspect_stops_of_unread found)
      | ok bytes =>
          cases decoded : FrameMatrix.ofSequence bytes with
          | error fault => exact quiet (runInspect_stops_of_undecoded found decoded)
          | ok read => exact ⟨_, _, reaches_runInspect found decoded, rfl⟩
  | budget eventsPath =>
      by_cases listed : ∃ events, HoldsEvents (FileSystem.read before.files) eventsPath events
      · obtain ⟨events, listed⟩ := listed
        exact ⟨_, _, reaches_runBudget listed, rfl⟩
      · exact quiet (runBudget_stops (not_exists.mp listed))

end Other

/-! ## Runs -/

theorem run_of_reaches {σ : Type} [FileSystem σ] {files : σ} {clockMs : UInt64}
    {arguments : List String} {invocation : Invocation} {result : Except Fault Unit}
    {after : Session σ} (asked : Invocation.ofArguments arguments = some invocation)
    (reaches : Reaches invocation.program { files, clockMs } result after) :
    run files clockMs arguments = { after with ending := .ofResult result } := by
  have obeyed : (obey arguments : StateM (Session σ) Ending).run { files, clockMs } =
      (.ofResult result, after) := by
    rw [obey, asked]
    exact congrArg (Prod.map Ending.ofResult id) reaches
  rw [run, obeyed]

section OtherRuns
variable {σ : Type} [FileSystem σ] {files : σ} {clockMs : UInt64} {arguments : List String}

theorem run_budget {eventsPath : String} {events : List Event}
    (asked : Invocation.ofArguments arguments = some (.budget eventsPath))
    (listed : HoldsEvents (FileSystem.read files) eventsPath events) :
    (run files clockMs arguments).exitCode = 0 ∧
      (run files clockMs arguments).printed = Print.budgetLines (BudgetReport.tally events) := by
  rw [run_of_reaches asked (reaches_runBudget listed)]
  exact ⟨rfl, rfl⟩

theorem files_run_of_other
    (other : ∀ eventsPath durationMs output settingsPath, Invocation.ofArguments arguments ≠
      some (.compile eventsPath durationMs output settingsPath)) :
    (run files clockMs arguments).files = files := by
  cases asked : Invocation.ofArguments arguments with
  | none =>
      rw [run, obey, asked]
      rfl
  | some invocation =>
      have distinct (eventsPath : String) (durationMs : UInt64) (output settingsPath : Option String) :
          invocation ≠ .compile eventsPath durationMs output settingsPath := by
        rintro rfl
        exact other eventsPath durationMs output settingsPath asked
      obtain ⟨result, after, reaches, kept⟩ :=
        keeps_files_of_other distinct { files, clockMs }
      rw [run_of_reaches asked reaches]
      exact kept

end OtherRuns

end VehicleShow.Console
