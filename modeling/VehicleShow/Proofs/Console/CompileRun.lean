import VehicleShow.Proofs.Console.Programs
import VehicleShow.Proofs.ExportedShow

/-! # Runs that compile

A run of the compile command loads its settings and its events, exports the show, writes one file and
prints only then.  `compile_all_or_nothing` says, on any file system, that there are two ways for it
to end: an obstacle stops it before anything has been printed or written, or there is none and it
does all of its work.  The other commands leave the files alone. -/
set_option autoImplicit false
namespace VehicleShow.Console

/-! ## Command lines -/

/-- Behind two dashes, any text but the empty one is taken for a path. -/
theorem Collected.read_path {path : String} (named : path ≠ "") (options : Bool) :
    Collected.read options {} ["--", path] = some { values := [path] } := by
  have ended : Argument.ofText "--" = .endOfOptions := by decide
  rw [Collected.read, ended]
  simp [Collected.addValue, parsePath, named]

/-! ## The two ways of compiling -/

section Compile
variable {σ : Type} [FileSystem σ] (files : σ) (clockMs : UInt64) (eventsPath : String)
  (durationMs : UInt64) (output settingsPath : Option String)

/-- What a compile command comes to: its settings, its events and the export, which can be written
under its path. -/
structure Delivers (settings : Settings) (events : List Event) (exported : ExportedShow) :
    Prop where
  set : HoldsSettings (FileSystem.read files) settingsPath settings
  listed : HoldsEvents (FileSystem.read files) eventsPath events
  made : exportShow events durationMs (settings.uniqueId.getD clockMs) = .ok exported
  stored :
    (FileSystem.write files (output.getD settings.fileName) exported.bytes).1 = .ok ()

inductive Obstacle : Prop
  | settings (unheld : ∀ settings, ¬ HoldsSettings (FileSystem.read files) settingsPath settings)
  | events (unheld : ∀ events, ¬ HoldsEvents (FileSystem.read files) eventsPath events)
  | noLength (empty : durationMs = 0)
  | tooLong (uncounted : UInt32.size ≤ (durationMs.toNat + 19) / 20)
  | output {settings : Settings} {events : List Event} {exported : ExportedShow}
      {fault : FileFault} (set : HoldsSettings (FileSystem.read files) settingsPath settings)
      (listed : HoldsEvents (FileSystem.read files) eventsPath events)
      (made : exportShow events durationMs (settings.uniqueId.getD clockMs) = .ok exported)
      (refused : (FileSystem.write files (output.getD settings.fileName) exported.bytes).1 =
        .error fault)

variable {files clockMs eventsPath durationMs output settingsPath}
variable {settings : Settings} {events : List Event} {exported : ExportedShow}

theorem not_obstacle_of_delivers
    (ready : Delivers files clockMs eventsPath durationMs output settingsPath settings events
      exported) : ¬ Obstacle files clockMs eventsPath durationMs output settingsPath := by
  intro obstacle
  obtain ⟨m, compiled, -⟩ := compile_of_exportShow ready.made
  obtain ⟨started, counted, -⟩ := (compile_eq_ok_iff events durationMs m).mp compiled
  cases obstacle with
  | settings unheld => exact unheld settings ready.set
  | events unheld => exact unheld events ready.listed
  | noLength empty => exact started empty
  | tooLong uncounted => exact absurd counted (Nat.not_le.mpr uncounted)
  | output set listed made refused =>
      obtain rfl := holdsSettings_unique ready.set set
      obtain rfl := holdsEvents_unique ready.listed listed
      obtain rfl := Except.ok.inj (ready.made.symm.trans made)
      rw [ready.stored] at refused
      cases refused

/-- There is one thing that a compile command comes to. -/
theorem delivers_unique {otherSettings : Settings} {otherEvents : List Event}
    {otherExported : ExportedShow}
    (ready : Delivers files clockMs eventsPath durationMs output settingsPath settings events
      exported)
    (alsoReady : Delivers files clockMs eventsPath durationMs output settingsPath otherSettings
      otherEvents otherExported) :
    settings = otherSettings ∧ events = otherEvents ∧ exported = otherExported := by
  obtain rfl := holdsSettings_unique ready.set alsoReady.set
  obtain rfl := holdsEvents_unique ready.listed alsoReady.listed
  exact ⟨rfl, rfl, Except.ok.inj (ready.made.symm.trans alsoReady.made)⟩

theorem reaches_runCompile (before : Session σ)
    (ready : Delivers before.files before.clockMs eventsPath durationMs output settingsPath settings
      events exported) :
    let path := output.getD settings.fileName
    let report := BudgetReport.tally events
    Reaches (runCompile eventsPath durationMs output settingsPath) before (.ok ())
      { before with
        files := (FileSystem.write before.files path exported.bytes).2
        printed := before.printed ++ (Print.exportLines path exported ++ Print.budgetLines report)
        logged := before.logged ++ ([.compilingShow eventsPath durationMs,
          .compiledMatrix events exported.frameCount, .exportedShow events durationMs exported,
          .wroteSequence path exported.bytes.length] ++ LogEntry.ofReport report) } := by
  refine (reaches_settingsAt ready.set).bind ?_
  refine (reaches_log (.compilingShow eventsPath durationMs) before).bind ?_
  refine (reaches_eventsAt (before.logging _) (eventsOf_eq_ok_iff.mpr ready.listed)).bind ?_
  refine (reaches_clockMs _).bind ?_
  refine (reaches_makeExport ready.made _).bind ?_
  refine (reaches_store ((before.logging _).logging _) ready.stored).bind ?_
  refine (reaches_prints _ _).bind ?_
  exact (reaches_showBudget events _).congr (by simp [Session.logging, Session.printing])

/-- The steps of the command stop where the obstacles are, and up to there do nothing but log. -/
theorem delivers_or_obstacle [LawfulFileSystem σ] (before : Session σ) :
    (∃ settings events exported,
      Delivers before.files before.clockMs eventsPath durationMs output settingsPath settings events
        exported) ∨
    Obstacle before.files before.clockMs eventsPath durationMs output settingsPath ∧
      StopsQuietly (runCompile eventsPath durationMs output settingsPath) before := by
  -- Each case passes the steps that come before the one that stops.
  by_cases set : ∃ settings, HoldsSettings (FileSystem.read before.files) settingsPath settings
  case neg => exact .inr ⟨.settings (not_exists.mp set), (settingsAt_stops (not_exists.mp set)).stop⟩
  obtain ⟨settings, set⟩ := set
  have logged := reaches_log (.compilingShow eventsPath durationMs) before
  by_cases listed : ∃ events, HoldsEvents (FileSystem.read before.files) eventsPath events
  case neg =>
    refine .inr ⟨.events (not_exists.mp listed), ?_⟩
    refine .pass (reaches_settingsAt set) (.bind logged ?_)
    exact (eventsAt_stops (before.logging _) (not_exists.mp listed)).stop
  obtain ⟨events, listed⟩ := listed
  have loaded := reaches_eventsAt (before.logging [.compilingShow eventsPath durationMs])
    (eventsOf_eq_ok_iff.mpr listed)
  cases made : exportShow events durationMs (settings.resolveId before.clockMs) with
  | error fault =>
      refine .inr ⟨?_, ?_⟩
      · rcases (compile_eq_error_iff events durationMs fault).mp
          ((exportShow_eq_error_iff _ fault).mp made) with ⟨empty, -⟩ | ⟨long, -⟩
        · exact .noLength empty
        · exact .tooLong (Nat.le_of_pred_lt long)
      · refine .pass (reaches_settingsAt set) (.bind logged (.pass loaded ?_))
        exact .pass (reaches_clockMs _) (makeExport_stops made _).stop
  | ok exported =>
      cases stored : (FileSystem.write before.files (output.getD settings.fileName)
          exported.bytes).1 with
      | ok => exact .inl ⟨settings, events, exported, set, listed, made, stored⟩
      | error fault =>
          refine .inr ⟨.output set listed made stored, ?_⟩
          refine .pass (reaches_settingsAt set) (.bind logged (.pass loaded ?_))
          refine .pass (reaches_clockMs _) (.bind (reaches_makeExport made _) ?_)
          exact (store_stops ((before.logging _).logging _) stored).stop

end Compile

/-! ## Runs -/

section AllOrNothing
variable {σ : Type} [FileSystem σ] {files : σ} {clockMs : UInt64} {arguments : List String}

section Asked
variable {eventsPath : String} {durationMs : UInt64} {output settingsPath : Option String}
  (asked : Invocation.ofArguments arguments =
    some (.compile eventsPath durationMs output settingsPath))
include asked

theorem run_of_delivers {settings : Settings} {events : List Event} {exported : ExportedShow}
    (ready : Delivers files clockMs eventsPath durationMs output settingsPath settings events
      exported) :
    (run files clockMs arguments).exitCode = 0 ∧
      (run files clockMs arguments).printed =
        Print.exportLines (output.getD settings.fileName) exported
          ++ Print.budgetLines (BudgetReport.tally events) ∧
      (run files clockMs arguments).files =
        (FileSystem.write files (output.getD settings.fileName) exported.bytes).2 := by
  rw [run_of_reaches asked (reaches_runCompile { files, clockMs } ready)]
  exact ⟨rfl, rfl, rfl⟩

variable [LawfulFileSystem σ]

variable (files clockMs) in
theorem delivers_or_refused :
    (∃ settings events exported,
      Delivers files clockMs eventsPath durationMs output settingsPath settings events exported) ∨
    Obstacle files clockMs eventsPath durationMs output settingsPath ∧
      (run files clockMs arguments).exitCode = 1 ∧
      (run files clockMs arguments).printed = [] ∧
      (run files clockMs arguments).files = files := by
  let before : Session σ := { files, clockMs }
  rcases delivers_or_obstacle before with ready | ⟨obstacle, fault, entries, stops⟩
  · exact .inl ready
  · rw [run_of_reaches asked stops]
    exact .inr ⟨obstacle, rfl, rfl, rfl⟩

/-- A run that exits well has met no obstacle. -/
theorem delivers_of_exit (succeeded : (run files clockMs arguments).exitCode = 0) :
    ∃ settings events exported,
      Delivers files clockMs eventsPath durationMs output settingsPath settings events
        exported := by
  rcases delivers_or_refused files clockMs asked with ready | ⟨-, failed, -⟩
  · exact ready
  · rw [failed] at succeeded
    cases succeeded

end Asked
end AllOrNothing

theorem exportLines_of_exportShow {events : List Event} {durationMs uniqueId : UInt64}
    {exported : ExportedShow} (made : exportShow events durationMs uniqueId = .ok exported)
    (path : String) :
    Print.exportLines path exported =
      ["wrote " ++ path,
       "  frames:   " ++ Nat.repr ((durationMs.toNat + 19) / 20),
       "  channels: 48",
       "  bytes:    " ++ Nat.repr (32 + 48 * ((durationMs.toNat + 19) / 20))] := by
  obtain ⟨m, compiled, rfl⟩ := compile_of_exportShow made
  have count : m.frameCount = (durationMs.toNat + 19) / 20 := (frameCount_of_compile compiled).1
  simp only [Print.exportLines, m.length_sequenceBytes uniqueId, count]
  rfl

section Named
variable {σ : Type} [FileSystem σ] [LawfulFileSystem σ] {files : σ} {path : String}

theorem ne_empty_of_read {bytes : List UInt8} (found : FileSystem.read files path = .ok bytes) :
    path ≠ "" := by
  rintro rfl
  exact LawfulFileSystem.read_empty found

theorem exists_budget_arguments {events : List Event}
    (listed : HoldsEvents (FileSystem.read files) path events) :
    ∃ again, Invocation.ofArguments again = some (.budget path) := by
  obtain ⟨text, found, -⟩ := listed
  refine ⟨["budget", "--", path], ?_⟩
  rw [Invocation.ofArguments, Collected.read_path (ne_empty_of_read found)]
  rfl

end Named

/-- On every file system, a compile run fails just where there is an obstacle, and then has printed
and changed nothing.  Otherwise it has made one write, of the export to its path, and printed a
summary of it and after that what the budget command prints for the same events.  No other command
changes a file. -/
theorem compile_all_or_nothing {σ : Type} [FileSystem σ] [LawfulFileSystem σ] (files : σ) :
    (∀ clockMs arguments eventsPath durationMs output settingsPath,
      Invocation.ofArguments arguments =
          some (.compile eventsPath durationMs output settingsPath) →
        let outcome := run files clockMs arguments
        (outcome.exitCode = 1 ∧
            Obstacle files clockMs eventsPath durationMs output settingsPath ∧
            outcome.printed = [] ∧ outcome.files = files) ∨
          (outcome.exitCode = 0 ∧
            ¬ Obstacle files clockMs eventsPath durationMs output settingsPath ∧
            ∃ settings events exported,
              let path := output.getD settings.fileName
              Delivers files clockMs eventsPath durationMs output settingsPath settings events
                exported ∧
              outcome.files = (FileSystem.write files path exported.bytes).2 ∧
              FileSystem.read outcome.files path = .ok exported.bytes ∧
              (∀ other, ¬ FileSystem.SameFile files path other →
                FileSystem.read outcome.files other = FileSystem.read files other) ∧
              (∃ again, Invocation.ofArguments again = some (.budget eventsPath)) ∧
              ∀ laterMs again, Invocation.ofArguments again = some (.budget eventsPath) →
                (run files laterMs again).exitCode = 0 ∧
                  outcome.printed =
                    ["wrote " ++ path,
                     "  frames:   " ++ Nat.repr ((durationMs.toNat + 19) / 20),
                     "  channels: 48",
                     "  bytes:    " ++ Nat.repr (32 + 48 * ((durationMs.toNat + 19) / 20))]
                      ++ (run files laterMs again).printed)) ∧
      ∀ clockMs arguments,
        (∀ eventsPath durationMs output settingsPath,
          Invocation.ofArguments arguments ≠
            some (.compile eventsPath durationMs output settingsPath)) →
        (run files clockMs arguments).files = files := by
  constructor
  · intro clockMs arguments eventsPath durationMs output settingsPath asked
    rcases delivers_or_refused files clockMs asked with
      ⟨settings, events, exported, ready⟩ | ⟨obstacle, exit, printed, kept⟩
    · obtain ⟨exit, printed, after⟩ := run_of_delivers asked ready
      refine .inr ⟨exit, not_obstacle_of_delivers ready, settings, events, exported, ready, after,
        ?_, ?_, exists_budget_arguments ready.listed, ?_⟩
      · rw [after]
        exact LawfulFileSystem.read_written ready.stored
      · intro other apart
        rw [after]
        exact LawfulFileSystem.read_other apart
      · intro laterMs again budget
        obtain ⟨exitAgain, printedAgain⟩ := run_budget budget ready.listed
        rw [printed, printedAgain, exportLines_of_exportShow ready.made]
        exact ⟨exitAgain, rfl⟩
    · exact .inl ⟨exit, obstacle, printed, kept⟩
  · intro clockMs arguments other
    exact files_run_of_other other

/-! ## A directory with a show in it -/

/-- A trunk that opens, and a mirror that would fold in and out between two frames. -/
def finale : List Event :=
  [{ part := .known .trunk, startMs := 30, endMs := 90 },
   { part := .known .retroLeft, startMs := 41, endMs := 59 }]

def finaleText : String :=
  "[\x7b\"part\":\"trunk\",\"startMs\":30,\"endMs\":90\x7d,"
    ++ "\x7b\"part\":\"retro_left\",\"startMs\":41,\"endMs\":59\x7d]"

def studioSettings : Settings := { fileName := "finale.fseq", uniqueId := some 7 }

def studioText : String :=
  "\x7b\"export\":\x7b\"fileName\":\"finale.fseq\",\"uniqueId\":7\x7d\x7d"

/-- The show, the settings and an older export. -/
def studio : Directory where
  files := [("show.json", finaleText.toUTF8.data.toList),
    ("studio.json", studioText.toUTF8.data.toList), ("finale.fseq", [])]

def night : List String := ["compile", "show.json", "-d", "100", "-c", "studio.json"]

theorem ofArguments_night :
    Invocation.ofArguments night = some (.compile "show.json" 100 none (some "studio.json")) := by
  decide +kernel

theorem eq_ok_of_toOption {ε α : Type} {result : Except ε α} {value : α}
    (given : result.toOption = some value) : result = .ok value := by
  cases result with
  | error fault => cases given
  | ok other => rw [Option.some.inj given]

theorem studio_holds : HoldsEvents (FileSystem.read studio) "show.json" finale ∧
    HoldsSettings (FileSystem.read studio) (some "studio.json") studioSettings := by
  have listed : eventsOfText finaleText = .ok finale := eq_ok_of_toOption (by decide +kernel)
  have set : Settings.ofText studioText = .ok studioSettings :=
    eq_ok_of_toOption (by decide +kernel)
  exact ⟨⟨finaleText, rfl, listed⟩, ⟨studioText, rfl, set⟩⟩

/-- The settings give the export its name and its id. -/
theorem studio_delivers : ∃ exported, exportShow finale 100 7 = .ok exported ∧
    Delivers studio 5 "show.json" 100 none (some "studio.json") studioSettings finale exported := by
  have compiled : compile finale 100 = .ok (.ofEvents 5 finale) := rfl
  have made := exportShow_of_compile compiled 7
  exact ⟨_, made, studio_holds.2, studio_holds.1, made, rfl⟩

/-- A run that goes through, one for a show without length, one whose output is a directory, and the
budget beside them. -/
theorem compile_in_studio :
    let silence := ["compile", "show.json", "-d", "0", "-c", "studio.json"]
    let nowhere := ["compile", "show.json", "-d", "100", "-c", "studio.json", "-o", "."]
    let count := ["budget", "show.json"]
    Invocation.ofArguments night = some (.compile "show.json" 100 none (some "studio.json")) ∧
      Invocation.ofArguments silence = some (.compile "show.json" 0 none (some "studio.json")) ∧
      Invocation.ofArguments nowhere =
        some (.compile "show.json" 100 (some ".") (some "studio.json")) ∧
      Invocation.ofArguments count = some (.budget "show.json") ∧
      (run studio 5 night).exitCode = 0 ∧
      (∃ exported, exportShow finale 100 7 = .ok exported ∧
        FileSystem.read (run studio 5 night).files "finale.fseq" = .ok exported.bytes) ∧
      FileSystem.read (run studio 5 night).files "show.json" =
        .ok finaleText.toUTF8.data.toList ∧
      (run studio 5 night).printed =
        ["wrote finale.fseq", "  frames:   5", "  channels: 48", "  bytes:    272",
         "closure commands:", "  retro_left             2/20 ", "  trunk                  1/6  "] ∧
      (run studio 5 silence).exitCode = 1 ∧ (run studio 5 silence).printed = [] ∧
      (run studio 5 silence).files = studio ∧
      (run studio 5 nowhere).exitCode = 1 ∧ (run studio 5 nowhere).printed = [] ∧
      (run studio 5 nowhere).files = studio ∧
      (run studio 6 count).files = studio := by
  intro silence nowhere count
  have silenceAsks :
      Invocation.ofArguments silence = some (.compile "show.json" 0 none (some "studio.json")) := by
    decide +kernel
  have nowhereAsks : Invocation.ofArguments nowhere =
      some (.compile "show.json" 100 (some ".") (some "studio.json")) := by decide +kernel
  have countAsks : Invocation.ofArguments count = some (.budget "show.json") := by decide +kernel
  obtain ⟨exported, made, ready⟩ := studio_delivers
  obtain ⟨compiling, others⟩ := compile_all_or_nothing studio
  refine ⟨ofArguments_night, silenceAsks, nowhereAsks, countAsks, ?_⟩
  rcases compiling 5 night _ _ _ _ ofArguments_night with ⟨-, obstacle, -⟩ | success
  · exact absurd obstacle (not_obstacle_of_delivers ready)
  obtain ⟨exit, -, settings, events, found, also, -, written, kept, -, printed⟩ := success
  obtain ⟨rfl, rfl, rfl⟩ := delivers_unique ready also
  rcases compiling 5 silence _ _ _ _ silenceAsks with failure | ⟨-, clear, -⟩
  case inr => exact absurd (.noLength rfl) clear
  obtain ⟨failed, -, silent, unchanged⟩ := failure
  rcases compiling 5 nowhere _ _ _ _ nowhereAsks with refusal | ⟨-, clear, -⟩
  case inr => exact absurd (.output ready.set ready.listed made rfl) clear
  obtain ⟨refused, -, quiet, untouched⟩ := refusal
  have counted : (run studio 6 count).printed =
      ["closure commands:", "  retro_left             2/20 ", "  trunk                  1/6  "] :=
    (run_budget countAsks ready.listed).2.trans (by decide)
  have shown := (printed 6 count countAsks).2
  rw [counted] at shown
  have apart : Directory.fileName? "finale.fseq" ≠ Directory.fileName? "show.json" := by decide
  refine ⟨exit, ⟨exported, made, written⟩, ?_, shown, failed, silent, unchanged, refused, quiet,
    untouched, others 6 count ?_⟩
  · exact kept "show.json" apart
  · intro _ _ _ _ asked
    rw [countAsks] at asked
    cases asked

end VehicleShow.Console
