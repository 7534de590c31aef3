import VehicleShow.Proofs.ClosureChannels
import VehicleShow.Proofs.Console.CompileRun
import VehicleShow.Proofs.StrayChannels

/-! # Runs that inspect what has been compiled

An inspection reads a sequence back and tells the activity of the closures in it.
`inspect_after_compile` says what that is for a sequence that the compile command has written: the
header, the closures one by one, each with the commands that its events give it, and no channel that
belongs to no part. -/
set_option autoImplicit false
namespace VehicleShow.Console

/-! ## Lines -/

namespace Print

open Binary64 (padLeft)

theorem headerLine_plain (frameCount : UInt32) (uniqueId : UInt64) :
    headerLine (Header.plain frameCount uniqueId) =
      "PSEQ v2.0: 48 channels, " ++ Nat.repr frameCount.toNat ++ " frames @ 20 ms ("
        ++ seconds 1 (Header.plain frameCount uniqueId).durationMs ++ " s), id "
        ++ hexadecimal uniqueId.toNat := by
  have version : "PSEQ v" ++ Nat.repr Header.supportedMajor.toNat ++ "."
      ++ Nat.repr Header.supportedMinor.toNat ++ ": "
      ++ Nat.repr (UInt32.ofNat VehicleShow.channelCount).toNat ++ " channels, " =
        "PSEQ v2.0: 48 channels, " := by decide
  have step : " frames @ " ++ Nat.repr stepMs.toUInt8.toNat ++ " ms (" = " frames @ 20 ms (" := by
    decide
  rw [← version, ← step, ← String.append_assoc, ← String.append_assoc]
  rfl

def closures : List Part :=
  [.windowLeftFront, .windowRightFront, .windowLeftBack, .windowRightBack,
   .retroLeft, .retroRight, .flap, .trunk]

theorem closures_eq : closures = Part.all.filter Part.isClosure := by decide

theorem isClosure_of_mem_closures {part : Part} (member : part ∈ closures) :
    part.isClosure = true := by
  rw [closures_eq] at member
  exact (List.mem_filter.mp member).2

/-- Lights have no lines of their own. -/
theorem flatMap_partLines (m : FrameMatrix) :
    Part.all.flatMap (partLines m) = closures.flatMap (partLines m) := by
  have split : Part.all = closures ++ Part.all.drop 8 := rfl
  have lights : (Part.all.drop 8).flatMap (partLines m) = [] := rfl
  rw [split, List.flatMap_append, lights, List.append_nil]

theorem partLines_of_closure {part : Part} {channel : Channel} (closure : part.isClosure = true)
    (alone : part.channels = [channel]) (m : FrameMatrix) :
    partLines m part = channelLines part channel (m.transitions channel) := by
  rw [partLines, Part.commandChannel?, if_pos closure, alone]
  rfl

def partTitle (part : Part) (channel : Channel) : String :=
  "ch " ++ padLeft 2 ' ' (Nat.repr channel.val) ++ " (" ++ part.name ++ "):"

/-- The bytes of the commands that shows are made of, with what they are called. -/
def commandLabels : List (UInt8 × String) :=
  [(0, "IDLE(0)"), (64, "OPEN(64)"), (128, "DANCE(128)"), (192, "CLOSE(192)")]

theorem commandLabel_mem {byte : UInt8} (possible : byte ∈ [0, 64, 128, 192]) :
    (byte, commandLabel byte) ∈ commandLabels := by
  simp only [List.mem_cons, List.not_mem_nil, or_false] at possible
  rcases possible with rfl | rfl | rfl | rfl <;> decide

/-- The lines of a closure under a list of events, whether or not they command it. -/
theorem partLines_of_compile {events : List Event} {durationMs : UInt64} {m : FrameMatrix}
    (compiled : compile events durationMs = .ok m) {part : Part} (closure : part.isClosure = true) :
    ∃ channel, part.channels = [channel] ∧
      (¬ part.CommandedBy events m.frameCount →
        partLines m part = [partTitle part channel ++ " no activity"]) ∧
      (part.CommandedBy events m.frameCount →
        m.transitions channel ≠ [] ∧
          partLines m part = partTitle part channel :: (m.transitions channel).map transitionLine ∧
          ∀ change ∈ m.transitions channel,
            ∃ before after, (change.before, before) ∈ commandLabels ∧
              (change.after, after) ∈ commandLabels ∧
              transitionLine change =
                "  " ++ padLeft 8 ' ' (seconds 2 change.timeMs) ++ "s (frame "
                  ++ Nat.repr change.frame ++ "): " ++ before ++ " -> " ++ after) := by
  obtain ⟨channel, alone⟩ := part.exists_channels_of_closure closure
  have driven := Part.mem_channels_of_alone alone
  have silent := transitions_eq_nil_iff_uncommanded closure driven compiled
  rw [partLines_of_closure closure alone m]
  refine ⟨channel, alone, ?_, ?_⟩
  · intro uncommanded
    rw [channelLines, silent.mpr uncommanded]
    rfl
  · intro commanded
    have active : m.transitions channel ≠ [] := fun none => silent.mp none commanded
    have shown : (m.transitions channel).isEmpty = false := by simp [active]
    refine ⟨active, ?_, ?_⟩
    · rw [channelLines, shown]
      rfl
    · intro change member
      obtain ⟨before, after⟩ := bytes_of_mem_transitions closure driven compiled member
      exact ⟨_, _, commandLabel_mem before, commandLabel_mem after, rfl⟩

end Print

/-! ## Inspecting -/

/-- Nothing is amiss in a compiled show, so the last line says so. -/
theorem inspectionLines_of_compile {events : List Event} {durationMs : UInt64} {m : FrameMatrix}
    (compiled : compile events durationMs = .ok m) (header : Header) :
    Print.inspectionLines header m =
      Print.headerLine header :: Print.closures.flatMap (Print.partLines m)
        ++ ["all active channels belong to known parts"] := by
  rw [Print.inspectionLines, unmappedChannels_of_compile compiled, Print.flatMap_partLines]
  rfl

section Inspected
variable {σ : Type} [FileSystem σ] {files : σ} {input : String}

/-- The run of an inspection whose file holds a compiled show. -/
theorem run_inspect_compiled {events : List Event} {durationMs id : UInt64} {m : FrameMatrix}
    (compiled : compile events durationMs = .ok m)
    (found : FileSystem.read files input = .ok (m.sequenceBytes id)) (clockMs : UInt64)
    {arguments : List String} (asked : Invocation.ofArguments arguments = some (.inspect input)) :
    (run files clockMs arguments).exitCode = 0 ∧
      (run files clockMs arguments).logged = [] ∧
      (run files clockMs arguments).printed =
        Print.headerLine (.plain (.ofNat m.frameCount) id)
          :: Print.closures.flatMap (Print.partLines m)
            ++ ["all active channels belong to known parts"] := by
  have counted : m.frameCount ≤ maxFrameCount :=
    Nat.le_of_lt_succ (frameCount_of_compile compiled).2
  have decoded := FrameMatrix.ofSequence_sequenceBytes counted id []
  rw [List.append_nil] at decoded
  rw [run_of_reaches asked (reaches_runInspect found decoded)]
  refine ⟨rfl, ?_, inspectionLines_of_compile compiled _⟩
  exact congrArg (List.map LogEntry.unmappedChannel) (unmappedChannels_of_compile compiled)

end Inspected

/-- A sequence that a compile run has written is inspected without fault, on every file system.  The
header line gives the frames of the show; every closure has its place, with no activity if no
directive of the events on it falls into the show and else with its transitions, each from the name of
one command to that of another; and the last line and the log say that no channel is without a
part. -/
theorem inspect_after_compile {σ : Type} [FileSystem σ] [LawfulFileSystem σ] {files : σ}
    {clockMs : UInt64} {arguments : List String} {eventsPath : String} {durationMs : UInt64}
    {output settingsPath : Option String}
    (asked : Invocation.ofArguments arguments =
      some (.compile eventsPath durationMs output settingsPath))
    (succeeded : (run files clockMs arguments).exitCode = 0) :
    ∃ settings events m,
      HoldsSettings (FileSystem.read files) settingsPath settings ∧
        HoldsEvents (FileSystem.read files) eventsPath events ∧
        compile events durationMs = .ok m ∧
        (∀ part ∈ Print.closures, ∃ channel, part.channels = [channel] ∧
          (¬ part.CommandedBy events ((durationMs.toNat + 19) / 20) →
            Print.partLines m part = [Print.partTitle part channel ++ " no activity"]) ∧
          (part.CommandedBy events ((durationMs.toNat + 19) / 20) →
            m.transitions channel ≠ [] ∧
              Print.partLines m part =
                Print.partTitle part channel ::
                  (m.transitions channel).map Print.transitionLine ∧
              ∀ change ∈ m.transitions channel,
                ∃ before after, (change.before, before) ∈ Print.commandLabels ∧
                  (change.after, after) ∈ Print.commandLabels ∧
                  Print.transitionLine change =
                    "  " ++ Binary64.padLeft 8 ' ' (Print.seconds 2 change.timeMs) ++ "s (frame "
                      ++ Nat.repr change.frame ++ "): " ++ before ++ " -> " ++ after)) ∧
        (∃ inspection, Invocation.ofArguments inspection =
          some (.inspect (output.getD settings.fileName))) ∧
        ∀ laterMs inspection,
          Invocation.ofArguments inspection =
              some (.inspect (output.getD settings.fileName)) →
            let shown := run (run files clockMs arguments).files laterMs inspection
            shown.exitCode = 0 ∧ shown.logged = [] ∧
              ∃ lengthMs : UInt64, lengthMs.toNat = 20 * ((durationMs.toNat + 19) / 20) ∧
                shown.printed =
                  ("PSEQ v2.0: 48 channels, " ++ Nat.repr ((durationMs.toNat + 19) / 20)
                    ++ " frames @ 20 ms (" ++ Print.seconds 1 lengthMs ++ " s), id "
                    ++ Print.hexadecimal (settings.uniqueId.getD clockMs).toNat)
                  :: Print.closures.flatMap (Print.partLines m)
                    ++ ["all active channels belong to known parts"] := by
  obtain ⟨settings, events, exported, ready⟩ := delivers_of_exit asked succeeded
  obtain ⟨-, -, after⟩ := run_of_delivers asked ready
  have found := LawfulFileSystem.read_written ready.stored
  obtain ⟨m, compiled, rfl⟩ := compile_of_exportShow ready.made
  obtain ⟨count, small⟩ := frameCount_of_compile compiled
  have counted : m.frameCount ≤ maxFrameCount := Nat.le_of_lt_succ small
  refine ⟨settings, events, m, ready.set, ready.listed, compiled, ?_, ?_, ?_⟩
  · intro part member
    have lines := Print.partLines_of_compile compiled (Print.isClosure_of_mem_closures member)
    rw [count] at lines
    exact lines
  · refine ⟨["inspect", "--", output.getD settings.fileName], ?_⟩
    rw [Invocation.ofArguments, Collected.read_path (ne_empty_of_read found)]
    rfl
  · intro laterMs inspection inspects
    have length := FrameMatrix.toNat_durationMs_plain counted (settings.uniqueId.getD clockMs)
    rw [count] at length
    rw [after]
    obtain ⟨exit, logged, printed⟩ := run_inspect_compiled compiled found laterMs inspects
    rw [Print.headerLine_plain, FrameMatrix.toNat_frameCount counted, count] at printed
    exact ⟨exit, logged, _, length, printed⟩

/-- The trunk event is seen, and the mirror event falls between two frames. -/
theorem inspect_in_studio :
    let look := ["inspect", "finale.fseq"]
    Invocation.ofArguments night = some (.compile "show.json" 100 none (some "studio.json")) ∧
      (run studio 5 night).exitCode = 0 ∧
      Invocation.ofArguments look = some (.inspect "finale.fseq") ∧
      let shown := run (run studio 5 night).files 6 look
      shown.exitCode = 0 ∧ shown.logged = [] ∧
        shown.printed =
          ["PSEQ v2.0: 48 channels, 5 frames @ 20 ms (0.1 s), id 0x7",
           "ch 36 (window_left_front): no activity",
           "ch 38 (window_right_front): no activity",
           "ch 37 (window_left_back): no activity",
           "ch 39 (window_right_back): no activity",
           "ch 34 (retro_left): no activity",
           "ch 35 (retro_right): no activity",
           "ch 45 (flap): no activity",
           "ch 40 (trunk):",
           "      0.02s (frame 1): IDLE(0) -> OPEN(64)",
           "      0.08s (frame 4): OPEN(64) -> IDLE(0)",
           "all active channels belong to known parts"] := by
  intro look
  have lookAsks : Invocation.ofArguments look = some (.inspect "finale.fseq") := by decide +kernel
  obtain ⟨_, -, ready⟩ := studio_delivers
  obtain ⟨exit, -⟩ := run_of_delivers ofArguments_night ready
  obtain ⟨settings, events, m, set, listed, compiled, lines, -, inspected⟩ :=
    inspect_after_compile ofArguments_night exit
  obtain rfl := holdsSettings_unique ready.set set
  obtain rfl := holdsEvents_unique ready.listed listed
  obtain rfl : .ofEvents 5 finale = m := Except.ok.inj compiled
  have quiet : ∀ part ∈ Print.closures.take 7, Print.partLines (.ofEvents 5 finale) part =
      part.channels.map fun channel => Print.partTitle part channel ++ " no activity" := by
    have uncommanded : ∀ part ∈ Print.closures.take 7, ¬ part.CommandedBy finale 5 := by decide
    intro part member
    obtain ⟨channel, alone, silent, -⟩ := lines part (List.mem_of_mem_take member)
    rw [silent (uncommanded part member), alone]
    rfl
  obtain ⟨trunkChannel, trunkAlone, -, trunk⟩ := lines .trunk (by decide)
  cases trunkAlone
  obtain ⟨-, trunkLines, -⟩ := trunk (by decide)
  have moves : (FrameMatrix.ofEvents 5 finale).transitions 40 =
      [⟨1, 20, 0, 64⟩, ⟨4, 80, 64, 0⟩] := by decide +kernel
  have named : [(⟨1, 20, 0, 64⟩ : Transition), ⟨4, 80, 64, 0⟩].map Print.transitionLine =
      ["      0.02s (frame 1): IDLE(0) -> OPEN(64)",
       "      0.08s (frame 4): OPEN(64) -> IDLE(0)"] := by decide +kernel
  rw [moves, named] at trunkLines
  have all : Print.closures.flatMap (Print.partLines (.ofEvents 5 finale)) =
      (Print.closures.take 7).flatMap (fun part =>
        part.channels.map fun channel => Print.partTitle part channel ++ " no activity")
        ++ Print.partLines (.ofEvents 5 finale) .trunk := by
    rw [← List.flatMap_congr quiet, ← List.flatMap_singleton (Print.partLines _) .trunk,
      ← List.flatMap_append]
    rfl
  obtain ⟨shownExit, shownLog, lengthMs, length, printed⟩ := inspected 6 look lookAsks
  obtain rfl : lengthMs = 100 := UInt64.toNat_inj.mp length
  have head : "PSEQ v2.0: 48 channels, " ++ Nat.repr (((100 : UInt64).toNat + 19) / 20)
      ++ " frames @ 20 ms (" ++ Print.seconds 1 100 ++ " s), id "
      ++ Print.hexadecimal (studioSettings.uniqueId.getD 5).toNat =
        "PSEQ v2.0: 48 channels, 5 frames @ 20 ms (0.1 s), id 0x7" := by decide +kernel
  rw [head, all, trunkLines] at printed
  exact ⟨ofArguments_night, exit, lookAsks, shownExit, shownLog, printed⟩

end VehicleShow.Console
