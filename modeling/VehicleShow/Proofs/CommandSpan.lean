import VehicleShow.Proofs.ClosureChannels

/-! # The frames of a command

A light shows in the frames whose sample time lies in its span.  A command rounds both ends of its
span down instead, so one that starts or ends between two samples comes on, or goes off, a frame too
early.  `closure_event_in_frames` says which frames a closure event commands, and that these are the
sampled ones except where one end of the span, and not the other, cuts into a frame. -/
set_option autoImplicit false
namespace VehicleShow

/-- A point of show time that falls into a frame after the moment at which the frame is sampled. -/
def CutsInto (frame : Nat) (timeMs : UInt64) : Prop :=
  20 * frame < timeMs.toNat ∧ timeMs.toNat < 20 * (frame + 1)

theorem frameAt_le_iff (timeMs : UInt64) (frame : Nat) :
    frameAt timeMs ≤ frame ↔ timeMs.toNat ≤ 20 * frame ∨ CutsInto frame timeMs := by
  rw [frameAt_eq, CutsInto]
  omega

theorem lt_frameAt_iff (timeMs : UInt64) (frame : Nat) :
    frame < frameAt timeMs ↔ 20 * frame < timeMs.toNat ∧ ¬ CutsInto frame timeMs := by
  rw [frameAt_eq, CutsInto]
  omega

theorem not_cutsInto_of_dvd {timeMs : UInt64} (aligned : 20 ∣ timeMs.toNat) (frame : Nat) :
    ¬ CutsInto frame timeMs := by
  rw [CutsInto]
  omega

/-- Rounding a span down gives the frames that are sampled in it, but for those that one of its ends
cuts into. -/
theorem rounded_iff_sampled {startMs endMs : UInt64} (ordered : startMs < endMs) (frame : Nat) :
    ((frameAt startMs ≤ frame ∧ frame < frameAt endMs) ↔
        (startMs.toNat ≤ 20 * frame ∧ 20 * frame < endMs.toNat)) ↔
      (CutsInto frame startMs ↔ CutsInto frame endMs) := by
  have span := UInt64.lt_iff_toNat_lt.mp ordered
  rw [frameAt_eq, frameAt_eq, CutsInto, CutsInto]
  omega

/-! ## One closure event -/

theorem lastCommand?_of_one (channel : Channel) (startMs endMs : UInt64) (command : Command)
    (frame : Nat) :
    lastCommand? [⟨channel, startMs, endMs, command⟩] channel frame =
      if frameAt startMs ≤ frame ∧ frame < frameAt endMs then some command else none := by
  rw [lastCommand?_singleton]
  congr 1
  simp [Directive.covers, frameAt_eq]

section Alone
variable {event : Event} {part : Part} {channel : Channel} (own : event.part? = some part)
  (closure : part.isClosure = true) (driven : channel ∈ part.channels)
include own closure driven

theorem cell_of_roundTrip (fold : event.payload? = some (.mirror .roundTrip)) (frame : Nat) :
    cell [event] frame channel =
      if frameAt event.startMs ≤ frame ∧ frame < frameAt event.endMs then
        if frame < frameAt event.midpointMs then 192 else 64
      else 0 := by
  have alone := Part.channels_of_closure closure driven
  have both := Event.directives_of_roundTrip ((Event.channels_of_part? own).trans alone) fold
  have midpoint := event.toNat_midpointMs
  have starts := frameAt_eq event.startMs
  have turns := frameAt_eq event.midpointMs
  have ends := frameAt_eq event.endMs
  rw [cell_of_closure closure driven, List.flatMap_singleton, both, ← List.singleton_append,
    lastCommand?_append, lastCommand?_of_one, lastCommand?_of_one]
  by_cases covered : frameAt event.startMs ≤ frame ∧ frame < frameAt event.endMs
  · rw [if_pos covered]
    by_cases folding : frame < frameAt event.midpointMs
    · rw [if_neg (by omega), if_pos (by omega), if_pos folding]
      rfl
    · rw [if_pos (by omega), if_neg folding]
      rfl
  · rw [if_neg covered, if_neg (by omega), if_neg (by omega)]
    rfl

/-- In a sampled frame a fold in and out shows the half that the sample lies in, unless the turn or
the end cuts into the frame. -/
theorem cell_of_roundTrip_sampled_iff (fold : event.payload? = some (.mirror .roundTrip))
    {frame : Nat} (begun : event.startMs.toNat ≤ 20 * frame)
    (unfinished : 20 * frame < event.endMs.toNat) :
    (cell [event] frame channel = if 20 * frame < event.midpointMs.toNat then 192 else 64) ↔
      ¬ CutsInto frame event.midpointMs ∧ ¬ CutsInto frame event.endMs := by
  have started := (frameAt_le_iff event.startMs frame).mpr (Or.inl begun)
  rw [cell_of_roundTrip own closure driven fold]
  by_cases ending : CutsInto frame event.endMs
  · have gone : ¬ frame < frameAt event.endMs :=
      fun before => ((lt_frameAt_iff _ _).mp before).2 ending
    rw [if_neg fun both => gone both.2]
    split <;> simp [ending]
  · rw [if_pos ⟨started, (lt_frameAt_iff _ _).mpr ⟨unfinished, ending⟩⟩]
    by_cases turning : CutsInto frame event.midpointMs
    · have opened : ¬ frame < frameAt event.midpointMs :=
        fun before => ((lt_frameAt_iff _ _).mp before).2 turning
      rw [if_neg opened, if_pos turning.1]
      simp [turning]
    · have half : frame < frameAt event.midpointMs ↔ 20 * frame < event.midpointMs.toNat :=
        (lt_frameAt_iff _ _).trans (and_iff_left turning)
      simp [half, turning, ending]

/-- A closure event commands the frames of its span rounded down, whatever its commands are. -/
theorem cell_of_closure_event_ne_zero_iff (frame : Nat) :
    cell [event] frame channel ≠ 0 ↔
      frameAt event.startMs ≤ frame ∧ frame < frameAt event.endMs := by
  have alone := Part.channels_of_closure closure driven
  rcases Event.directives_of_closure own closure alone with ⟨-, fold, -⟩ | ⟨command, possible, one⟩
  · rw [cell_of_roundTrip own closure driven fold]
    by_cases covered : frameAt event.startMs ≤ frame ∧ frame < frameAt event.endMs
    · rw [if_pos covered]
      split <;> simp [covered]
    · simp [covered]
  · rw [cell_of_closure closure driven, List.flatMap_singleton, one, lastCommand?_of_one]
    by_cases covered : frameAt event.startMs ≤ frame ∧ frame < frameAt event.endMs
    · simp [covered, Category.byte_ne_zero_of_mem_commands possible]
    · simp [covered]

/-- A closure event that starts and ends at sample times holds in the frames sampled in between. -/
theorem closure_event_of_aligned {durationMs : UInt64} {m : FrameMatrix}
    (startAligned : 20 ∣ event.startMs.toNat) (endAligned : 20 ∣ event.endMs.toNat)
    (compiled : compile [event] durationMs = .ok m) {frame : Nat} (inside : frame < m.frameCount) :
    m.value frame channel ≠ 0 ↔
      event.startMs.toNat ≤ 20 * frame ∧ 20 * frame < event.endMs.toNat := by
  rw [value_of_compile compiled inside, cell_of_closure_event_ne_zero_iff own closure driven,
    frameAt_le_iff, lt_frameAt_iff]
  simp [not_cutsInto_of_dvd startAligned, not_cutsInto_of_dvd endAligned]

theorem closure_event_in_frames {durationMs : UInt64} {m : FrameMatrix}
    (ordered : event.startMs < event.endMs) (compiled : compile [event] durationMs = .ok m)
    {frame : Nat} (inside : frame < m.frameCount) :
    ∃ byte, m.get? frame channel = some byte ∧
      (byte ≠ 0 ↔ event.startMs.toNat / 20 ≤ frame ∧ frame < event.endMs.toNat / 20) ∧
      ((byte ≠ 0 ↔ event.startMs.toNat ≤ 20 * frame ∧ 20 * frame < event.endMs.toNat) ↔
        (CutsInto frame event.startMs ↔ CutsInto frame event.endMs)) ∧
      (event.payload? = some (.mirror .roundTrip) →
        event.midpointMs.toNat =
            event.startMs.toNat + (event.endMs.toNat - event.startMs.toNat) / 2 ∧
          (byte ≠ 0 → byte = if frame < event.midpointMs.toNat / 20 then 192 else 64) ∧
          (event.startMs.toNat ≤ 20 * frame → 20 * frame < event.endMs.toNat →
            ((byte = if 20 * frame < event.midpointMs.toNat then 192 else 64) ↔
              ¬ CutsInto frame event.midpointMs ∧ ¬ CutsInto frame event.endMs))) := by
  have commanded := cell_of_closure_event_ne_zero_iff own closure driven frame
  refine ⟨cell [event] frame channel, ?_, commanded, ?_, ?_⟩
  · rw [m.get?_eq_some_value inside, value_of_compile compiled inside]
  · rw [commanded]
    exact rounded_iff_sampled ordered frame
  · intro fold
    refine ⟨event.toNat_midpointMs, ?_, ?_⟩
    · intro seen
      rw [cell_of_roundTrip own closure driven fold, if_pos (commanded.mp seen)]
      rfl
    · intro begun unfinished
      exact cell_of_roundTrip_sampled_iff own closure driven fold begun unfinished

end Alone

/-- A mirror that folds in after the sample of frame 0 and is out again after the sample of frame 2. -/
def lateFold : Event := { part := .known .retroLeft, startMs := 10, endMs := 50 }

/-- The fold is on in frame 0, before it has begun, and over in frame 2, while it still goes on. -/
theorem closure_event_late_fold :
    lateFold.part? = some .retroLeft ∧ Part.retroLeft.isClosure = true ∧
      34 ∈ Part.retroLeft.channels ∧ lateFold.startMs < lateFold.endMs ∧
      compile [lateFold] 60 = .ok (.ofEvents 3 [lateFold]) ∧
      0 < (FrameMatrix.ofEvents 3 [lateFold]).frameCount ∧
      2 < (FrameMatrix.ofEvents 3 [lateFold]).frameCount ∧
      (FrameMatrix.ofEvents 3 [lateFold]).get? 0 34 = some 192 ∧
      (FrameMatrix.ofEvents 3 [lateFold]).get? 2 34 = some 0 := by
  have own : lateFold.part? = some .retroLeft := rfl
  have closure : Part.retroLeft.isClosure = true := rfl
  have driven : 34 ∈ Part.retroLeft.channels := by decide
  have ordered : lateFold.startMs < lateFold.endMs := by decide
  have compiled : compile [lateFold] 60 = .ok (.ofEvents 3 [lateFold]) := rfl
  have frames := FrameMatrix.frameCount_ofEvents 3 [lateFold]
  have first : 0 < (FrameMatrix.ofEvents 3 [lateFold]).frameCount := by omega
  have last : 2 < (FrameMatrix.ofEvents 3 [lateFold]).frameCount := by omega
  obtain ⟨early, shown, commanded, -, folds⟩ :=
    closure_event_in_frames own closure driven ordered compiled first
  obtain ⟨late, alsoShown, uncommanded, -⟩ :=
    closure_event_in_frames own closure driven ordered compiled last
  refine ⟨own, closure, driven, ordered, compiled, first, last, ?_, ?_⟩
  · apply shown.trans
    rw [(folds rfl).2.1 (commanded.mpr (by decide))]
    decide
  · apply alsoShown.trans
    rw [Decidable.not_not.mp (mt uncommanded.mp (by decide))]

/-- Commands do not hold over the sampled frames of their spans. -/
theorem closure_commands_not_sampled :
    ¬ ∀ (event : Event) (part : Part) (channel : Channel) (durationMs : UInt64) (m : FrameMatrix),
        event.part? = some part → part.isClosure = true → channel ∈ part.channels →
          event.startMs < event.endMs → compile [event] durationMs = .ok m →
            ∀ frame < m.frameCount,
              (m.value frame channel ≠ 0 ↔
                event.startMs.toNat ≤ 20 * frame ∧ 20 * frame < event.endMs.toNat) := by
  intro sampled
  have compiled : compile [lateFold] 60 = .ok (.ofEvents 3 [lateFold]) := rfl
  have first : 0 < (FrameMatrix.ofEvents 3 [lateFold]).frameCount := by
    rw [FrameMatrix.frameCount_ofEvents]
    decide
  have claimed := sampled lateFold .retroLeft 34 60 _ rfl rfl (by decide) (by decide) compiled 0 first
  have commanded : (FrameMatrix.ofEvents 3 [lateFold]).value 0 34 ≠ 0 := by
    rw [value_of_compile compiled first, cell_of_closure_event_ne_zero_iff
      (rfl : lateFold.part? = some .retroLeft) rfl (by decide)]
    decide
  exact absurd (claimed.mp commanded) (by decide)

end VehicleShow
