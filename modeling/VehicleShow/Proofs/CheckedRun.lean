import VehicleShow.Proofs.ExportedShow

/-! # Compiling with checked arithmetic

A second compiler that stops, with `none`, where a sum or a product does not fit a machine word, where
a difference would be negative, and where a write misses the data.  `checked_run_agrees` says that it
never stops and gives what the plain compiler gives, whatever the times of the events.  The activity
test keeps the differences in order, the limit on frames the products, and the clipping of each span
the writes. -/
set_option autoImplicit false
namespace VehicleShow

/-! ## Checked operations -/

def word? (count : Nat) : Option Nat := if count < UInt64.size then some count else none

def sum? (first second : UInt64) : Option UInt64 :=
  (word? (first.toNat + second.toNat)).map UInt64.ofNat

def difference? (later earlier : UInt64) : Option UInt64 :=
  if earlier ≤ later then some (later - earlier) else none

/-- A time counted in frames, with one more for what is left of a frame. -/
def frameFrom? (timeMs : UInt64) : Option Nat :=
  if timeMs % stepMs = 0 then some (timeMs / stepMs).toNat
  else (sum? (timeMs / stepMs) 1).map UInt64.toNat

namespace FrameMatrix

def place? (m : FrameMatrix) (frame : Nat) (channel : Channel) : Option Nat := do
  let row ← word? (frame * channelCount)
  let index ← word? (row + channel)
  if index < m.data.size then some index else none

def raise? (m : FrameMatrix) (frame : Nat) (channel : Channel) (byte : UInt8) :
    Option FrameMatrix :=
  (m.place? frame channel).map fun _ => m.raise frame channel byte

def put? (m : FrameMatrix) (frame : Nat) (channel : Channel) (byte : UInt8) : Option FrameMatrix :=
  (m.place? frame channel).map fun _ => m.put frame channel byte

def raiseAll? (m : FrameMatrix) (frame : Nat) (channels : List Channel) (byte : UInt8) :
    Option FrameMatrix :=
  channels.foldlM (fun m channel => m.raise? frame channel byte) m

def fill? (m : FrameMatrix) (channel : Channel) (first last : Nat) (byte : UInt8) :
    Option FrameMatrix :=
  (List.range' first (last - first)).foldlM (fun m frame => m.put? frame channel byte) m

end FrameMatrix

/-! ## The checked run -/

namespace Event

def brightnessUnder? (event : Event) (setting : LightSetting) (timeMs : UInt64) : Option Float :=
  if event.isActiveAt timeMs then do
    let elapsedMs ← difference? timeMs event.startMs
    let remainingMs ← difference? event.endMs timeMs
    some (setting.brightness event.durationMs elapsedMs remainingMs)
  else some 0.0

def midpointMs? (event : Event) : Option UInt64 := sum? event.startMs (event.durationMs / 2)

def directives? (event : Event) : Option (List Directive) :=
  match event.part.channels, event.payload? with
  | channel :: _, some (.mirror .roundTrip) => do
      let turnMs ← event.midpointMs?
      some [⟨channel, event.startMs, turnMs, .closing⟩, ⟨channel, turnMs, event.endMs, .opening⟩]
  | _, _ => some event.directives

end Event

namespace FrameMatrix

def sampleLight? (event : Event) (setting : LightSetting) (m : FrameMatrix) (frame : Nat) :
    Option FrameMatrix := do
  let timeMs ← frameTimeMs? frame
  let brightness ← event.brightnessUnder? setting timeMs
  let byte := Brightness.toByte brightness
  if byte = 0 then some m else m.raiseAll? frame event.part.channels byte

def writeLight? (m : FrameMatrix) (event : Event) : Option FrameMatrix :=
  match event.lightSetting? with
  | none => some m
  | some setting => do
      let first ← frameFrom? event.startMs
      let last ← frameFrom? event.endMs
      (List.range' first (min last m.frameCount - first)).foldlM (sampleLight? event setting) m

def writeDirective? (m : FrameMatrix) (directive : Directive) : Option FrameMatrix :=
  m.fill? directive.channel (frameAt directive.startMs)
    (min (frameAt directive.endMs) m.frameCount) directive.command.byte

/-- The size of the data has to fit a word too. -/
def ofEvents? (frameCount : Nat) (events : List Event) : Option FrameMatrix := do
  let _ ← word? (frameCount * channelCount)
  let lit ← events.foldlM writeLight? (blank frameCount)
  let directives ← events.mapM Event.directives?
  directives.flatten.foldlM writeDirective? lit

end FrameMatrix

def compile? (events : List Event) (durationMs : UInt64) : Option (Except Fault FrameMatrix) :=
  if durationMs = 0 then some (.error (.invalidDuration durationMs))
  else do
    let frameCount ← frameFrom? durationMs
    if maxFrameCount < frameCount then some (.error (.durationTooLong durationMs frameCount))
    else (FrameMatrix.ofEvents? frameCount events).map .ok

def exportShow? (events : List Event) (durationMs uniqueId : UInt64) :
    Option (Except Fault ExportedShow) := do
  match ← compile? events durationMs with
  | .error fault => some (.error fault)
  | .ok matrix =>
      let _ ← word? (headerLength + matrix.data.size)
      some ((matrix.toSequence uniqueId).map fun bytes =>
        { bytes, frameCount := matrix.frameCount, channelCount })

/-! ## Each check is passed -/

theorem word?_of_lt {count : Nat} (fits : count < UInt64.size) : word? count = some count :=
  if_pos fits

/-- A checked sum is the sum of the natural numbers, or there is none. -/
theorem sum?_eq_some_iff {first second total : UInt64} :
    sum? first second = some total ↔ total.toNat = first.toNat + second.toNat := by
  have bound := total.toNat_lt
  have word : UInt64.size = 2 ^ 64 := rfl
  by_cases fits : first.toNat + second.toNat < UInt64.size
  · rw [sum?, word?_of_lt fits, Option.map_some, Option.some.injEq, ← UInt64.toNat_inj,
      UInt64.toNat_ofNat_of_lt' fits, eq_comm]
  · rw [sum?, word?, if_neg fits, Option.map_none]
    constructor
    · intro absent
      cases absent
    · intro same
      omega

theorem difference?_of_le {later earlier : UInt64} (ordered : earlier ≤ later) :
    difference? later earlier = some (later - earlier) := if_pos ordered

theorem frameFrom?_eq (timeMs : UInt64) : frameFrom? timeMs = some (frameFrom timeMs) := by
  have whole : (timeMs / stepMs).toNat = timeMs.toNat / 20 := UInt64.toNat_div _ _
  have one : (1 : UInt64).toNat = 1 := rfl
  have bound := timeMs.toNat_lt
  have onFrame_iff : timeMs % stepMs = 0 ↔ timeMs.toNat % 20 = 0 := UInt64.toNat_inj.symm
  rw [frameFrom?, frameFrom, toNat_stepMs]
  by_cases onFrame : timeMs % stepMs = 0
  · have nothingLeft := onFrame_iff.mp onFrame
    rw [if_pos onFrame, whole]
    congr 1
    omega
  · have left := mt onFrame_iff.mpr onFrame
    have total : (timeMs / stepMs + 1).toNat = (timeMs / stepMs).toNat + (1 : UInt64).toNat := by
      rw [UInt64.toNat_add]
      exact Nat.mod_eq_of_lt (by omega)
    rw [if_neg onFrame, sum?_eq_some_iff.mpr total, Option.map_some, total, whole, one]
    congr 1
    omega

namespace Event

/-- While an event is active, it has begun and is not yet over. -/
theorem brightnessUnder?_eq (event : Event) (setting : LightSetting) (timeMs : UInt64) :
    event.brightnessUnder? setting timeMs = some (event.brightnessUnder setting timeMs) := by
  rw [brightnessUnder?, brightnessUnder]
  by_cases active : event.isActiveAt timeMs = true
  · have span := active
    rw [isActiveAt, Bool.and_eq_true, decide_eq_true_eq, decide_eq_true_eq] at span
    rw [if_pos active, if_pos active, difference?_of_le span.1,
      difference?_of_le (UInt64.le_of_lt span.2)]
    rfl
  · rw [if_neg active, if_neg active]

/-- The midpoint is no later than the later end of the span. -/
theorem midpointMs?_eq (event : Event) : event.midpointMs? = some event.midpointMs := by
  have half : (event.durationMs / 2).toNat = event.durationMs.toNat / 2 := UInt64.toNat_div _ _
  apply sum?_eq_some_iff.mpr
  rw [toNat_midpointMs, half, toNat_durationMs]

theorem directives?_eq (event : Event) : event.directives? = some event.directives := by
  rw [directives?]
  split
  · next channel others driven fold =>
    rw [midpointMs?_eq, directives, driven, fold]
    rfl
  · rfl

end Event

namespace FrameMatrix

theorem place?_eq {m : FrameMatrix} (counted : m.frameCount ≤ maxFrameCount) {frame : Nat}
    (inside : frame < m.frameCount) (channel : Channel) :
    m.place? frame channel = some (place frame channel) := by
  have within := (place_lt_size m frame channel).mpr inside
  have fits : place frame channel < UInt64.size := by
    have limit : maxFrameCount * channelCount < UInt64.size := by decide
    have size := Nat.mul_le_mul_right channelCount counted
    rw [m.size_data] at within
    omega
  have row : frame * channelCount < UInt64.size := Nat.lt_of_le_of_lt (Nat.le_add_right _ _) fits
  rw [place?, word?_of_lt row]
  change (word? (place frame channel) >>= _) = _
  rw [word?_of_lt fits]
  exact if_pos within

/-- The frame after the last one has no place. -/
example : (blank 3).place? 2 40 = some 136 ∧ (blank 3).place? 3 40 = none := by decide +kernel

/-- A loop whose checked steps agree with the plain ones, on matrices of one size, as the plain loop
does. -/
theorem foldlM_eq_some {α : Type} {step? : FrameMatrix → α → Option FrameMatrix}
    {step : FrameMatrix → α → FrameMatrix} {frameCount : Nat} {xs : List α}
    (agrees : ∀ m, m.frameCount = frameCount → ∀ x ∈ xs, step? m x = some (step m x))
    (keeps : ∀ m x, (step m x).frameCount = m.frameCount) {m : FrameMatrix}
    (count : m.frameCount = frameCount) : xs.foldlM step? m = some (xs.foldl step m) := by
  induction xs generalizing m with
  | nil => rfl
  | cons x rest ih =>
      rw [List.foldlM_cons, agrees m count x List.mem_cons_self]
      exact ih (fun m sized y member => agrees m sized y (List.mem_cons_of_mem x member))
        ((keeps m x).trans count)

section Writes
variable {m : FrameMatrix} (counted : m.frameCount ≤ maxFrameCount)
include counted

theorem raiseAll?_eq {frame : Nat} (inside : frame < m.frameCount) (channels : List Channel)
    (byte : UInt8) : m.raiseAll? frame channels byte = some (m.raiseAll frame channels byte) := by
  have keeps (m : FrameMatrix) (channel : Channel) :
      (m.raise frame channel byte).frameCount = m.frameCount := rfl
  apply foldlM_eq_some _ keeps rfl
  intro m' sized channel _
  rw [raise?, place?_eq (sized ▸ counted) (sized ▸ inside), Option.map_some]

theorem fill?_eq (channel : Channel) (first : Nat) {last : Nat} (within : last ≤ m.frameCount)
    (byte : UInt8) : m.fill? channel first last byte = some (m.fill channel first last byte) := by
  apply foldlM_eq_some _ (eachFrame_put channel byte).frameCount_body rfl
  intro m' sized frame member
  have span := List.mem_range'_1.mp member
  have inside : frame < m'.frameCount := by omega
  rw [put?, place?_eq (sized ▸ counted) inside, Option.map_some]

theorem sampleLight?_eq (event : Event) (setting : LightSetting) {frame : Nat}
    (inside : frame < m.frameCount) :
    sampleLight? event setting m frame = some (sampleLight event setting m frame) := by
  have limit : maxFrameCount < UInt32.size := by decide
  rw [sampleLight?, frameTimeMs?_eq_some (by omega), sampleLight]
  change (event.brightnessUnder? setting (frameTimeMs frame) >>= _) = _
  rw [event.brightnessUnder?_eq]
  change (if _ then _ else _) = _
  rw [raiseAll?_eq counted inside]
  exact (apply_ite some _ _ _).symm

theorem writeLight?_eq (event : Event) : m.writeLight? event = some (m.writeLight event) := by
  rw [writeLight?, writeLight]
  cases event.lightSetting? with
  | none => rfl
  | some setting =>
      dsimp only
      rw [frameFrom?_eq, frameFrom?_eq]
      apply foldlM_eq_some _ (eachFrame_sampleLight event setting).frameCount_body rfl
      intro m' sized frame member
      have span := List.mem_range'_1.mp member
      exact sampleLight?_eq (sized ▸ counted) event setting (by omega)

theorem writeDirective?_eq (directive : Directive) :
    m.writeDirective? directive = some (m.writeDirective directive) :=
  fill?_eq counted directive.channel _ (Nat.min_le_right _ _) _

end Writes

theorem ofEvents?_eq {frameCount : Nat} (counted : frameCount ≤ maxFrameCount)
    (events : List Event) : ofEvents? frameCount events = some (ofEvents frameCount events) := by
  have limit : maxFrameCount * channelCount < UInt64.size := by decide
  have size := Nat.mul_le_mul_right channelCount counted
  have lit : events.foldlM writeLight? (blank frameCount) =
      some (events.foldl writeLight (blank frameCount)) :=
    foldlM_eq_some (fun m sized event _ => writeLight?_eq (sized ▸ counted) event)
      frameCount_writeLight (frameCount_blank frameCount)
  have resolved : events.mapM Event.directives? = some (events.map Event.directives) := by
    rw [funext Event.directives?_eq]
    exact List.mapM_pure
  rw [ofEvents?, word?_of_lt (by omega), lit, resolved]
  apply foldlM_eq_some (fun m sized directive _ => writeDirective?_eq (sized ▸ counted) directive)
    frameCount_writeDirective
  simp

end FrameMatrix

theorem compile?_eq (events : List Event) (durationMs : UInt64) :
    compile? events durationMs = some (compile events durationMs) := by
  rw [compile?, compile]
  by_cases empty : durationMs = 0
  · rw [if_pos empty, if_pos empty]
  · rw [if_neg empty, if_neg empty, frameFrom?_eq]
    have sameCount : frameFrom durationMs = frameCountFor durationMs := rfl
    change (if maxFrameCount < frameFrom durationMs then _ else _) = _
    rw [sameCount]
    by_cases tooLong : maxFrameCount < frameCountFor durationMs
    · rw [if_pos tooLong, if_pos tooLong]
    · rw [if_neg tooLong, if_neg tooLong, FrameMatrix.ofEvents?_eq (Nat.not_lt.mp tooLong),
        Option.map_some]

/-- Header and data together are far from filling a machine word. -/
theorem exportShow?_eq (events : List Event) (durationMs uniqueId : UInt64) :
    exportShow? events durationMs uniqueId = some (exportShow events durationMs uniqueId) := by
  rw [exportShow?, compile?_eq, exportShow]
  cases compiled : compile events durationMs with
  | error fault => rfl
  | ok m =>
      have counted := (frameCount_of_compile compiled).2
      have fits : headerLength + m.data.size < UInt64.size := by
        have header : headerLength = 32 := rfl
        have half : UInt32.size = 4294967296 := rfl
        have word : UInt64.size = 18446744073709551616 := rfl
        rw [m.size_data, channelCount]
        omega
      change (word? (headerLength + m.data.size) >>= _) = _
      rw [word?_of_lt fits]
      rfl

/-- No event makes a difference, a sum, a product or a write go wrong, and the only shows that are
refused are those without a length and those with too many frames. -/
theorem checked_run_agrees (events : List Event) (durationMs uniqueId : UInt64) :
    (∀ event : Event, event.directives? = some event.directives ∧
        ∀ setting timeMs,
          event.brightnessUnder? setting timeMs = some (event.brightnessUnder setting timeMs)) ∧
      compile? events durationMs = some (compile events durationMs) ∧
      exportShow? events durationMs uniqueId = some (exportShow events durationMs uniqueId) ∧
      ((∃ m exported, compile events durationMs = .ok m ∧
          exportShow events durationMs uniqueId = .ok exported) ∨
        ∃ fault, compile events durationMs = .error fault ∧
          exportShow events durationMs uniqueId = .error fault ∧
          (fault = .invalidDuration durationMs ∨
            fault = .durationTooLong durationMs (frameCountFor durationMs))) := by
  refine ⟨fun event => ⟨event.directives?_eq, event.brightnessUnder?_eq⟩,
    compile?_eq events durationMs, exportShow?_eq events durationMs uniqueId, ?_⟩
  cases compiled : compile events durationMs with
  | ok m => exact Or.inl ⟨m, _, rfl, exportShow_of_compile compiled uniqueId⟩
  | error fault =>
      refine Or.inr ⟨fault, rfl, (exportShow_eq_error_iff uniqueId fault).mpr compiled, ?_⟩
      rcases (compile_eq_error_iff events durationMs fault).mp compiled with ⟨-, same⟩ | ⟨-, same⟩
      · exact Or.inl same
      · exact Or.inr same

end VehicleShow
