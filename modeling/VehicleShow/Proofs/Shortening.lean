import VehicleShow.Proofs.ExportedShow

/-! # Shorter and longer shows

What a frame shows does not depend on how long the show goes on, so a shorter show is made of the
first frames of a longer one: `compile_shortened`.  The two exports tell their lengths apart in the
frame count alone, and no event that comes after a show leaves a mark on it. -/
set_option autoImplicit false
namespace VehicleShow

/-! ## The first frames of a matrix -/

theorem frameCountFor_mono {shorterMs longerMs : UInt64} (ordered : shorterMs ≤ longerMs) :
    frameCountFor shorterMs ≤ frameCountFor longerMs := by
  have span := UInt64.le_iff_toNat_le.mp ordered
  rw [frameCountFor, frameCountFor, toNat_stepMs]
  omega

namespace FrameMatrix

def firstFrames (count : Nat) (m : FrameMatrix) : FrameMatrix where
  frameCount := min count m.frameCount
  data := m.data.take (count * channelCount)
  size_data := by
    rw [Array.take_eq_extract, Array.size_extract, m.size_data, Nat.mul_min_mul_right, Nat.sub_zero]

theorem frameCount_firstFrames {m : FrameMatrix} {count : Nat} (enough : count ≤ m.frameCount) :
    (m.firstFrames count).frameCount = count := Nat.min_eq_left enough

theorem toList_data_firstFrames (count : Nat) (m : FrameMatrix) :
    (m.firstFrames count).data.toList = m.data.toList.take (count * channelCount) := by
  simp [firstFrames]

theorem get?_firstFrames (m : FrameMatrix) {frame count : Nat} (inside : frame < count)
    (channel : Channel) : (m.firstFrames count).get? frame channel = m.get? frame channel := by
  rw [get?, get?, ← Array.getElem?_toList, toList_data_firstFrames,
    List.getElem?_take_of_lt ((place_lt_iff frame channel count).mpr inside), Array.getElem?_toList]

theorem ofEvents_firstFrames {shorter longer : Nat} (events : List Event)
    (ordered : shorter ≤ longer) (counted : longer ≤ maxFrameCount) :
    (ofEvents longer events).firstFrames shorter = ofEvents shorter events := by
  have limit : maxFrameCount < UInt32.size := by decide
  have count : ((ofEvents longer events).firstFrames shorter).frameCount = shorter := by
    apply frameCount_firstFrames
    rw [frameCount_ofEvents]
    exact ordered
  apply ext_value
  · rw [count, frameCount_ofEvents]
  · intro frame inside channel
    rw [count] at inside
    rw [value, get?_firstFrames _ inside, ← value, value_ofEvents events channel (by omega) (by omega),
      value_ofEvents events channel inside (by omega)]

/-- As sequences, a matrix and its first frames differ in the bytes of the frame count alone, up to
the end of the shorter one. -/
theorem sequenceBytes_firstFrames (m : FrameMatrix) (count : Nat) (uniqueId : UInt64) {place : Nat}
    (reached : place < ((m.firstFrames count).sequenceBytes uniqueId).length)
    (outside : ¬ (14 ≤ place ∧ place < 18)) :
    ((m.firstFrames count).sequenceBytes uniqueId)[place]? = (m.sequenceBytes uniqueId)[place]? := by
  have extended : m.sequenceBytes uniqueId =
      Header.plainFront ++ LittleEndian.encode 4 (UInt32.ofNat m.frameCount).toNat ++
        (Header.plainMiddle ++ LittleEndian.encode 8 uniqueId.toNat ++
          (m.firstFrames count).data.toList) ++ m.data.toList.drop (count * channelCount) := by
    rw [toList_data_firstFrames, List.append_assoc _ _ (m.data.toList.drop _),
      List.append_assoc _ _ (m.data.toList.drop _), List.take_append_drop,
      sequenceBytes_around_count]
  have sameWidth : ∀ n o, (LittleEndian.encode 4 n).length = (LittleEndian.encode 4 o).length := by
    intro n o
    rw [LittleEndian.length_encode, LittleEndian.length_encode]
  rw [sequenceBytes_around_count] at reached ⊢
  rw [extended]
  apply (getElem?_of_outside _ (sameWidth _ _) outside).trans (List.getElem?_append_left _).symm
  simpa only [List.length_append, LittleEndian.length_encode] using reached

end FrameMatrix

/-! ## Events after the end -/

def Event.hasMomentBefore (timeMs : Nat) (event : Event) : Bool :=
  event.startMs < event.endMs ∧ event.startMs.toNat < timeMs

theorem Event.leavesNoMark_of_later {event : Event} {frame frames : Nat} (inside : frame < frames)
    (counted : frame < UInt32.size) (later : event.hasMomentBefore (20 * frames) = false)
    (channel : Channel) : event.LeavesNoMark frame channel := by
  rw [hasMomentBefore, decide_eq_false_iff_not, UInt64.lt_iff_toNat_lt] at later
  apply leavesNoMark_of_apart counted
  omega

/-- What a show holds is told by the events that have begun before it is over. -/
theorem FrameMatrix.ofEvents_of_same_moments {first second : List Event} {frameCount : Nat}
    (counted : frameCount ≤ maxFrameCount)
    (same : first.filter (Event.hasMomentBefore (20 * frameCount)) =
      second.filter (Event.hasMomentBefore (20 * frameCount))) :
    ofEvents frameCount first = ofEvents frameCount second := by
  have limit : maxFrameCount < UInt32.size := by decide
  apply ofEvents_congr counted
  intro frame inside channel
  have small : frame < UInt32.size := by omega
  have unmarked : ∀ event : Event, event.hasMomentBefore (20 * frameCount) = false →
      event.LeavesNoMark frame channel :=
    fun event later => Event.leavesNoMark_of_later inside small later channel
  rw [← cell_filter fun event _ => unmarked event, same, cell_filter fun event _ => unmarked event]

/-! ## Two lengths of one show -/

theorem compile_shortened {events : List Event} {shorterMs longerMs : UInt64} {long : FrameMatrix}
    (positive : 0 < shorterMs) (ordered : shorterMs ≤ longerMs)
    (compiled : compile events longerMs = .ok long) :
    ∃ short, compile events shorterMs = .ok short ∧
      short.frameCount = (shorterMs.toNat + 19) / 20 ∧ short.frameCount ≤ long.frameCount ∧
      short.data.toList = long.data.toList.take (48 * short.frameCount) ∧
      (∀ frame < short.frameCount, ∀ channel : Channel,
        short.get? frame channel = long.get? frame channel) ∧
      (∀ uniqueId, ∃ shortExport longExport,
        exportShow events shorterMs uniqueId = .ok shortExport ∧
          exportShow events longerMs uniqueId = .ok longExport ∧
          shortExport.bytes.length ≤ longExport.bytes.length ∧
          ∀ place < shortExport.bytes.length, ¬ (14 ≤ place ∧ place < 18) →
            shortExport.bytes[place]? = longExport.bytes[place]?) ∧
      ∀ others : List Event,
        others.filter (Event.hasMomentBefore (20 * short.frameCount)) =
            events.filter (Event.hasMomentBefore (20 * short.frameCount)) →
          compile others shorterMs = .ok short := by
  obtain ⟨-, longCounted, rfl⟩ := (compile_eq_ok_iff _ _ _).mp compiled
  have fewer := frameCountFor_mono ordered
  have counted := Nat.le_trans fewer longCounted
  have started : shorterMs ≠ 0 := by
    intro none
    rw [none] at positive
    exact absurd positive (by decide)
  have shortCompiled : compile events shorterMs =
      .ok (.ofEvents (frameCountFor shorterMs) events) :=
    (compile_eq_ok_iff _ _ _).mpr ⟨started, counted, rfl⟩
  have first := FrameMatrix.ofEvents_firstFrames events fewer longCounted
  have count := FrameMatrix.frameCount_ofEvents (frameCountFor shorterMs) events
  refine ⟨_, shortCompiled, count, ?_, ?_, ?_, ?_, ?_⟩
  · rw [count, FrameMatrix.frameCount_ofEvents]
    exact fewer
  · rw [count, ← first, FrameMatrix.toList_data_firstFrames, Nat.mul_comm, channelCount]
  · intro frame inside channel
    rw [count] at inside
    rw [← first, FrameMatrix.get?_firstFrames _ inside]
  · intro uniqueId
    refine ⟨_, _, exportShow_of_compile shortCompiled uniqueId,
      exportShow_of_compile compiled uniqueId, ?_, ?_⟩
    · simp only [FrameMatrix.length_sequenceBytes, FrameMatrix.frameCount_ofEvents]
      omega
    · intro place reached outside
      simp only [← first] at reached ⊢
      exact FrameMatrix.sequenceBytes_firstFrames _ _ uniqueId reached outside
  · intro others same
    rw [count] at same
    rw [← FrameMatrix.ofEvents_of_same_moments counted same]
    exact (compile_eq_ok_iff _ _ _).mpr ⟨started, counted, rfl⟩

/-- A trunk and a light that go on past 80 ms, a trunk event that starts there, and a mirror event
that ends before it starts. -/
def matinee : List Event :=
  [{ part := .known .trunk, startMs := 30, endMs := 5000, options := { trunkMode := some .dance } },
   { part := .known .lightLeftBack, startMs := 15, endMs := 95, options := { power := some 60 } },
   { part := .known .trunk, startMs := 80, endMs := 120 },
   { part := .known .retroLeft, startMs := 60, endMs := 20 }]

theorem compile_matinee_shortened :
    0 < (70 : UInt64) ∧ (70 : UInt64) ≤ 130 ∧
      compile matinee 130 = .ok (.ofEvents 7 matinee) ∧
      ∃ short, compile matinee 70 = .ok short ∧ short.frameCount = 4 ∧
        short.data.toList = (FrameMatrix.ofEvents 7 matinee).data.toList.take 192 ∧
        compile (matinee.take 2) 70 = .ok short ∧
        short.get? 3 25 = some 153 ∧ short.get? 3 40 = some 128 ∧
        (FrameMatrix.ofEvents 7 matinee).get? 4 40 = some 64 := by
  have positive : 0 < (70 : UInt64) := by decide
  have ordered : (70 : UInt64) ≤ 130 := by decide
  have compiled : compile matinee 130 = .ok (.ofEvents 7 matinee) := rfl
  obtain ⟨short, shortCompiled, count, -, data, -, -, later⟩ :=
    compile_shortened positive ordered compiled
  have frames : short.frameCount = 4 := count
  rw [frames] at data later
  obtain rfl : .ofEvents 4 matinee = short := Except.ok.inj shortCompiled
  have lit : (FrameMatrix.ofEvents 4 matinee).get? 3 25 = some 153 := by decide +kernel
  have dances : (FrameMatrix.ofEvents 4 matinee).get? 3 40 = some 128 := by decide +kernel
  have opens : (FrameMatrix.ofEvents 7 matinee).get? 4 40 = some 64 := by decide +kernel
  exact ⟨positive, ordered, compiled, _, shortCompiled, frames, data, later _ (by decide), lit,
    dances, opens⟩

end VehicleShow
