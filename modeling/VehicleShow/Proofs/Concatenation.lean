import VehicleShow.Proofs.ClosureChannels
import VehicleShow.Proofs.LightChannels

/-! # Shows one after the other

Compiling two lists of events as one combines the two shows place by place.  On a closure's channel
the second show lies over the first and is seen through where it is idle, because no directive
commands a part to rest; on any other channel the brighter byte counts. -/
set_option autoImplicit false
namespace VehicleShow

theorem cell_append_of_closure {part : Part} {channel : Channel} (closure : part.isClosure = true)
    (driven : channel ∈ part.channels) (first second : List Event) (frame : Nat) :
    cell (first ++ second) frame channel =
      if cell second frame channel ≠ 0 then cell second frame channel
      else cell first frame channel := by
  rw [cell_of_closure closure driven, List.flatMap_append, lastCommand?_append,
    cell_of_closure closure driven second]
  cases last : lastCommand? (second.flatMap Event.directives) channel frame with
  | none =>
      rw [Option.none_or, ← cell_of_closure closure driven first]
      rfl
  | some command =>
      obtain ⟨other, -, possible⟩ := part_of_lastCommand? last
      have seen := Category.byte_ne_zero_of_mem_commands possible
      rw [Option.some_or, Option.map_some, Option.getD_some, if_pos seen]

theorem cell_append_of_unclosed {channel : Channel}
    (unclosed : ∀ part : Part, part.isClosure = true → channel ∉ part.channels)
    (first second : List Event) (frame : Nat) :
    cell (first ++ second) frame channel =
      max (cell first frame channel) (cell second frame channel) := by
  rw [cell_of_unclosed unclosed, cell_of_unclosed unclosed, cell_of_unclosed unclosed,
    List.filter_append, brightest_append]

/-- Events that are given twice show as if given once. -/
theorem cell_append_self (events : List Event) (frame : Nat) (channel : Channel) :
    cell (events ++ events) frame channel = cell events frame channel := by
  rcases Part.closed_or_unclosed channel with ⟨part, closure, driven⟩ | unclosed
  · rw [cell_append_of_closure closure driven, ite_self]
  · rw [cell_append_of_unclosed unclosed, max_self_byte]

theorem compile_append {first second : List Event} {durationMs : UInt64} {a b : FrameMatrix}
    (firstCompiled : compile first durationMs = .ok a)
    (secondCompiled : compile second durationMs = .ok b) :
    ∃ m, compile (first ++ second) durationMs = .ok m ∧
      m.frameCount = a.frameCount ∧ m.frameCount = b.frameCount ∧
      (∀ frame < m.frameCount, ∀ channel : Channel,
        (∀ part : Part, part.isClosure = true → channel ∈ part.channels →
          m.value frame channel =
            if b.value frame channel ≠ 0 then b.value frame channel
            else a.value frame channel) ∧
        ((∀ part : Part, part.isClosure = true → channel ∉ part.channels) →
          m.value frame channel = max (a.value frame channel) (b.value frame channel))) ∧
      compile (first ++ first) durationMs = compile first durationMs := by
  obtain ⟨positive, counted, -⟩ := (compile_eq_ok_iff first durationMs a).mp firstCompiled
  have bothCompiled : compile (first ++ second) durationMs =
      .ok (.ofEvents (frameCountFor durationMs) (first ++ second)) :=
    (compile_eq_ok_iff _ _ _).mpr ⟨positive, counted, rfl⟩
  have bothCount := (frameCount_of_compile bothCompiled).1
  have firstCount := (frameCount_of_compile firstCompiled).1
  have secondCount := (frameCount_of_compile secondCompiled).1
  refine ⟨_, bothCompiled, bothCount.trans firstCount.symm, bothCount.trans secondCount.symm, ?_,
    compile_congr (cell_append_self first) durationMs⟩
  intro frame inside channel
  have inBoth := value_of_compile bothCompiled inside channel
  rw [bothCount] at inside
  have inFirst := value_of_compile firstCompiled (firstCount ▸ inside) channel
  have inSecond := value_of_compile secondCompiled (secondCount ▸ inside) channel
  rw [inBoth, inFirst, inSecond]
  constructor
  · intro part closure driven
    exact cell_append_of_closure closure driven first second frame
  · intro unclosed
    exact cell_append_of_unclosed unclosed first second frame

def steadyShow : List Event :=
  [{ part := .known .trunk, startMs := 0, endMs := 100 },
   { part := .known .lightLeftBack, startMs := 0, endMs := 100, options := { power := some 40 } }]

def briefShow : List Event :=
  [{ part := .known .trunk, startMs := 40, endMs := 60, options := { trunkMode := some .dance } },
   { part := .known .lightLeftBack, startMs := 15, endMs := 81, options := { power := some 80 } }]

/-- Where the brief show is idle or dimmer, the steady one is seen. -/
theorem compile_append_steady_brief :
    compile steadyShow 100 = .ok (.ofEvents 5 steadyShow) ∧
      compile briefShow 100 = .ok (.ofEvents 5 briefShow) ∧
      ∃ m, compile (steadyShow ++ briefShow) 100 = .ok m ∧
        m.value 2 40 = 128 ∧ m.value 3 40 = 64 ∧ m.value 0 25 = 102 ∧ m.value 4 25 = 204 := by
  have steady : compile steadyShow 100 = .ok (.ofEvents 5 steadyShow) := rfl
  have brief : compile briefShow 100 = .ok (.ofEvents 5 briefShow) := rfl
  obtain ⟨m, both, count, -, combined, -⟩ := compile_append steady brief
  have trunk : Part.trunk.isClosure = true := rfl
  have light : ∀ part : Part, part.isClosure = true → 25 ∉ part.channels := by
    intro part
    cases part <;> decide
  have inSteady : ∀ frame < 5, ∀ channel : Channel,
      (FrameMatrix.ofEvents 5 steadyShow).value frame channel = cell steadyShow frame channel :=
    fun frame inside => value_of_compile steady (by simpa using inside)
  have inBrief : ∀ frame < 5, ∀ channel : Channel,
      (FrameMatrix.ofEvents 5 briefShow).value frame channel = cell briefShow frame channel :=
    fun frame inside => value_of_compile brief (by simpa using inside)
  rw [FrameMatrix.frameCount_ofEvents] at count
  refine ⟨steady, brief, m, both, ?_, ?_, ?_, ?_⟩
  · rw [(combined 2 (by omega) 40).1 .trunk trunk (by decide), inSteady 2 (by decide),
      inBrief 2 (by decide)]
    decide +kernel
  · rw [(combined 3 (by omega) 40).1 .trunk trunk (by decide), inSteady 3 (by decide),
      inBrief 3 (by decide)]
    decide +kernel
  · rw [(combined 0 (by omega) 25).2 light, inSteady 0 (by decide), inBrief 0 (by decide)]
    decide +kernel
  · rw [(combined 4 (by omega) 25).2 light, inSteady 4 (by decide), inBrief 4 (by decide)]
    decide +kernel

end VehicleShow
