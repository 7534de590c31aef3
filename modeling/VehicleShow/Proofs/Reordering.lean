import VehicleShow.Proofs.ClosureChannels
import VehicleShow.Proofs.CommandCount
import VehicleShow.Proofs.LightChannels

/-! # Reordering the events of a show

The order of events matters only among the events on one closure.  `compile_reordered` says so of the
compiled show; the command counts do not depend on any order. -/
set_option autoImplicit false
namespace VehicleShow

section Permutation
variable {first second : List Event}

theorem brightest_perm (perm : first.Perm second) (timeMs : UInt64) :
    brightest first timeMs = brightest second timeMs := by
  induction perm with
  | nil => rfl
  | cons event _ ih => rw [brightest_cons, brightest_cons, ih]
  | swap one other rest =>
      simp only [brightest_cons]
      rw [← max_assoc_byte, ← max_assoc_byte, max_comm_byte (other.byteAt timeMs)]
  | trans _ _ firstHalf secondHalf => exact firstHalf.trans secondHalf

/-- A place on a closure's channel depends on the events on that closure, any other place on the
events whatever their order. -/
theorem cell_perm (perm : first.Perm second)
    (ordered : ∀ part : Part, part.isClosure = true → eventsOn part first = eventsOn part second)
    (frame : Nat) (channel : Channel) : cell first frame channel = cell second frame channel := by
  rcases Part.closed_or_unclosed channel with ⟨part, closure, driven⟩ | unclosed
  · rw [cell_of_closure closure driven, cell_of_closure closure driven,
      lastCommand?_of_driven driven first, lastCommand?_of_driven driven second,
      ordered part closure]
  · rw [cell_of_unclosed unclosed, cell_of_unclosed unclosed]
    exact brightest_perm (perm.filter _) _

/-! ## Counting commands -/

namespace BudgetReport

theorem usedBy_perm (perm : first.Perm second) (part : Part) :
    usedBy part first = usedBy part second := by
  apply (perm.filter _).foldl_eq'
  intro one _ other _ used
  rw [UInt32.add_assoc, UInt32.add_comm one.commandCost, ← UInt32.add_assoc]

theorem usageOf?_perm (perm : first.Perm second) (part : Part) :
    usageOf? first part = usageOf? second part := by
  rw [usageOf?, usageOf?, perm.any_eq, usedBy_perm perm]

theorem usage_tally_perm (perm : first.Perm second) :
    (tally first).usage = (tally second).usage := by
  have same : usageOf? first = usageOf? second := funext (usageOf?_perm perm)
  rw [usage_tally, usage_tally, same]

end BudgetReport
end Permutation

/-- Lights, unknown parts and the events on different closures may change places.  The command counts
add up to the same in any order at all. -/
theorem compile_reordered {events reordered : List Event} (perm : reordered.Perm events) :
    (BudgetReport.tally reordered).usage = (BudgetReport.tally events).usage ∧
      ((∀ part : Part, part.isClosure = true → eventsOn part reordered = eventsOn part events) →
        ∀ durationMs, compile reordered durationMs = compile events durationMs) :=
  ⟨BudgetReport.usage_tally_perm perm, fun ordered => compile_congr (cell_perm perm ordered)⟩

/-- Two trunk events that overlap, a mirror between them, two lights on one part and a part that is
not in the catalog. -/
def parade : List Event :=
  [{ part := .known .trunk, startMs := 0, endMs := 1000 },
   { part := .known .blinkBackLeft, startMs := 20, endMs := 480, options := { power := some 60 } },
   { part := .known .retroRight, startMs := 30, endMs := 777 },
   { part := .unknown "frunk", startMs := 0, endMs := 80 },
   { part := .known .trunk, startMs := 500, endMs := 1500,
     options := { trunkMode := some .closing } },
   { part := .known .blinkBackLeft, startMs := 90, endMs := 300, options := { power := some 90 } }]

/-- The same events, the lights in reverse and each closure's events still in their order. -/
def paradeByPart : List Event :=
  [{ part := .unknown "frunk", startMs := 0, endMs := 80 },
   { part := .known .blinkBackLeft, startMs := 90, endMs := 300, options := { power := some 90 } },
   { part := .known .retroRight, startMs := 30, endMs := 777 },
   { part := .known .trunk, startMs := 0, endMs := 1000 },
   { part := .known .trunk, startMs := 500, endMs := 1500,
     options := { trunkMode := some .closing } },
   { part := .known .blinkBackLeft, startMs := 20, endMs := 480, options := { power := some 60 } }]

theorem compile_parade_by_part :
    paradeByPart.Perm parade ∧
      (∀ part : Part, part.isClosure = true → eventsOn part paradeByPart = eventsOn part parade) ∧
      (BudgetReport.tally paradeByPart).usage = (BudgetReport.tally parade).usage ∧
      compile paradeByPart 1500 = compile parade 1500 ∧
      ∃ m, compile paradeByPart 1500 = .ok m ∧
        m.get? 5 22 = some 230 ∧ m.get? 20 22 = some 153 ∧ m.get? 30 40 = some 192 := by
  have perm : paradeByPart.Perm parade := by decide +kernel
  have ordered : ∀ part : Part, part.isClosure = true →
      eventsOn part paradeByPart = eventsOn part parade := by
    intro part closure
    cases part <;> first | rfl | exact absurd closure (by decide)
  obtain ⟨counts, shows⟩ := compile_reordered perm
  have same := shows ordered 1500
  have compiled : compile parade 1500 = .ok (.ofEvents 75 parade) := rfl
  have brighter : cell parade 5 22 = 230 := by decide +kernel
  have dimmer : cell parade 20 22 = 153 := by decide +kernel
  have shuts : cell parade 30 40 = 192 := by decide +kernel
  have early := FrameMatrix.get?_ofEvents (by decide : 5 < 75) (by decide) brighter
  have later := FrameMatrix.get?_ofEvents (by decide : 20 < 75) (by decide) dimmer
  have last := FrameMatrix.get?_ofEvents (by decide : 30 < 75) (by decide) shuts
  exact ⟨perm, ordered, counts, same, _, same.trans compiled, early, later, last⟩

/-- On one closure the order counts. -/
example : cell parade 30 40 = 192 ∧ cell parade.reverse 30 40 = 64 := by decide +kernel

end VehicleShow
