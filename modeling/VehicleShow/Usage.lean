import Std.Data.TreeMap
import VehicleShow.Event.Basic

/-! # Use of command budgets

The hardware takes a limited number of commands per closure part and show.  The report only counts;
whether to act on it is up to the caller. -/
set_option autoImplicit false
namespace VehicleShow

/-- Window dances longer than this may trip the thermal protection of the motors. -/
def windowDanceAdvisoryMs : UInt64 := 30000

def Event.commandCost (event : Event) : UInt32 :=
  match event.payload? with
  | some (.mirror .roundTrip) => 2
  | some (.light _) | none => 0
  | some _ => 1

structure PartUsage where
  part : Part
  used : UInt32
  limit : UInt32
  deriving DecidableEq, Repr

namespace PartUsage

def remaining (usage : PartUsage) : UInt32 :=
  if usage.used ≤ usage.limit then usage.limit - usage.used else 0

def isOverLimit (usage : PartUsage) : Bool := usage.limit < usage.used

end PartUsage

structure LongDance where
  part : Part
  startMs : UInt64
  durationMs : UInt64
  deriving DecidableEq, Repr

def Event.longDance? (event : Event) : Option LongDance :=
  match event.part?, event.payload? with
  | some part, some (.window _) =>
      if windowDanceAdvisoryMs < event.durationMs then
        some ⟨part, event.startMs, event.durationMs⟩
      else none
  | _, _ => none

structure BudgetReport where
  usage : List PartUsage
  longDances : List LongDance
  deriving DecidableEq, Repr

structure Ledger where
  used : Std.TreeMap Part UInt32 := {}
  longDances : List LongDance := []

namespace Ledger

/-- Counts one event. An event that takes no command leaves no trace. -/
def add (ledger : Ledger) (event : Event) : Ledger :=
  match event.part? with
  | some part =>
      if 0 < event.commandCost then
        { used := ledger.used.insert part (ledger.used.getD part 0 + event.commandCost)
          longDances := ledger.longDances ++ event.longDance?.toList }
      else ledger
  | none => ledger

/-- The parts that have a limit, in catalog order, and the long dances in the order in which they
were met. -/
def report (ledger : Ledger) : BudgetReport where
  usage := ledger.used.toList.filterMap fun (part, used) =>
    part.commandLimit?.map fun limit => ⟨part, used, limit⟩
  longDances := ledger.longDances

end Ledger

namespace BudgetReport

def tally (events : List Event) : BudgetReport := (events.foldl Ledger.add {}).report

def usageFor? (report : BudgetReport) (part : Part) : Option PartUsage :=
  report.usage.find? fun entry => entry.part == part

def overLimit (report : BudgetReport) : List PartUsage :=
  report.usage.filter PartUsage.isOverLimit

def isWithinLimits (report : BudgetReport) : Bool := report.overLimit.isEmpty

end BudgetReport
end VehicleShow
