import VehicleShow.Proofs.CommandCount
import VehicleShow.Proofs.FrameTimes

/-! # What a budget report says

A report has one entry for each closure that the events use, with all the commands that the events on
it take, and one warning for each window that dances too long.  `tally_exact` says so of any list of
events whose commands 32 bits can count, whatever the spans of the events and however the parts are
mixed; lists put together are counted by adding up. -/
set_option autoImplicit false
namespace VehicleShow

def Event.dancesLong (event : Event) : Bool :=
  event.part?.map Part.category == some .window
    && decide (30000 < event.endMs.toNat - event.startMs.toNat)

def Part.occursIn (part : Part) (events : List Event) : Bool :=
  events.any fun event => event.part? == some part

/-! ## Sums of costs -/

theorem totalCost_append (first second : List Event) :
    totalCost (first ++ second) = totalCost first + totalCost second := by
  rw [totalCost_eq, totalCost_eq, totalCost_eq, List.flatMap_append, List.length_append]

/-- A part that costs anything occurs. -/
theorem occursIn_of_totalCost {part : Part} {events : List Event}
    (costs : 0 < totalCost (eventsOn part events)) : part.occursIn events = true := by
  by_cases occurs : part.occursIn events = true
  · exact occurs
  · rw [eventsOn_of_absent occurs] at costs
    exact absurd costs (Nat.lt_irrefl 0)

/-! ## Long dances -/

theorem PartKey.eq_known_of_part? {key : PartKey} {part : Part} (named : key.part? = some part) :
    key = .known part := by
  cases key with
  | known other => rw [Option.some.inj named]
  | unknown name => cases named

section Dance
variable {event : Event} {part : Part} (own : event.part? = some part)
include own

theorem Event.longDance?_of_window (window : part.category = .window) :
    event.longDance? =
      if windowDanceAdvisoryMs < event.durationMs then some ⟨part, event.startMs, event.durationMs⟩
      else none := by
  have payload : event.payload? = some (.window (event.options.windowMode.getD .dance)) := by
    rw [payload?, own, Option.map_some, window]
    rfl
  rw [longDance?, own, payload]

theorem Event.longDance?_of_other (other : part.category ≠ .window) : event.longDance? = none := by
  have payload : event.payload? = some (event.options.payload part.category) := by
    rw [payload?, own]
    rfl
  rw [longDance?, own, payload]
  cases category : part.category with
  | window => exact absurd category other
  | light | blinker | mirror | trunk | flap => rfl

end Dance

def LongDance.span (dance : LongDance) : PartKey × Nat × Nat :=
  (.known dance.part, dance.startMs.toNat, dance.startMs.toNat + dance.durationMs.toNat)

def Event.span (event : Event) : PartKey × Nat × Nat :=
  (event.part, event.startMs.toNat, event.endMs.toNat)

theorem Event.span_longDance? (event : Event) :
    event.longDance?.map LongDance.span = (Option.guard dancesLong event).map span := by
  cases own : event.part? with
  | none => simp [longDance?, Option.guard, dancesLong, own]
  | some part =>
      by_cases window : part.category = .window
      · have advisory : windowDanceAdvisoryMs < event.durationMs ↔
            30000 < event.endMs.toNat - event.startMs.toNat := by
          rw [UInt64.lt_iff_toNat_lt, toNat_durationMs]
          exact Iff.rfl
        rw [longDance?_of_window own window]
        by_cases long : 30000 < event.endMs.toNat - event.startMs.toNat
        · have known : event.part = .known part := PartKey.eq_known_of_part? own
          have inSpan : event.startMs.toNat + event.durationMs.toNat = event.endMs.toNat := by
            rw [toNat_durationMs]
            omega
          simp [advisory, long, Option.guard, dancesLong, own, window, LongDance.span, span, known,
            inSpan]
        · simp [advisory, long, Option.guard, dancesLong]
      · simp [longDance?_of_other own window, Option.guard, dancesLong, own, window]

namespace BudgetReport

theorem longDances_tally (events : List Event) :
    (tally events).longDances = events.filterMap Event.longDance? :=
  Ledger.longDances_foldl_add {} events

theorem spans_longDances (events : List Event) :
    (tally events).longDances.map LongDance.span =
      (events.filter Event.dancesLong).map Event.span := by
  rw [longDances_tally, List.map_filterMap, ← List.filterMap_eq_filter, List.map_filterMap]
  exact List.filterMap_congr fun event _ => event.span_longDance?

/-! ## Entries -/

section Entries
variable {events : List Event}

theorem usageOf?_of_closure {part : Part} {limit : UInt32}
    (limited : part.commandLimit? = some limit) :
    usageOf? events part =
      if part.occursIn events then some ⟨part, usedBy part events, limit⟩ else none := by
  rw [usageOf?, limited]
  rfl

theorem usageOf?_of_light {part : Part} (light : part.isClosure = false) :
    usageOf? events part = none := by
  rw [usageOf?]
  cases limited : part.commandLimit? with
  | none => rfl
  | some limit =>
      exact absurd (Part.isClosure_of_commandLimit? limited) (Bool.eq_false_iff.mp light)

theorem usageOf?_eq_some_iff (part : Part) (entry : PartUsage) :
    usageOf? events part = some entry ↔
      part.occursIn events = true ∧ part.commandLimit? = some entry.limit ∧
        entry.part = part ∧ entry.used = usedBy part events := by
  cases limited : part.commandLimit? with
  | none =>
      rw [usageOf?, limited]
      simp
  | some limit =>
      rw [usageOf?_of_closure limited, Option.some.injEq, Option.ite_none_right_eq_some,
        Option.some.injEq]
      apply and_congr_right
      intro _
      constructor
      · rintro rfl
        exact ⟨rfl, rfl, rfl⟩
      · rintro ⟨rfl, rfl, same⟩
        rw [← same]

/-- Entries picked out of a report stand for parts picked out of the catalog. -/
theorem parts_of_entries {keep : PartUsage → Bool} {chosen : Part → Bool}
    (agree : ∀ part, chosen part = true ↔
      ∃ entry, usageOf? events part = some entry ∧ keep entry = true) :
    ((tally events).usage.filter keep).map PartUsage.part = Part.all.filter chosen := by
  rw [usage_tally, List.filter_filterMap, List.map_filterMap, ← List.filterMap_eq_filter]
  refine List.filterMap_congr fun part _ => ?_
  have chosenIff := agree part
  cases found : usageOf? events part with
  | none =>
      rw [found] at chosenIff
      simp [Option.guard, chosenIff]
  | some entry =>
      rw [found] at chosenIff
      have named := part_of_usageOf? found
      by_cases kept : keep entry = true
      · simp [Option.guard, chosenIff, kept, named]
      · simp [Option.guard, chosenIff, kept]

theorem parts_usage_tally (events : List Event) :
    (tally events).usage.map PartUsage.part =
      Part.all.filter fun part => part.isClosure && part.occursIn events := by
  have whole : (tally events).usage.filter (fun _ => true) = (tally events).usage := by simp
  rw [← whole]
  apply parts_of_entries
  intro part
  rw [Bool.and_eq_true]
  constructor
  · rintro ⟨closure, occurs⟩
    obtain ⟨limit, limited⟩ := part.exists_commandLimit closure
    exact ⟨⟨part, usedBy part events, limit⟩,
      (usageOf?_eq_some_iff part _).mpr ⟨occurs, limited, rfl, rfl⟩, rfl⟩
  · rintro ⟨entry, found, -⟩
    obtain ⟨occurs, limited, -⟩ := (usageOf?_eq_some_iff part entry).mp found
    exact ⟨Part.isClosure_of_commandLimit? limited, occurs⟩

variable (fits : totalCost events < UInt32.size)
include fits

theorem toNat_used_of_usageOf? {part : Part} {entry : PartUsage}
    (found : usageOf? events part = some entry) :
    entry.used.toNat = totalCost (eventsOn part events) := by
  obtain ⟨-, limited, -, used⟩ := (usageOf?_eq_some_iff part entry).mp found
  have closure := Part.isClosure_of_commandLimit? limited
  rw [used]
  exact toNat_usedBy (Nat.lt_of_le_of_lt (totalCost_eventsOn_le closure events) fits)

def exceeds (events : List Event) (part : Part) : Bool :=
  part.commandLimit?.any fun limit => limit.toNat < totalCost (eventsOn part events)

theorem parts_overLimit_tally :
    (tally events).overLimit.map PartUsage.part = Part.all.filter (exceeds events) := by
  apply parts_of_entries
  intro part
  rw [exceeds, Option.any_eq_true]
  simp only [decide_eq_true_eq, PartUsage.isOverLimit, UInt32.lt_iff_toNat_lt]
  constructor
  · rintro ⟨limit, limited, excess⟩
    have found := (usageOf?_eq_some_iff part ⟨part, usedBy part events, limit⟩).mpr
      ⟨occursIn_of_totalCost (Nat.zero_lt_of_lt excess), limited, rfl, rfl⟩
    rw [← toNat_used_of_usageOf? fits found] at excess
    exact ⟨_, found, excess⟩
  · rintro ⟨entry, found, excess⟩
    obtain ⟨-, limited, -⟩ := (usageOf?_eq_some_iff part entry).mp found
    rw [toNat_used_of_usageOf? fits found] at excess
    exact ⟨entry.limit, limited, excess⟩

theorem isWithinLimits_tally_iff :
    (tally events).isWithinLimits = true ↔
      ∀ (part : Part) (limit : UInt32), part.commandLimit? = some limit →
        totalCost (eventsOn part events) ≤ limit.toNat := by
  rw [isWithinLimits, List.isEmpty_iff, ← List.map_eq_nil_iff, parts_overLimit_tally fits,
    List.filter_eq_nil_iff]
  constructor
  · intro within part limit limited
    have kept := within part part.mem_all
    rw [exceeds, limited, Option.any_some, decide_eq_true_eq] at kept
    exact Nat.le_of_not_lt kept
  · intro within part _ excess
    obtain ⟨limit, limited, above⟩ := (Option.any_eq_true _ _).mp excess
    exact absurd (within part limit limited) (Nat.not_le.mpr (of_decide_eq_true above))

end Entries

/-! ## Lists put together -/

theorem usedFor_tally_of_light {part : Part} (light : part.isClosure = false)
    (events : List Event) : (tally events).usedFor part = 0 := by
  rw [usedFor, usageFor?_tally, usageOf?_of_light light]
  rfl

theorem usedFor_tally_append {first second : List Event}
    (fits : totalCost (first ++ second) < UInt32.size) (part : Part) :
    (tally (first ++ second)).usedFor part =
      (tally first).usedFor part + (tally second).usedFor part := by
  have sum := totalCost_append first second
  by_cases closure : part.isClosure = true
  · rw [usedFor_tally closure fits, usedFor_tally closure (by omega),
      usedFor_tally closure (by omega), eventsOn, List.filter_append, totalCost_append]
    rfl
  · have light := Bool.eq_false_iff.mpr closure
    rw [usedFor_tally_of_light light, usedFor_tally_of_light light, usedFor_tally_of_light light]

theorem tally_exact {events : List Event} (fits : totalCost events < UInt32.size) :
    ((tally events).usage.map PartUsage.part =
        Part.all.filter fun part => part.isClosure && part.occursIn events) ∧
      (∀ entry ∈ (tally events).usage,
        entry.used.toNat = totalCost (eventsOn entry.part events) ∧
          entry.part.commandLimit? = some entry.limit) ∧
      (∀ part entry, (tally events).usageFor? part = some entry ↔
        entry ∈ (tally events).usage ∧ entry.part = part) ∧
      (∀ part, (tally events).usageFor? part = none ↔
        part ∉ (tally events).usage.map PartUsage.part) ∧
      (tally events).longDances.map LongDance.span =
        (events.filter Event.dancesLong).map Event.span ∧
      (tally events).overLimit.map PartUsage.part = Part.all.filter (exceeds events) ∧
      ((tally events).isWithinLimits = true ↔
        ∀ (part : Part) (limit : UInt32), part.commandLimit? = some limit →
          totalCost (eventsOn part events) ≤ limit.toNat) ∧
      ∀ first second, events = first ++ second →
        (∀ part, (tally events).usedFor part =
          (tally first).usedFor part + (tally second).usedFor part) ∧
        (tally events).longDances = (tally first).longDances ++ (tally second).longDances := by
  refine ⟨parts_usage_tally events, ?_, ?_, ?_, spans_longDances events, parts_overLimit_tally fits,
    isWithinLimits_tally_iff fits, ?_⟩
  · intro entry member
    have found := (mem_usage_tally_iff events entry).mp member
    exact ⟨toNat_used_of_usageOf? fits found, ((usageOf?_eq_some_iff _ entry).mp found).2.1⟩
  · intro part entry
    rw [usageFor?_tally, mem_usage_tally_iff]
    constructor
    · intro found
      rw [part_of_usageOf? found]
      exact ⟨found, rfl⟩
    · rintro ⟨found, rfl⟩
      exact found
  · intro part
    rw [usageFor?_tally, List.mem_map]
    constructor
    · rintro none ⟨entry, member, rfl⟩
      rw [(mem_usage_tally_iff events entry).mp member] at none
      cases none
    · intro absent
      cases found : usageOf? events part with
      | none => rfl
      | some entry =>
          have named := part_of_usageOf? found
          rw [← named] at found
          exact absurd ⟨entry, (mem_usage_tally_iff events entry).mpr found, named⟩ absent
  · rintro first second rfl
    refine ⟨usedFor_tally_append fits, ?_⟩
    rw [longDances_tally, longDances_tally, longDances_tally, List.filterMap_append]

end BudgetReport

/-- A flap that is moved four times, once over no time at all, a mirror that folds backwards in time,
a window that dances twice, the second time for thirty seconds to the millisecond, a light and a part
that is not in the catalog. -/
def rehearsal : List Event :=
  [{ part := .known .flap, startMs := 0, endMs := 2000 },
   { part := .known .windowLeftFront, startMs := 10, endMs := 30011 },
   { part := .known .retroLeft, startMs := 900, endMs := 100 },
   { part := .known .flap, startMs := 5000, endMs := 5000 },
   { part := .unknown "frunk", startMs := 0, endMs := 60000 },
   { part := .known .lightLeftBack, startMs := 0, endMs := 60000 },
   { part := .known .flap, startMs := 9000, endMs := 9500 },
   { part := .known .windowLeftFront, startMs := 40000, endMs := 70000 },
   { part := .known .flap, startMs := 12000, endMs := 12500 }]

theorem tally_exact_at_rehearsal :
    totalCost rehearsal < UInt32.size ∧
      (BudgetReport.tally rehearsal).usage.map PartUsage.part =
        [.windowLeftFront, .retroLeft, .flap] ∧
      (BudgetReport.tally rehearsal).usageFor? .trunk = none ∧
      (BudgetReport.tally rehearsal).longDances.map LongDance.span =
        [(.known .windowLeftFront, 10, 30011)] ∧
      (BudgetReport.tally rehearsal).overLimit.map PartUsage.part = [.flap] ∧
      (BudgetReport.tally rehearsal).isWithinLimits = false := by
  have fits : totalCost rehearsal < UInt32.size := by decide
  obtain ⟨parts, -, -, absent, dances, excess, within, -⟩ := BudgetReport.tally_exact fits
  have occurring : (BudgetReport.tally rehearsal).usage.map PartUsage.part =
      [.windowLeftFront, .retroLeft, .flap] := parts.trans (by decide)
  refine ⟨fits, occurring, ?_, dances.trans (by decide), excess.trans (by decide), ?_⟩
  · rw [absent, occurring]
    decide
  · rw [Bool.eq_false_iff, ne_eq, within]
    intro enough
    exact absurd (enough .flap 3 rfl) (by decide)

end VehicleShow
