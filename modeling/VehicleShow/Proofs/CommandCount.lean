import Mathlib.Data.List.Sort
import VehicleShow.Proofs.Ownership
import VehicleShow.Usage

/-! # Counting commands

The cost of an event and its directives are told apart mode by mode in two places; `commandCost_eq`
says that they agree.  The ledger books the costs event by event under the part of each; read part by
part (`usage_tally`), it holds the costs of the part's own events added up.  So the budget that the
report books on a part is the number of directives on the part's channel, as long as 32 bits can hold
all costs together. -/
set_option autoImplicit false
namespace VehicleShow

theorem Event.commandCost_of_light {event : Event} {part : Part} (own : event.part? = some part)
    (light : part.isClosure = false) : event.commandCost = 0 := by
  rw [commandCost, payload?, own]
  cases part <;> first | rfl | exact absurd light (by decide)

theorem Event.commandCost_eq (event : Event) :
    event.commandCost.toNat = event.directives.length := by
  cases own : event.part? with
  | none =>
      rw [directives_of_unknown own, commandCost, payload?, own]
      rfl
  | some part =>
      by_cases closure : part.isClosure = true
      · obtain ⟨channel, alone⟩ := part.exists_channels_of_closure closure
        rw [directives, channels_of_part? own, alone, commandCost]
        cases event.payload? with
        | none => rfl
        | some payload =>
            cases payload with
            | light => rfl
            | mirror mode => cases mode <;> rfl
            | window mode => cases mode; rfl
            | trunk mode => cases mode <;> rfl
            | flap mode => cases mode <;> rfl
      · have light := Bool.eq_false_iff.mpr closure
        rw [directives_of_light own light, commandCost_of_light own light]
        rfl

theorem Event.commandCost_pos {event : Event} {part : Part} (own : event.part? = some part)
    (closure : part.isClosure = true) : 0 < event.commandCost := by
  obtain ⟨channel, alone⟩ := part.exists_channels_of_closure closure
  rw [UInt32.lt_iff_toNat_lt, event.commandCost_eq]
  rcases directives_of_closure own closure alone with ⟨-, -, both⟩ | ⟨command, -, one⟩
  · rw [both]
    exact Nat.succ_pos 1
  · rw [one]
    exact Nat.succ_pos 0

/-- Commands that some events cost together, not bounded by the width of a word. -/
def totalCost : List Event → Nat
  | [] => 0
  | event :: rest => event.commandCost.toNat + totalCost rest

theorem totalCost_eq (events : List Event) :
    totalCost events = (events.flatMap Event.directives).length := by
  induction events with
  | nil => rfl
  | cons event rest ih =>
      rw [totalCost, List.flatMap_cons, List.length_append, event.commandCost_eq, ih]

/-- The directives on a part's channel are as many as the commands that the part's events cost. -/
theorem length_directives_on_channel {part : Part} {channel : Channel}
    (driven : channel ∈ part.channels) (events : List Event) :
    ((events.flatMap Event.directives).filter fun directive =>
      directive.channel = channel).length = totalCost (eventsOn part events) := by
  rw [directives_on_channel driven, totalCost_eq]

theorem totalCost_eventsOn_le {part : Part} (closure : part.isClosure = true)
    (events : List Event) : totalCost (eventsOn part events) ≤ totalCost events := by
  obtain ⟨channel, alone⟩ := part.exists_channels_of_closure closure
  have driven := Part.mem_channels_of_alone alone
  rw [← length_directives_on_channel driven, totalCost_eq events]
  exact List.length_filter_le _ _

theorem eventsOn_of_absent {part : Part} {events : List Event}
    (absent : ¬ (events.any fun event => event.part? == some part) = true) :
    eventsOn part events = [] := by
  rw [eventsOn, List.filter_eq_nil_iff]
  exact List.any_eq_false.mp (Bool.eq_false_iff.mpr absent)

/-! ## The order of the catalog -/

namespace Part

instance : Std.TransOrd Part := inferInstanceAs (Std.TransCmp (compareOn fun part => all.idxOf part))

instance : Std.LawfulEqOrd Part where
  eq_of_compare same := (List.idxOf_inj (mem_all _)).mp (Std.compare_eq_iff_eq.mp same)

theorem all_ascending : all.Pairwise fun part other => compare part other = .lt := by decide

theorem exists_commandLimit (part : Part) (closure : part.isClosure = true) :
    ∃ limit, part.commandLimit? = some limit := by
  cases part <;> first | exact ⟨_, rfl⟩ | exact absurd closure (by decide)

theorem isClosure_of_commandLimit? {part : Part} {limit : UInt32}
    (limited : part.commandLimit? = some limit) : part.isClosure = true := by
  cases part <;> first | rfl | cases limited

end Part

/-! ## The ledger -/

theorem Event.longDance?_of_free {event : Event} (free : event.commandCost = 0) :
    event.longDance? = none := by
  rw [longDance?]
  split
  · next part mode own window =>
    rw [commandCost, window] at free
    cases free
  · rfl

namespace Ledger

theorem add_of_silent (ledger : Ledger) {event : Event}
    (silent : event.part? = none ∨ event.commandCost = 0) : ledger.add event = ledger := by
  rw [add]
  cases own : event.part? with
  | none => rfl
  | some part =>
      rw [own] at silent
      have free : event.commandCost = 0 := silent.resolve_left (Option.some_ne_none part)
      dsimp only
      rw [if_neg (free ▸ UInt32.lt_irrefl 0)]

theorem add_of_closure (ledger : Ledger) {event : Event} {part : Part}
    (own : event.part? = some part) (closure : part.isClosure = true) :
    ledger.add event =
      { used := ledger.used.insert part (ledger.used.getD part 0 + event.commandCost)
        longDances := ledger.longDances ++ event.longDance?.toList } := by
  rw [add, own]
  exact if_pos (event.commandCost_pos own closure)

/-- The events that are booked are those on closures. -/
theorem silent_or_closure (event : Event) :
    (event.part? = none ∨ event.commandCost = 0) ∨
      ∃ part, event.part? = some part ∧ part.isClosure = true := by
  cases own : event.part? with
  | none => exact Or.inl (Or.inl rfl)
  | some part =>
      by_cases closure : part.isClosure = true
      · exact Or.inr ⟨part, rfl, closure⟩
      · exact Or.inl (Or.inr (event.commandCost_of_light own (Bool.eq_false_iff.mpr closure)))

theorem used_add_of_own (ledger : Ledger) {event : Event} {part : Part}
    (own : event.part? = some part) (closure : part.isClosure = true) :
    (ledger.add event).used[part]? = some (ledger.used.getD part 0 + event.commandCost) := by
  rw [ledger.add_of_closure own closure, Std.TreeMap.getElem?_insert_self]

/-- An event takes its commands from the budget of its own part and leaves the other parts alone. -/
theorem used_add_of_other (ledger : Ledger) {event : Event} {part : Part}
    (other : event.part? = some part → part.isClosure = false) :
    (ledger.add event).used[part]? = ledger.used[part]? := by
  rcases silent_or_closure event with silent | ⟨onto, own, closure⟩
  · rw [ledger.add_of_silent silent]
  · have apart : onto ≠ part := by
      rintro rfl
      exact Bool.false_ne_true ((other own).symm.trans closure)
    rw [ledger.add_of_closure own closure, Std.TreeMap.getElem?_insert,
      if_neg (mt Std.compare_eq_iff_eq.mp apart)]

theorem longDances_add (ledger : Ledger) (event : Event) :
    (ledger.add event).longDances = ledger.longDances ++ event.longDance?.toList := by
  rcases silent_or_closure event with silent | ⟨part, own, closure⟩
  · have none : event.longDance? = none := by
      rcases silent with unknown | free
      · rw [Event.longDance?, unknown]
      · exact Event.longDance?_of_free free
    rw [ledger.add_of_silent silent, none, Option.toList_none, List.append_nil]
  · rw [ledger.add_of_closure own closure]

/-- Counting a list of events books on each closure what its own events take, on top of what was
booked before. -/
theorem used_foldl_add {part : Part} (closure : part.isClosure = true) (ledger : Ledger)
    (events : List Event) :
    (events.foldl add ledger).used[part]? =
      if events.any fun event => event.part? == some part then
        some ((eventsOn part events).foldl (fun used event => used + event.commandCost)
          (ledger.used.getD part 0))
      else ledger.used[part]? := by
  induction events generalizing ledger with
  | nil => rfl
  | cons event rest ih =>
      rw [List.foldl_cons, ih, Std.TreeMap.getD_eq_getD_getElem?, List.any_cons]
      by_cases own : event.part? = some part
      · rw [ledger.used_add_of_own own closure, Option.getD_some, eventsOn_cons_of_own own,
          List.foldl_cons, beq_iff_eq.mpr own, Bool.true_or, if_pos rfl]
        by_cases again : (rest.any fun event => event.part? == some part) = true
        · rw [if_pos again]
        · rw [if_neg again, eventsOn_of_absent again, List.foldl_nil]
      · rw [ledger.used_add_of_other fun onto => absurd onto own, eventsOn_cons_of_other own,
          beq_false_of_ne own, Bool.false_or, ← Std.TreeMap.getD_eq_getD_getElem?]

theorem longDances_foldl_add (ledger : Ledger) (events : List Event) :
    (events.foldl add ledger).longDances =
      ledger.longDances ++ events.filterMap Event.longDance? := by
  induction events generalizing ledger with
  | nil => exact (List.append_nil _).symm
  | cons event rest ih =>
      rw [List.foldl_cons, ih, longDances_add, List.append_assoc]
      cases dance : event.longDance? with
      | none => rw [List.filterMap_cons_none dance, Option.toList_none, List.nil_append]
      | some warning => rw [List.filterMap_cons_some dance, Option.toList_some, List.singleton_append]

end Ledger

/-! ## The report, part by part -/

def PartUsage.Before (entry other : PartUsage) : Prop := compare entry.part other.part = .lt

instance : Std.Irrefl PartUsage.Before where
  irrefl _ before := Std.OrientedCmp.not_lt_of_lt before before

instance : Std.Antisymm PartUsage.Before where
  antisymm _ _ before after := absurd before (Std.OrientedCmp.not_lt_of_lt after)

namespace BudgetReport

def usedBy (part : Part) (events : List Event) : UInt32 :=
  (events.filter fun event => event.part? == some part).foldl
    (fun used event => used + event.commandCost) 0

/-- The entry of a part, if it has a limit and occurs at all. -/
def usageOf? (events : List Event) (part : Part) : Option PartUsage :=
  match part.commandLimit? with
  | some limit =>
      if events.any fun event => event.part? == some part then
        some ⟨part, usedBy part events, limit⟩
      else none
  | none => none

def usedFor (report : BudgetReport) (part : Part) : Nat :=
  ((report.usageFor? part).map fun entry => entry.used.toNat).getD 0

theorem part_of_usageOf? {events : List Event} {part : Part} {entry : PartUsage}
    (found : usageOf? events part = some entry) : entry.part = part := by
  rw [usageOf?] at found
  split at found
  · split at found
    · rw [← Option.some.inj found]
    · cases found
  · cases found

/-- What has been booked on a part makes the part's entry. -/
theorem usageOf?_eq (events : List Event) (part : Part) :
    usageOf? events part = (events.foldl Ledger.add {}).used[part]?.bind fun used =>
      part.commandLimit?.map fun limit => ⟨part, used, limit⟩ := by
  rw [usageOf?]
  cases limited : part.commandLimit? with
  | none => simp
  | some limit =>
      rw [Ledger.used_foldl_add (Part.isClosure_of_commandLimit? limited)]
      dsimp only
      by_cases occurs : (events.any fun event => event.part? == some part) = true
      · rw [if_pos occurs, if_pos occurs]
        rfl
      · rw [if_neg occurs, if_neg occurs]
        rfl

theorem mem_usage_tally_iff (events : List Event) (entry : PartUsage) :
    entry ∈ (tally events).usage ↔ usageOf? events entry.part = some entry := by
  rw [tally, Ledger.report, List.mem_filterMap]
  constructor
  · rintro ⟨⟨part, used⟩, booked, made⟩
    obtain ⟨limit, limited, rfl⟩ := Option.map_eq_some_iff.mp made
    rw [usageOf?_eq, Std.TreeMap.mem_toList_iff_getElem?_eq_some.mp booked]
    exact made
  · intro found
    rw [usageOf?_eq, Option.bind_eq_some_iff] at found
    obtain ⟨used, booked, made⟩ := found
    exact ⟨⟨entry.part, used⟩, Std.TreeMap.mem_toList_iff_getElem?_eq_some.mpr booked, made⟩

theorem usage_tally_ascending (events : List Event) :
    (tally events).usage.Pairwise PartUsage.Before := by
  rw [tally, Ledger.report]
  refine Std.TreeMap.ordered_keys_toList.filterMap _ ?_
  rintro ⟨part, used⟩ ⟨other, otherUsed⟩ ascending entry made otherEntry otherMade
  obtain ⟨_, -, rfl⟩ := Option.map_eq_some_iff.mp made
  obtain ⟨_, -, rfl⟩ := Option.map_eq_some_iff.mp otherMade
  exact ascending

/-- The usage of a report, told for the parts of the catalog one after the other. -/
theorem usage_tally (events : List Event) :
    (tally events).usage = Part.all.filterMap (usageOf? events) := by
  have ascending : (Part.all.filterMap (usageOf? events)).Pairwise PartUsage.Before := by
    refine Part.all_ascending.filterMap _ ?_
    intro part other before entry own otherEntry otherOwn
    rwa [← part_of_usageOf? own, ← part_of_usageOf? otherOwn] at before
  refine (usage_tally_ascending events).eq_of_mem_iff ascending fun entry => ?_
  rw [mem_usage_tally_iff, List.mem_filterMap]
  constructor
  · intro found
    exact ⟨entry.part, entry.part.mem_all, found⟩
  · rintro ⟨part, -, found⟩
    rw [part_of_usageOf? found, found]

/-- The report has at most one entry for a part. -/
theorem usageFor?_tally (events : List Event) (part : Part) :
    (tally events).usageFor? part = usageOf? events part := by
  rw [usageFor?, usage_tally, List.find?_filterMap]
  cases found : Part.all.find? fun other =>
      (usageOf? events other).any fun entry => entry.part == part with
  | none =>
      have absent := List.find?_eq_none.mp found part part.mem_all
      cases own : usageOf? events part with
      | none => rfl
      | some entry =>
          rw [own, Option.any_some, part_of_usageOf? own] at absent
          exact absurd (beq_self_eq_true part) absent
  | some other =>
      have present := List.find?_some found
      obtain ⟨entry, own, named⟩ := (Option.any_eq_true _ _).mp present
      rw [part_of_usageOf? own, beq_iff_eq] at named
      rw [Option.bind_some, named]

theorem toNat_foldl_commandCost (events : List Event) (used : UInt32)
    (fits : used.toNat + totalCost events < UInt32.size) :
    (events.foldl (fun used event => used + event.commandCost) used).toNat =
      used.toNat + totalCost events := by
  induction events generalizing used with
  | nil => rfl
  | cons event rest ih =>
      rw [totalCost] at fits ⊢
      have sum : (used + event.commandCost).toNat = used.toNat + event.commandCost.toNat := by
        rw [UInt32.toNat_add]
        exact Nat.mod_eq_of_lt (Nat.lt_of_le_of_lt (by omega) fits)
      rw [List.foldl_cons, ih _ (by omega), sum, Nat.add_assoc]

theorem toNat_usedBy {part : Part} {events : List Event}
    (fits : totalCost (eventsOn part events) < UInt32.size) :
    (usedBy part events).toNat = totalCost (eventsOn part events) := by
  have zero : (0 : UInt32).toNat = 0 := rfl
  have sum := toNat_foldl_commandCost (eventsOn part events) 0 (by rwa [zero, Nat.zero_add])
  rw [zero, Nat.zero_add] at sum
  exact sum

theorem usedFor_tally {part : Part} (closure : part.isClosure = true) {events : List Event}
    (fits : totalCost events < UInt32.size) :
    (tally events).usedFor part = totalCost (eventsOn part events) := by
  obtain ⟨limit, limited⟩ := part.exists_commandLimit closure
  rw [usedFor, usageFor?_tally, usageOf?, limited]
  dsimp only
  by_cases occurs : (events.any fun event => event.part? == some part) = true
  · rw [if_pos occurs, Option.map_some, Option.getD_some]
    exact toNat_usedBy (Nat.lt_of_le_of_lt (totalCost_eventsOn_le closure events) fits)
  · rw [if_neg occurs, eventsOn_of_absent occurs]
    rfl

end BudgetReport
end VehicleShow
