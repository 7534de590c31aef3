import VehicleShow.Proofs.MatrixView

/-! # Columns played back from their changes

The transitions of a channel are all there is to know of it.  `playsBack_iff` says when a list of
changes plays a column back; the transitions do (`playsBack_transitions`), and no shorter list does,
because a list that does has a change in every frame in which the column changes. -/
set_option autoImplicit false
namespace VehicleShow

namespace Transition

/-- Value on show once so many frames have been played, from an implied zero: a change is taken up
in its frame, and in every other frame the value is held. -/
def played (changes : List Transition) : Nat → UInt8
  | 0 => 0
  | frame + 1 =>
      match changes.find? fun change => change.frame == frame with
      | some change => change.after
      | none => played changes frame

def replay (changes : List Transition) (count : Nat) : List UInt8 :=
  (List.range count).map fun frame => played changes (frame + 1)

/-- Every change starts from the value that the one before it left. -/
def Linked (previous : UInt8) : List Transition → Prop
  | [] => True
  | change :: rest => change.before = previous ∧ Linked change.after rest

theorem linked_along (previous : UInt8) (frame : Nat) (bytes : List UInt8) :
    Linked previous (along previous frame bytes) := by
  induction bytes generalizing previous frame with
  | nil => exact trivial
  | cons byte rest ih =>
      rw [along]
      by_cases same : byte = previous
      · rw [if_pos same]
        exact ih previous (frame + 1)
      · rw [if_neg same]
        exact ⟨rfl, ih byte (frame + 1)⟩

theorem played_succ_of_absent {changes : List Transition} {frame : Nat}
    (absent : frame ∉ changes.map Transition.frame) :
    played changes (frame + 1) = played changes frame := by
  have none : changes.find? (fun change => change.frame == frame) = none := by
    rw [List.find?_eq_none]
    intro change member here
    exact absent (List.mem_map.mpr ⟨change, member, beq_iff_eq.mp here⟩)
  rw [played, none]

theorem played_nil (frame : Nat) : played [] frame = 0 := by
  induction frame with
  | zero => rfl
  | succ frame ih => exact ih

end Transition

namespace FrameMatrix
open Transition
variable (m : FrameMatrix) (channel : Channel)

/-! ## Columns and rows -/

theorem getElem?_column {frame : Nat} (inside : frame < m.frameCount) :
    (m.column channel)[frame]? = m.get? frame channel := by
  rw [m.get?_eq_some_value inside, column, List.getElem?_map, List.getElem?_range inside,
    Option.map_some]

theorem getElem?_flatten_of_width {width : Nat} {rows : List (List UInt8)}
    (wide : ∀ row ∈ rows, row.length = width) (frame : Nat) {offset : Nat}
    (inside : offset < width) :
    rows.flatten[frame * width + offset]? = rows[frame]?.bind fun row => row[offset]? := by
  induction rows generalizing frame with
  | nil => rfl
  | cons row rest ih =>
      have length : row.length = width := wide row List.mem_cons_self
      rw [List.flatten_cons]
      cases frame with
      | zero =>
          rw [Nat.zero_mul, Nat.zero_add, List.getElem?_append_left (length ▸ inside)]
          rfl
      | succ frame =>
          have later : row.length ≤ (frame + 1) * width + offset := by
            rw [length, Nat.succ_mul]
            omega
          have back : (frame + 1) * width + offset - row.length = frame * width + offset := by
            rw [length, Nat.succ_mul]
            omega
          rw [List.getElem?_append_right later, back,
            ih (fun other member => wide other (List.mem_cons_of_mem _ member)) frame]
          rfl

theorem length_rows {rows : List (List UInt8)} (wide : ∀ row ∈ rows, row.length = channelCount)
    (cut : rows.flatten = m.data.toList) : rows.length = m.frameCount := by
  have total : rows.flatten.length = rows.length * channelCount := by
    rw [List.length_flatten, List.map_congr_left wide, List.map_const', List.sum_replicate_nat]
  rw [cut, Array.length_toList, m.size_data] at total
  exact (Nat.mul_right_cancel (by decide) total).symm

/-- Cut into rows of one byte for each channel, the data hold the column one byte a row. -/
theorem column_eq_of_rows {rows : List (List UInt8)}
    (wide : ∀ row ∈ rows, row.length = channelCount) (cut : rows.flatten = m.data.toList) :
    m.column channel = rows.map fun row => row.getD channel 0 := by
  have counted := m.length_rows wide cut
  apply List.ext_getElem?
  intro frame
  by_cases inside : frame < m.frameCount
  · have found := getElem?_flatten_of_width wide frame channel.isLt
    obtain ⟨row, here⟩ : ∃ row, rows[frame]? = some row :=
      ⟨_, List.getElem?_eq_getElem (counted ▸ inside)⟩
    have long : channel.val < row.length := by
      rw [wide row (List.mem_of_getElem? here)]
      exact channel.isLt
    rw [cut, Array.getElem?_toList, here, Option.bind_some] at found
    rw [m.getElem?_column channel inside, get?, place, found, List.getElem?_map, here,
      Option.map_some, List.getD_eq_getElem?_getD, List.getElem?_eq_getElem long, Option.getD_some]
  · rw [List.getElem?_eq_none, List.getElem?_eq_none]
    · rw [List.length_map, counted]
      exact Nat.not_lt.mp inside
    · rw [column, List.length_map, List.length_range]
      exact Nat.not_lt.mp inside

/-! ## Playing back -/

theorem playsBack_iff (changes : List Transition) :
    replay changes m.frameCount = m.column channel ↔
      ∀ frame ≤ m.frameCount, played changes frame = m.valueBefore channel frame := by
  rw [replay, column, List.map_inj_left]
  constructor
  · intro same frame within
    cases frame with
    | zero => rfl
    | succ frame => exact same frame (List.mem_range.mpr within)
  · intro same frame member
    exact same (frame + 1) (List.mem_range.mp member)

theorem find?_transitions {frame : Nat} (inside : frame < m.frameCount) :
    (m.transitions channel).find? (fun change => change.frame == frame) =
      if m.changesAt channel frame then some (m.changeAt channel frame) else none := by
  rw [transitions_eq, List.find?_map, List.find?_filter]
  by_cases changes : m.changesAt channel frame = true
  · rw [if_pos changes, Option.map_eq_some_iff]
    refine ⟨frame, List.find?_range_eq_some.mpr ⟨?_, List.mem_range.mpr inside, ?_⟩, rfl⟩
    · simp [changes, changeAt]
    · intro other before
      simp [changeAt, Nat.ne_of_lt before]
  · rw [if_neg changes, Option.map_eq_none_iff, List.find?_eq_none]
    intro other _ both
    obtain ⟨alsoChanges, here⟩ := of_decide_eq_true both
    have same : other = frame := beq_iff_eq.mp here
    exact changes (same ▸ alsoChanges)

theorem played_transitions {frame : Nat} (within : frame ≤ m.frameCount) :
    played (m.transitions channel) frame = m.valueBefore channel frame := by
  induction frame with
  | zero => rfl
  | succ frame ih =>
      rw [played, m.find?_transitions channel within]
      by_cases changes : m.changesAt channel frame = true
      · rw [if_pos changes]
        rfl
      · have steady : m.value frame channel = m.valueBefore channel frame := by
          simpa [changesAt] using changes
        rw [if_neg changes]
        exact (ih (Nat.le_of_succ_le within)).trans steady.symm

theorem playsBack_transitions :
    replay (m.transitions channel) m.frameCount = m.column channel :=
  (m.playsBack_iff channel _).mpr fun _ within => m.played_transitions channel within

/-- A frame in which the column changes has a change in every list that plays the column back. -/
theorem mem_frames_of_playsBack {changes : List Transition}
    (same : replay changes m.frameCount = m.column channel) {frame : Nat}
    (inside : frame < m.frameCount) (change : m.changesAt channel frame = true) :
    frame ∈ changes.map Transition.frame := by
  have values := (m.playsBack_iff channel changes).mp same
  by_contra absent
  have held := played_succ_of_absent absent
  rw [values (frame + 1) inside, values frame (Nat.le_of_lt inside)] at held
  exact bne_iff_ne.mp change held

theorem length_transitions_le_of_playsBack {changes : List Transition}
    (same : replay changes m.frameCount = m.column channel) :
    (m.transitions channel).length ≤ changes.length := by
  have counted := length_filter_range_le fun _ => m.mem_frames_of_playsBack channel same
  rw [List.length_map] at counted
  rw [transitions_eq, List.length_map]
  exact counted

/-! ## What the transitions tell -/

theorem transitions_eq_nil_iff :
    m.transitions channel = [] ↔ ∀ frame < m.frameCount, m.value frame channel = 0 := by
  constructor
  · intro steady frame inside
    have last : played (m.transitions channel) (frame + 1) = m.value frame channel :=
      m.played_transitions channel inside
    rw [steady, played_nil] at last
    exact last.symm
  · intro dark
    have same : replay [] m.frameCount = m.column channel := by
      rw [playsBack_iff]
      intro frame within
      rw [played_nil]
      cases frame with
      | zero => rfl
      | succ frame => exact (dark frame within).symm
    exact List.eq_nil_of_length_eq_zero
      (Nat.le_zero.mp (m.length_transitions_le_of_playsBack channel same))

variable {m channel} in
theorem value_eq_of_transitions {n : FrameMatrix} (sameCount : n.frameCount = m.frameCount)
    (sameChanges : m.transitions channel = n.transitions channel) {frame : Nat}
    (inside : frame < m.frameCount) : m.value frame channel = n.value frame channel := by
  have left : played (m.transitions channel) (frame + 1) = m.value frame channel :=
    m.played_transitions channel inside
  have right : played (n.transitions channel) (frame + 1) = n.value frame channel :=
    n.played_transitions channel (sameCount ▸ inside)
  rw [sameChanges] at left
  exact left.symm.trans right

theorem eq_iff_transitions {n : FrameMatrix} (sameCount : n.frameCount = m.frameCount) :
    m = n ↔ ∀ other, m.transitions other = n.transitions other := by
  constructor
  · rintro rfl _
    rfl
  · intro sameChanges
    exact ext_value sameCount.symm fun _ inside other =>
      value_eq_of_transitions sameCount (sameChanges other) inside

/-- The transitions of a channel are in the order of the show, each is a change and starts from the
value that the one before it left; played back from zero they give the column, as `get?` and the rows
of the data have it, and no shorter list of changes does.  So a matrix of known length is told by its
transitions, and a channel without any is dark. -/
theorem transitions_encode_column :
    ((m.transitions channel).map Transition.frame).Pairwise (· < ·) ∧
      (∀ change ∈ m.transitions channel,
        change.frame < m.frameCount ∧ change.before ≠ change.after) ∧
      Linked 0 (m.transitions channel) ∧
      replay (m.transitions channel) m.frameCount = m.column channel ∧
      (∀ frame < m.frameCount, (m.column channel)[frame]? = m.get? frame channel) ∧
      (∀ rows : List (List UInt8), (∀ row ∈ rows, row.length = channelCount) →
        rows.flatten = m.data.toList → m.column channel = rows.map fun row => row.getD channel 0) ∧
      (∀ changes, replay changes m.frameCount = m.column channel →
        (m.transitions channel).length ≤ changes.length) ∧
      (∀ n : FrameMatrix, n.frameCount = m.frameCount →
        (m = n ↔ ∀ other, m.transitions other = n.transitions other)) ∧
      (m.transitions channel = [] ↔
        ∀ frame < m.frameCount, m.get? frame channel = some 0) := by
  refine ⟨?_, ?_, linked_along 0 0 _, m.playsBack_transitions channel,
    fun _ => m.getElem?_column channel, fun _ => m.column_eq_of_rows channel,
    fun _ => m.length_transitions_le_of_playsBack channel, fun _ => m.eq_iff_transitions, ?_⟩
  · rw [transitions_eq, List.map_map]
    exact (List.pairwise_lt_range.filter _).map _ fun _ _ => id
  · intro change member
    rw [transitions_eq] at member
    obtain ⟨frame, chosen, rfl⟩ := List.mem_map.mp member
    obtain ⟨inside, changes⟩ := List.mem_filter.mp chosen
    exact ⟨List.mem_range.mp inside, (bne_iff_ne.mp changes).symm⟩
  · rw [transitions_eq_nil_iff]
    apply forall₂_congr
    intro frame inside
    rw [m.get?_eq_some_value inside, Option.some.injEq]

end FrameMatrix
end VehicleShow
