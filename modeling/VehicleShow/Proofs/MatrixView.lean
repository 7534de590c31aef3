import Mathlib.Data.List.Perm.Subperm
import VehicleShow.FrameMatrix

/-! # Writes through the view of a matrix

A matrix is its frame count and its values, and every write is told by what it does to the values.
`EachFrame` says of a loop's body that it changes its own frame only; `EachFrame.value_loop` carries
that over a run of frames, for the commands that fill a span and for the samples of a light.  What
is seen on one channel from frame to frame is told by `transitions_eq`: there is a transition for each
frame whose byte is not the one before, and a zero stands before the first frame. -/
set_option autoImplicit false
namespace VehicleShow

theorem toNat_max (a b : UInt8) : (max a b).toNat = max a.toNat b.toNat := by
  by_cases ordered : a ≤ b
  · have : max a b = b := if_pos ordered
    rw [this, Nat.max_eq_right (UInt8.le_iff_toNat_le.mp ordered)]
  · have : max a b = a := if_neg ordered
    have above : b.toNat < a.toNat := by
      have := mt UInt8.le_iff_toNat_le.mpr ordered
      omega
    rw [this, Nat.max_eq_left (Nat.le_of_lt above)]

theorem max_assoc_byte (a b c : UInt8) : max (max a b) c = max a (max b c) := by
  apply UInt8.toNat_inj.mp
  simp only [toNat_max]
  omega

theorem max_comm_byte (a b : UInt8) : max a b = max b a := by
  apply UInt8.toNat_inj.mp
  simp only [toNat_max]
  omega

@[simp] theorem max_self_byte (a : UInt8) : max a a = a := by
  apply UInt8.toNat_inj.mp
  simp only [toNat_max]
  omega

@[simp] theorem max_zero_byte (a : UInt8) : max a 0 = a := by
  apply UInt8.toNat_inj.mp
  simp [toNat_max]

@[simp] theorem zero_max_byte (a : UInt8) : max 0 a = a := by
  rw [max_comm_byte, max_zero_byte]

namespace FrameMatrix

/-! ## The view -/

theorem get?_eq_some_value (m : FrameMatrix) {frame : Nat} (inside : frame < m.frameCount)
    (channel : Channel) : m.get? frame channel = some (m.value frame channel) := by
  have within := (place_lt_size m frame channel).mpr inside
  simp [value, get?, within]

theorem ext_data {m n : FrameMatrix} (sameCount : m.frameCount = n.frameCount)
    (sameData : m.data = n.data) : m = n := by
  cases m
  cases n
  cases sameCount
  cases sameData
  rfl

/-- Two matrices are the same when they have the same frames. -/
theorem ext_value {m n : FrameMatrix} (sameCount : m.frameCount = n.frameCount)
    (sameValues : ∀ frame < m.frameCount, ∀ channel : Channel,
      m.value frame channel = n.value frame channel) : m = n := by
  apply ext_data sameCount
  apply Array.ext_getElem?
  intro index
  by_cases within : index < m.data.size
  · have inside : index / channelCount < m.frameCount :=
      (Nat.div_lt_iff_lt_mul (by decide)).mpr (m.size_data ▸ within)
    let channel : Channel := ⟨index % channelCount, Nat.mod_lt _ (by decide)⟩
    have atPlace : place (index / channelCount) channel = index :=
      Nat.div_add_mod' index channelCount
    have same := sameValues _ inside channel
    have left := get?_eq_some_value m inside channel
    have right := get?_eq_some_value n (sameCount ▸ inside) channel
    rw [get?, atPlace] at left right
    rw [left, right, same]
  · have sameSize : n.data.size = m.data.size := by
      rw [m.size_data, n.size_data, sameCount]
    rw [Array.getElem?_eq_none (Nat.not_lt.mp within),
      Array.getElem?_eq_none (sameSize ▸ Nat.not_lt.mp within)]

/-! ## Single writes -/

theorem value_raise (m : FrameMatrix) (f g : Nat) (c d : Channel) (byte : UInt8) :
    (m.raise f c byte).value g d =
      if f = g ∧ c = d ∧ f < m.frameCount then max (m.value g d) byte else m.value g d := by
  rw [raise, value_update]
  congr 1
  apply UInt8.toNat_inj.mp
  rw [toNat_max]
  split
  · next below => have := UInt8.lt_iff_toNat_lt.mp below; omega
  · next above => have := mt UInt8.lt_iff_toNat_lt.mpr above; omega

theorem value_put (m : FrameMatrix) (f g : Nat) (c d : Channel) (byte : UInt8) :
    (m.put f c byte).value g d =
      if f = g ∧ c = d ∧ f < m.frameCount then byte else m.value g d :=
  value_update m f g c d fun _ => byte

theorem frameCount_foldl {α : Type} {step : FrameMatrix → α → FrameMatrix}
    (keeps : ∀ m x, (step m x).frameCount = m.frameCount) (m : FrameMatrix) (xs : List α) :
    (xs.foldl step m).frameCount = m.frameCount := by
  induction xs generalizing m with
  | nil => rfl
  | cons x rest ih => rw [List.foldl_cons, ih, keeps]

@[simp] theorem frameCount_raiseAll (m : FrameMatrix) (frame : Nat) (channels : List Channel)
    (byte : UInt8) : (m.raiseAll frame channels byte).frameCount = m.frameCount :=
  frameCount_foldl (fun m channel => frameCount_update m frame channel _) m channels

theorem value_raiseAll (m : FrameMatrix) (f g : Nat) (channels : List Channel) (d : Channel)
    (byte : UInt8) :
    (m.raiseAll f channels byte).value g d =
      if f = g ∧ channels.contains d = true ∧ f < m.frameCount then max (m.value g d) byte
      else m.value g d := by
  induction channels generalizing m with
  | nil => simp [raiseAll]
  | cons channel rest ih =>
      have step : m.raiseAll f (channel :: rest) byte =
          (m.raise f channel byte).raiseAll f rest byte := rfl
      rw [step, ih, value_raise, raise, frameCount_update]
      by_cases here : f = g ∧ f < m.frameCount
      · obtain ⟨rfl, inside⟩ := here
        by_cases first : channel = d
        · -- Raising twice to the same byte is raising once.
          subst channel
          simp [inside, max_assoc_byte]
        · simp [inside, first, Ne.symm first]
      · grind

/-! ## Loops over frames -/

/-- A loop body that keeps to its own frame, where it turns every value into another. -/
structure EachFrame (body : FrameMatrix → Nat → FrameMatrix)
    (change : Nat → Channel → UInt8 → UInt8) : Prop where
  frameCount_body : ∀ m f, (body m f).frameCount = m.frameCount
  value_body : ∀ m f g d, (body m f).value g d =
    if f = g ∧ f < m.frameCount then change f d (m.value g d) else m.value g d

namespace EachFrame
variable {body : FrameMatrix → Nat → FrameMatrix} {change : Nat → Channel → UInt8 → UInt8}

/-- A loop over a run of frames changes each of them once. -/
theorem value_loop (own : EachFrame body change) (m : FrameMatrix) (first count g : Nat)
    (d : Channel) :
    ((List.range' first count).foldl body m).value g d =
      if first ≤ g ∧ g < first + count ∧ g < m.frameCount then change g d (m.value g d)
      else m.value g d := by
  induction count generalizing m first with
  | zero =>
      have none : ¬ (first ≤ g ∧ g < first + 0 ∧ g < m.frameCount) := by omega
      rw [if_neg none]
      rfl
  | succ count ih =>
      rw [List.range'_succ, List.foldl_cons, ih, own.value_body, own.frameCount_body]
      by_cases here : first = g
      · subst here
        have passed : ¬ (first + 1 ≤ first ∧ first < first + 1 + count ∧ first < m.frameCount) := by
          omega
        have reached : (first ≤ first ∧ first < first + (count + 1) ∧ first < m.frameCount) ↔
            first < m.frameCount := by omega
        simp only [if_neg passed, reached, true_and]
      · have elsewhere : ¬ (first = g ∧ first < m.frameCount) := fun both => here both.1
        have later : (first + 1 ≤ g ∧ g < first + 1 + count ∧ g < m.frameCount) ↔
            (first ≤ g ∧ g < first + (count + 1) ∧ g < m.frameCount) := by omega
        simp only [if_neg elsewhere, later]

end EachFrame

theorem eachFrame_put (channel : Channel) (byte : UInt8) :
    EachFrame (fun m frame => m.put frame channel byte)
      (fun _ d old => if channel = d then byte else old) where
  frameCount_body _ _ := rfl
  value_body m f g d := by
    rw [value_put]
    by_cases same : channel = d <;> simp [same]

@[simp] theorem frameCount_fill (m : FrameMatrix) (channel : Channel) (first last : Nat)
    (byte : UInt8) : (m.fill channel first last byte).frameCount = m.frameCount :=
  frameCount_foldl (eachFrame_put channel byte).frameCount_body m _

theorem value_fill (m : FrameMatrix) (channel : Channel) (first last : Nat) (byte : UInt8)
    (g : Nat) (d : Channel) :
    (m.fill channel first last byte).value g d =
      if channel = d ∧ first ≤ g ∧ g < last ∧ g < m.frameCount then byte else m.value g d := by
  rw [fill, (eachFrame_put channel byte).value_loop]
  have span : g < first + (last - first) ↔ g < first ∨ g < last := by omega
  by_cases same : channel = d
  · grind
  · simp [same]

end FrameMatrix

/-! ## Changes on a channel -/

theorem length_filter_range_le {frameCount : Nat} {chosen : Nat → Bool} {bounds : List Nat}
    (found : ∀ frame < frameCount, chosen frame = true → frame ∈ bounds) :
    ((List.range frameCount).filter chosen).length ≤ bounds.length := by
  have distinct : ((List.range frameCount).filter chosen).Nodup := List.nodup_range.filter _
  apply (distinct.subperm ?_).length_le
  intro frame member
  obtain ⟨within, picked⟩ := List.mem_filter.mp member
  exact found frame (List.mem_range.mp within) picked

namespace FrameMatrix

def valueBefore (matrix : FrameMatrix) (channel : Channel) : Nat → UInt8
  | 0 => 0
  | frame + 1 => matrix.value frame channel

def changesAt (matrix : FrameMatrix) (channel : Channel) (frame : Nat) : Bool :=
  matrix.value frame channel != matrix.valueBefore channel frame

def changeAt (matrix : FrameMatrix) (channel : Channel) (frame : Nat) : Transition where
  frame := frame
  timeMs := frameTimeMs frame
  before := matrix.valueBefore channel frame
  after := matrix.value frame channel

theorem along_range' (m : FrameMatrix) (channel : Channel) (first count : Nat) :
    Transition.along (m.valueBefore channel first) first
        ((List.range' first count).map fun frame => m.value frame channel) =
      ((List.range' first count).filter (m.changesAt channel)).map (m.changeAt channel) := by
  induction count generalizing first with
  | zero => rfl
  | succ count ih =>
      have next : m.value first channel = m.valueBefore channel (first + 1) := rfl
      rw [List.range'_succ, List.map_cons, Transition.along]
      by_cases same : m.value first channel = m.valueBefore channel first
      · have steady : ¬ m.changesAt channel first = true := by simp [changesAt, same]
        rw [if_pos same, List.filter_cons_of_neg steady, ← same, next, ih]
      · have changed : m.changesAt channel first = true := by simp [changesAt, same]
        rw [if_neg same, List.filter_cons_of_pos changed, List.map_cons, ← ih, ← next]
        rfl

theorem transitions_eq (m : FrameMatrix) (channel : Channel) :
    m.transitions channel =
      ((List.range m.frameCount).filter (m.changesAt channel)).map (m.changeAt channel) := by
  rw [transitions, column, List.range_eq_range']
  exact along_range' m channel 0 m.frameCount

theorem mem_transitions_iff (m : FrameMatrix) (channel : Channel) (change : Transition) :
    change ∈ m.transitions channel ↔
      ∃ frame < m.frameCount, m.changesAt channel frame = true ∧
        m.changeAt channel frame = change := by
  simp only [transitions_eq, List.mem_map, List.mem_filter, List.mem_range, and_assoc]

end FrameMatrix
end VehicleShow
