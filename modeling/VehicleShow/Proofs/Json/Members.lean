import VehicleShow.Proofs.Json.Documents

/-! # Members of an object

What an object says under a key is the list of the values there (`valuesUnder`).  Collapsing leaves
the last of them, and a value in which no object repeats a key is left as it is. -/
set_option autoImplicit false
namespace VehicleShow.Json

def valuesUnder (key : String) (members : List (String × Json)) : List Json :=
  (members.filter fun member => member.1 == key).map Prod.snd

/-- No object inside the value has two members under one key. -/
inductive NoRepeats : Json → Prop
  | null : NoRepeats .null
  | bool (value : Bool) : NoRepeats (.bool value)
  | num (n : Numeral) : NoRepeats (.num n)
  | str (content : String) : NoRepeats (.str content)
  | arr {items : List Json} (each : ∀ item ∈ items, NoRepeats item) : NoRepeats (.arr items)
  | obj {members : List (String × Json)} (distinct : (members.map Prod.fst).Nodup)
      (each : ∀ member ∈ members, NoRepeats member.2) : NoRepeats (.obj members)

/-! ## Values under a key -/

section Under
variable {key : String}

@[simp] theorem valuesUnder_nil : valuesUnder key [] = [] := rfl

@[simp] theorem valuesUnder_cons (other : String) (value : Json) (members : List (String × Json)) :
    valuesUnder key ((other, value) :: members) =
      if other = key then value :: valuesUnder key members else valuesUnder key members := by
  by_cases same : other = key
  · simp [valuesUnder, same]
  · simp [valuesUnder, same]

@[simp] theorem valuesUnder_append (members others : List (String × Json)) :
    valuesUnder key (members ++ others) = valuesUnder key members ++ valuesUnder key others := by
  simp [valuesUnder]

theorem valuesUnder_filter {keep : String → Bool} (kept : keep key = true)
    (members : List (String × Json)) :
    valuesUnder key (members.filter fun member => keep member.1) = valuesUnder key members := by
  rw [valuesUnder, valuesUnder, List.filter_filter]
  congr 1
  apply List.filter_congr
  intro member _
  by_cases same : member.1 = key
  · simp [same, kept]
  · simp [same]

theorem valuesUnder_eq_nil_iff (members : List (String × Json)) :
    valuesUnder key members = [] ↔ (members.any fun member => member.1 == key) = false := by
  simp [valuesUnder]

theorem unique?_eq_ok_iff {members : List (String × Json)} {found : Option Json} :
    unique? key members = .ok found ↔ valuesUnder key members = found.toList := by
  rw [unique?, valuesUnder]
  cases members.filter fun member => member.1 == key with
  | nil => cases found <;> simp
  | cons member others =>
      cases others with
      | nil => cases found <;> simp
      | cons => cases found <;> simp

/-! ## Collapsing -/

theorem valuesUnder_lastOfEach (members : List (String × Json)) :
    valuesUnder key (lastOfEach members) = (valuesUnder key members).getLast?.toList := by
  induction members with
  | nil => rfl
  | cons member others ih =>
      obtain ⟨other, value⟩ := member
      rw [lastOfEach, valuesUnder_cons]
      -- A member is dropped just if a later one stands under its key.
      by_cases same : other = key
      · subst same
        rw [if_pos rfl]
        cases later : valuesUnder other others with
        | nil =>
            rw [(valuesUnder_eq_nil_iff others).mp later, if_neg Bool.false_ne_true,
              valuesUnder_cons, if_pos rfl, ih, later]
            rfl
        | cons next values =>
            have repeated : (others.any fun member => member.1 == other) = true := by
              rw [← Bool.not_eq_false, ← valuesUnder_eq_nil_iff, later]
              exact List.cons_ne_nil next values
            rw [if_pos repeated, ih, later, List.getLast?_cons_cons]
      · rw [if_neg same]
        split
        · exact ih
        · rw [valuesUnder_cons, if_neg same, ih]

theorem valuesUnder_collapseMembers (members : List (String × Json)) :
    valuesUnder key (collapseMembers members) = (valuesUnder key members).map collapse := by
  rw [collapseMembers_eq_map, valuesUnder, valuesUnder, List.filter_map, List.map_map, List.map_map]
  rfl

theorem valuesUnder_collapse (members : List (String × Json)) :
    valuesUnder key (lastOfEach (collapseMembers members)) =
      ((valuesUnder key members).getLast?.map collapse).toList := by
  rw [valuesUnder_lastOfEach, valuesUnder_collapseMembers, List.getLast?_map]

end Under

theorem lastOfEach_of_nodup {members : List (String × Json)}
    (distinct : (members.map Prod.fst).Nodup) : lastOfEach members = members := by
  induction members with
  | nil => rfl
  | cons member others ih =>
      obtain ⟨key, value⟩ := member
      rw [List.map_cons, List.nodup_cons] at distinct
      have once : (others.any fun other => other.1 == key) = false := by
        rw [List.any_eq_false]
        intro other member same
        exact distinct.1 (List.mem_map.mpr ⟨other, member, eq_of_beq same⟩)
      rw [lastOfEach, once, if_neg Bool.false_ne_true, ih distinct.2]

theorem NoRepeats.collapse_eq {json : Json} (single : json.NoRepeats) : json.collapse = json := by
  induction json using Json.induct with
  | arr items ih =>
      cases single with
      | arr each =>
          have same := List.map_congr_left fun item member => ih item member (each item member)
          rw [collapse, collapseItems_eq_map, same, List.map_id']
  | obj members ih =>
      cases single with
      | obj distinct each =>
          have same : collapseMembers members = members := by
            rw [collapseMembers_eq_map]
            refine Eq.trans (List.map_congr_left fun member isMember => ?_) (List.map_id members)
            rw [ih member isMember (each member isMember)]
            rfl
          rw [collapse, same, lastOfEach_of_nodup distinct]
  | _ => rfl

end VehicleShow.Json
