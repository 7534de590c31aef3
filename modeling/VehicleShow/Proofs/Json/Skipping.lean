import VehicleShow.Json.Reader

/-! # What is passed over

`Passable` is the grammar of values over their tokens, with numbers of any size, strings with or
without content and brackets to any depth.  Skipping keeps a stack of open brackets and knows no grammar;
`skip_append` says that it still stops right behind such a value, whatever follows. -/
set_option autoImplicit false
namespace VehicleShow.Json

/-- What a stretch of tokens is: a value, or what is left of an array from an item on, or of an
object from a key on, closing bracket included. -/
inductive Stretch where
  | value
  | items
  | members
  deriving DecidableEq, Repr

inductive Passable : Stretch → List Token → Prop
  | null : Passable .value [.null]
  | bool (value : Bool) : Passable .value [.bool value]
  | num (n : Numeral) : Passable .value [.num n]
  | str (content : Option String) : Passable .value [.str content]
  | noItems : Passable .value [.opening .square, .closing .square]
  | arr {tokens : List Token} (items : Passable .items tokens) :
      Passable .value (.opening .square :: tokens)
  | noMembers : Passable .value [.opening .curly, .closing .curly]
  | obj {tokens : List Token} (members : Passable .members tokens) :
      Passable .value (.opening .curly :: tokens)
  | lastItem {item : List Token} (last : Passable .value item) :
      Passable .items (item ++ [.closing .square])
  | item {item others : List Token} (first : Passable .value item)
      (later : Passable .items others) : Passable .items (item ++ .comma :: others)
  | lastMember (key : Option String) {value : List Token} (last : Passable .value value) :
      Passable .members (.str key :: .colon :: (value ++ [.closing .curly]))
  | member (key : Option String) {value others : List Token} (first : Passable .value value)
      (later : Passable .members others) :
      Passable .members (.str key :: .colon :: (value ++ .comma :: others))

/-- A stretch never starts by closing a bracket, which is how its start is told from an end. -/
theorem Passable.starts {stretch : Stretch} {tokens : List Token}
    (passable : Passable stretch tokens) :
    ∃ first rest, tokens = first :: rest ∧ ∀ bracket, first ≠ .closing bracket := by
  induction passable with
  | lastItem _ ih =>
      obtain ⟨first, rest, starts, opens⟩ := ih
      exact ⟨first, rest ++ [.closing .square], by rw [starts, List.cons_append], opens⟩
  | @item _ others _ _ ih _ =>
      obtain ⟨first, rest, starts, opens⟩ := ih
      exact ⟨first, rest ++ .comma :: others, by rw [starts, List.cons_append], opens⟩
  | _ => exact ⟨_, _, rfl, by simp⟩

/-! ## Skipping a stretch -/

def Stretch.start : Stretch → Skip
  | .value | .items => .value
  | .members => .key

/-- The brackets that are open where a stretch begins, the innermost first. -/
def Stretch.inside : Stretch → List Bracket → List Bracket
  | .value, enclosing => enclosing
  | .items, enclosing => .square :: enclosing
  | .members, enclosing => .curly :: enclosing

namespace Skip

/-- How skipping goes on behind a value: the outermost one is all there is to skip. -/
def leave (enclosing : List Bracket) : Reader Unit := fun tokens =>
  match enclosing with
  | [] => .ok ((), tokens)
  | _ :: _ => run .after enclosing tokens

section Steps
variable {enclosing : List Bracket} {token : Token}

/-- Behind its opening bracket, an array that is not empty goes on with a value and an object with a
key. -/
theorem run_first {stretch : Stretch} (inner : stretch ≠ .value)
    (opens : ∀ bracket, token ≠ .closing bracket) (tokens : List Token) :
    run .first (stretch.inside enclosing) (token :: tokens) =
      run stretch.start (stretch.inside enclosing) (token :: tokens) := by
  have same : step .first (stretch.inside enclosing) token =
      step stretch.start (stretch.inside enclosing) token := by
    cases stretch <;> cases token <;> simp_all [Stretch.inside, Stretch.start, step]
  rw [run, run, same]

theorem run_opening {stretch : Stretch} {tokens : List Token} (passable : Passable stretch tokens)
    (inner : stretch ≠ .value) (rest : List Token) :
    run .first (stretch.inside enclosing) (tokens ++ rest) =
      run stretch.start (stretch.inside enclosing) (tokens ++ rest) := by
  obtain ⟨first, others, starts, opens⟩ := passable.starts
  rw [starts]
  exact run_first inner opens (others ++ rest)

theorem leave_closing (bracket : Bracket) (tokens : List Token) :
    leave (bracket :: enclosing) (.closing bracket :: tokens) = leave enclosing tokens := by
  cases bracket <;> cases enclosing <;> rfl

theorem leave_comma_items (tokens : List Token) :
    leave (.square :: enclosing) (.comma :: tokens) =
      run Stretch.items.start (Stretch.items.inside enclosing) tokens := rfl

theorem leave_comma_members (tokens : List Token) :
    leave (.curly :: enclosing) (.comma :: tokens) =
      run Stretch.members.start (Stretch.members.inside enclosing) tokens := rfl

theorem run_key (key : Option String) (tokens : List Token) :
    run .key enclosing (.str key :: .colon :: tokens) = run .value enclosing tokens := rfl

end Steps

/-- Skipping walks a whole stretch and leaves the bracket that closes with it. -/
theorem run_append {stretch : Stretch} {tokens : List Token} (passable : Passable stretch tokens)
    (enclosing : List Bracket) (rest : List Token) :
    run stretch.start (stretch.inside enclosing) (tokens ++ rest) = leave enclosing rest := by
  -- The brackets around a value stay open while what is inside of it is walked.
  induction passable generalizing enclosing rest with
  | null | bool | num | str | noItems | noMembers => cases enclosing <;> rfl
  | arr items ih => exact (run_opening items (by simp) rest).trans (ih enclosing rest)
  | obj members ih => exact (run_opening members (by simp) rest).trans (ih enclosing rest)
  | @lastItem item _ ih =>
      calc run .value (.square :: enclosing) (item ++ [.closing .square] ++ rest)
        _ = leave (.square :: enclosing) (.closing .square :: rest) := by
            rw [List.append_assoc]
            exact ih (.square :: enclosing) _
        _ = leave enclosing rest := leave_closing .square rest
  | @item item others _ _ first later =>
      calc run .value (.square :: enclosing) (item ++ .comma :: others ++ rest)
        _ = leave (.square :: enclosing) (.comma :: (others ++ rest)) := by
            rw [List.append_assoc]
            exact first (.square :: enclosing) _
        _ = leave enclosing rest := by rw [leave_comma_items, later]
  | @lastMember key value _ ih =>
      calc run .key (.curly :: enclosing) (.str key :: .colon :: (value ++ [.closing .curly]) ++ rest)
        _ = leave (.curly :: enclosing) (.closing .curly :: rest) := by
            rw [List.cons_append, List.cons_append, List.append_assoc, run_key]
            exact ih (.curly :: enclosing) _
        _ = leave enclosing rest := leave_closing .curly rest
  | @member key value others _ _ first later =>
      calc run .key (.curly :: enclosing) (.str key :: .colon :: (value ++ .comma :: others) ++ rest)
        _ = leave (.curly :: enclosing) (.comma :: (others ++ rest)) := by
            rw [List.cons_append, List.cons_append, List.append_assoc, run_key]
            exact first (.curly :: enclosing) _
        _ = leave enclosing rest := by rw [leave_comma_members, later]

end Skip

theorem skip_append {value : List Token} (passable : Passable .value value) (rest : List Token) :
    Reader.skip (value ++ rest) = .ok ((), rest) :=
  Skip.run_append passable [] rest

end VehicleShow.Json
