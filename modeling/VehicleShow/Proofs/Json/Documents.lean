import VehicleShow.Proofs.Json.Lexing

/-! # The tokens of a value

A text is a document of a value just if it lexes to the value's tokens (`document_iff_lex`), and of
no other value (`Document.unique`).  The first of these tokens opens the value and closes nothing,
which is how a reader tells an item from the end of a list. -/
set_option autoImplicit false
namespace VehicleShow

namespace Json

/-! ## Induction over values -/

theorem induct {motive : Json → Prop} (null : motive .null) (bool : ∀ value, motive (.bool value))
    (num : ∀ n, motive (.num n)) (str : ∀ content, motive (.str content))
    (arr : ∀ items, (∀ item ∈ items, motive item) → motive (.arr items))
    (obj : ∀ members, (∀ member ∈ members, motive member.2) → motive (.obj members)) :
    ∀ json, motive json
  | .null => null
  | .bool value => bool value
  | .num n => num n
  | .str content => str content
  | .arr items => arr items fun item _ => induct null bool num str arr obj item
  | .obj members => obj members fun member _ => induct null bool num str arr obj member.2
termination_by json => sizeOf json
decreasing_by
  · have smaller := List.sizeOf_lt_of_mem ‹item ∈ items›
    rw [Json.arr.sizeOf_spec]
    omega
  · have smaller := List.sizeOf_lt_of_mem ‹member ∈ members›
    obtain ⟨key, value⟩ := member
    rw [Prod.mk.sizeOf_spec] at smaller
    rw [Json.obj.sizeOf_spec]
    dsimp only
    omega

/-! ## Bounds -/

section Bounds
variable {allowed : Numeral → Prop} {depth : Nat}

theorem within_num {n : Numeral} : (num n).Within allowed depth ↔ allowed n := by
  cases depth <;> exact Iff.rfl

theorem within_str (content : String) : (str content).Within allowed depth := by
  cases depth <;> exact trivial

theorem within_obj {members : List (String × Json)} :
    (obj members).Within allowed (depth + 1) ↔
      ∀ member ∈ members, member.2.Within allowed depth := Iff.rfl

theorem Within.mono {wider : Numeral → Prop} (imp : ∀ n, allowed n → wider n) {deeper : Nat}
    (le : depth ≤ deeper) {json : Json} (within : json.Within allowed depth) :
    json.Within wider deeper := by
  induction json using Json.induct generalizing depth deeper with
  | null => cases deeper <;> exact trivial
  | bool => cases deeper <;> exact trivial
  | str => cases deeper <;> exact trivial
  | num n => exact within_num.mpr (imp n (within_num.mp within))
  | arr items ih =>
      cases depth with
      | zero => exact within.elim
      | succ depth =>
          obtain ⟨deeper, rfl⟩ := Nat.exists_eq_add_of_lt le
          exact fun item member => ih item member (Nat.le_of_succ_le_succ le) (within item member)
  | obj members ih =>
      cases depth with
      | zero => exact within.elim
      | succ depth =>
          obtain ⟨deeper, rfl⟩ := Nat.exists_eq_add_of_lt le
          exact fun member isMember =>
            ih member isMember (Nat.le_of_succ_le_succ le) (within member isMember)

/-- A bound on nesting alone carries over to a bound on both. -/
theorem Within.of_nests {deeper : Nat} {json : Json} (within : json.Within allowed deeper)
    (nests : json.Nests depth) : json.Within allowed depth := by
  induction json using Json.induct generalizing depth deeper with
  | null => cases depth <;> exact trivial
  | bool => cases depth <;> exact trivial
  | str content => exact within_str content
  | num n => exact within_num.mpr (within_num.mp within)
  | arr items ih =>
      cases depth with
      | zero => exact nests.elim
      | succ depth =>
          cases deeper with
          | zero => exact within.elim
          | succ deeper =>
              exact fun item member => ih item member (within item member) (nests item member)
  | obj members ih =>
      cases depth with
      | zero => exact nests.elim
      | succ depth =>
          cases deeper with
          | zero => exact within.elim
          | succ deeper =>
              exact fun member isMember =>
                ih member isMember (within member isMember) (nests member isMember)

end Bounds

/-! ## Tokens of values, items and members -/

theorem lexable_cons {token : Token} {rest : List Token} (sound : token.Sound)
    (other : ∀ n, token ≠ .num n) (lexable : Lexable rest) : Lexable (token :: rest) :=
  ⟨sound, fun ⟨n, same⟩ => absurd same (other n), lexable⟩

theorem tokens_start (json : Json) : ∃ first rest, json.tokens = first :: rest ∧
    ∀ bracket, first ≠ .closing bracket := by
  cases json <;> exact ⟨_, _, rfl, by simp⟩

theorem itemTokens_cons (item next : Json) (others : List Json) :
    itemTokens (item :: next :: others) =
      item.tokens ++ .comma :: itemTokens (next :: others) := by
  rw [itemTokens]
  simp

theorem itemTokens_starts (item : Json) (others : List Json) :
    ∃ first rest, itemTokens (item :: others) = first :: rest ∧
      ∀ bracket, first ≠ .closing bracket := by
  obtain ⟨first, rest, some, opens⟩ := item.tokens_start
  cases others with
  | nil =>
      rw [itemTokens, some]
      exact ⟨first, _, rfl, opens⟩
  | cons next others =>
      rw [itemTokens_cons, some]
      exact ⟨first, _, rfl, opens⟩

theorem memberTokens_singleton (member : String × Json) :
    memberTokens [member] =
      .str (some member.1) :: .colon :: (member.2.tokens ++ [.closing .curly]) := by
  rw [memberTokens]

theorem memberTokens_cons (member next : String × Json) (others : List (String × Json)) :
    memberTokens (member :: next :: others) =
      .str (some member.1) :: .colon ::
        (member.2.tokens ++ .comma :: memberTokens (next :: others)) := by
  rw [memberTokens]
  simp

/-- Lists of tokens stay lexable when the value is put in front of them. -/
def Joins (json : Json) : Prop :=
  ∀ rest, Lexable rest → startsNumber rest = false → Lexable (json.tokens ++ rest)

theorem joins_itemTokens {items : List Json} (joins : ∀ item ∈ items, item.Joins)
    {rest : List Token} (lexable : Lexable rest) : Lexable (itemTokens items ++ rest) := by
  induction items with
  | nil => exact lexable_cons trivial (by simp) lexable
  | cons item others ih =>
      have first := joins item List.mem_cons_self
      have later := ih fun other member => joins other (List.mem_cons_of_mem _ member)
      cases others with
      | nil =>
          rw [itemTokens, List.append_assoc]
          exact first _ (lexable_cons trivial (by simp) lexable) rfl
      | cons next others =>
          rw [itemTokens_cons, List.append_assoc]
          exact first _ (lexable_cons trivial (by simp) later) rfl

theorem joins_memberTokens {members : List (String × Json)}
    (joins : ∀ member ∈ members, member.2.Joins) {rest : List Token} (lexable : Lexable rest) :
    Lexable (memberTokens members ++ rest) := by
  induction members with
  | nil => exact lexable_cons trivial (by simp) lexable
  | cons member others ih =>
      have first := joins member List.mem_cons_self
      have later := ih fun other isMember => joins other (List.mem_cons_of_mem _ isMember)
      cases others with
      | nil =>
          rw [memberTokens_singleton, List.cons_append, List.cons_append, List.append_assoc]
          refine lexable_cons trivial (by simp) (lexable_cons trivial (by simp) ?_)
          exact first _ (lexable_cons trivial (by simp) lexable) rfl
      | cons next others =>
          rw [memberTokens_cons, List.cons_append, List.cons_append, List.append_assoc]
          refine lexable_cons trivial (by simp) (lexable_cons trivial (by simp) ?_)
          exact first _ (lexable_cons trivial (by simp) later) rfl

theorem joins (json : Json) : json.Joins := by
  induction json using Json.induct with
  | num n => exact fun rest lexable apart => ⟨trivial, fun _ => apart, lexable⟩
  | arr items ih =>
      exact fun rest lexable _ => lexable_cons trivial (by simp) (joins_itemTokens ih lexable)
  | obj members ih =>
      exact fun rest lexable _ => lexable_cons trivial (by simp) (joins_memberTokens ih lexable)
  | _ => exact fun rest lexable _ => lexable_cons trivial (by simp) lexable

theorem lexable_tokens (json : Json) : Lexable json.tokens := by
  have lexable := json.joins [] trivial rfl
  rwa [List.append_nil] at lexable

/-! ## Values by their tokens -/

/-- What follows the tokens of the value shows where they end, and they show the value. -/
def EndsItself (json : Json) : Prop :=
  ∀ other rest last, json.tokens ++ rest = other.tokens ++ last → json = other ∧ rest = last

theorem itemTokens_inj {items others : List Json} (ends : ∀ item ∈ items, item.EndsItself)
    {rest last : List Token} (same : itemTokens items ++ rest = itemTokens others ++ last) :
    items = others ∧ rest = last := by
  -- After an item comes a comma or the bracket, so both lists end at the same item.
  induction items generalizing others with
  | nil =>
      cases others with
      | nil => exact ⟨rfl, (List.cons.inj same).2⟩
      | cons other others =>
          obtain ⟨first, more, starts, opens⟩ := itemTokens_starts other others
          rw [starts] at same
          exact absurd (List.cons.inj same).1.symm (opens .square)
  | cons item items ih =>
      cases others with
      | nil =>
          obtain ⟨first, more, starts, opens⟩ := itemTokens_starts item items
          rw [starts] at same
          exact absurd (List.cons.inj same).1 (opens .square)
      | cons other others =>
          have first := ends item List.mem_cons_self
          have later := fun others => @ih others fun item member => ends item (List.mem_cons_of_mem _ member)
          cases items with
          | nil =>
              cases others with
              | nil =>
                  rw [itemTokens, itemTokens, List.append_assoc, List.append_assoc] at same
                  obtain ⟨rfl, left⟩ := first _ _ _ same
                  exact ⟨rfl, (List.cons.inj left).2⟩
              | cons =>
                  rw [itemTokens, itemTokens_cons, List.append_assoc, List.append_assoc] at same
                  cases (first _ _ _ same).2
          | cons next items =>
              cases others with
              | nil =>
                  rw [itemTokens, itemTokens_cons, List.append_assoc, List.append_assoc] at same
                  cases (first _ _ _ same).2
              | cons =>
                  rw [itemTokens_cons, itemTokens_cons, List.append_assoc, List.append_assoc] at same
                  obtain ⟨rfl, left⟩ := first _ _ _ same
                  obtain ⟨sameOthers, left⟩ := later _ (List.cons.inj left).2
                  exact ⟨congrArg (item :: ·) sameOthers, left⟩

theorem memberTokens_starts (member : String × Json) (others : List (String × Json)) :
    ∃ rest, memberTokens (member :: others) = .str (some member.1) :: rest := by
  cases others with
  | nil => exact ⟨_, memberTokens_singleton member⟩
  | cons next others => exact ⟨_, memberTokens_cons member next others⟩

theorem memberTokens_inj {members others : List (String × Json)}
    (ends : ∀ member ∈ members, member.2.EndsItself) {rest last : List Token}
    (same : memberTokens members ++ rest = memberTokens others ++ last) :
    members = others ∧ rest = last := by
  induction members generalizing others with
  | nil =>
      cases others with
      | nil => exact ⟨rfl, (List.cons.inj same).2⟩
      | cons other others =>
          obtain ⟨more, starts⟩ := memberTokens_starts other others
          rw [starts] at same
          cases same
  | cons member members ih =>
      obtain ⟨key, value⟩ := member
      cases others with
      | nil =>
          obtain ⟨more, starts⟩ := memberTokens_starts (key, value) members
          rw [starts] at same
          cases same
      | cons other others =>
          obtain ⟨otherKey, other⟩ := other
          have first := ends (key, value) List.mem_cons_self
          have later := fun others => @ih others fun member isMember => ends member (List.mem_cons_of_mem _ isMember)
          cases members with
          | nil =>
              cases others with
              | nil =>
                  simp only [memberTokens_singleton, List.cons_append, List.cons.injEq,
                    Token.str.injEq, Option.some.injEq, List.append_assoc, true_and] at same
                  obtain ⟨rfl, left⟩ := first _ _ _ same.2
                  exact ⟨by rw [same.1], (List.cons.inj left).2⟩
              | cons =>
                  simp only [memberTokens_singleton, memberTokens_cons, List.cons_append,
                    List.cons.injEq, List.append_assoc] at same
                  cases (first _ _ _ same.2.2).2
          | cons next members =>
              cases others with
              | nil =>
                  simp only [memberTokens_singleton, memberTokens_cons, List.cons_append,
                    List.cons.injEq, List.append_assoc] at same
                  cases (first _ _ _ same.2.2).2
              | cons =>
                  simp only [memberTokens_cons, List.cons_append, List.cons.injEq,
                    Token.str.injEq, Option.some.injEq, List.append_assoc, true_and] at same
                  obtain ⟨rfl, left⟩ := first _ _ _ same.2
                  obtain ⟨sameOthers, left⟩ := later _ (List.cons.inj left).2
                  exact ⟨by rw [same.1, sameOthers], left⟩

theorem endsItself (json : Json) : json.EndsItself := by
  intro other rest last same
  induction json using Json.induct generalizing other rest last with
  | arr items ih =>
      cases other with
      | arr others =>
          obtain ⟨rfl, rest⟩ := itemTokens_inj (fun item member _ _ _ => ih item member _ _ _)
            (List.cons.inj same).2
          exact ⟨rfl, rest⟩
      | _ => cases same
  | obj members ih =>
      cases other with
      | obj others =>
          obtain ⟨rfl, rest⟩ := memberTokens_inj (fun member isMember _ _ _ => ih member isMember _ _ _)
            (List.cons.inj same).2
          exact ⟨rfl, rest⟩
      | _ => cases same
  | _ =>
      cases other <;> cases same
      exact ⟨rfl, rfl⟩

end Json

theorem document_iff_lex (json : Json) (text : String) :
    Document json text ↔ Json.lex text.toList = json.tokens :=
  (Json.lex_eq_iff json.lexable_tokens text.toList).symm

theorem Document.unique {json other : Json} {text : String} (document : Document json text)
    (again : Document other text) : json = other := by
  rw [document_iff_lex] at document again
  rw [document] at again
  exact (json.endsItself other [] [] (congrArg (· ++ []) again)).1

end VehicleShow
