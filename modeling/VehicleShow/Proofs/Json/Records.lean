import Mathlib.Data.Option.Basic
import VehicleShow.Json.Reader
import VehicleShow.Proofs.Json.Documents
import VehicleShow.Proofs.Json.Skipping

/-! # Records read member by member

A record takes the members of an object one after the other.  Where each step is told by a function
of the member alone (`Follows`), the whole object is told by the fold of that function
(`record_eq_foldlM`), and a field that may be given once by what stands under its key
(`foldlM_put`). -/
set_option autoImplicit false
namespace VehicleShow.Json

abbrev TokenMembers : Type := List (String × List Token)

def keyedTokens : TokenMembers → List Token
  | [] => [.closing .curly]
  | [(key, value)] => .str (some key) :: .colon :: (value ++ [.closing .curly])
  | (key, value) :: rest => .str (some key) :: .colon :: (value ++ .comma :: keyedTokens rest)

def objectTokens (members : TokenMembers) : List Token := .opening .curly :: keyedTokens members

def AllPassable (members : TokenMembers) : Prop := ∀ member ∈ members, Passable .value member.2

theorem allPassable_cons_iff {member : String × List Token} {others : TokenMembers} :
    AllPassable (member :: others) ↔ Passable .value member.2 ∧ AllPassable others :=
  List.forall_mem_cons

theorem keyedTokens_singleton (member : String × List Token) :
    keyedTokens [member] =
      .str (some member.1) :: .colon :: (member.2 ++ [.closing .curly]) := by
  rw [keyedTokens]

theorem keyedTokens_cons (member next : String × List Token) (others : TokenMembers) :
    keyedTokens (member :: next :: others) =
      .str (some member.1) :: .colon :: (member.2 ++ .comma :: keyedTokens (next :: others)) := by
  rw [keyedTokens]
  simp

theorem length_keyedTokens_le (members : TokenMembers) (rest : List Token) :
    members.length ≤ (keyedTokens members ++ rest).length := by
  induction members with
  | nil => exact Nat.zero_le _
  | cons member others ih =>
      cases others with
      | nil => simp [keyedTokens_singleton]
      | cons next others =>
          rw [keyedTokens_cons]
          simp only [List.length_append, List.length_cons] at ih ⊢
          omega

theorem tokens_obj (members : List (String × Json)) :
    (obj members).tokens =
      objectTokens (members.map fun member => (member.1, member.2.tokens)) := by
  rw [tokens, objectTokens]
  congr 1
  induction members with
  | nil => rfl
  | cons member others ih =>
      cases others with
      | nil => rw [memberTokens_singleton, List.map_singleton, keyedTokens_singleton]
      | cons next others =>
          simp only [memberTokens_cons, ih, List.map_cons, keyedTokens_cons]

theorem passable_keyedTokens {member : String × List Token} {others : TokenMembers}
    (each : AllPassable (member :: others)) :
    Passable .members (keyedTokens (member :: others)) := by
  induction others generalizing member with
  | nil =>
      rw [keyedTokens_singleton]
      exact .lastMember _ (each member List.mem_cons_self)
  | cons next others ih =>
      obtain ⟨first, later⟩ := allPassable_cons_iff.mp each
      rw [keyedTokens_cons]
      exact .member _ first (ih later)

theorem passable_objectTokens {members : TokenMembers} (each : AllPassable members) :
    Passable .value (objectTokens members) := by
  cases members with
  | nil => exact .noMembers
  | cons member others => exact .obj (passable_keyedTokens each)

/-! ### Values of JSON texts -/

theorem passable_itemTokens {items : List Json} (some : items ≠ [])
    (each : ∀ item ∈ items, Passable .value item.tokens) : Passable .items (itemTokens items) := by
  induction items with
  | nil => exact absurd rfl some
  | cons item others ih =>
      obtain ⟨first, later⟩ := List.forall_mem_cons.mp each
      cases others with
      | nil => exact .lastItem first
      | cons next others => exact .item first (ih (List.cons_ne_nil _ _) later)

theorem passable_tokens (json : Json) : Passable .value json.tokens := by
  induction json using Json.induct with
  | null => exact .null
  | bool value => exact .bool value
  | num n => exact .num n
  | str content => exact .str content
  | arr items each =>
      cases items with
      | nil => exact .noItems
      | cons item others => exact .arr (passable_itemTokens (List.cons_ne_nil _ _) each)
  | obj members each =>
      rw [tokens_obj]
      exact passable_objectTokens (List.forall_mem_map.mpr each)

/-! ## Reading members one after the other -/

def answer {α : Type} (found : Option α) (rest : List Token) : Except Fault (α × List Token) :=
  match found with
  | some value => .ok (value, rest)
  | none => .error .mismatch

section Run
variable {σ : Type} (step : σ → String → Reader σ) (change : σ → String × List Token → Option σ)

/-- From a colon on, the step makes of the member what the function says, whatever comes behind. -/
def Steps (state : σ) (member : String × List Token) : Prop :=
  ∀ rest, step state member.1 (.colon :: (member.2 ++ rest)) = answer (change state member) rest

/-- The function tells every step on the way through the members. -/
def Follows : σ → TokenMembers → Prop
  | _, [] => True
  | state, member :: others =>
      Steps step change state member ∧
        ∀ next, change state member = some next → Follows next others

variable {step change}

theorem membersLoop_eq_foldlM {member : String × List Token} {others : TokenMembers} {state : σ}
    (follows : Follows step change state (member :: others)) {bound : List Token}
    (long : others.length < bound.length) (rest : List Token) :
    Reader.membersLoop step bound state (keyedTokens (member :: others) ++ rest) =
      answer ((member :: others).foldlM change state) rest := by
  induction others generalizing member state bound with
  | nil =>
      obtain ⟨_, bound, rfl⟩ := List.exists_cons_of_length_pos (Nat.zero_lt_of_lt long)
      rw [keyedTokens_singleton, List.cons_append, List.cons_append, List.append_assoc,
        Reader.membersLoop, follows.1, List.foldlM_cons]
      cases change state member <;> rfl
  | cons other others ih =>
      obtain ⟨_, bound, rfl⟩ := List.exists_cons_of_length_pos (Nat.zero_lt_of_lt long)
      obtain ⟨steps, later⟩ := follows
      rw [keyedTokens_cons, List.cons_append, List.cons_append, List.append_assoc,
        Reader.membersLoop, steps, List.foldlM_cons]
      cases changed : change state member with
      | none => rfl
      | some next => exact ih (later next changed) (Nat.lt_of_succ_lt_succ long)

theorem members_eq_foldlM {members : TokenMembers} {state : σ}
    (follows : Follows step change state members) (rest : List Token) :
    Reader.members step state (keyedTokens members ++ rest) =
      answer (members.foldlM change state) rest := by
  cases members with
  | nil => rfl
  | cons member others =>
      rw [Reader.members.eq_2]
      · exact membersLoop_eq_foldlM follows (length_keyedTokens_le (member :: others) rest) rest
      · intro left same
        cases others with
        | nil => simp [keyedTokens_singleton] at same
        | cons next others => simp [keyedTokens_cons] at same

theorem record_eq_foldlM {members : TokenMembers} {state : σ}
    (follows : Follows step change state members) (items : List (σ → Reader σ))
    (rest : List Token) :
    Reader.record step items state (objectTokens members ++ rest) =
      answer (members.foldlM change state) rest :=
  members_eq_foldlM follows rest

end Run

/-! ## Fields that may be given once -/

def tokensUnder (key : String) (members : TokenMembers) : List (List Token) :=
  (members.filter fun member => member.1 == key).map Prod.snd

section Under
variable {key : String}

@[simp] theorem tokensUnder_nil : tokensUnder key [] = [] := rfl

@[simp] theorem tokensUnder_cons (other : String) (value : List Token) (members : TokenMembers) :
    tokensUnder key ((other, value) :: members) =
      if other = key then value :: tokensUnder key members else tokensUnder key members := by
  by_cases same : other = key
  · simp [tokensUnder, same]
  · simp [tokensUnder, same]

@[simp] theorem tokensUnder_append (members others : TokenMembers) :
    tokensUnder key (members ++ others) = tokensUnder key members ++ tokensUnder key others := by
  simp [tokensUnder]

theorem tokensUnder_of_absent {members : TokenMembers}
    (absent : ∀ member ∈ members, member.1 ≠ key) : tokensUnder key members = [] := by
  simpa [tokensUnder] using absent

theorem mem_tokensUnder_iff {value : List Token} {members : TokenMembers} :
    value ∈ tokensUnder key members ↔ (key, value) ∈ members := by
  simp [tokensUnder]

theorem length_tokensUnder (members : TokenMembers) :
    (tokensUnder key members).length = (members.map Prod.fst).count key := by
  rw [tokensUnder, List.length_map, List.count, List.countP_map, List.countP_eq_length_filter]
  rfl

end Under

theorem tokensUnder_perm (key : String) {members others : TokenMembers}
    (perm : members.Perm others) : (tokensUnder key members).Perm (tokensUnder key others) :=
  (perm.filter _).map _

section Put
variable {α : Type} (meaning : List Token → Option α)

def put (field : Option α) (value : List Token) : Option (Option α) :=
  match field with
  | none => (meaning value).map some
  | some _ => none

/-- A field given once has the meaning of its value; one given twice is refused. -/
def sole : List (List Token) → Option (Option α)
  | [] => some none
  | [value] => (meaning value).map some
  | _ :: _ :: _ => none

theorem foldlM_put (values : List (List Token)) :
    values.foldlM (put meaning) none = sole meaning values := by
  match values with
  | [] => rfl
  | [value] => cases found : meaning value <;> simp [put, sole, found]
  | value :: next :: others => cases found : meaning value <;> simp [put, sole, found]

variable {meaning} in
theorem ne_none_of_put {field next : Option α} {value : List Token}
    (filled : put meaning field value = some next) : next ≠ none := by
  cases field with
  | some => cases filled
  | none =>
      obtain ⟨found, -, rfl⟩ := Option.map_eq_some_iff.mp filled
      exact Option.some_ne_none found

theorem sole_of_repeated {values : List (List Token)} (repeated : 1 < values.length) :
    sole meaning values = none := by
  match values with
  | [] => simp at repeated
  | [value] => simp at repeated
  | value :: next :: others => rfl

variable {meaning}

theorem sole_of_meaningless {value : List Token} {values : List (List Token)}
    (given : value ∈ values) (meaningless : meaning value = none) :
    sole meaning values = none := by
  match values with
  | [] => simp at given
  | [only] =>
      rw [List.mem_singleton.mp given] at meaningless
      rw [sole, meaningless]
      rfl
  | first :: next :: others => rfl

end Put

end VehicleShow.Json
