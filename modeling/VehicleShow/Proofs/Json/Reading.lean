import Mathlib.Data.List.Forall2
import VehicleShow.Proofs.Json.Documents

/-! # What readers read

A reader takes the tokens of one value off the front and gives what the value means to it (`Reads`).
Readers of items and of members carry over to arrays and objects, so every reader has one statement
about what it reads, and `parse_eq_ok_iff` tells the texts that are read as a value. -/
set_option autoImplicit false
namespace VehicleShow

theorem bind_eq_ok_iff {ε α β : Type} {first : Except ε α} {next : α → Except ε β} {result : β} :
    (first >>= next) = .ok result ↔ ∃ value, first = .ok value ∧ next value = .ok result := by
  cases first with
  | error fault =>
      constructor
      · intro never
        cases never
      · rintro ⟨_, never, -⟩
        cases never
  | ok value =>
      constructor
      · intro read
        exact ⟨value, rfl, read⟩
      · rintro ⟨_, same, read⟩
        cases same
        exact read

namespace Json

/-- The reader takes off the tokens of one value and gives what it means. -/
def Reads {α : Type} (item : Reader α) (means : Json → α → Prop) : Prop :=
  ∀ tokens value rest, item tokens = .ok (value, rest) ↔
    ∃ json : Json, tokens = json.tokens ++ rest ∧ means json value

/-- The step takes off a colon and the tokens of one value, and changes the state by the member. -/
def ReadsMember {σ : Type} (step : σ → String → Reader σ) (means : σ → String × Json → σ → Prop) :
    Prop :=
  ∀ state key tokens next rest, step state key tokens = .ok (next, rest) ↔
    ∃ value : Json, tokens = .colon :: (value.tokens ++ rest) ∧ means state (key, value) next

inductive Chain {σ β : Type} (change : σ → β → σ → Prop) : σ → List β → σ → Prop
  | nil (state : σ) : Chain change state [] state
  | cons {state next last : σ} {member : β} {members : List β} (first : change state member next)
      (others : Chain change next members last) : Chain change state (member :: members) last

theorem chain_and_iff {σ β : Type} {allowed : β → Prop} {change : σ → β → σ → Prop} {state last : σ}
    {members : List β} :
    Chain (fun before member after => allowed member ∧ change before member after) state members
      last ↔ (∀ member ∈ members, allowed member) ∧ Chain change state members last := by
  induction members generalizing state with
  | nil =>
      constructor
      · intro chain
        cases chain
        exact ⟨by simp, .nil _⟩
      · rintro ⟨-, chain⟩
        cases chain
        exact .nil _
  | cons member members ih =>
      rw [List.forall_mem_cons]
      constructor
      · intro chain
        cases chain with
        | cons first others =>
            obtain ⟨each, others⟩ := ih.mp others
            exact ⟨⟨first.1, each⟩, .cons first.2 others⟩
      · rintro ⟨⟨own, each⟩, chain⟩
        cases chain with
        | cons first others => exact .cons ⟨own, first⟩ (ih.mpr ⟨each, others⟩)

/-! ## Arrays -/

theorem length_items_le (items : List Json) (rest : List Token) :
    items.length ≤ (itemTokens items ++ rest).length := by
  induction items with
  | nil => exact Nat.zero_le _
  | cons item others ih =>
      obtain ⟨first, more, some, -⟩ := item.tokens_start
      cases others with
      | nil =>
          rw [itemTokens, some]
          simp
      | cons next others =>
          rw [itemTokens_cons, some]
          simp only [List.length_append, List.length_cons] at ih ⊢
          omega

section Items
variable {α : Type} {item : Reader α} {means : Json → α → Prop}

theorem Reads.items_of_loop (reads : Reads item means) {bound tokens rest : List Token}
    {values : List α} (read : Reader.elementsLoop item bound tokens = .ok (values, rest)) :
    ∃ json others, tokens = itemTokens (json :: others) ++ rest ∧
      List.Forall₂ means (json :: others) values := by
  -- One token of the bound is spent on each item; without any left the loop fails.
  induction bound generalizing tokens values with
  | nil => cases read
  | cons _ bound ih =>
      rw [Reader.elementsLoop] at read
      obtain ⟨⟨value, left⟩, first, after⟩ := bind_eq_ok_iff.mp read
      obtain ⟨json, rfl, meant⟩ := (reads tokens value left).mp first
      dsimp only at after
      split at after
      · cases after
        refine ⟨json, [], ?_, .cons meant .nil⟩
        rw [itemTokens, List.append_assoc]
        rfl
      · obtain ⟨⟨otherValues, last⟩, later, same⟩ := bind_eq_ok_iff.mp after
        cases same
        obtain ⟨next, others, rfl, meantOthers⟩ := ih later
        refine ⟨json, next :: others, ?_, .cons meant meantOthers⟩
        rw [itemTokens_cons, List.append_assoc]
        rfl
      · cases after

theorem Reads.loop_of_items (reads : Reads item means) {json : Json} {others : List Json}
    {values : List α} (meant : List.Forall₂ means (json :: others) values) {bound : List Token}
    (long : others.length < bound.length) (rest : List Token) :
    Reader.elementsLoop item bound (itemTokens (json :: others) ++ rest) = .ok (values, rest) := by
  induction others generalizing json values bound with
  | nil =>
      obtain ⟨value, _, meantFirst, none, rfl⟩ := List.forall₂_cons_left_iff.mp meant
      cases none
      obtain ⟨_, bound, rfl⟩ := List.exists_cons_of_length_pos (Nat.zero_lt_of_lt long)
      have first := (reads _ value (.closing .square :: rest)).mpr ⟨json, rfl, meantFirst⟩
      rw [itemTokens, List.append_assoc, Reader.elementsLoop, List.singleton_append, first]
      rfl
  | cons next others ih =>
      obtain ⟨value, values, meantFirst, meantOthers, rfl⟩ := List.forall₂_cons_left_iff.mp meant
      obtain ⟨_, bound, rfl⟩ := List.exists_cons_of_length_pos (Nat.zero_lt_of_lt long)
      have first := (reads _ value (.comma :: (itemTokens (next :: others) ++ rest))).mpr
        ⟨json, rfl, meantFirst⟩
      have later := ih meantOthers (Nat.lt_of_succ_lt_succ long)
      rw [itemTokens_cons, List.append_assoc, List.cons_append, Reader.elementsLoop, first]
      change (Reader.elementsLoop item bound (itemTokens (next :: others) ++ rest) >>= _) = _
      rw [later]
      rfl

theorem Reads.elements (reads : Reads item means) (tokens rest : List Token) (values : List α) :
    Reader.elements item tokens = .ok (values, rest) ↔
      ∃ items, tokens = itemTokens items ++ rest ∧ List.Forall₂ means items values := by
  constructor
  · intro read
    rw [Reader.elements.eq_def] at read
    split at read
    · cases read
      exact ⟨[], rfl, .nil⟩
    · obtain ⟨json, others, whole, meant⟩ := reads.items_of_loop read
      exact ⟨json :: others, whole, meant⟩
  · rintro ⟨items, rfl, meant⟩
    cases items with
    | nil =>
        cases meant
        rfl
    | cons json others =>
        rw [Reader.elements.eq_2]
        · exact reads.loop_of_items meant (length_items_le (json :: others) rest) rest
        · intro left same
          obtain ⟨first, more, some, opens⟩ := itemTokens_starts json others
          rw [some] at same
          exact opens .square (List.cons.inj same).1

end Items

/-! ## Objects -/

theorem length_members_le (members : List (String × Json)) (rest : List Token) :
    members.length ≤ (memberTokens members ++ rest).length := by
  induction members with
  | nil => exact Nat.zero_le _
  | cons member others ih =>
      cases others with
      | nil =>
          rw [memberTokens_singleton]
          simp
      | cons next others =>
          rw [memberTokens_cons]
          simp only [List.length_append, List.length_cons] at ih ⊢
          omega

section Members
variable {σ : Type} {step : σ → String → Reader σ} {means : σ → String × Json → σ → Prop}

theorem key_of_membersLoop {bound tokens rest : List Token} {state last : σ}
    (read : Reader.membersLoop step bound state tokens = .ok (last, rest)) :
    ∃ key left, tokens = .str (some key) :: left := by
  by_contra none
  cases bound with
  | nil => cases read
  | cons _ bound =>
      rw [Reader.membersLoop.eq_3] at read
      · cases read
      · intro never
        cases never
      · intro _ _ key left _ same
        exact none ⟨key, left, same⟩

theorem ReadsMember.members_of_loop (reads : ReadsMember step means)
    {bound tokens rest : List Token} {state last : σ}
    (read : Reader.membersLoop step bound state tokens = .ok (last, rest)) :
    ∃ member others, tokens = memberTokens (member :: others) ++ rest ∧
      Chain means state (member :: others) last := by
  induction bound generalizing tokens state with
  | nil => cases read
  | cons _ bound ih =>
      obtain ⟨key, tokens, rfl⟩ := key_of_membersLoop read
      rw [Reader.membersLoop] at read
      obtain ⟨⟨next, left⟩, first, after⟩ := bind_eq_ok_iff.mp read
      obtain ⟨value, rfl, meant⟩ := (reads state key _ next left).mp first
      dsimp only at after
      split at after
      · cases after
        refine ⟨(key, value), [], ?_, .cons meant (.nil _)⟩
        rw [memberTokens_singleton, List.cons_append, List.cons_append, List.append_assoc]
        rfl
      · obtain ⟨other, others, rfl, meantOthers⟩ := ih after
        refine ⟨(key, value), other :: others, ?_, .cons meant meantOthers⟩
        rw [memberTokens_cons, List.cons_append, List.cons_append, List.append_assoc]
        rfl
      · cases after

theorem ReadsMember.loop_of_members (reads : ReadsMember step means) {member : String × Json}
    {others : List (String × Json)} {state last : σ}
    (meant : Chain means state (member :: others) last) {bound : List Token}
    (long : others.length < bound.length) (rest : List Token) :
    Reader.membersLoop step bound state (memberTokens (member :: others) ++ rest) =
      .ok (last, rest) := by
  induction others generalizing member state bound with
  | nil =>
      cases meant with
      | cons meantFirst none =>
          cases none
          obtain ⟨_, bound, rfl⟩ := List.exists_cons_of_length_pos (Nat.zero_lt_of_lt long)
          have first := (reads state member.1 _ last (.closing .curly :: rest)).mpr
            ⟨member.2, rfl, meantFirst⟩
          rw [memberTokens_singleton, List.cons_append, List.cons_append, List.append_assoc,
            Reader.membersLoop, List.singleton_append, first]
          rfl
  | cons other others ih =>
      cases meant with
      | @cons _ next _ _ _ meantFirst meantOthers =>
          obtain ⟨_, bound, rfl⟩ := List.exists_cons_of_length_pos (Nat.zero_lt_of_lt long)
          have first := (reads state member.1 _ next
            (.comma :: (memberTokens (other :: others) ++ rest))).mpr ⟨member.2, rfl, meantFirst⟩
          have later := ih meantOthers (Nat.lt_of_succ_lt_succ long)
          rw [memberTokens_cons, List.cons_append, List.cons_append, List.append_assoc,
            List.cons_append, Reader.membersLoop, first]
          exact later

theorem ReadsMember.members (reads : ReadsMember step means) (tokens rest : List Token)
    (state last : σ) :
    Reader.members step state tokens = .ok (last, rest) ↔
      ∃ members, tokens = memberTokens members ++ rest ∧ Chain means state members last := by
  constructor
  · intro read
    rw [Reader.members.eq_def] at read
    split at read
    · cases read
      exact ⟨[], rfl, .nil _⟩
    · obtain ⟨member, others, whole, meant⟩ := reads.members_of_loop read
      exact ⟨member :: others, whole, meant⟩
  · rintro ⟨members, rfl, meant⟩
    cases members with
    | nil =>
        cases meant
        rfl
    | cons member others =>
        rw [Reader.members.eq_2]
        · exact reads.loop_of_members meant (length_members_le (member :: others) rest) rest
        · intro left same
          cases others with
          | nil =>
              rw [memberTokens_singleton] at same
              cases same
          | cons next others =>
              rw [memberTokens_cons] at same
              cases same

end Members

/-! ## Scalars -/

theorem reads_string : Reads Reader.string fun json content => json = .str content := by
  intro tokens value rest
  constructor
  · intro read
    rw [Reader.string.eq_def] at read
    split at read
    · cases read
      exact ⟨.str value, rfl, rfl⟩
    · cases read
  · rintro ⟨_, rfl, rfl⟩
    rfl

theorem reads_uint64 : Reads Reader.uint64 fun json value =>
    ∃ n, json = .num n ∧ n.toUInt64? = some value := by
  intro tokens value rest
  constructor
  · intro read
    rw [Reader.uint64.eq_def] at read
    split at read
    · next n left =>
      split at read
      · next word =>
        cases read
        exact ⟨.num n, rfl, n, rfl, word⟩
      · cases read
    · cases read
  · rintro ⟨_, rfl, n, rfl, word⟩
    change Reader.uint64 (.num n :: rest) = .ok (value, rest)
    rw [Reader.uint64, word]

theorem Reads.field {α : Type} {item : Reader α} {means : Json → α → Prop}
    (reads : Reads item means) (tokens rest : List Token) (value : α) :
    Reader.field item tokens = .ok (value, rest) ↔
      ∃ json : Json, tokens = .colon :: (json.tokens ++ rest) ∧ means json value := by
  rw [Reader.field, Reader.colon.eq_def]
  split
  · next left =>
    constructor
    · intro read
      obtain ⟨json, rfl, meant⟩ := (reads left value rest).mp read
      exact ⟨json, rfl, meant⟩
    · rintro ⟨json, same, meant⟩
      cases same
      exact (reads _ value rest).mpr ⟨json, rfl, meant⟩
  · next notColon =>
    constructor
    · intro never
      cases never
    · rintro ⟨json, same, -⟩
      exact absurd same (notColon _)

/-! ## Any value -/

section Any
variable {allowed : Json → Prop}

theorem readsMember_anyMember {item : Reader Json}
    (reads : Reads item fun json value => allowed json ∧ value = json) :
    ReadsMember (Reader.anyMember item) fun before member after =>
      allowed member.2 ∧ after = member :: before := by
  intro before key tokens after rest
  constructor
  · intro read
    obtain ⟨⟨value, left⟩, field, same⟩ := bind_eq_ok_iff.mp read
    cases same
    obtain ⟨json, rfl, meant, rfl⟩ := (reads.field tokens rest value).mp field
    exact ⟨value, rfl, meant, rfl⟩
  · rintro ⟨value, rfl, meant, rfl⟩
    have field := (reads.field _ rest value).mpr ⟨value, rfl, meant, rfl⟩
    rw [Reader.anyMember, field]
    rfl

theorem chain_members_iff {before after members : List (String × Json)} :
    Chain (fun before member after => after = member :: before) before members after ↔
      after = members.reverse ++ before := by
  induction members generalizing before with
  | nil =>
      constructor
      · intro chain
        cases chain
        rfl
      · rintro rfl
        exact .nil _
  | cons member members ih =>
      rw [List.reverse_cons, List.append_assoc]
      constructor
      · intro chain
        cases chain with
        | cons first others =>
            subst first
            exact ih.mp others
      · exact fun same => .cons rfl (ih.mpr same)

theorem forall₂_values_iff {items values : List Json} :
    List.Forall₂ (fun json value => allowed json ∧ value = json) items values ↔
      (∀ item ∈ items, allowed item) ∧ values = items := by
  have same : (fun json value : Json => value = json) = Eq := by
    funext json value
    exact propext eq_comm
  rw [List.forall₂_and_left, same, List.forall₂_eq_eq_eq, eq_comm]

theorem elements_values_iff {item : Reader Json}
    (reads : Reads item fun json value => allowed json ∧ value = json) (tokens rest : List Token)
    (items : List Json) : Reader.elements item tokens = .ok (items, rest) ↔
      tokens = itemTokens items ++ rest ∧ ∀ item ∈ items, allowed item := by
  rw [reads.elements]
  simp only [forall₂_values_iff]
  constructor
  · rintro ⟨found, whole, each, rfl⟩
    exact ⟨whole, each⟩
  · rintro ⟨whole, each⟩
    exact ⟨items, whole, each, rfl⟩

theorem members_values_iff {item : Reader Json}
    (reads : Reads item fun json value => allowed json ∧ value = json) (tokens rest : List Token)
    (reversed : List (String × Json)) :
    Reader.members (Reader.anyMember item) [] tokens = .ok (reversed, rest) ↔
      tokens = memberTokens reversed.reverse ++ rest ∧
        ∀ member ∈ reversed.reverse, allowed member.2 := by
  rw [(readsMember_anyMember reads).members]
  simp only [chain_and_iff, chain_members_iff, List.append_nil]
  constructor
  · rintro ⟨found, whole, each, rfl⟩
    rw [List.reverse_reverse]
    exact ⟨whole, each⟩
  · rintro ⟨whole, each⟩
    exact ⟨reversed.reverse, whole, each, (List.reverse_reverse reversed).symm⟩

/-- What a value has to keep at its own level when its items are read by `inner`. -/
def Level (inner : Option (Reader Json)) (allowed : Json → Prop) : Json → Prop
  | .null | .bool _ | .str _ => True
  | .num n => n.inRange = true
  | .arr items => inner.isSome = true ∧ ∀ item ∈ items, allowed item
  | .obj members => inner.isSome = true ∧ ∀ member ∈ members, allowed member.2

theorem reads_valueWith {inner : Option (Reader Json)}
    (reads : ∀ item, inner = some item → Reads item fun json value => allowed json ∧ value = json) :
    Reads (Reader.valueWith inner) fun json value => json.Level inner allowed ∧ value = json := by
  intro tokens value rest
  constructor
  · intro read
    rw [Reader.valueWith.eq_def] at read
    split at read
    · cases read
      exact ⟨.null, rfl, trivial, rfl⟩
    · cases read
      exact ⟨.bool _, rfl, trivial, rfl⟩
    · next n left =>
      split at read
      · next inRange =>
        cases read
        exact ⟨.num n, rfl, inRange, rfl⟩
      · cases read
    · cases read
      exact ⟨.str _, rfl, trivial, rfl⟩
    · split at read
      · cases read
      · next item =>
        obtain ⟨⟨items, left⟩, elements, same⟩ := bind_eq_ok_iff.mp read
        cases same
        obtain ⟨rfl, each⟩ := (elements_values_iff (reads item rfl) _ _ items).mp elements
        exact ⟨.arr items, rfl, ⟨rfl, each⟩, rfl⟩
      · next item =>
        obtain ⟨⟨reversed, left⟩, members, same⟩ := bind_eq_ok_iff.mp read
        cases same
        obtain ⟨rfl, each⟩ := (members_values_iff (reads item rfl) _ _ reversed).mp members
        exact ⟨.obj reversed.reverse, rfl, ⟨rfl, each⟩, rfl⟩
    · cases read
  · rintro ⟨json, rfl, level, rfl⟩
    cases value with
    | null => rfl
    | bool => rfl
    | str => rfl
    | num n => exact if_pos level
    | arr items =>
        obtain ⟨item, rfl⟩ := Option.isSome_iff_exists.mp level.1
        exact bind_eq_ok_iff.mpr
          ⟨_, (elements_values_iff (reads item rfl) _ rest items).mpr ⟨rfl, level.2⟩, rfl⟩
    | obj members =>
        obtain ⟨item, rfl⟩ := Option.isSome_iff_exists.mp level.1
        have read := members_values_iff (reads item rfl) (memberTokens members ++ rest) rest
          members.reverse
        rw [List.reverse_reverse] at read
        refine bind_eq_ok_iff.mpr ⟨_, read.mpr ⟨rfl, level.2⟩, ?_⟩
        dsimp only
        rw [List.reverse_reverse]

end Any

theorem reads_value (depth : Nat) :
    Reads (Reader.value depth) fun json value => json.Fits depth ∧ value = json := by
  induction depth with
  | zero =>
      have level : ∀ json : Json, json.Level none (fun _ => False) ↔ json.Fits 0 := by
        intro json
        cases json <;> simp [Level, Within]
      have reads : Reads (Reader.value 0) fun json value =>
          json.Level none (fun _ => False) ∧ value = json := reads_valueWith (by simp)
      simp only [level] at reads
      exact reads
  | succ depth ih =>
      have level : ∀ json : Json,
          json.Level (some (Reader.value depth)) (Fits depth) ↔ json.Fits (depth + 1) := by
        intro json
        cases json <;> simp [Level, Within]
      have reads : Reads (Reader.value (depth + 1)) fun json value =>
          json.Level (some (Reader.value depth)) (Fits depth) ∧ value = json := by
        apply reads_valueWith
        rintro _ ⟨⟩
        exact ih
      simp only [level] at reads
      exact reads

/-! ## Whole texts -/

theorem complete_eq_ok_iff {α : Type} {item : Reader α} {means : Json → α → Prop}
    (reads : Reads item means) (text : String) (value : α) :
    Reader.complete item (lex text.toList) = .ok value ↔
      ∃ json, Document json text ∧ means json value := by
  simp only [document_iff_lex]
  constructor
  · intro read
    obtain ⟨⟨found, rest⟩, first, after⟩ := bind_eq_ok_iff.mp read
    dsimp only at after
    split at after
    · next none =>
      cases after
      obtain ⟨json, whole, meant⟩ := (reads _ _ _).mp first
      rw [List.isEmpty_iff.mp none, List.append_nil] at whole
      exact ⟨json, whole, meant⟩
    · cases after
  · rintro ⟨json, whole, meant⟩
    have first := (reads json.tokens value []).mpr ⟨json, (List.append_nil _).symm, meant⟩
    rw [Reader.complete, whole, first]
    rfl

theorem parse_eq_ok_iff (text : String) (json : Json) :
    parse text = .ok json ↔ IsJson text json := by
  rw [parse, complete_eq_ok_iff (reads_value maxDepth), IsJson]
  constructor
  · rintro ⟨_, document, fits, rfl⟩
    exact ⟨document, fits⟩
  · rintro ⟨document, fits⟩
    exact ⟨json, document, fits, rfl⟩

end Json
end VehicleShow
