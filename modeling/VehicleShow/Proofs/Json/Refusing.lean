import VehicleShow.Proofs.Json.Reading

/-! # How texts are refused

A reader of any value has no shape to ask for, so what it blames is the grammar of the text or its
end (`parse_grammatical`). -/
set_option autoImplicit false
namespace VehicleShow

theorem bind_eq_error_iff {ε α β : Type} {first : Except ε α} {next : α → Except ε β} {fault : ε} :
    (first >>= next) = .error fault ↔
      first = .error fault ∨ ∃ value, first = .ok value ∧ next value = .error fault := by
  cases first with
  | error cause =>
      constructor
      · intro same
        cases same
        exact .inl rfl
      · rintro (same | ⟨_, never, -⟩)
        · cases same
          rfl
        · cases never
  | ok value =>
      constructor
      · intro refused
        exact .inr ⟨value, rfl, refused⟩
      · rintro (never | ⟨_, same, refused⟩)
        · cases never
        · cases same
          exact refused

namespace Json

/-! ## Tokens -/

/-- A broken token blames the grammar of the text, not the shape of a value. -/
def Token.Grammatical (token : Token) : Prop :=
  ∀ inString read skip, token = .broken inString read skip → read ≠ .mismatch

theorem Token.Lexed.grammatical {kind : Token → Prop} {token : Token} (lexed : token.Lexed kind)
    (whole : ∀ inString read skip, ¬ kind (.broken inString read skip)) : token.Grammatical := by
  rintro inString read skip rfl
  rcases lexed with ofKind | ⟨_, _, _, same, grammatical⟩
  · exact absurd ofKind (whole _ _ _)
  · cases same
    exact grammatical

theorem nextToken_grammatical (c : Char) (cs : List Char) : (nextToken c cs).1.Grammatical := by
  rw [nextToken.eq_def]
  split
  case h_7 => exact (lexString_lexed _ _).grammatical (by simp)
  case h_8 => exact (word_lexed _ _ _).grammatical (by simp)
  case h_9 => exact (word_lexed _ _ _).grammatical (by simp)
  case h_10 => exact (word_lexed _ _ _).grammatical (by simp)
  case h_11 => exact (lexWhole_lexed _ _).grammatical (by simp)
  case h_12 =>
    split
    · exact (lexWhole_lexed _ _).grammatical (by simp)
    · rintro _ _ _ ⟨⟩
      decide
  all_goals
    rintro _ _ _ ⟨⟩

theorem lex_grammatical (text : List Char) : ∀ token ∈ lex text, token.Grammatical := by
  fun_induction lex text with
  | case1 => simp
  | case2 text c rest start ih =>
      rw [List.forall_mem_cons]
      exact ⟨nextToken_grammatical c rest, ih⟩

/-! ## Faults by place -/

def Unshaped {α : Type} (item : Reader α) : Prop :=
  ∀ tokens fault, (∀ token ∈ tokens, token.Grammatical) → item tokens = .error fault →
    fault ≠ .mismatch

theorem punctuationFault_grammatical (tokens : List Token) : punctuationFault tokens ≠ .mismatch := by
  cases tokens with
  | nil => decide
  | cons => exact fun same => by cases same

theorem keyFault_grammatical {tokens : List Token} (grammatical : ∀ token ∈ tokens, token.Grammatical) :
    keyFault tokens ≠ .mismatch := by
  rw [keyFault.eq_def]
  split
  · decide
  · exact grammatical _ List.mem_cons_self _ _ _ rfl
  · decide

theorem valueFault_grammatical {tokens : List Token}
    (grammatical : ∀ token ∈ tokens, token.Grammatical) : valueFault tokens ≠ .mismatch := by
  rw [valueFault.eq_def]
  split
  · decide
  · exact grammatical _ List.mem_cons_self _ _ _ rfl
  · decide

/-! ## Arrays, objects and values -/

section
variable {α : Type} {item : Reader α} {means : Json → α → Prop}

theorem unshaped_elementsLoop (reads : Reads item means) (unshaped : Unshaped item)
    (bound : List Token) : Unshaped (Reader.elementsLoop item bound) := by
  induction bound with
  | nil =>
      rintro tokens fault - ⟨⟩
      decide
  | cons _ bound ih =>
      intro tokens fault grammatical refused
      rw [Reader.elementsLoop] at refused
      rcases bind_eq_error_iff.mp refused with first | ⟨⟨value, left⟩, first, after⟩
      · exact unshaped tokens fault grammatical first
      · obtain ⟨json, rfl, -⟩ := (reads _ _ _).mp first
        dsimp only at after
        split at after
        · cases after
        · rcases bind_eq_error_iff.mp after with later | ⟨_, -, never⟩
          · exact ih _ fault (fun token member => grammatical token (by simp [member])) later
          · cases never
        · cases after
          exact punctuationFault_grammatical _

theorem unshaped_elements (reads : Reads item means) (unshaped : Unshaped item) :
    Unshaped (Reader.elements item) := by
  intro tokens fault grammatical refused
  rw [Reader.elements.eq_def] at refused
  split at refused
  · cases refused
  · exact unshaped_elementsLoop reads unshaped _ _ fault grammatical refused

end

section
variable {σ : Type} {step : σ → String → Reader σ} {means : σ → String × Json → σ → Prop}

theorem unshaped_membersLoop (reads : ReadsMember step means)
    (unshaped : ∀ state key, Unshaped (step state key)) (bound : List Token) (state : σ) :
    Unshaped (Reader.membersLoop step bound state) := by
  induction bound generalizing state with
  | nil =>
      rintro tokens fault - ⟨⟩
      decide
  | cons _ bound ih =>
      intro tokens fault grammatical refused
      by_cases keyed : ∃ key left, tokens = .str (some key) :: left
      · obtain ⟨key, left, rfl⟩ := keyed
        have grammaticalLeft := (List.forall_mem_cons.mp grammatical).2
        rw [Reader.membersLoop] at refused
        rcases bind_eq_error_iff.mp refused with first | ⟨⟨next, left⟩, first, after⟩
        · exact unshaped state key _ fault grammaticalLeft first
        · obtain ⟨value, rfl, -⟩ := (reads _ _ _ _ _).mp first
          dsimp only at after
          split at after
          · cases after
          · exact ih next _ fault (fun token member => grammatical token (by simp [member])) after
          · cases after
            exact punctuationFault_grammatical _
      · rw [Reader.membersLoop.eq_3] at refused
        · cases refused
          exact keyFault_grammatical grammatical
        · intro never
          cases never
        · intro _ _ key left _ same
          exact keyed ⟨key, left, same⟩

theorem unshaped_members (reads : ReadsMember step means)
    (unshaped : ∀ state key, Unshaped (step state key)) (state : σ) :
    Unshaped (Reader.members step state) := by
  intro tokens fault grammatical refused
  rw [Reader.members.eq_def] at refused
  split at refused
  · cases refused
  · exact unshaped_membersLoop reads unshaped _ state _ fault grammatical refused

end

theorem unshaped_anyMember {item : Reader Json} (unshaped : Unshaped item)
    (before : List (String × Json)) (key : String) : Unshaped (Reader.anyMember item before key) := by
  intro tokens fault grammatical refused
  rw [Reader.anyMember] at refused
  rcases bind_eq_error_iff.mp refused with field | ⟨_, -, never⟩
  · rw [Reader.field, Reader.colon.eq_def] at field
    split at field
    · exact unshaped _ fault (List.forall_mem_cons.mp grammatical).2 field
    · cases field
      exact punctuationFault_grammatical _
  · cases never

theorem unshaped_valueWith {inner : Option (Reader Json)} {allowed : Json → Prop}
    (reads : ∀ item, inner = some item → Reads item fun json value => allowed json ∧ value = json)
    (unshaped : ∀ item, inner = some item → Unshaped item) : Unshaped (Reader.valueWith inner) := by
  intro tokens fault grammatical refused
  rw [Reader.valueWith.eq_def] at refused
  split at refused
  · cases refused
  · cases refused
  · split at refused <;> cases refused
    decide
  · cases refused
  · have grammaticalRest := (List.forall_mem_cons.mp grammatical).2
    split at refused
    · cases refused
      decide
    · next item =>
      rcases bind_eq_error_iff.mp refused with elements | ⟨_, -, never⟩
      · exact unshaped_elements (reads item rfl) (unshaped item rfl) _ fault grammaticalRest elements
      · cases never
    · next item =>
      rcases bind_eq_error_iff.mp refused with members | ⟨_, -, never⟩
      · exact unshaped_members (readsMember_anyMember (reads item rfl))
          (unshaped_anyMember (unshaped item rfl)) [] _ fault grammaticalRest members
      · cases never
  · cases refused
    exact valueFault_grammatical grammatical

theorem unshaped_value (depth : Nat) : Unshaped (Reader.value depth) := by
  induction depth with
  | zero =>
      have none : ∀ item : Reader Json, Option.none = some item →
          Reads item fun json value => False ∧ value = json := by simp
      exact unshaped_valueWith none (by simp)
  | succ depth ih =>
      apply unshaped_valueWith
      · rintro _ ⟨⟩
        exact reads_value depth
      · rintro _ ⟨⟩
        exact ih

theorem parse_grammatical {text : String} {fault : Fault} (refused : parse text = .error fault) :
    fault ≠ .mismatch := by
  rcases bind_eq_error_iff.mp refused with value | ⟨_, -, after⟩
  · exact unshaped_value maxDepth _ fault (lex_grammatical text.toList) value
  · dsimp only at after
    split at after <;> cases after
    decide

end Json
end VehicleShow
