import VehicleShow.Proofs.Json.Lexing
import VehicleShow.Proofs.Json.Skipping

/-! # Texts that may be passed over

A string that is passed over need not have any content: the surrogates escaped in it may stand
without their partners.  `Spelled` is `Written` with such strings among the tokens, and
`lex_eq_iff_spelled` says that the texts of a passable value are those that lex to its tokens. -/
set_option autoImplicit false
namespace VehicleShow.Json

/-! ## Strings without content -/

/-- What a string is put together from: a character, or an escape by a letter or by a code, which may
be the code of a surrogate. -/
inductive PieceText : List Char → Prop
  | plain {c : Char} (noQuote : c ≠ '"') (noBackslash : c ≠ '\\') (noControl : 0x20 ≤ c.toNat) :
      PieceText [c]
  | letter {c letter : Char} (listed : (letter, c) ∈ letterEscapes) : PieceText ['\\', letter]
  | unit {unit : Nat} {digits : List Char} (code : UnitText unit digits) :
      PieceText ('\\' :: 'u' :: digits)

inductive PiecesText : List Char → Prop
  | nil : PiecesText []
  | cons {piece rest : List Char} (first : PieceText piece) (others : PiecesText rest) :
      PiecesText (piece ++ rest)

/-- A string in which some surrogate stands without its partner: it is put together from pieces, and
is the text of no content. -/
structure UnpairedText (text : List Char) : Prop where
  pieces : ∃ inside, PiecesText inside ∧ text = '"' :: (inside ++ ['"'])
  unpaired : ∀ content, ¬ StringText content text

def StepsOn (step : StringStep) (bound : Nat) (rest : List Char) : Prop :=
  ∃ left, PiecesText left ∧ left.length ≤ bound ∧
    ((∃ c, step = .char c (left ++ '"' :: rest)) ∨ step = .unpaired (left ++ '"' :: rest))

theorem lowHalf_of_pieces (high : Nat) {inside : List Char} (pieces : PiecesText inside)
    (rest : List Char) : StepsOn (lowHalf high (inside ++ '"' :: rest)) inside.length rest := by
  cases pieces with
  | nil => exact ⟨[], .nil, Nat.le_refl _, .inr rfl⟩
  | @cons piece later first others =>
      have whole := PiecesText.cons first others
      cases first with
      | plain _ noBackslash _ =>
          exact ⟨_, whole, Nat.le_refl _, .inr (by simp [lowHalf, noBackslash])⟩
      | @letter _ letter listed =>
          have noCode : letter ≠ 'u' := by
            rintro rfl
            simp [letterEscapes] at listed
          exact ⟨_, whole, Nat.le_refl _, .inr (by simp [lowHalf, noCode])⟩
      | @unit low digits code =>
          -- Two surrogates in a row are one character, so a step may take two pieces.
          have taken := takeUnit_of_text code (later ++ '"' :: rest)
          have step : lowHalf high ('\\' :: 'u' :: digits ++ later ++ '"' :: rest) =
              if isLowSurrogate low then .char (pairedChar high low) (later ++ '"' :: rest)
              else .unpaired ('\\' :: 'u' :: digits ++ later ++ '"' :: rest) := by
            simp [lowHalf, taken]
          have le : later.length ≤ ('\\' :: 'u' :: digits ++ later).length := by
            rw [List.length_append]
            exact Nat.le_add_left later.length _
          rw [step]
          split
          · exact ⟨later, others, le, .inl ⟨_, rfl⟩⟩
          · exact ⟨_, whole, Nat.le_refl _, .inr rfl⟩

theorem stringStep_of_piece {piece inside : List Char} (first : PieceText piece)
    (others : PiecesText inside) (rest : List Char) :
    StepsOn (stringStep (piece ++ (inside ++ '"' :: rest))) inside.length rest := by
  cases first with
  | @plain c noQuote noBackslash noControl =>
      have step := stringStep_of_text (.plain noQuote noBackslash noControl) (inside ++ '"' :: rest)
      exact ⟨inside, others, Nat.le_refl _, .inl ⟨c, step⟩⟩
  | @letter c letter listed =>
      have step := stringStep_of_text (.letter listed) (inside ++ '"' :: rest)
      exact ⟨inside, others, Nat.le_refl _, .inl ⟨c, step⟩⟩
  | @unit unit digits code =>
      have step : stringStep ('\\' :: 'u' :: digits ++ (inside ++ '"' :: rest)) =
          if isHighSurrogate unit then lowHalf unit (inside ++ '"' :: rest)
          else if isLowSurrogate unit then .unpaired (inside ++ '"' :: rest)
          else .char (Char.ofNat unit) (inside ++ '"' :: rest) := by
        simp [stringStep, escapeStep, unitStep, takeUnit_of_text code]
      rw [step]
      split
      · exact lowHalf_of_pieces unit others rest
      · split
        · exact ⟨inside, others, Nat.le_refl _, .inr rfl⟩
        · exact ⟨inside, others, Nat.le_refl _, .inl ⟨_, rfl⟩⟩

theorem lexString_of_unpaired {cs rest : List Char} (content : Option (List Char))
    (step : stringStep cs = .unpaired rest) : lexString content cs = lexString none rest := by
  rw [lexString]
  split <;> rename_i other <;> rw [step] at other <;> cases other
  rfl

theorem lexString_of_pieces {inside : List Char} (pieces : PiecesText inside)
    (content : Option (List Char)) (rest : List Char) :
    ∃ found, lexString content (inside ++ '"' :: rest) = (.str found, rest) := by
  induction bound : inside.length using Nat.strongRecOn generalizing inside content with
  | ind n ih =>
      cases pieces with
      | nil => exact ⟨_, lexString_of_closing content rfl⟩
      | @cons piece later first others =>
          have shorter : later.length < n := by
            have some : 0 < piece.length := by cases first <;> simp
            rw [← bound, List.length_append]
            omega
          obtain ⟨left, leftPieces, le, step⟩ := stringStep_of_piece first others rest
          have later := fun content => ih left.length (by omega) leftPieces content rfl
          rw [List.append_assoc]
          rcases step with ⟨c, step⟩ | step
          · rw [lexString_of_char content step]
            exact later _
          · rw [lexString_of_unpaired content step]
            exact later _

theorem nextToken_of_unpaired {text : List Char} (string : UnpairedText text) (rest : List Char) :
    ∃ cs, text = '"' :: cs ∧ nextToken '"' (cs ++ rest) = (.str none, rest) := by
  obtain ⟨⟨inside, pieces, rfl⟩, unpaired⟩ := string
  refine ⟨inside ++ ['"'], rfl, ?_⟩
  obtain ⟨found, lexed⟩ := lexString_of_pieces pieces (some []) rest
  rw [List.append_assoc, List.singleton_append]
  refine lexed.trans ?_
  cases found with
  | none => rfl
  | some content =>
      obtain ⟨before, chars, text, start, charsText, whole, same⟩ := text_of_lexString lexed
      have sameText : inside = text := List.append_cancel_right whole
      rw [sameText] at unpaired
      refine absurd (.mk ?_) (unpaired (String.ofList chars))
      rwa [String.toList_ofList]

theorem piecesText_of_charText {c : Char} {text rest : List Char} (charText : CharText c text)
    (others : PiecesText rest) : PiecesText (text ++ rest) := by
  cases charText with
  | plain noQuote noBackslash noControl =>
      exact .cons (.plain noQuote noBackslash noControl) others
  | letter listed => exact .cons (.letter listed) others
  | unit code => exact .cons (.unit code) others
  | pair _ _ highText lowText _ =>
      have both := PiecesText.cons (.unit highText) (PiecesText.cons (.unit lowText) others)
      simpa using both

theorem eq_of_lowHalf {high : Nat} {cs rest : List Char} (step : lowHalf high cs = .unpaired rest) :
    rest = cs := by
  rw [lowHalf.eq_def] at step
  split at step
  · cases step
  · cases step
  · split at step
    · cases step
    · split at step <;> cases step
      rfl
  · cases step
    rfl

theorem unit_of_unitStep {cs rest : List Char} (step : unitStep cs = .unpaired rest) :
    ∃ unit digits, UnitText unit digits ∧ cs = digits ++ rest := by
  rw [unitStep] at step
  split at step
  · cases step
  · next unit left taken =>
    obtain ⟨digits, code, rfl⟩ := text_of_takeUnit taken
    split at step
    · rw [eq_of_lowHalf step]
      exact ⟨unit, digits, code, rfl⟩
    · split at step <;> cases step
      exact ⟨unit, digits, code, rfl⟩

theorem piece_of_stringStep {cs rest : List Char} (step : stringStep cs = .unpaired rest) :
    ∃ piece, PieceText piece ∧ cs = piece ++ rest := by
  rw [stringStep.eq_def] at step
  split at step
  · cases step
  · next first cs =>
    split at step
    · cases step
    · split at step
      · next backslash =>
        rw [escapeStep.eq_def] at step
        split at step
        · cases step
        · split at step
          case h_9 =>
            obtain ⟨unit, digits, code, rfl⟩ := unit_of_unitStep step
            rw [beq_iff_eq.mp backslash]
            exact ⟨_, .unit code, rfl⟩
          all_goals cases step
      · split at step <;> cases step

theorem pieces_of_lexString {content : Option (List Char)} {found : Option String}
    {cs rest : List Char} (lexed : lexString content cs = (.str found, rest)) :
    ∃ inside, PiecesText inside ∧ cs = inside ++ '"' :: rest := by
  fun_induction lexString content cs with
  | case1 content cs left step =>
      cases lexed
      exact ⟨[], .nil, closing_of_stringStep step⟩
  | case2 content cs c left step ih =>
      obtain ⟨inside, pieces, rfl⟩ := ih lexed
      obtain ⟨text, charText, rfl⟩ := text_of_stringStep step
      exact ⟨text ++ inside, piecesText_of_charText charText pieces, (List.append_assoc _ _ _).symm⟩
  | case3 content cs left step ih =>
      obtain ⟨inside, pieces, rfl⟩ := ih lexed
      obtain ⟨piece, first, rfl⟩ := piece_of_stringStep step
      exact ⟨piece ++ inside, .cons first pieces, (List.append_assoc _ _ _).symm⟩
  | case4 => cases lexed

theorem quote_of_nextToken {c : Char} {cs rest : List Char} {content : Option String}
    (next : nextToken c cs = (.str content, rest)) : c = '"' := by
  have noWord (token : Token) (expected : List Char) (other : token ≠ .str content) :
      word token expected cs ≠ (.str content, rest) := by
    intro same
    have lexed := word_lexed token expected cs
    rw [same] at lexed
    simp [Token.Lexed, Ne.symm other] at lexed
  have noNumber (negative : Bool) (digits : List Char) :
      lexWhole negative digits ≠ (.str content, rest) := by
    intro same
    have lexed := lexWhole_lexed negative digits
    rw [same] at lexed
    simp [Token.Lexed] at lexed
  rw [nextToken.eq_def] at next
  split at next
  case h_7 => rfl
  case h_8 => exact absurd next (noWord _ _ (by simp))
  case h_9 => exact absurd next (noWord _ _ (by simp))
  case h_10 => exact absurd next (noWord _ _ (by simp))
  case h_11 => exact absurd next (noNumber true cs)
  case h_12 =>
    split at next
    · exact absurd next (noNumber false (c :: cs))
    · cases next
  all_goals cases next

theorem unpaired_of_nextToken {c : Char} {cs rest : List Char}
    (next : nextToken c cs = (.str none, rest)) :
    ∃ text, UnpairedText text ∧ c :: cs = text ++ rest := by
  obtain rfl := quote_of_nextToken next
  obtain ⟨inside, pieces, rfl⟩ := pieces_of_lexString next
  refine ⟨'"' :: (inside ++ ['"']), ⟨⟨inside, pieces, rfl⟩, fun content string => ?_⟩, by simp⟩
  -- A string with content would have lexed to it.
  have ends : ∀ n, Token.str (some content) = .num n → EndsNumber rest := by simp
  obtain ⟨c, cs, same, -, lexed⟩ := nextToken_of_text (.str string) ends
  cases same
  rw [List.append_assoc, List.singleton_append, next] at lexed
  cases lexed

/-! ## Tokens and their lists -/

/-- Texts of a token: those that it has in a document, and those of a string without content. -/
inductive LooseText : Token → List Char → Prop
  | sound {token : Token} {text : List Char} (tokenText : TokenText token text) :
      LooseText token text
  | unpaired {text : List Char} (string : UnpairedText text) : LooseText (.str none) text

inductive Spelled : List Token → List Char → Prop
  | nil {gap : List Char} (blank : Blank gap) : Spelled [] gap
  | cons {token : Token} {tokens : List Token} {gap text rest : List Char} (blank : Blank gap)
      (first : LooseText token text) (others : Spelled tokens rest) :
      Spelled (token :: tokens) (gap ++ text ++ rest)

theorem Written.spelled {tokens : List Token} {text : List Char} (written : Written tokens text) :
    Spelled tokens text := by
  induction written with
  | nil blank => exact .nil blank
  | cons blank first _ ih => exact .cons blank (.sound first) ih

def NumbersApart : List Token → Prop
  | [] => True
  | token :: rest => ((∃ n, token = .num n) → startsNumber rest = false) ∧ NumbersApart rest

theorem numbersApart_cons {token : Token} {rest : List Token} (other : ∀ n, token ≠ .num n)
    (apart : NumbersApart rest) : NumbersApart (token :: rest) :=
  ⟨fun ⟨n, same⟩ => absurd same (other n), apart⟩

theorem Passable.apart_append {stretch : Stretch} {tokens : List Token}
    (passable : Passable stretch tokens) {rest : List Token} (apart : NumbersApart rest)
    (other : startsNumber rest = false) : NumbersApart (tokens ++ rest) := by
  induction passable generalizing rest with
  | null | bool | str => exact numbersApart_cons (by simp) apart
  | num => exact ⟨fun _ => other, apart⟩
  | noItems | noMembers => exact numbersApart_cons (by simp) (numbersApart_cons (by simp) apart)
  | arr _ ih | obj _ ih => exact numbersApart_cons (by simp) (ih apart other)
  | lastItem _ ih =>
      rw [List.append_assoc]
      exact ih (numbersApart_cons (by simp) apart) rfl
  | item _ _ first later =>
      rw [List.append_assoc]
      exact first (numbersApart_cons (by simp) (later apart other)) rfl
  | lastMember key _ ih =>
      rw [List.cons_append, List.cons_append, List.append_assoc]
      refine numbersApart_cons (by simp) (numbersApart_cons (by simp) ?_)
      exact ih (numbersApart_cons (by simp) apart) rfl
  | member key _ _ first later =>
      rw [List.cons_append, List.cons_append, List.append_assoc]
      refine numbersApart_cons (by simp) (numbersApart_cons (by simp) ?_)
      exact first (numbersApart_cons (by simp) (later apart other)) rfl

theorem Passable.apart {stretch : Stretch} {tokens : List Token}
    (passable : Passable stretch tokens) : NumbersApart tokens := by
  have apart : NumbersApart (tokens ++ []) := passable.apart_append trivial rfl
  rwa [List.append_nil] at apart

theorem nextToken_of_loose {token : Token} {text rest : List Char} (loose : LooseText token text)
    (ends : ∀ n, token = .num n → EndsNumber rest) :
    ∃ c cs, text = c :: cs ∧ isBlank c = false ∧ nextToken c (cs ++ rest) = (token, rest) := by
  cases loose with
  | sound tokenText => exact nextToken_of_text tokenText ends
  | unpaired string =>
      obtain ⟨cs, starts, next⟩ := nextToken_of_unpaired string rest
      exact ⟨'"', cs, starts, rfl, next⟩

theorem endsNumber_of_spelled {tokens : List Token} {text : List Char}
    (spelled : Spelled tokens text) (other : startsNumber tokens = false) : EndsNumber text := by
  cases spelled with
  | nil blank => exact endsNumber_of_written (.nil blank) rfl
  | @cons token tokens gap text rest blank first others =>
      rw [List.append_assoc]
      cases gap with
      | cons c gap => exact endsNumber_of_blank (blank c List.mem_cons_self) _
      | nil =>
          cases first with
          | sound tokenText =>
              apply endsNumber_of_tokenText tokenText
              rintro n rfl
              cases other
          | unpaired string =>
              obtain ⟨⟨inside, -, rfl⟩, -⟩ := string
              intro first isFirst
              cases isFirst
              decide

theorem lex_of_numbersApart {tokens : List Token} {text : List Char} (spelled : Spelled tokens text)
    (apart : NumbersApart tokens) : lex text = tokens := by
  induction spelled with
  | nil blank => exact lex_of_written (.nil blank) trivial
  | @cons token tokens gap text rest blank first others ih =>
      obtain ⟨own, apartRest⟩ := apart
      have ends : ∀ n, token = .num n → EndsNumber rest := fun n same =>
        endsNumber_of_spelled others (own ⟨n, same⟩)
      obtain ⟨c, cs, rfl, notBlank, next⟩ := nextToken_of_loose first ends
      have start : (gap ++ (c :: cs) ++ rest).dropWhile isBlank = c :: (cs ++ rest) := by
        rw [List.append_assoc, dropWhile_blank blank, List.cons_append, List.dropWhile_cons,
          notBlank]
        rfl
      rw [lex_of_start start, next, ih apartRest]

def Token.Unbroken (token : Token) : Prop :=
  ∀ inString read skip, token ≠ .broken inString read skip

theorem loose_of_nextToken {c : Char} {cs rest : List Char} {token : Token}
    (next : nextToken c cs = (token, rest)) (unbroken : token.Unbroken) :
    ∃ text, LooseText token text ∧ c :: cs = text ++ rest := by
  by_cases none : token = .str none
  · subst none
    obtain ⟨text, string, whole⟩ := unpaired_of_nextToken next
    exact ⟨text, .unpaired string, whole⟩
  · have sound : token.Sound := by
      cases token with
      | broken => exact absurd rfl (unbroken _ _ _)
      | str content =>
          cases content with
          | none => exact absurd rfl none
          | some => trivial
      | _ => trivial
    obtain ⟨text, tokenText, whole⟩ := text_of_nextToken next sound
    exact ⟨text, .sound tokenText, whole⟩

theorem spelled_of_lex {tokens : List Token} {text : List Char} (lexed : lex text = tokens)
    (unbroken : ∀ token ∈ tokens, token.Unbroken) : Spelled tokens text := by
  induction tokens generalizing text with
  | nil =>
      cases start : text.dropWhile isBlank with
      | nil => exact .nil (List.dropWhile_eq_nil_iff.mp start)
      | cons c rest =>
          rw [lex_of_start start] at lexed
          cases lexed
  | cons token tokens ih =>
      obtain ⟨own, unbrokenRest⟩ := List.forall_mem_cons.mp unbroken
      cases start : text.dropWhile isBlank with
      | nil =>
          rw [lex_of_blank start] at lexed
          cases lexed
      | cons c cs =>
          rw [lex_of_start start] at lexed
          obtain ⟨rfl, lexedRest⟩ := List.cons.inj lexed
          obtain ⟨tokenText, first, whole⟩ := loose_of_nextToken rfl own
          have gap : Blank (text.takeWhile isBlank) := fun c member =>
            List.mem_takeWhile_imp member
          rw [← List.takeWhile_append_dropWhile (p := isBlank) (l := text), start, whole,
            ← List.append_assoc]
          exact .cons gap first (ih lexedRest unbrokenRest)

theorem Passable.unbroken {stretch : Stretch} {tokens : List Token}
    (passable : Passable stretch tokens) : ∀ token ∈ tokens, token.Unbroken := by
  induction passable <;> simp_all [Token.Unbroken, or_imp, forall_and]

/-- The texts that lex to the tokens of a passable value are those that spell it. -/
theorem lex_eq_iff_spelled {stretch : Stretch} {tokens : List Token}
    (passable : Passable stretch tokens) (text : List Char) :
    lex text = tokens ↔ Spelled tokens text :=
  ⟨fun lexed => spelled_of_lex lexed passable.unbroken,
    fun spelled => lex_of_numbersApart spelled passable.apart⟩

end VehicleShow.Json
