import Mathlib.Data.List.TakeWhile
import VehicleShow.Proofs.Json.NumberTokens
import VehicleShow.Proofs.Json.StringTokens

/-! # Texts and their tokens

`lex_eq_iff` says that a text lexes to a list of tokens just if the tokens are written in it, for
every list that can be lexed at all: one without broken tokens in which no number follows a number.
The tokens of a value are such a list, so the documents of a value are told by lexing. -/
set_option autoImplicit false
namespace VehicleShow.Json

/-! ## What the parts of the lexer give -/

/-- A token of the given kind, or a broken one that does not blame the shape of a value. -/
def Token.Lexed (kind : Token → Prop) (token : Token) : Prop :=
  kind token ∨ ∃ inString read skip, token = .broken inString read skip ∧ read ≠ .mismatch

theorem missingDigit_lexed (kind : Token → Prop) (cs : List Char) :
    (missingDigit cs).1.Lexed kind := by
  cases cs <;> exact .inr ⟨_, _, _, rfl, by decide⟩

theorem lexExponent_lexed (n : Numeral) (cs : List Char) :
    (lexExponent n cs).1.Lexed fun token => ∃ n, token = .num n := by
  rw [lexExponent.eq_def]
  split
  · split
    · dsimp only
      split
      · exact missingDigit_lexed _ _
      · exact .inl ⟨_, rfl⟩
    · exact .inl ⟨_, rfl⟩
  · exact .inl ⟨_, rfl⟩

theorem lexFraction_lexed (n : Numeral) (cs : List Char) :
    (lexFraction n cs).1.Lexed fun token => ∃ n, token = .num n := by
  rw [lexFraction.eq_def]
  split
  · split
    · exact missingDigit_lexed _ _
    · exact lexExponent_lexed _ _
  · exact lexExponent_lexed _ _

theorem lexWhole_lexed (negative : Bool) (cs : List Char) :
    (lexWhole negative cs).1.Lexed fun token => ∃ n, token = .num n := by
  rw [lexWhole.eq_def]
  split
  · exact missingDigit_lexed _ _
  · split
    · exact .inr ⟨_, _, _, rfl, by decide⟩
    · exact lexFraction_lexed _ _

theorem word_lexed (token : Token) (expected cs : List Char) :
    (word token expected cs).1.Lexed (· = token) := by
  fun_induction word token expected cs with
  | case1 => exact .inl rfl
  | case2 => exact .inr ⟨_, _, _, rfl, by decide⟩
  | case3 _ _ _ _ _ ih => exact ih
  | case4 => exact .inr ⟨_, _, _, rfl, by decide⟩

theorem takeUnit_grammatical {cs : List Char} {fault : Fault} (refused : takeUnit cs = .error fault) :
    fault ≠ .mismatch := by
  rw [takeUnit.eq_def] at refused
  split at refused
  · cases refused
    decide
  · split at refused
    · split at refused <;> cases refused
      decide
    · cases refused
      decide

theorem unitStep_grammatical {cs : List Char} {fault : Fault}
    (refused : unitStep cs = .fault fault) : fault ≠ .mismatch := by
  rw [unitStep] at refused
  split at refused
  · next cause taken =>
    cases refused
    exact takeUnit_grammatical taken
  · split at refused
    · rw [lowHalf.eq_def] at refused
      split at refused
      · cases refused
        decide
      · cases refused
        decide
      · split at refused
        · next cause taken =>
          cases refused
          exact takeUnit_grammatical taken
        · split at refused <;> cases refused
      · cases refused
    · split at refused <;> cases refused

theorem stringStep_grammatical {cs : List Char} {fault : Fault}
    (refused : stringStep cs = .fault fault) : fault ≠ .mismatch := by
  rw [stringStep.eq_def] at refused
  split at refused
  · cases refused
    decide
  · split at refused
    · cases refused
    · split at refused
      · rw [escapeStep.eq_def] at refused
        split at refused
        · cases refused
          decide
        · split at refused
          case h_9 => exact unitStep_grammatical refused
          case h_10 =>
            cases refused
            decide
          all_goals cases refused
      · split at refused <;> cases refused
        decide

theorem lexString_lexed (content : Option (List Char)) (cs : List Char) :
    (lexString content cs).1.Lexed fun token => ∃ content, token = .str content := by
  fun_induction lexString content cs with
  | case1 => exact .inl ⟨_, rfl⟩
  | case2 _ _ _ _ _ ih => exact ih
  | case3 _ _ _ _ ih => exact ih
  | case4 content cs fault step =>
      refine .inr ⟨_, _, _, rfl, ?_⟩
      split
      · exact stringStep_grammatical step
      · decide

/-! ## Single tokens -/

def Token.Sound : Token → Prop
  | .broken .. | .str none => False
  | _ => True

theorem Token.Lexed.of_sound {kind : Token → Prop} {token : Token} (lexed : token.Lexed kind)
    (sound : token.Sound) : kind token := by
  rcases lexed with ofKind | ⟨_, _, _, rfl, -⟩
  · exact ofKind
  · exact sound.elim

theorem nextToken_digit (d : Digit) (cs : List Char) :
    nextToken d.toChar cs = lexWhole false (d.toChar :: cs) := by
  match d with
  | 0 | 1 | 2 | 3 | 4 | 5 | 6 | 7 | 8 | 9 => rfl

theorem nextToken_of_numeral {n : Numeral} {text rest : List Char} (numeral : NumeralText n text)
    (ends : EndsNumber rest) :
    ∃ c cs, text = c :: cs ∧ isBlank c = false ∧ nextToken c (cs ++ rest) = (.num n, rest) := by
  cases numeral with
  | @mk fraction exponent wellFormed fractionText exponentText =>
      have lexed := lexWhole_of_text wellFormed fractionText exponentText ends
      cases negative : n.negative with
      | true =>
          refine ⟨'-', digitsText n.whole ++ fraction ++ exponent, rfl, rfl, ?_⟩
          rw [negative] at lexed
          rw [List.append_assoc, List.append_assoc]
          exact lexed
      | false =>
          obtain ⟨first, others, whole, -⟩ := wellFormed
          rw [negative, whole] at lexed
          rw [whole]
          refine ⟨first.toChar, digitsText others ++ fraction ++ exponent, rfl, ?_, ?_⟩
          · have noBlank : ∀ d : Digit, isBlank d.toChar = false := by decide
            exact noBlank first
          · rw [nextToken_digit, List.append_assoc, List.append_assoc]
            exact lexed

theorem nextToken_of_text {token : Token} {text rest : List Char} (tokenText : TokenText token text)
    (ends : ∀ n, token = .num n → EndsNumber rest) :
    ∃ c cs, text = c :: cs ∧ isBlank c = false ∧ nextToken c (cs ++ rest) = (token, rest) := by
  cases tokenText with
  | num numeral => exact nextToken_of_numeral numeral (ends _ rfl)
  | str string =>
      cases string with
      | mk chars =>
          refine ⟨_, _, rfl, rfl, ?_⟩
          rw [List.append_assoc]
          refine (lexString_of_text chars [] rest).trans ?_
          rw [List.reverse_nil, List.nil_append, String.ofList_toList]
  | _ => exact ⟨_, _, rfl, rfl, rfl⟩

theorem numeralText_of_lexWhole {negative : Bool} {token : Token} {cs rest : List Char}
    (lexed : lexWhole negative cs = (token, rest)) (sound : token.Sound) :
    ∃ text, TokenText token text ∧ minusText negative ++ cs = text ++ rest := by
  have numeral := lexWhole_lexed negative cs
  rw [lexed] at numeral
  obtain ⟨n, rfl⟩ := numeral.of_sound sound
  obtain ⟨rfl, wellFormed, fraction, exponent, fractionText, exponentText, rfl⟩ :=
    text_of_lexWhole lexed
  refine ⟨_, .num (.mk wellFormed fractionText exponentText), ?_⟩
  simp only [List.append_assoc]

theorem text_of_word {token found : Token} {expected cs rest : List Char}
    (lexed : word token expected cs = (found, rest)) (sound : found.Sound) :
    found = token ∧ cs = expected ++ rest := by
  fun_induction word token expected cs with
  | case1 =>
      cases lexed
      exact ⟨rfl, rfl⟩
  | case2 =>
      cases lexed
      exact sound.elim
  | case3 e es c cs same ih =>
      obtain ⟨named, whole⟩ := ih lexed
      rw [beq_iff_eq.mp same, whole]
      exact ⟨named, rfl⟩
  | case4 =>
      cases lexed
      exact sound.elim

theorem text_of_nextToken {c : Char} {cs rest : List Char} {token : Token}
    (next : nextToken c cs = (token, rest)) (sound : token.Sound) :
    ∃ text, TokenText token text ∧ c :: cs = text ++ rest := by
  rw [nextToken.eq_def] at next
  split at next
  case h_7 =>
    have string := lexString_lexed (some []) cs
    rw [next] at string
    obtain ⟨content, rfl⟩ := string.of_sound sound
    cases content with
    | none => exact sound.elim
    | some content =>
        obtain ⟨before, chars, inside, start, charsText, rfl, rfl⟩ := text_of_lexString next
        cases start
        have string : StringText (String.ofList chars) ('"' :: (inside ++ ['"'])) :=
          .mk (by rw [String.toList_ofList]; exact charsText)
        refine ⟨_, .str string, ?_⟩
        rw [List.cons_append, List.append_assoc]
        rfl
  case h_8 =>
    obtain ⟨rfl, rfl⟩ := text_of_word next sound
    exact ⟨_, .null, rfl⟩
  case h_9 =>
    obtain ⟨rfl, rfl⟩ := text_of_word next sound
    exact ⟨_, .true, rfl⟩
  case h_10 =>
    obtain ⟨rfl, rfl⟩ := text_of_word next sound
    exact ⟨_, .false, rfl⟩
  case h_11 => exact numeralText_of_lexWhole next sound
  case h_12 =>
    split at next
    · exact numeralText_of_lexWhole next sound
    · cases next
      exact sound.elim
  case h_1 =>
    cases next
    exact ⟨_, .openCurly, rfl⟩
  case h_2 =>
    cases next
    exact ⟨_, .closeCurly, rfl⟩
  case h_3 =>
    cases next
    exact ⟨_, .openSquare, rfl⟩
  case h_4 =>
    cases next
    exact ⟨_, .closeSquare, rfl⟩
  case h_5 =>
    cases next
    exact ⟨_, .comma, rfl⟩
  case h_6 =>
    cases next
    exact ⟨_, .colon, rfl⟩

/-! ## Lists of tokens -/

theorem lex_of_blank {text : List Char} (start : text.dropWhile isBlank = []) : lex text = [] := by
  rw [lex]
  split
  · rfl
  · next c rest other =>
    rw [start] at other
    cases other

theorem lex_of_start {text rest : List Char} {c : Char}
    (start : text.dropWhile isBlank = c :: rest) :
    lex text = (nextToken c rest).1 :: lex (nextToken c rest).2 := by
  rw [lex]
  split
  · next other =>
    rw [start] at other
    cases other
  · next other =>
    rw [start] at other
    cases other
    rfl

theorem dropWhile_blank {gap : List Char} (blank : Blank gap) (text : List Char) :
    (gap ++ text).dropWhile isBlank = text.dropWhile isBlank :=
  List.dropWhile_append_of_pos blank

def startsNumber : List Token → Bool
  | .num _ :: _ => true
  | _ => false

/-- A list of tokens that some text lexes to: none of them is broken, and since a number takes all
the digits it can, none follows another without a token between them. -/
def Lexable : List Token → Prop
  | [] => True
  | token :: rest => token.Sound ∧ ((∃ n, token = .num n) → startsNumber rest = false) ∧ Lexable rest

theorem endsNumber_of_blank {c : Char} (blank : isBlank c = true) (rest : List Char) :
    EndsNumber (c :: rest) := by
  intro first isFirst
  cases isFirst
  simp only [isBlank, Bool.or_eq_true, beq_iff_eq] at blank
  rcases blank with ((rfl | rfl) | rfl) | rfl <;> decide

theorem endsNumber_of_tokenText {token : Token} {text : List Char}
    (tokenText : TokenText token text) (other : ∀ n, token ≠ .num n) (rest : List Char) :
    EndsNumber (text ++ rest) := by
  cases tokenText with
  | num => exact absurd rfl (other _)
  | str string =>
      cases string
      intro first isFirst
      cases isFirst
      decide
  | _ =>
      intro first isFirst
      cases isFirst
      decide

theorem endsNumber_of_written {tokens : List Token} {text : List Char}
    (written : Written tokens text) (other : startsNumber tokens = false) : EndsNumber text := by
  cases written with
  | nil blank =>
      cases text with
      | nil => exact fun _ none => by cases none
      | cons c rest => exact endsNumber_of_blank (blank c List.mem_cons_self) rest
  | @cons token tokens gap text rest blank first others =>
      rw [List.append_assoc]
      cases gap with
      | nil =>
          apply endsNumber_of_tokenText first
          rintro n rfl
          cases other
      | cons c gap => exact endsNumber_of_blank (blank c List.mem_cons_self) _

theorem lex_of_written {tokens : List Token} {text : List Char} (written : Written tokens text)
    (lexable : Lexable tokens) : lex text = tokens := by
  induction written with
  | nil blank =>
      have start := dropWhile_blank blank []
      rw [List.append_nil] at start
      exact lex_of_blank start
  | @cons token tokens gap text rest blank first others ih =>
      obtain ⟨-, apart, lexableRest⟩ := lexable
      have ends : ∀ n, token = .num n → EndsNumber rest := fun n same =>
        endsNumber_of_written others (apart ⟨n, same⟩)
      obtain ⟨c, cs, rfl, notBlank, next⟩ := nextToken_of_text first ends
      have start : (gap ++ (c :: cs) ++ rest).dropWhile isBlank = c :: (cs ++ rest) := by
        rw [List.append_assoc, dropWhile_blank blank, List.cons_append, List.dropWhile_cons,
          notBlank]
        rfl
      rw [lex_of_start start, next, ih lexableRest]

theorem written_of_lex {tokens : List Token} {text : List Char} (lexed : lex text = tokens)
    (lexable : Lexable tokens) : Written tokens text := by
  induction tokens generalizing text with
  | nil =>
      cases start : text.dropWhile isBlank with
      | nil => exact .nil (List.dropWhile_eq_nil_iff.mp start)
      | cons c rest =>
          rw [lex_of_start start] at lexed
          cases lexed
  | cons token tokens ih =>
      obtain ⟨sound, -, lexableRest⟩ := lexable
      cases start : text.dropWhile isBlank with
      | nil =>
          rw [lex_of_blank start] at lexed
          cases lexed
      | cons c cs =>
          rw [lex_of_start start] at lexed
          obtain ⟨rfl, lexedRest⟩ := List.cons.inj lexed
          obtain ⟨tokenText, first, whole⟩ := text_of_nextToken rfl sound
          have gap : Blank (text.takeWhile isBlank) := fun c member =>
            List.mem_takeWhile_imp member
          rw [← List.takeWhile_append_dropWhile (p := isBlank) (l := text), start, whole,
            ← List.append_assoc]
          exact .cons gap first (ih lexedRest lexableRest)

theorem lex_eq_iff {tokens : List Token} (lexable : Lexable tokens) (text : List Char) :
    lex text = tokens ↔ Written tokens text :=
  ⟨fun lexed => written_of_lex lexed lexable, fun written => lex_of_written written lexable⟩

end VehicleShow.Json
