import VehicleShow.Proofs.Json.Grammar

/-! # Number tokens are the numbers of the grammar

`lexWhole_of_text` and `text_of_lexWhole` say that a number is lexed from its texts and from nothing
else.  A number takes all the characters that can go on with it, so it is only lexed where what
follows does not (`EndsNumber`). -/
set_option autoImplicit false
namespace VehicleShow

theorem Digit.toChar_of_ofChar? {c : Char} {d : Digit} (read : Digit.ofChar? c = some d) :
    d.toChar = c := by
  rw [Digit.ofChar?] at read
  split at read
  · next range =>
    cases read
    rw [Digit.toChar, Nat.add_sub_cancel' range.1, Char.ofNat_toNat]
  · cases read

namespace Json

def EndsDigits (rest : List Char) : Prop := ∀ c ∈ rest.head?, Digit.ofChar? c = none

def EndsNumber (rest : List Char) : Prop :=
  ∀ c ∈ rest.head?, Digit.ofChar? c = none ∧ c ≠ '.' ∧ c ≠ 'e' ∧ c ≠ 'E'

theorem EndsNumber.endsDigits {rest : List Char} (ends : EndsNumber rest) : EndsDigits rest :=
  fun c first => (ends c first).1

theorem endsDigits_cons {c : Char} (rest : List Char) (other : Digit.ofChar? c = none) :
    EndsDigits (c :: rest) := by
  intro first isFirst
  cases isFirst
  exact other

/-! ## Digits -/

theorem takeDigits_of_text (digits : List Digit) {rest : List Char} (ends : EndsDigits rest) :
    takeDigits (digitsText digits ++ rest) = (digits, rest) := by
  induction digits with
  | nil =>
      cases rest with
      | nil => rfl
      | cons c cs =>
          change takeDigits (c :: cs) = ([], c :: cs)
          rw [takeDigits, ends c rfl]
  | cons d digits ih =>
      change takeDigits (d.toChar :: (digitsText digits ++ rest)) = _
      rw [takeDigits, Digit.ofChar?_toChar]
      dsimp only
      rw [ih]

theorem text_of_takeDigits {cs rest : List Char} {digits : List Digit}
    (taken : takeDigits cs = (digits, rest)) : cs = digitsText digits ++ rest := by
  induction cs generalizing digits with
  | nil =>
      cases taken
      rfl
  | cons c cs ih =>
      rw [takeDigits] at taken
      cases read : Digit.ofChar? c with
      | none =>
          rw [read] at taken
          cases taken
          rfl
      | some d =>
          rw [read] at taken
          dsimp only at taken
          obtain ⟨rfl, rfl⟩ := Prod.mk.inj taken
          rw [digitsText, List.map_cons, List.cons_append, Digit.toChar_of_ofChar? read]
          exact congrArg (c :: ·) (ih rfl)

theorem missingDigit_ne_num (cs : List Char) (n : Numeral) (rest : List Char) :
    missingDigit cs ≠ (.num n, rest) := by
  cases cs <;> exact fun same => by cases same

/-! ## Exponents -/

theorem takeSign_toChar (d : Digit) (cs : List Char) :
    takeSign (d.toChar :: cs) = (false, d.toChar :: cs) := by
  have noSign : ∀ d : Digit, d.toChar ≠ '-' ∧ d.toChar ≠ '+' := by decide
  obtain ⟨noMinus, noPlus⟩ := noSign d
  rw [takeSign.eq_3]
  · intro _ same
    exact noMinus (List.cons.inj same).1
  · intro _ same
    exact noPlus (List.cons.inj same).1

theorem takeSign_of_text {negative : Bool} {sign : List Char} (signText : SignText negative sign)
    {digits : List Digit} (some : digits ≠ []) (rest : List Char) :
    takeSign (sign ++ (digitsText digits ++ rest)) = (negative, digitsText digits ++ rest) := by
  cases signText with
  | plus => rfl
  | minus => rfl
  | absent =>
      obtain ⟨d, others, rfl⟩ := List.exists_cons_of_ne_nil some
      exact takeSign_toChar d (digitsText others ++ rest)

theorem text_of_takeSign (cs : List Char) :
    ∃ sign, SignText (takeSign cs).1 sign ∧ cs = sign ++ (takeSign cs).2 := by
  rw [takeSign.eq_def]
  split
  · exact ⟨_, .minus, rfl⟩
  · exact ⟨_, .plus, rfl⟩
  · exact ⟨_, .absent, rfl⟩

theorem lexExponent_of_text {n : Numeral} {value : Option Int} {text rest : List Char}
    (exponentText : ExponentText value text) (ends : EndsNumber rest) (plain : n.exponent = none) :
    lexExponent n (text ++ rest) = (.num { n with exponent := value }, rest) := by
  cases exponentText with
  | absent =>
      have same : { n with exponent := none } = n := by rw [← plain]
      rw [List.nil_append, same]
      cases rest with
      | nil => rfl
      | cons c cs =>
          obtain ⟨-, -, noSmall, noLarge⟩ := ends c rfl
          simp [lexExponent, noSmall, noLarge]
  | @present mark negative sign digits marked signText some =>
      have isMark : (mark == 'e' || mark == 'E') = true := by
        rcases marked with rfl | rfl <;> rfl
      obtain ⟨d, others, rfl⟩ := List.exists_cons_of_ne_nil some
      rw [List.cons_append, lexExponent, if_pos isMark, List.append_assoc,
        takeSign_of_text signText some rest]
      dsimp only
      rw [takeDigits_of_text _ ends.endsDigits]

theorem text_of_lexExponent {n found : Numeral} {cs rest : List Char}
    (lexed : lexExponent n cs = (.num found, rest)) (plain : n.exponent = none) :
    ∃ text, ExponentText found.exponent text ∧ cs = text ++ rest ∧
      found = { n with exponent := found.exponent } := by
  rw [lexExponent.eq_def] at lexed
  split at lexed
  · next c cs =>
    split at lexed
    · next isMark =>
      obtain ⟨sign, signText, whole⟩ := text_of_takeSign cs
      dsimp only at lexed
      split at lexed
      · exact absurd lexed (missingDigit_ne_num _ _ _)
      · next digits left some taken =>
        cases lexed
        have marked : c = 'e' ∨ c = 'E' := by simpa using isMark
        refine ⟨_, .present marked signText some, ?_, rfl⟩
        rw [List.cons_append, List.append_assoc, ← text_of_takeDigits taken, ← whole]
    · cases lexed
      rw [plain]
      exact ⟨[], .absent, rfl, by rw [← plain]⟩
  · cases lexed
    rw [plain]
    exact ⟨[], .absent, rfl, by rw [← plain]⟩

/-! ## Fractions -/

theorem endsDigits_of_exponentText {value : Option Int} {text rest : List Char}
    (exponentText : ExponentText value text) (ends : EndsNumber rest) :
    EndsDigits (text ++ rest) := by
  cases exponentText with
  | absent => exact ends.endsDigits
  | present marked => exact endsDigits_cons _ (by rcases marked with rfl | rfl <;> rfl)

theorem lexFraction_of_text {n : Numeral} {digits : List Digit} {value : Option Int}
    {fraction exponent rest : List Char} (fractionText : FractionText digits fraction)
    (exponentText : ExponentText value exponent) (ends : EndsNumber rest)
    (noFraction : n.fraction = []) (plain : n.exponent = none) :
    lexFraction n (fraction ++ (exponent ++ rest)) =
      (.num { n with fraction := digits, exponent := value }, rest) := by
  cases fractionText with
  | absent =>
      have noPoint : ∀ cs, exponent ++ rest ≠ '.' :: cs := by
        intro cs same
        cases exponentText with
        | absent =>
            rw [List.nil_append] at same
            exact (ends '.' (by rw [same]; rfl)).2.1 rfl
        | present marked =>
            rcases marked with rfl | rfl <;> cases same
      have same : { n with fraction := [], exponent := value } = { n with exponent := value } := by
        rw [← noFraction]
      rw [List.nil_append, lexFraction.eq_2 _ _ noPoint, lexExponent_of_text exponentText ends plain,
        same]
  | present some =>
      obtain ⟨d, others, rfl⟩ := List.exists_cons_of_ne_nil some
      rw [List.cons_append, lexFraction,
        takeDigits_of_text _ (endsDigits_of_exponentText exponentText ends)]
      exact lexExponent_of_text exponentText ends plain

theorem text_of_lexFraction {n found : Numeral} {cs rest : List Char}
    (lexed : lexFraction n cs = (.num found, rest)) (noFraction : n.fraction = [])
    (plain : n.exponent = none) :
    ∃ fraction exponent, FractionText found.fraction fraction ∧
      ExponentText found.exponent exponent ∧ cs = fraction ++ (exponent ++ rest) ∧
      found = { n with fraction := found.fraction, exponent := found.exponent } := by
  rw [lexFraction.eq_def] at lexed
  split at lexed
  · next cs =>
    split at lexed
    · exact absurd lexed (missingDigit_ne_num _ _ _)
    · next digits left some taken =>
      obtain ⟨exponent, exponentText, whole, same⟩ := text_of_lexExponent lexed plain
      have fractionSame : found.fraction = digits := by rw [same]
      rw [fractionSame]
      refine ⟨_, exponent, .present some, exponentText, ?_, ?_⟩
      · rw [List.cons_append, ← whole, ← text_of_takeDigits taken]
      · rw [same]
  · obtain ⟨exponent, exponentText, whole, same⟩ := text_of_lexExponent lexed plain
    have fractionSame : found.fraction = [] := by rw [same, noFraction]
    rw [fractionSame]
    refine ⟨[], exponent, .absent, exponentText, whole, ?_⟩
    rw [same, ← noFraction]

/-! ## Numbers -/

theorem endsDigits_of_fractionText {digits : List Digit} {value : Option Int}
    {fraction exponent rest : List Char} (fractionText : FractionText digits fraction)
    (exponentText : ExponentText value exponent) (ends : EndsNumber rest) :
    EndsDigits (fraction ++ (exponent ++ rest)) := by
  cases fractionText with
  | absent =>
      rw [List.nil_append]
      exact endsDigits_of_exponentText exponentText ends
  | present => exact endsDigits_cons _ rfl

theorem lexWhole_of_text {n : Numeral} {fraction exponent rest : List Char}
    (wellFormed : n.WellFormed) (fractionText : FractionText n.fraction fraction)
    (exponentText : ExponentText n.exponent exponent) (ends : EndsNumber rest) :
    lexWhole n.negative (digitsText n.whole ++ (fraction ++ (exponent ++ rest))) =
      (.num n, rest) := by
  obtain ⟨first, others, whole, alone⟩ := wellFormed
  have noLeadingZero : ¬ (first.val == 0 && !others.isEmpty) = true := by
    intro both
    obtain ⟨zero, more⟩ := Bool.and_eq_true_iff.mp both
    rw [alone (beq_iff_eq.mp zero)] at more
    exact absurd more (by decide)
  rw [lexWhole, takeDigits_of_text _ (endsDigits_of_fractionText fractionText exponentText ends),
    whole]
  dsimp only
  rw [if_neg noLeadingZero, lexFraction_of_text fractionText exponentText ends rfl rfl, ← whole]

theorem text_of_lexWhole {negative : Bool} {n : Numeral} {cs rest : List Char}
    (lexed : lexWhole negative cs = (.num n, rest)) :
    n.negative = negative ∧ n.WellFormed ∧ ∃ fraction exponent,
      FractionText n.fraction fraction ∧ ExponentText n.exponent exponent ∧
        cs = digitsText n.whole ++ (fraction ++ (exponent ++ rest)) := by
  rw [lexWhole.eq_def] at lexed
  split at lexed
  · exact absurd lexed (missingDigit_ne_num _ _ _)
  · next first others left taken =>
    split at lexed
    · cases lexed
    · next noLeadingZero =>
      obtain ⟨fraction, exponent, fractionText, exponentText, text, same⟩ :=
        text_of_lexFraction lexed rfl rfl
      have whole : n.whole = first :: others := by rw [same]
      refine ⟨by rw [same], ⟨first, others, whole, ?_⟩, fraction, exponent, fractionText,
        exponentText, ?_⟩
      · intro zero
        simpa [zero] using noLeadingZero
      · rw [whole, ← text]
        exact text_of_takeDigits taken

end Json
end VehicleShow
