import VehicleShow.Proofs.Json.Grammar

/-! # String tokens are the strings of the grammar

One step of a string takes off a text of one character (`stringStep_of_text`, `text_of_stringStep`),
so a whole string is lexed from its texts and from nothing else. -/
set_option autoImplicit false
namespace VehicleShow.Json

/-! ## Codes of four digits -/

theorem hexDigit?_lt {c : Char} {n : Nat} (read : hexDigit? c = some n) : n < 16 := by
  rw [hexDigit?] at read
  simp only [Char.le_def, UInt32.le_iff_toNat_le] at read
  have nine : ('9' : Char).val.toNat = 57 := rfl
  have small : ('f' : Char).val.toNat = 102 := rfl
  have large : ('F' : Char).val.toNat = 70 := rfl
  have value : c.toNat = c.val.toNat := rfl
  split at read
  · cases read
    omega
  · split at read
    · cases read
      omega
    · split at read
      · cases read
        omega
      · cases read

theorem hexUnit?_lt {a b c d : Char} {unit : Nat} (read : hexUnit? a b c d = some unit) :
    unit < 0x10000 := by
  simp only [hexUnit?, Option.bind_eq_bind, Option.bind_eq_some_iff, Option.pure_def,
    Option.some.injEq] at read
  obtain ⟨first, readFirst, second, readSecond, third, readThird, fourth, readFourth, rfl⟩ := read
  have := hexDigit?_lt readFirst
  have := hexDigit?_lt readSecond
  have := hexDigit?_lt readThird
  have := hexDigit?_lt readFourth
  omega

theorem UnitText.lt {unit : Nat} {digits : List Char} (code : UnitText unit digits) :
    unit < 0x10000 := by
  obtain ⟨value⟩ := code
  exact hexUnit?_lt value

theorem takeUnit_of_text {unit : Nat} {digits : List Char} (code : UnitText unit digits)
    (rest : List Char) : takeUnit (digits ++ rest) = .ok (unit, rest) := by
  cases code with
  | @mk a b c d _ value =>
      have long : ¬ utf8Length [a, b, c, d] < 4 := by
        have := a.utf8Size_pos
        have := b.utf8Size_pos
        have := c.utf8Size_pos
        have := d.utf8Size_pos
        simp only [utf8Length, List.foldl_cons, List.foldl_nil]
        omega
      change takeUnit (a :: b :: c :: d :: rest) = _
      rw [takeUnit, List.take_succ_cons, List.take_succ_cons, List.take_succ_cons,
        List.take_succ_cons, List.take_zero, if_neg long, value]

theorem text_of_takeUnit {cs rest : List Char} {unit : Nat}
    (taken : takeUnit cs = .ok (unit, rest)) :
    ∃ digits, UnitText unit digits ∧ cs = digits ++ rest := by
  rw [takeUnit.eq_def] at taken
  split at taken
  · cases taken
  · split at taken
    · next a b c d more _ =>
      split at taken
      · next n value =>
        cases taken
        exact ⟨[a, b, c, d], .mk value, rfl⟩
      · cases taken
    · cases taken

/-! ## Surrogates -/

theorem toNat_ofNat_of_unit {unit : Nat} (small : unit < 0x10000)
    (notHigh : isHighSurrogate unit = false) (notLow : isLowSurrogate unit = false) :
    (Char.ofNat unit).toNat = unit := by
  have valid : unit.isValidChar := by
    simp only [isHighSurrogate, isLowSurrogate, Bool.and_eq_false_iff, decide_eq_false_iff_not]
      at notHigh notLow
    simp only [Nat.isValidChar]
    omega
  rw [Char.ofNat, dif_pos valid]
  rfl

theorem not_surrogate (c : Char) :
    isHighSurrogate c.toNat = false ∧ isLowSurrogate c.toNat = false := by
  have valid : c.toNat.isValidChar := c.valid
  simp only [Nat.isValidChar] at valid
  simp only [isHighSurrogate, isLowSurrogate, Bool.and_eq_false_iff, decide_eq_false_iff_not]
  omega

theorem toNat_pairedChar {high low : Nat} (isHigh : isHighSurrogate high = true)
    (isLow : isLowSurrogate low = true) :
    (pairedChar high low).toNat = 0x10000 + (high - 0xD800) * 0x400 + (low - 0xDC00) := by
  simp only [isHighSurrogate, isLowSurrogate, Bool.and_eq_true, decide_eq_true_eq]
    at isHigh isLow
  have valid : ((high - 0xD800) * 0x400 + (low - 0xDC00) + 0x10000).isValidChar := by
    simp only [Nat.isValidChar]
    omega
  rw [pairedChar, Char.ofNat, dif_pos valid]
  change (high - 0xD800) * 0x400 + (low - 0xDC00) + 0x10000 = _
  omega

/-! ## Steps -/

theorem unitStep_of_unit {c : Char} {digits : List Char} (code : UnitText c.toNat digits)
    (rest : List Char) : unitStep (digits ++ rest) = .char c rest := by
  obtain ⟨notHigh, notLow⟩ := not_surrogate c
  rw [unitStep, takeUnit_of_text code rest]
  dsimp only
  rw [notHigh, notLow, Char.ofNat_toNat]
  rfl

theorem unitStep_of_pair {c : Char} {high low : Nat} {highDigits lowDigits : List Char}
    (isHigh : isHighSurrogate high = true) (isLow : isLowSurrogate low = true)
    (highText : UnitText high highDigits) (lowText : UnitText low lowDigits)
    (code : c.toNat = 0x10000 + (high - 0xD800) * 0x400 + (low - 0xDC00)) (rest : List Char) :
    unitStep (highDigits ++ '\\' :: 'u' :: (lowDigits ++ rest)) = .char c rest := by
  have same : pairedChar high low = c :=
    Char.toNat_inj.mp ((toNat_pairedChar isHigh isLow).trans code.symm)
  rw [unitStep, takeUnit_of_text highText]
  dsimp only
  rw [if_pos isHigh, lowHalf, takeUnit_of_text lowText]
  dsimp only
  rw [if_pos isLow, same]

theorem stringStep_of_text {c : Char} {text : List Char} (charText : CharText c text)
    (rest : List Char) : stringStep (text ++ rest) = .char c rest := by
  cases charText with
  | plain noQuote noBackslash noControl =>
      simp [stringStep, noQuote, noBackslash, Nat.not_lt.mpr noControl]
  | letter listed =>
      simp only [letterEscapes, List.mem_cons, List.not_mem_nil, or_false, Prod.mk.injEq] at listed
      rcases listed with ⟨rfl, rfl⟩ | ⟨rfl, rfl⟩ | ⟨rfl, rfl⟩ | ⟨rfl, rfl⟩ | ⟨rfl, rfl⟩ |
        ⟨rfl, rfl⟩ | ⟨rfl, rfl⟩ | ⟨rfl, rfl⟩ <;> rfl
  | unit code => exact unitStep_of_unit code rest
  | pair isHigh isLow highText lowText code =>
      rw [List.cons_append, List.cons_append, List.append_assoc]
      exact unitStep_of_pair isHigh isLow highText lowText code rest

theorem text_of_unitStep {cs rest : List Char} {c : Char} (step : unitStep cs = .char c rest) :
    ∃ digits, CharText c ('\\' :: 'u' :: digits) ∧ cs = digits ++ rest := by
  rw [unitStep] at step
  split at step
  · cases step
  · next unit left taken =>
    obtain ⟨digits, code, rfl⟩ := text_of_takeUnit taken
    split at step
    · next isHigh =>
      rw [lowHalf.eq_def] at step
      split at step
      · cases step
      · cases step
      · next more =>
        split at step
        · cases step
        · next low after takenLow =>
          obtain ⟨lowDigits, lowCode, rfl⟩ := text_of_takeUnit takenLow
          split at step
          · next isLow =>
            obtain ⟨rfl, rfl⟩ := StringStep.char.inj step
            refine ⟨digits ++ '\\' :: 'u' :: lowDigits, ?_, ?_⟩
            · exact .pair isHigh isLow code lowCode (toNat_pairedChar isHigh isLow)
            · rw [List.append_assoc, List.cons_append, List.cons_append]
          · cases step
      · cases step
    · next notHigh =>
      split at step
      · cases step
      · next notLow =>
        cases step
        refine ⟨digits, .unit ?_, rfl⟩
        rw [toNat_ofNat_of_unit code.lt (Bool.eq_false_iff.mpr notHigh)
          (Bool.eq_false_iff.mpr notLow)]
        exact code

theorem text_of_escapeStep {cs rest : List Char} {c : Char} (step : escapeStep cs = .char c rest) :
    ∃ text, CharText c ('\\' :: text) ∧ cs = text ++ rest := by
  rw [escapeStep.eq_def] at step
  split at step
  · cases step
  · next letter cs =>
    split at step
    case h_9 =>
      obtain ⟨digits, charText, whole⟩ := text_of_unitStep step
      exact ⟨'u' :: digits, charText, congrArg _ whole⟩
    case h_10 => cases step
    all_goals
      cases step
      exact ⟨[_], .letter (by decide), rfl⟩

theorem text_of_stringStep {cs rest : List Char} {c : Char} (step : stringStep cs = .char c rest) :
    ∃ text, CharText c text ∧ cs = text ++ rest := by
  rw [stringStep.eq_def] at step
  split at step
  · cases step
  · next first cs =>
    split at step
    · cases step
    · next noQuote =>
      split at step
      · next backslash =>
        obtain ⟨text, charText, whole⟩ := text_of_escapeStep step
        rw [beq_iff_eq.mp backslash, whole]
        exact ⟨'\\' :: text, charText, rfl⟩
      · next noBackslash =>
        split at step
        · cases step
        · next noControl =>
          cases step
          exact ⟨[c], .plain (by simpa using noQuote) (by simpa using noBackslash)
            (Nat.not_lt.mp noControl), rfl⟩

theorem unitStep_ne_closing (cs rest : List Char) : unitStep cs ≠ .closing rest := by
  intro step
  rw [unitStep] at step
  split at step
  · cases step
  · split at step
    · rw [lowHalf.eq_def] at step
      split at step
      · cases step
      · cases step
      · split at step
        · cases step
        · split at step <;> cases step
      · cases step
    · split at step <;> cases step

theorem escapeStep_ne_closing (cs rest : List Char) : escapeStep cs ≠ .closing rest := by
  intro step
  rw [escapeStep.eq_def] at step
  split at step
  · cases step
  · split at step
    case h_9 => exact unitStep_ne_closing _ _ step
    all_goals cases step

theorem closing_of_stringStep {cs rest : List Char} (step : stringStep cs = .closing rest) :
    cs = '"' :: rest := by
  rw [stringStep.eq_def] at step
  split at step
  · cases step
  · split at step
    · next quote =>
      cases step
      rw [beq_iff_eq.mp quote]
    · split at step
      · exact absurd step (escapeStep_ne_closing _ _)
      · split at step <;> cases step

/-! ## Whole strings -/

theorem lexString_of_closing {cs rest : List Char} (content : Option (List Char))
    (step : stringStep cs = .closing rest) :
    lexString content cs = (.str (content.map fun cs => String.ofList cs.reverse), rest) := by
  rw [lexString]
  split <;> rename_i other <;> rw [step] at other <;> cases other
  rfl

theorem lexString_of_char {cs rest : List Char} {c : Char} (content : Option (List Char))
    (step : stringStep cs = .char c rest) :
    lexString content cs = lexString (content.map (c :: ·)) rest := by
  rw [lexString]
  split <;> rename_i other <;> rw [step] at other <;> cases other
  rfl

theorem lexString_of_text {cs inside : List Char} (chars : CharsText cs inside)
    (before rest : List Char) :
    lexString (some before) (inside ++ '"' :: rest) =
      (.str (some (String.ofList (before.reverse ++ cs))), rest) := by
  induction chars generalizing before with
  | nil =>
      rw [List.append_nil]
      exact lexString_of_closing (some before) rfl
  | cons first others ih =>
      rw [List.append_assoc, lexString_of_char (some before) (stringStep_of_text first _),
        Option.map_some, ih, List.reverse_cons, List.append_assoc]
      rfl

theorem text_of_lexString {content : Option (List Char)} {found : String} {cs rest : List Char}
    (lexed : lexString content cs = (.str (some found), rest)) :
    ∃ before chars inside, content = some before ∧ CharsText chars inside ∧
      cs = inside ++ '"' :: rest ∧ found = String.ofList (before.reverse ++ chars) := by
  fun_induction lexString content cs with
  | case1 content cs left step =>
      cases content with
      | none => cases lexed
      | some before =>
          cases lexed
          refine ⟨before, [], [], rfl, .nil, closing_of_stringStep step, ?_⟩
          rw [List.append_nil]
  | case2 content cs c left step ih =>
      obtain ⟨earlier, chars, inside, mapped, charsText, whole, same⟩ := ih lexed
      obtain ⟨before, rfl, rfl⟩ := Option.map_eq_some_iff.mp mapped
      obtain ⟨text, charText, rfl⟩ := text_of_stringStep step
      refine ⟨before, c :: chars, text ++ inside, rfl, .cons charText charsText, ?_, ?_⟩
      · rw [whole, List.append_assoc]
      · rw [same, List.reverse_cons, List.append_assoc]
        rfl
  | case3 content cs left step ih =>
      obtain ⟨before, -, -, absent, -⟩ := ih lexed
      cases absent
  | case4 => cases lexed

end VehicleShow.Json
