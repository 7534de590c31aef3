import VehicleShow.Json.Token

/-! # From text to tokens

`lex` cuts a text into tokens and stops at the first place where no token can be formed.  A number is
lexed part by part, each part taking its characters and handing on the rest; `stringStep` says what
the text of a string offers next, and `lexString` takes steps until the string ends.  No step leaves
more text than it was given. -/
set_option autoImplicit false
namespace VehicleShow.Json

/-! ## Numbers -/

def takeDigits : List Char → List Digit × List Char
  | [] => ([], [])
  | c :: cs =>
      match Digit.ofChar? c with
      | some d => (d :: (takeDigits cs).1, (takeDigits cs).2)
      | none => ([], c :: cs)

/-- A digit is missing: reading blames the end of the text if it ends here, skipping does not. -/
def missingDigit : List Char → Token × List Char
  | [] => (.broken false .truncated .malformed, [])
  | _ :: _ => (.broken false .malformed .malformed, [])

def takeSign : List Char → Bool × List Char
  | '-' :: cs => (true, cs)
  | '+' :: cs => (false, cs)
  | cs => (false, cs)

def signed (negative : Bool) (digits : List Digit) : Int :=
  if negative then - Int.ofNat (Digit.value digits) else Int.ofNat (Digit.value digits)

def lexExponent (n : Numeral) : List Char → Token × List Char
  | c :: cs =>
      if c == 'e' || c == 'E' then
        let (negative, afterSign) := takeSign cs
        match takeDigits afterSign with
        | ([], rest) => missingDigit rest
        | (digits, rest) => (.num { n with exponent := some (signed negative digits) }, rest)
      else (.num n, c :: cs)
  | [] => (.num n, [])

def lexFraction (n : Numeral) : List Char → Token × List Char
  | '.' :: cs =>
      match takeDigits cs with
      | ([], rest) => missingDigit rest
      | (digits, rest) => lexExponent { n with fraction := digits } rest
  | cs => lexExponent n cs

def lexWhole (negative : Bool) (cs : List Char) : Token × List Char :=
  match takeDigits cs with
  | ([], rest) => missingDigit rest
  | (first :: digits, rest) =>
      if first.val == 0 && !digits.isEmpty then (.broken false .malformed .malformed, [])
      else lexFraction ⟨negative, first :: digits, [], none⟩ rest

/-! ## Every part leaves no more than it got -/

theorem takeDigits_length (cs : List Char) : (takeDigits cs).2.length ≤ cs.length := by
  fun_induction takeDigits cs with
  | case1 => simp
  | case2 c cs d h ih => simp only [List.length_cons]; omega
  | case3 => simp

theorem missingDigit_length (cs : List Char) : (missingDigit cs).2.length ≤ cs.length := by
  cases cs <;> simp [missingDigit]

theorem takeSign_length (cs : List Char) : (takeSign cs).2.length ≤ cs.length := by
  unfold takeSign
  split <;> simp

theorem lexExponent_length (n : Numeral) (cs : List Char) :
    (lexExponent n cs).2.length ≤ cs.length := by
  unfold lexExponent
  split
  · next c cs =>
    split
    · have sign := takeSign_length cs
      have digits := takeDigits_length (takeSign cs).2
      simp only [List.length_cons]
      split
      · next rest h =>
        rw [h] at digits
        have := missingDigit_length rest
        simp only at digits
        omega
      · next h =>
        rw [h] at digits
        simp only at digits ⊢
        omega
    · simp
  · simp

theorem lexFraction_length (n : Numeral) (cs : List Char) :
    (lexFraction n cs).2.length ≤ cs.length := by
  unfold lexFraction
  split
  · next cs =>
    have digits := takeDigits_length cs
    simp only [List.length_cons]
    split
    · next rest h =>
      rw [h] at digits
      have := missingDigit_length rest
      simp only at digits
      omega
    · next ds rest _ h =>
      rw [h] at digits
      have := lexExponent_length { n with fraction := ds } rest
      simp only at digits
      omega
  · exact lexExponent_length n cs

theorem lexWhole_length (negative : Bool) (cs : List Char) :
    (lexWhole negative cs).2.length ≤ cs.length := by
  have digits := takeDigits_length cs
  unfold lexWhole
  split
  · next rest h =>
    rw [h] at digits
    exact Nat.le_trans (missingDigit_length rest) digits
  · next first ds rest h =>
    rw [h] at digits
    split
    · simp
    · exact Nat.le_trans (lexFraction_length _ rest) digits

theorem takeDigits_cons_shorter {c : Char} (cs : List Char) (h : (Digit.ofChar? c).isSome) :
    (takeDigits (c :: cs)).2.length ≤ cs.length := by
  obtain ⟨d, hd⟩ := Option.isSome_iff_exists.mp h
  have := takeDigits_length cs
  simpa [takeDigits, hd] using this

theorem lexWhole_cons_shorter {c : Char} {cs : List Char} (negative : Bool)
    (h : (Digit.ofChar? c).isSome) : (lexWhole negative (c :: cs)).2.length ≤ cs.length := by
  have digits := takeDigits_cons_shorter cs h
  unfold lexWhole
  split
  · next rest hd =>
    rw [hd] at digits
    exact Nat.le_trans (missingDigit_length rest) digits
  · next first ds rest hd =>
    rw [hd] at digits
    split
    · simp
    · exact Nat.le_trans (lexFraction_length _ rest) digits

/-! ## Strings -/

inductive StringStep where
  | closing (rest : List Char)
  | char (c : Char) (rest : List Char)
  | unpaired (rest : List Char)
  | fault (fault : Fault)

def hexDigit? (c : Char) : Option Nat :=
  if '0' ≤ c ∧ c ≤ '9' then some (c.toNat - 48)
  else if 'a' ≤ c ∧ c ≤ 'f' then some (c.toNat - 87)
  else if 'A' ≤ c ∧ c ≤ 'F' then some (c.toNat - 55)
  else none

def hexUnit? (a b c d : Char) : Option Nat := do
  return ((← hexDigit? a) * 16 + (← hexDigit? b)) * 256
    + ((← hexDigit? c) * 16 + (← hexDigit? d))

def utf8Length (cs : List Char) : Nat := cs.foldl (fun n c => n + c.utf8Size) 0

/-- Four hexadecimal digits. A text with fewer than four bytes left ends too early, whatever those
bytes are. -/
def takeUnit (cs : List Char) : Except Fault (Nat × List Char) :=
  if utf8Length (cs.take 4) < 4 then .error .truncated
  else
    match cs with
    | a :: b :: c :: d :: rest =>
        match hexUnit? a b c d with
        | some n => .ok (n, rest)
        | none => .error .malformed
    | _ => .error .malformed

def isHighSurrogate (n : Nat) : Bool := 0xD800 ≤ n && n ≤ 0xDBFF
def isLowSurrogate (n : Nat) : Bool := 0xDC00 ≤ n && n ≤ 0xDFFF

def pairedChar (high low : Nat) : Char :=
  Char.ofNat ((high - 0xD800) * 0x400 + (low - 0xDC00) + 0x10000)

/-- After a high surrogate: its low half must follow as the very next escape. -/
def lowHalf (high : Nat) (cs : List Char) : StringStep :=
  match cs with
  | [] => .fault .truncated
  | ['\\'] => .fault .truncated
  | '\\' :: 'u' :: more =>
      match takeUnit more with
      | .error fault => .fault fault
      | .ok (low, rest) =>
          if isLowSurrogate low then .char (pairedChar high low) rest else .unpaired cs
  | _ => .unpaired cs

def unitStep (cs : List Char) : StringStep :=
  match takeUnit cs with
  | .error fault => .fault fault
  | .ok (unit, rest) =>
      if isHighSurrogate unit then lowHalf unit rest
      else if isLowSurrogate unit then .unpaired rest
      else .char (Char.ofNat unit) rest

def escapeStep : List Char → StringStep
  | [] => .fault .truncated
  | c :: cs =>
      match c with
      | '"' => .char '"' cs
      | '\\' => .char '\\' cs
      | '/' => .char '/' cs
      | 'b' => .char '\x08' cs
      | 'f' => .char '\x0c' cs
      | 'n' => .char '\n' cs
      | 'r' => .char '\r' cs
      | 't' => .char '\t' cs
      | 'u' => unitStep cs
      | _ => .fault .malformed

def stringStep : List Char → StringStep
  | [] => .fault .truncated
  | c :: cs =>
      if c == '"' then .closing cs
      else if c == '\\' then escapeStep cs
      else if c.toNat < 0x20 then .fault .malformed
      else .char c cs

/-! ## Every step leaves a shorter text -/

theorem length_of_takeUnit {cs rest : List Char} {n : Nat} (h : takeUnit cs = .ok (n, rest)) :
    rest.length < cs.length := by
  unfold takeUnit at h
  split at h
  · cases h
  · split at h
    · split at h
      · cases h; simp only [List.length_cons]; omega
      · cases h
    · cases h

def StringStep.Within (n : Nat) : StringStep → Prop
  | .closing rest | .char _ rest | .unpaired rest => rest.length ≤ n
  | .fault _ => True

theorem StringStep.Within.mono {n m : Nat} {step : StringStep} (h : step.Within n) (le : n ≤ m) :
    step.Within m := by
  cases step <;> simp_all [StringStep.Within] <;> omega

theorem lowHalf_within (high : Nat) (cs : List Char) : (lowHalf high cs).Within cs.length := by
  unfold lowHalf
  split
  · trivial
  · trivial
  · next more =>
    split
    · trivial
    · next low rest h =>
      have := length_of_takeUnit h
      split <;> simp only [StringStep.Within, List.length_cons] <;> omega
  · simp [StringStep.Within]

theorem unitStep_within (cs : List Char) : (unitStep cs).Within cs.length := by
  unfold unitStep
  split
  · trivial
  · next unit rest h =>
    have := length_of_takeUnit h
    split
    · exact (lowHalf_within _ _).mono (by omega)
    · split <;> simp only [StringStep.Within] <;> omega

theorem escapeStep_within (cs : List Char) : (escapeStep cs).Within cs.length := by
  unfold escapeStep
  split
  · trivial
  · split
    case h_9 => exact (unitStep_within _).mono (by simp)
    all_goals simp [StringStep.Within]

theorem stringStep_within (c : Char) (cs : List Char) :
    (stringStep (c :: cs)).Within cs.length := by
  simp only [stringStep]
  split
  · simp [StringStep.Within]
  · split
    · exact escapeStep_within cs
    · split <;> simp [StringStep.Within]

theorem stringStep_shorter {cs rest : List Char}
    (h : stringStep cs = .closing rest ∨ (∃ c, stringStep cs = .char c rest) ∨
      stringStep cs = .unpaired rest) : rest.length < cs.length := by
  cases cs with
  | nil => simp [stringStep] at h
  | cons c cs =>
    have within := stringStep_within c cs
    rcases h with h | ⟨_, h⟩ | h <;> rw [h] at within <;>
      simp only [StringStep.Within, List.length_cons] at within ⊢ <;> omega

/-! ## Whole strings -/

/-- The rest of a string after its opening quote. `content` holds the characters so far, last first;
it is `none` once a surrogate without its partner has been met, and from then on reading is at fault
whatever follows. -/
def lexString (content : Option (List Char)) (cs : List Char) : Token × List Char :=
  match _next : stringStep cs with
  | .closing rest => (.str (content.map fun cs => String.ofList cs.reverse), rest)
  | .char c rest => lexString (content.map (c :: ·)) rest
  | .unpaired rest => lexString none rest
  | .fault fault => (.broken true (if content.isSome then fault else .malformed) fault, [])
termination_by cs.length
decreasing_by
  · exact stringStep_shorter (.inr (.inl ⟨_, _next⟩))
  · exact stringStep_shorter (.inr (.inr _next))

theorem lexString_length (content : Option (List Char)) (cs : List Char) :
    (lexString content cs).2.length ≤ cs.length := by
  fun_induction lexString content cs with
  | case1 content cs rest h => exact Nat.le_of_lt (stringStep_shorter (.inl h))
  | case2 content cs c rest h ih =>
    exact Nat.le_trans ih (Nat.le_of_lt (stringStep_shorter (.inr (.inl ⟨_, h⟩))))
  | case3 content cs rest h ih =>
    exact Nat.le_trans ih (Nat.le_of_lt (stringStep_shorter (.inr (.inr h))))
  | case4 => simp

/-! ## Whole texts -/

def isBlank (c : Char) : Bool := c == ' ' || c == '\t' || c == '\n' || c == '\r'

def word (token : Token) : List Char → List Char → Token × List Char
  | [], rest => (token, rest)
  | _ :: _, [] => (.broken false .truncated .truncated, [])
  | e :: es, c :: cs =>
      if c == e then word token es cs else (.broken false .malformed .malformed, [])

def nextToken (c : Char) (cs : List Char) : Token × List Char :=
  match c with
  | '{' => (.opening .curly, cs)
  | '}' => (.closing .curly, cs)
  | '[' => (.opening .square, cs)
  | ']' => (.closing .square, cs)
  | ',' => (.comma, cs)
  | ':' => (.colon, cs)
  | '"' => lexString (some []) cs
  | 'n' => word .null ['u', 'l', 'l'] cs
  | 't' => word (.bool true) ['r', 'u', 'e'] cs
  | 'f' => word (.bool false) ['a', 'l', 's', 'e'] cs
  | '-' => lexWhole true cs
  | _ =>
      if (Digit.ofChar? c).isSome then lexWhole false (c :: cs)
      else (.broken false .malformed .malformed, [])

theorem word_length (token : Token) (expected cs : List Char) :
    (word token expected cs).2.length ≤ cs.length := by
  fun_induction word token expected cs with
  | case1 => simp
  | case2 => simp
  | case3 e es c cs hc ih => simp only [List.length_cons]; omega
  | case4 => simp

theorem nextToken_length (c : Char) (cs : List Char) :
    (nextToken c cs).2.length ≤ cs.length := by
  unfold nextToken
  split <;> try simp only [Nat.le_refl]
  · exact lexString_length _ _
  · exact word_length _ _ _
  · exact word_length _ _ _
  · exact word_length _ _ _
  · exact lexWhole_length _ _
  · split
    · next h => exact lexWhole_cons_shorter false h
    · simp

/-- The tokens of a text, up to and including the first broken one. -/
def lex (cs : List Char) : List Token :=
  match _start : cs.dropWhile isBlank with
  | [] => []
  | c :: rest => (nextToken c rest).1 :: lex (nextToken c rest).2
termination_by cs.length
decreasing_by
  have shorter := nextToken_length c rest
  have blanks := (@List.dropWhile_suffix Char cs isBlank).length_le
  rw [_start, List.length_cons] at blanks
  omega

end VehicleShow.Json
