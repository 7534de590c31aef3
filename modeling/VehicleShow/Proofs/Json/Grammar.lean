import VehicleShow.Json.Reader

/-! # The grammar of JSON texts

What the texts of a value are, told without any reader: a value has a list of tokens
(`Json.tokens`), each token has its texts (`TokenText`), and blanks may stand before, between and
after them (`Written`).  Only numbers and strings have more than one text.  `IsJson` adds the two
bounds that a text has to keep: how deep its brackets nest, and the range of its numbers. -/
set_option autoImplicit false
namespace VehicleShow

namespace Json

/-! ## Numbers -/

/-- At least one digit before the point, and no zero before another digit. -/
def Numeral.WellFormed (n : Numeral) : Prop :=
  ∃ first rest, n.whole = first :: rest ∧ (first.val = 0 → rest = [])

def digitsText (digits : List Digit) : List Char := digits.map Digit.toChar

def minusText (negative : Bool) : List Char := if negative then ['-'] else []

inductive FractionText : List Digit → List Char → Prop
  | absent : FractionText [] []
  | present {digits : List Digit} (some : digits ≠ []) :
      FractionText digits ('.' :: digitsText digits)

inductive SignText : Bool → List Char → Prop
  | absent : SignText false []
  | plus : SignText false ['+']
  | minus : SignText true ['-']

inductive ExponentText : Option Int → List Char → Prop
  | absent : ExponentText none []
  | present {mark : Char} {negative : Bool} {sign : List Char} {digits : List Digit}
      (marked : mark = 'e' ∨ mark = 'E') (signText : SignText negative sign)
      (some : digits ≠ []) :
      ExponentText (Option.some (signed negative digits)) (mark :: (sign ++ digitsText digits))

inductive NumeralText : Numeral → List Char → Prop
  | mk {n : Numeral} {fraction exponent : List Char} (wellFormed : n.WellFormed)
      (fractionText : FractionText n.fraction fraction)
      (exponentText : ExponentText n.exponent exponent) :
      NumeralText n (minusText n.negative ++ digitsText n.whole ++ fraction ++ exponent)

/-! ## Strings -/

def letterEscapes : List (Char × Char) :=
  [('"', '"'), ('\\', '\\'), ('/', '/'), ('b', '\x08'), ('f', '\x0c'), ('n', '\n'), ('r', '\r'),
   ('t', '\t')]

inductive UnitText : Nat → List Char → Prop
  | mk {a b c d : Char} {unit : Nat} (value : hexUnit? a b c d = some unit) :
      UnitText unit [a, b, c, d]

/-- A character inside a string stands for itself, is escaped by a letter or by its code, or, above
the first 65536, by a pair of surrogates. -/
inductive CharText : Char → List Char → Prop
  | plain {c : Char} (noQuote : c ≠ '"') (noBackslash : c ≠ '\\') (noControl : 0x20 ≤ c.toNat) :
      CharText c [c]
  | letter {c letter : Char} (listed : (letter, c) ∈ letterEscapes) : CharText c ['\\', letter]
  | unit {c : Char} {digits : List Char} (code : UnitText c.toNat digits) :
      CharText c ('\\' :: 'u' :: digits)
  | pair {c : Char} {high low : Nat} {highDigits lowDigits : List Char}
      (isHigh : isHighSurrogate high = true) (isLow : isLowSurrogate low = true)
      (highText : UnitText high highDigits) (lowText : UnitText low lowDigits)
      (code : c.toNat = 0x10000 + (high - 0xD800) * 0x400 + (low - 0xDC00)) :
      CharText c ('\\' :: 'u' :: (highDigits ++ '\\' :: 'u' :: lowDigits))

inductive CharsText : List Char → List Char → Prop
  | nil : CharsText [] []
  | cons {c : Char} {cs text rest : List Char} (first : CharText c text)
      (others : CharsText cs rest) : CharsText (c :: cs) (text ++ rest)

inductive StringText : String → List Char → Prop
  | mk {content : String} {inside : List Char} (chars : CharsText content.toList inside) :
      StringText content ('"' :: (inside ++ ['"']))

/-! ## Tokens -/

inductive TokenText : Token → List Char → Prop
  | openSquare : TokenText (.opening .square) ['[']
  | closeSquare : TokenText (.closing .square) [']']
  | openCurly : TokenText (.opening .curly) ['{']
  | closeCurly : TokenText (.closing .curly) ['}']
  | comma : TokenText .comma [',']
  | colon : TokenText .colon [':']
  | null : TokenText .null ['n', 'u', 'l', 'l']
  | true : TokenText (.bool true) ['t', 'r', 'u', 'e']
  | false : TokenText (.bool false) ['f', 'a', 'l', 's', 'e']
  | num {n : Numeral} {text : List Char} (numeral : NumeralText n text) : TokenText (.num n) text
  | str {content : String} {text : List Char} (string : StringText content text) :
      TokenText (.str (some content)) text

def Blank (gap : List Char) : Prop := ∀ c ∈ gap, isBlank c = true

/-- The tokens one after the other, with blanks anywhere around them. -/
inductive Written : List Token → List Char → Prop
  | nil {gap : List Char} (blank : Blank gap) : Written [] gap
  | cons {token : Token} {tokens : List Token} {gap text rest : List Char} (blank : Blank gap)
      (first : TokenText token text) (others : Written tokens rest) :
      Written (token :: tokens) (gap ++ text ++ rest)

/-! ## Values -/

mutual

def tokens : Json → List Token
  | .null => [.null]
  | .bool value => [.bool value]
  | .num n => [.num n]
  | .str content => [.str (some content)]
  | .arr items => .opening .square :: itemTokens items
  | .obj members => .opening .curly :: memberTokens members

/-- The items of an array and its closing bracket. -/
def itemTokens : List Json → List Token
  | [] => [.closing .square]
  | [item] => item.tokens ++ [.closing .square]
  | item :: rest => item.tokens ++ .comma :: itemTokens rest

def memberTokens : List (String × Json) → List Token
  | [] => [.closing .curly]
  | [(key, value)] => .str (some key) :: .colon :: (value.tokens ++ [.closing .curly])
  | (key, value) :: rest =>
      .str (some key) :: .colon :: (value.tokens ++ .comma :: memberTokens rest)

end

/-- Brackets nest at most so deep, and every number is one of the allowed. -/
def Within (allowed : Numeral → Prop) : Nat → Json → Prop
  | _, .null | _, .bool _ | _, .str _ => True
  | _, .num n => allowed n
  | 0, .arr _ | 0, .obj _ => False
  | depth + 1, .arr items => ∀ item ∈ items, item.Within allowed depth
  | depth + 1, .obj members => ∀ member ∈ members, member.2.Within allowed depth

abbrev Nests : Nat → Json → Prop := Within fun _ => True

/-- Brackets nest at most so deep, and a double can hold every number. -/
abbrev Fits : Nat → Json → Prop := Within fun n => n.inRange = true

end Json

def Document (json : Json) (text : String) : Prop := Json.Written json.tokens text.toList

/-- A text that is one complete value, within the bounds of nesting and of range. -/
def IsJson (text : String) (json : Json) : Prop := Document json text ∧ json.Fits Json.maxDepth

end VehicleShow
