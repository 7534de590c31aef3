/-! # Number literals and tokens

A literal is kept as its digits.  Two questions are asked of it: which natural number below `2 ^ 64`
it writes (`toUInt64?`; a sign, a fraction or an exponent rules it out), and whether a double can
hold it (`inRange`).  `toUInt64?_ofUInt64` says that a written word reads back.

A text is read in two ways: values that matter are *read*, values that are ignored are only
*skipped*.  Skipping asks less of a text, so a `broken` token, the last of its list, carries the
fault of either way, and a string whose surrogate escapes do not pair up is a token without
content. -/
set_option autoImplicit false
namespace VehicleShow

abbrev Digit : Type := Fin 10

namespace Digit

def ofChar? (c : Char) : Option Digit :=
  if h : 48 ≤ c.toNat ∧ c.toNat ≤ 57 then some ⟨c.toNat - 48, by omega⟩ else none

def toChar (d : Digit) : Char := Char.ofNat (48 + d.val)

theorem ofChar?_toChar (d : Digit) : ofChar? d.toChar = some d := by
  revert d; decide

def value (digits : List Digit) : Nat :=
  digits.foldl (fun n d => 10 * n + d.val) 0

def ofNat (n : Nat) : List Digit :=
  if n < 10 then [Fin.ofNat 10 n] else ofNat (n / 10) ++ [Fin.ofNat 10 n]

theorem value_append_singleton (digits : List Digit) (d : Digit) :
    value (digits ++ [d]) = 10 * value digits + d.val := by
  simp [value, List.foldl_append]

theorem value_ofNat (n : Nat) : value (ofNat n) = n := by
  induction n using Nat.strongRecOn with
  | ind n ih =>
    unfold ofNat
    split
    · next small => simp [value, Fin.ofNat, Nat.mod_eq_of_lt small]
    · next large =>
      rw [value_append_singleton, ih (n / 10) (by omega)]
      simp only [Fin.ofNat]
      omega

end Digit

namespace Json

structure Numeral where
  negative : Bool
  whole : List Digit
  fraction : List Digit
  exponent : Option Int
  deriving DecidableEq, Repr

namespace Numeral

def ofUInt64 (n : UInt64) : Numeral := ⟨false, Digit.ofNat n.toNat, [], none⟩

/-- The word a literal writes, if it is a bare run of digits below `2 ^ 64`. -/
def toUInt64? (n : Numeral) : Option UInt64 :=
  if n.negative = false ∧ n.fraction = [] ∧ n.exponent = none ∧ Digit.value n.whole < UInt64.size then
    some (UInt64.ofNat (Digit.value n.whole))
  else
    none

theorem toUInt64?_ofUInt64 (n : UInt64) : (ofUInt64 n).toUInt64? = some n := by
  have value : Digit.value (ofUInt64 n).whole = n.toNat := Digit.value_ofNat n.toNat
  have small : Digit.value (ofUInt64 n).whole < UInt64.size := by
    rw [value]
    exact n.toNat_lt_size
  rw [toUInt64?, if_pos ⟨rfl, rfl, rfl, small⟩, value, UInt64.ofNat_toNat]

/-! ## Range of a double

The significand takes digits for as long as it stays a 64-bit word.  Whole digits that no longer fit
count towards the exponent; fraction digits that no longer fit are dropped. -/

def absorbWhole (significand : Nat) : List Digit → Nat × Nat
  | [] => (significand, 0)
  | d :: ds =>
      if 10 * significand + d.val < UInt64.size then absorbWhole (10 * significand + d.val) ds
      else (significand, ds.length + 1)

def absorbFraction (significand : Nat) : List Digit → Nat × Nat
  | [] => (significand, 0)
  | d :: ds =>
      if 10 * significand + d.val < UInt64.size then
        let (total, used) := absorbFraction (10 * significand + d.val) ds
        (total, used + 1)
      else (significand, 0)

def maxDecimalExponent : Nat := 308

/-- A nonzero significand times a power of ten that no double reaches. -/
def overflows (significand : Nat) (exponent : Int) : Bool :=
  match exponent with
  | .ofNat e =>
      significand != 0 && (decide (maxDecimalExponent < e) ||
        ((UInt64.ofNat significand).toFloat * Float.ofScientific 1 false e).isInf)
  | .negSucc _ => false

def inRange (n : Numeral) : Bool :=
  n.toUInt64?.isSome ||
    let (whole, raised) := absorbWhole 0 n.whole
    let (significand, lowered) := absorbFraction whole n.fraction
    !overflows significand (Int.ofNat raised - Int.ofNat lowered + n.exponent.getD 0)

theorem inRange_ofUInt64 (n : UInt64) : (ofUInt64 n).inRange = true := by
  simp [inRange, toUInt64?_ofUInt64]

/-! ## Text -/

def text (n : Numeral) : List Char :=
  let sign := if n.negative then ['-'] else []
  let fraction := if n.fraction.isEmpty then [] else '.' :: n.fraction.map Digit.toChar
  let exponent := match n.exponent with
    | none => []
    | some (.ofNat e) => 'e' :: (Digit.ofNat e).map Digit.toChar
    | some (.negSucc e) => 'e' :: '-' :: (Digit.ofNat (e + 1)).map Digit.toChar
  sign ++ n.whole.map Digit.toChar ++ fraction ++ exponent

end Numeral
end Json

/-! ## Tokens -/

namespace Json

/-- Why a text is refused: it breaks the grammar, it ends too early, or it is well formed but of the
wrong shape for what is being read. -/
inductive Fault where
  | malformed
  | truncated
  | mismatch
  deriving DecidableEq, Repr

inductive Bracket where
  | square
  | curly
  deriving DecidableEq, Repr

inductive Token where
  | opening (bracket : Bracket)
  | closing (bracket : Bracket)
  | comma
  | colon
  | null
  | bool (value : Bool)
  | num (numeral : Numeral)
  | str (content : Option String)
  | broken (inString : Bool) (read skip : Fault)
  deriving DecidableEq, Repr

end Json
end VehicleShow
