/-! # The exact value of a double

`decode` reads a double as a sign, a mantissa and a power of two, so that rounding can be done on
natural numbers.  `floor` and `roundHalfUp` are the two roundings of `mantissa * 2 ^ exponent` that
the show needs.  `fixed` writes a double with a given number of decimal places; its digits come from
the exact binary value, and a tie between two of them goes to the even one. -/
set_option autoImplicit false
namespace VehicleShow.Binary64

inductive Decoded where
  | finite (negative : Bool) (mantissa : Nat) (exponent : Int)
  | infinite (negative : Bool)
  | nan
  deriving DecidableEq, Repr

def fractionRange : Nat := 4503599627370496

def exponentRange : Nat := 2048

/-- Reads a bit pattern: one sign bit, eleven exponent bits, fifty-two fraction bits.
Exponent zero marks the subnormal numbers, which have no implicit leading one. -/
def decodeBits (bits : UInt64) : Decoded :=
  let negative := bits.toNat / (fractionRange * exponentRange) == 1
  let biased : Nat := bits.toNat / fractionRange % exponentRange
  let fraction := bits.toNat % fractionRange
  if biased = exponentRange - 1 then
    if fraction = 0 then .infinite negative else .nan
  else if biased = 0 then
    .finite negative fraction (-1074)
  else
    .finite negative (fractionRange + fraction) (Int.ofNat biased - 1075)

def decode (x : Float) : Decoded := decodeBits x.toBits

/-! ## Rounding `mantissa * 2 ^ exponent` -/

def quotient (mantissa : Nat) : Int → Nat × Nat
  | .ofNat k => (mantissa * Nat.pow 2 k, 1)
  | .negSucc k => (mantissa, Nat.pow 2 (k + 1))

def floor (mantissa : Nat) (exponent : Int) : Nat :=
  (quotient mantissa exponent).1 / (quotient mantissa exponent).2

/-- Nearest natural number; a half goes up. -/
def roundHalfUp (mantissa : Nat) (exponent : Int) : Nat :=
  let (numerator, denominator) := quotient mantissa exponent
  (2 * numerator + denominator) / (2 * denominator)

/-- Nearest natural number to a quotient; a half goes to the even neighbour. -/
def roundHalfEven (numerator denominator : Nat) : Nat :=
  let whole := numerator / denominator
  let twice := 2 * (numerator % denominator)
  if twice < denominator then whole
  else if denominator < twice then whole + 1
  else whole + whole % 2

theorem quotient_pos (mantissa : Nat) (exponent : Int) : 0 < (quotient mantissa exponent).2 := by
  cases exponent with
  | ofNat => exact Nat.one_pos
  | negSucc k => exact Nat.pow_pos (by decide)

theorem quotient_zero (exponent : Int) : (quotient 0 exponent).1 = 0 := by
  cases exponent with
  | ofNat k => exact Nat.zero_mul (Nat.pow 2 k)
  | negSucc => rfl

theorem roundHalfUp_zero (exponent : Int) : roundHalfUp 0 exponent = 0 := by
  have pos := quotient_pos 0 exponent
  simp only [roundHalfUp, quotient_zero]
  exact Nat.div_eq_of_lt (by omega)

/-- Whole part of a positive finite double; anything else counts as zero. -/
def floorNat (x : Float) : Nat :=
  match decode x with
  | .finite false mantissa exponent => floor mantissa exponent
  | _ => 0

/-! ## Fixed-point text -/

def padLeft (width : Nat) (fill : Char) (text : String) : String :=
  String.ofList (List.leftpad width fill text.toList)

def padRight (width : Nat) (text : String) : String :=
  String.ofList (List.rightpad width ' ' text.toList)

def pointed (places units : Nat) : String :=
  Nat.repr (units / Nat.pow 10 places) ++ "." ++
    padLeft places '0' (Nat.repr (units % Nat.pow 10 places))

def fixed (places : Nat) (x : Float) : String :=
  match decode x with
  | .finite negative mantissa exponent =>
      let (numerator, denominator) := quotient mantissa exponent
      let text := pointed places (roundHalfEven (numerator * Nat.pow 10 places) denominator)
      if negative then "-" ++ text else text
  | .infinite negative => if negative then "-inf" else "inf"
  | .nan => "NaN"

end VehicleShow.Binary64
