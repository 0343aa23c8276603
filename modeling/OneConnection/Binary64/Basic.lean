/-!
# Double-precision numbers

A double is its 64 bits. What the bits stand for, and rounding to a double, are exact arithmetic on
natural numbers.
-/

namespace OneConnection

/-- A number in the binary64 format of IEEE 754. -/
structure Binary64 where
  bits : UInt64
  deriving DecidableEq, Repr

namespace Binary64

/-- What a double stands for. A finite one is `significand * 2 ^ exponent`, up to its sign. -/
inductive Meaning
  | nan
  | infinite (negative : Bool)
  | finite (negative : Bool) (significand : Nat) (exponent : Int)
  deriving DecidableEq, Repr

/-- A significand has 53 bits, of which 52 are stored. -/
def fractionLimit : Nat := Nat.pow 2 52

/-- The exponent of the smallest steps between doubles. -/
def leastExponent : Int := -1074

def infinityBits : Nat := 2047 * fractionLimit

def meaning (x : Binary64) : Meaning :=
  let word := x.bits.toNat
  let negative := Nat.pow 2 63 ≤ word
  let exponent := word / fractionLimit % 2048
  let fraction := word % fractionLimit
  if exponent = 2047 then
    if fraction = 0 then .infinite negative else .nan
  else if exponent = 0 then .finite negative fraction leastExponent
  else .finite negative (fraction + fractionLimit) (exponent - 1075)

def isNaN (x : Binary64) : Bool := x.meaning == .nan

/-- Equality of numbers: nothing equals a NaN, and the two zeros are equal. -/
def equal (x y : Binary64) : Bool :=
  match x.meaning, y.meaning with
  | .nan, _ => false
  | _, .nan => false
  | .finite _ 0 _, .finite _ 0 _ => true
  | _, _ => x.bits == y.bits

/-! ## Rounding -/

def ofMagnitude (negative : Bool) (magnitude : Nat) : Binary64 :=
  ⟨UInt64.ofNat ((if negative then Nat.pow 2 63 else 0) + magnitude)⟩

/-- The whole number next to `num / den`, of two equally near the even one. -/
def roundQuotient (num den : Nat) : Nat :=
  let quotient := num / den
  let rest := num % den
  if 2 * rest < den then quotient
  else if den < 2 * rest then quotient + 1
  else quotient + quotient % 2

/-- The fraction `num / den` times `2 ^ exponent`, as a fraction. -/
def shifted (num den : Nat) (exponent : Int) : Nat × Nat :=
  if 0 ≤ exponent then (num * Nat.pow 2 exponent.toNat, den)
  else (num, den * Nat.pow 2 (-exponent).toNat)

/-- The largest `e` with `2 ^ e ≤ num / den`. -/
def binaryExponent (num den : Nat) : Int :=
  let guess : Int := (Nat.log2 num : Int) - (Nat.log2 den : Int)
  let (n, d) := shifted num den (-guess)
  if d ≤ n then guess else guess - 1

/-- The magnitude bits of the double next to `num / den`, of two equally near the even one. A
significand that rounds up to the next power of two carries into the exponent by itself. -/
def magnitudeOfRatio (num den : Nat) : Nat :=
  if num = 0 then 0
  else
    let exponent := max (binaryExponent num den - 52) leastExponent
    let (n, d) := shifted num den (-exponent)
    min ((exponent - leastExponent).toNat * fractionLimit + roundQuotient n d) infinityBits

/-- The double next to `num / den` with the given sign. -/
def ofRatio (negative : Bool) (num den : Nat) : Binary64 :=
  ofMagnitude negative (magnitudeOfRatio num den)

def zero (negative : Bool) : Binary64 := ofMagnitude negative 0

def infinity (negative : Bool) : Binary64 := ofMagnitude negative infinityBits

/-- The NaN that reading a text gives. -/
def nan : Binary64 := ⟨0x7FF8000000000000⟩

def ofNat (n : Nat) : Binary64 := ofRatio false n 1

def ofInt (n : Int) : Binary64 := ofRatio (decide (n < 0)) n.natAbs 1

/-- The fraction that a finite double stands for, without its sign. -/
def ratio? (x : Binary64) : Option (Nat × Nat) :=
  match x.meaning with
  | .finite _ significand exponent => some (shifted significand 1 exponent)
  | _ => none

/-- The double next to `significand * 10 ^ exponent`. Far outside the range of doubles the answer
needs no power of ten. -/
def ofDecimal (negative : Bool) (significand : Nat) (exponent : Int) : Binary64 :=
  let size : Int := (Nat.toDigits 10 significand).length + exponent
  if significand = 0 || size < -330 then zero negative
  else if 310 < size then infinity negative
  else if 0 ≤ exponent then ofRatio negative (significand * Nat.pow 10 exponent.toNat) 1
  else ofRatio negative significand (Nat.pow 10 (-exponent).toNat)

end Binary64

end OneConnection
