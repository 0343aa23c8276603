import OneConnection.Binary64.Shortest

/-!
# Written doubles

Laying out the shortest decimal of a double, either with all its places or with a power of ten.
-/

namespace OneConnection.Binary64

structure Layout where
  /-- Which of two equally near decimals is written. -/
  tie : Tie
  /-- Whether a number whose first digit has this exponent is written with all its places. -/
  positional : Int → Bool
  /-- Whether a whole number ends with a point and a zero. -/
  markWhole : Bool

/-- The digits of `n` without the zeros at its end, and the number of those zeros. -/
def withoutZeros (n : Nat) : List Char × Nat :=
  let digits := Nat.toDigits 10 n
  if n = 0 then (digits, 0)
  else
    let zeros := (digits.reverse.takeWhile (· = '0')).length
    (digits.take (digits.length - zeros), zeros)

def writePositional (markWhole : Bool) (digits : List Char) (exponent : Int) : List Char :=
  if 0 ≤ exponent then
    digits ++ List.replicate exponent.toNat '0' ++ (if markWhole then ['.', '0'] else [])
  else
    let places := (-exponent).toNat
    if places < digits.length then
      digits.take (digits.length - places) ++ '.' :: digits.drop (digits.length - places)
    else '0' :: '.' :: List.replicate (places - digits.length) '0' ++ digits

/-- A decimal with one digit before the point and a signed power of ten. -/
def writeScientific (digits : List Char) (leading : Int) : List Char :=
  digits.take 1 ++ (if 1 < digits.length then '.' :: digits.drop 1 else []) ++
    'e' :: (if leading < 0 then '-' else '+') :: Nat.toDigits 10 leading.natAbs

def Layout.write (layout : Layout) (negative : Bool) (significand : Nat) (exponent : Int) :
    List Char :=
  let decimal := shortest layout.tie significand exponent
  let (digits, zeros) := withoutZeros decimal.digits
  let leading := decimal.exponent + zeros + digits.length - 1
  (if negative then ['-'] else []) ++
    if layout.positional leading then
      writePositional layout.markWhole digits (decimal.exponent + zeros)
    else writeScientific digits leading

end OneConnection.Binary64
