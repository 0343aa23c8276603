import OneConnection.Binary64.Basic
import OneConnection.Text.Digit

/-!
# Doubles from decimal texts

Two ways to read a decimal. A text of its own is read correctly rounded. A number inside a document
is read in steps: its digits are kept as one word, rounded to a double, and then scaled by powers of
ten, with one rounding per step.
-/

namespace OneConnection.Binary64

open Text

def digitsValue (cs : List Char) : Nat := cs.foldl (fun n c => 10 * n + digitValue c) 0

/-! ## Texts of their own -/

/-- The sign in front of a text, and the rest. -/
def splitSign : List Char → Bool × List Char
  | '-' :: rest => (true, rest)
  | '+' :: rest => (false, rest)
  | cs => (false, cs)

/-- The exponent at the end of a decimal; a missing one is zero. -/
def readExponent? : List Char → Option Int
  | [] => some 0
  | mark :: rest =>
    if mark = 'e' || mark = 'E' then
      let (negative, digits) := splitSign rest
      if digits.isEmpty || !digits.all isAsciiDigit then none
      else some (if negative then -(digitsValue digits : Int) else digitsValue digits)
    else none

/-- Reads an unsigned decimal: digits with at most one point among them, at least one digit, and
perhaps an exponent. -/
def readUnsigned? (negative : Bool) (cs : List Char) : Option Binary64 :=
  let whole := cs.takeWhile isAsciiDigit
  let (places, rest) := match cs.dropWhile isAsciiDigit with
    | '.' :: rest => (rest.takeWhile isAsciiDigit, rest.dropWhile isAsciiDigit)
    | rest => ([], rest)
  if whole.isEmpty && places.isEmpty then none
  else (readExponent? rest).map fun exponent =>
    ofDecimal negative (digitsValue (whole ++ places)) (exponent - places.length)

/-- Reads a text as a double. The names of infinity and NaN are read in any case of their letters. -/
def ofText? (s : String) : Option Binary64 :=
  let (negative, cs) := splitSign s.toList
  let name := cs.map Char.toLower
  if name = "inf".toList || name = "infinity".toList then some (infinity negative)
  else if name = "nan".toList then some nan
  else readUnsigned? negative cs

/-! ## Numbers inside a document -/

/-- `x * 10 ^ power` for a finite `x`, after rounding the power to a double. -/
def timesPower (x : Binary64) (power : Nat) : Binary64 :=
  match x.ratio?, (ofNat (Nat.pow 10 power)).ratio? with
  | some (n, d), some (n', d') => ofRatio false (n * n') (d * d')
  | _, _ => x

/-- `x / 10 ^ power` for a finite `x`, after rounding the power to a double. -/
def overPower (x : Binary64) (power : Nat) : Binary64 :=
  match x.ratio?, (ofNat (Nat.pow 10 power)).ratio? with
  | some (n, d), some (n', d') => ofRatio false (n * d') (d * n')
  | _, _ => x

def largestPower : Nat := 308

/-- `significand * 10 ^ exponent` read in steps: the significand is rounded first, then scaled, and
very small numbers are scaled twice. There is no answer for a number too large for a double. -/
def scaled? (significand : Nat) (exponent : Int) : Option Binary64 :=
  let start := ofNat significand
  let power := exponent.natAbs
  if 0 ≤ exponent then
    if power ≤ largestPower then
      let result := start.timesPower power
      if result = infinity false then none else some result
    else if significand = 0 then some start else none
  else if power ≤ largestPower then some (start.overPower power)
  else if power ≤ 2 * largestPower then
    some ((start.overPower largestPower).overPower (power - largestPower))
  else some (zero false)

def negate (x : Binary64) : Binary64 := ⟨x.bits ^^^ 0x8000000000000000⟩

end OneConnection.Binary64
