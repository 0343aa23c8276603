import OneConnection.Text.Digit

/-!
# Natural numbers of one word

Reading an unsigned number that has to fit into 64 bits.
-/

namespace OneConnection.Text

/-- The first number that does not fit into a word. -/
def wordLimit : Nat := Nat.pow 2 64

inductive NumberError
  | empty
  | invalidDigit
  | tooLarge
  deriving Repr, DecidableEq

def NumberError.message : NumberError → String
  | .empty => "cannot parse integer from empty string"
  | .invalidDigit => "invalid digit found in string"
  | .tooLarge => "number too large to fit in target type"

/-- Reads the digits that follow a number already read. A bad digit is reported before an overflow
that the same digit would cause. -/
def readDigits : Nat → List Char → Except NumberError Nat
  | value, [] => .ok value
  | value, c :: rest =>
    if isAsciiDigit c then
      let next := 10 * value + digitValue c
      if next < wordLimit then readDigits next rest else .error .tooLarge
    else .error .invalidDigit

/-- Reads an unsigned number, which may carry a plus sign. -/
def readNatural : List Char → Except NumberError Nat
  | [] => .error .empty
  | ['+'] => .error .invalidDigit
  | '+' :: rest => readDigits 0 rest
  | cs => readDigits 0 cs

/-- The number that a text of digits stands for, if it is one and fits into a word. -/
def natural? (cs : List Char) : Option Nat := (readNatural cs).toOption

end OneConnection.Text
