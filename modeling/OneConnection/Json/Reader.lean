import OneConnection.Json.Basic
import OneConnection.Binary64.Reading
import OneConnection.Text.Natural

/-!
# Reading JSON

Readers for the tokens of JSON and for its lists and objects. A reader takes what it needs from the
front of a text. When it fails it says which kind of problem came first.
-/

namespace OneConnection.Json

open Text

/-- What is wrong with a document. -/
inductive Problem
  /-- The text is not JSON, or nests too deeply, or holds a number too large for a double. -/
  | malformed
  /-- The text ends early. -/
  | truncated
  /-- The text is JSON so far but does not describe a value of the wanted type. -/
  | mismatched
  deriving DecidableEq, Repr

def Problem.label : Problem → String
  | .malformed => "syntax"
  | .truncated => "eof"
  | .mismatched => "data"

/-- A reader takes a value from the front of a text. -/
abbrev Reader := StateT (List Char) (Except Problem)

namespace Reader

/-- How deeply lists and objects may nest, counting from one. -/
def depthLimit : Nat := 128

def isSpace (c : Char) : Bool := c = ' ' || c = '\n' || c = '\t' || c = '\r'

/-- Skips spaces and gives the character after them, without taking it. -/
def peek : Reader (Option Char) := do
  let rest := (← get).dropWhile isSpace
  set rest
  return rest.head?

def skipChar : Reader Unit := modify (List.drop 1)

def require : Reader Char := do
  match ← peek with
  | none => throw .truncated
  | some c => return c

def word : List Char → Reader Unit
  | [] => return
  | c :: rest => do
    match ← get with
    | [] => throw .truncated
    | d :: after => if d = c then do set after; word rest else throw .malformed

/-! ## Numbers -/

/-- Appends digits to a number as long as it fits into a word. Gives the number and how many digits
it took. -/
def absorb : Nat → List Char → Nat × Nat
  | value, [] => (value, 0)
  | value, c :: rest =>
    let next := 10 * value + digitValue c
    if next < wordLimit then
      let (result, taken) := absorb next rest
      (result, taken + 1)
    else (value, 0)

def digits : Reader (List Char) := do
  let cs ← get
  set (cs.dropWhile isAsciiDigit)
  return cs.takeWhile isAsciiDigit

def scaled (negative : Bool) (significand : Nat) (exponent : Int) : Reader Json :=
  match Binary64.scaled? significand exponent with
  | none => throw .malformed
  | some x => return .real (if negative then x.negate else x)

def exponentPart (negative : Bool) (significand : Nat) (start : Int) : Reader Json := do
  let (down, rest) := Binary64.splitSign (← get)
  set rest
  match rest with
  | [] => throw .truncated
  | c :: _ =>
    if isAsciiDigit c then
      let value : Int := Binary64.digitsValue (← digits)
      scaled negative significand (if down then start - value else start + value)
    else throw .malformed

def isExponentMark (c : Char) : Bool := c = 'e' || c = 'E'

/-- What follows the point. Digits that no longer fit into the significand are dropped. -/
def fractionPart (negative : Bool) (significand : Nat) (start : Int) : Reader Json := do
  let places ← digits
  if places.isEmpty then
    match ← get with
    | [] => throw .truncated
    | _ => throw .malformed
  let (value, taken) := absorb significand places
  match ← get with
  | c :: rest =>
    if isExponentMark c then
      set rest
      exponentPart negative value (start - taken)
    else scaled negative value (start - taken)
  | [] => scaled negative value (start - taken)

/-- What follows the whole part. Without point and exponent a number that fits is whole; minus zero
and a number that does not fit are doubles. -/
def afterWhole (negative : Bool) (significand : Nat) (dropped : Nat) : Reader Json := do
  let plain : Reader Json :=
    if 0 < dropped then scaled negative significand dropped
    else if !negative then return .whole significand
    else if 0 < significand && significand ≤ wordLimit / 2 then return .whole (-significand)
    else return .real (Binary64.ofNat significand).negate
  match ← get with
  | c :: rest =>
    if c = '.' then
      set rest
      fractionPart negative significand dropped
    else if isExponentMark c then
      set rest
      exponentPart negative significand dropped
    else plain
  | [] => plain

def unsigned (negative : Bool) : Reader Json := do
  match ← get with
  | [] => throw .truncated
  | '0' :: rest =>
    set rest
    match rest with
    | c :: _ => if isAsciiDigit c then throw .malformed else afterWhole negative 0 0
    | [] => afterWhole negative 0 0
  | c :: _ =>
    if isAsciiDigit c then
      let whole ← digits
      let (value, taken) := absorb 0 whole
      afterWhole negative value (whole.length - taken)
    else throw .malformed

def number : Reader Json := do
  match ← get with
  | '-' :: rest =>
    set rest
    unsigned true
  | _ => unsigned false

/-! ## Strings -/

def hexValue? (c : Char) : Option Nat :=
  if isAsciiDigit c then some (digitValue c)
  else if 'a' ≤ c && c ≤ 'f' then some (c.toNat - 'a'.toNat + 10)
  else if 'A' ≤ c && c ≤ 'F' then some (c.toNat - 'A'.toNat + 10)
  else none

def hexUnit? (a b c d : Char) : Option Nat := do
  return ((← hexValue? a) * 4096 + (← hexValue? b) * 256 + (← hexValue? c) * 16 + (← hexValue? d))

/-- The problem with an escape whose four digits are not there: the text ends, or one of them is
something else. The end is noticed in bytes. -/
def hexProblem (rest : List Char) : Problem :=
  if rest.foldl (fun size c => size + c.utf8Size) 0 < 4 then .truncated else .malformed

def isHighSurrogate (unit : Nat) : Bool := 0xD800 ≤ unit && unit ≤ 0xDBFF
def isLowSurrogate (unit : Nat) : Bool := 0xDC00 ≤ unit && unit ≤ 0xDFFF

def pairedChar (high low : Nat) : Char :=
  Char.ofNat (0x10000 + (high - 0xD800) * 0x400 + (low - 0xDC00))

/-- The character that an escape of one letter stands for. -/
def shortEscape? (c : Char) : Option Char :=
  if c = '"' || c = '\\' || c = '/' then some c
  else if c = 'b' then some (Char.ofNat 0x8)
  else if c = 'f' then some (Char.ofNat 0xC)
  else if c = 'n' then some '\n'
  else if c = 'r' then some '\r'
  else if c = 't' then some '\t'
  else none

/-- The rest of a string after its opening quote, and what follows the string. -/
def splitText : List Char → Except Problem (List Char × List Char)
  | [] => .error .truncated
  | '"' :: rest => .ok ([], rest)
  | '\\' :: 'u' :: a :: b :: c :: d :: rest =>
    match hexUnit? a b c d with
    | none => .error .malformed
    | some unit =>
      if isLowSurrogate unit then .error .malformed
      else if isHighSurrogate unit then
        match rest with
        | [] => .error .truncated
        | '\\' :: [] => .error .truncated
        | '\\' :: 'u' :: e :: f :: g :: h :: rest =>
          match hexUnit? e f g h with
          | none => .error .malformed
          | some low =>
            if isLowSurrogate low then
              (splitText rest).map fun (cs, after) => (pairedChar unit low :: cs, after)
            else .error .malformed
        | '\\' :: 'u' :: rest => .error (hexProblem rest)
        | _ => .error .malformed
      else (splitText rest).map fun (cs, after) => (Char.ofNat unit :: cs, after)
  | '\\' :: 'u' :: rest => .error (hexProblem rest)
  | '\\' :: [] => .error .truncated
  | '\\' :: letter :: rest =>
    match shortEscape? letter with
    | none => .error .malformed
    | some c => (splitText rest).map fun (cs, after) => (c :: cs, after)
  | c :: rest =>
    if c.toNat < 0x20 then .error .malformed
    else (splitText rest).map fun (cs, after) => (c :: cs, after)

def textBody : Reader String := do
  let (cs, rest) ← splitText (← get)
  set rest
  return String.ofList cs

/-! ## Lists and objects -/

/-- Whether another item follows in a list. Takes the comma before it, or the end of the list. -/
def anotherItem (first : Bool) : Reader Bool := do
  let c ← require
  if c = ']' then
    skipChar
    return false
  else if first then return true
  else if c = ',' then
    skipChar
    if (← require) = ']' then throw .malformed else return true
  else throw .malformed

/-- The items of a list after its bracket, from left to right. The fuel bounds their number. -/
def items {σ : Type} (item : σ → Reader σ) : (fuel : Nat) → (first : Bool) → σ → Reader σ
  | 0, _, _ => throw .truncated
  | fuel + 1, first, state => do
    if ← anotherItem first then items item fuel false (← item state) else return state

/-- Whether another member follows in an object. Takes the comma before it, or the end of the
object. -/
def anotherMember (first : Bool) : Reader Bool := do
  let c ← require
  if c = '\x7d' then
    skipChar
    return false
  else if first then
    if c = '"' then return true else throw .malformed
  else if c = ',' then
    skipChar
    if (← require) = '"' then return true else throw .malformed
  else throw .malformed

/-- The members of an object after its brace. `member` reads what follows a key, colon included. -/
def members {κ σ : Type} (key : Reader κ) (member : σ → κ → Reader σ) :
    (fuel : Nat) → (first : Bool) → σ → Reader σ
  | 0, _, _ => throw .truncated
  | fuel + 1, first, state => do
    if ← anotherMember first then
      skipChar
      members key member fuel false (← member state (← key))
    else return state

def colon : Reader Unit := do
  if (← require) = ':' then skipChar else throw .malformed

/-- More steps than reading the text can take. -/
def fuelFor : Reader Nat := return (← get).length + 1

/-! ## Whole documents -/

/-- A document of any kind. The fuel bounds the nesting, and `depth` says how much of it is left. -/
def value : (fuel : Nat) → (depth : Nat) → Reader Json
  | 0, _ => throw .truncated
  | fuel + 1, depth => do
    let c ← require
    if c = 'n' then
      word "null".toList
      return .null
    else if c = 't' then
      word "true".toList
      return .bool true
    else if c = 'f' then
      word "false".toList
      return .bool false
    else if c = '-' || isAsciiDigit c then number
    else if c = '"' then
      skipChar
      return .text (← textBody)
    else if c = '[' then
      if depth ≤ 1 then throw .malformed
      skipChar
      let item := fun (done : List Json) => return (← value fuel (depth - 1)) :: done
      return .list (← items item (← fuelFor) true []).reverse
    else if c = '\x7b' then
      if depth ≤ 1 then throw .malformed
      skipChar
      let member := fun (done : List (String × Json)) (key : String) => do
        colon
        return insertMember key (← value fuel (depth - 1)) done
      return .object (← members textBody member (← fuelFor) true [])
    else throw .malformed

/-- A document of any kind, nested at most as deeply as `depth` allows. -/
def document (depth : Nat) : Reader Json := do value (← fuelFor) depth

/-- Reads a text that holds one value and nothing else but spaces. -/
def runOn {α : Type} (reader : Reader α) (text : String) : Except Problem α := do
  let (result, rest) ← reader.run text.toList
  if rest.all isSpace then return result else throw .malformed

/-! ## Values that nobody asked for

Of a value that is thrown away only the shape is checked: escapes need not name characters, and
numbers may have any size. -/

def skipDigits : Reader Unit := modify (List.dropWhile isAsciiDigit)

/-- The exponent of a number, if one follows. -/
def skipExponent : Reader Unit := do
  match ← get with
  | c :: rest =>
    if isExponentMark c then
      let (_, rest) := Binary64.splitSign rest
      set rest
      if rest.head?.any isAsciiDigit then skipDigits else throw .malformed
  | [] => return

/-- The places of a number, if a point follows. -/
def skipFraction : Reader Unit := do
  match ← get with
  | '.' :: rest =>
    set rest
    if rest.head?.any isAsciiDigit then skipDigits else throw .malformed
  | _ => return

def skipUnsigned : Reader Unit := do
  match ← get with
  | '0' :: rest =>
    set rest
    if rest.head?.any isAsciiDigit then throw .malformed
  | c :: _ => if isAsciiDigit c then skipDigits else throw .malformed
  | [] => throw .malformed
  skipFraction
  skipExponent

def afterText : List Char → Except Problem (List Char)
  | [] => .error .truncated
  | '"' :: rest => .ok rest
  | '\\' :: 'u' :: a :: b :: c :: d :: rest =>
    if (hexUnit? a b c d).isSome then afterText rest else .error .malformed
  | '\\' :: 'u' :: rest => .error (hexProblem rest)
  | '\\' :: [] => .error .truncated
  | '\\' :: letter :: rest =>
    if (shortEscape? letter).isSome then afterText rest else .error .malformed
  | c :: rest => if c.toNat < 0x20 then .error .malformed else afterText rest

def skipText : Reader Unit := do set (← afterText (← get))

/-- Skips a value of any kind and any nesting. -/
def skipValue : (fuel : Nat) → Reader Unit
  | 0 => throw .truncated
  | fuel + 1 => do
    let c ← require
    if c = 'n' then word "null".toList
    else if c = 't' then word "true".toList
    else if c = 'f' then word "false".toList
    else if c = '-' then do skipChar; skipUnsigned
    else if isAsciiDigit c then skipUnsigned
    else if c = '"' then do skipChar; skipText
    else if c = '[' then do
      skipChar
      items (fun _ => skipValue fuel) (← fuelFor) true ()
    else if c = '\x7b' then do
      skipChar
      members skipText (fun _ _ => do colon; skipValue fuel) (← fuelFor) true ()
    else throw .malformed

def skip : Reader Unit := do skipValue (← fuelFor)

/-! ## Values of a wanted type -/

/-- Fails on a value of another type than the wanted one. A problem inside a number, a word or a
string that stands there is found first. -/
def mismatch {α : Type} : Reader α := do
  let c ← require
  if c = 'n' then word "null".toList
  else if c = 't' then word "true".toList
  else if c = 'f' then word "false".toList
  else if c = '-' || isAsciiDigit c then discard number
  else if c = '"' then do skipChar; discard textBody
  else if c ≠ '[' && c ≠ '\x7b' then throw .malformed
  throw .mismatched

def unit : Reader Unit := do
  if (← require) = 'n' then word "null".toList else mismatch

def bool : Reader Bool := do
  let c ← require
  if c = 't' then
    word "true".toList
    return true
  else if c = 'f' then
    word "false".toList
    return false
  else mismatch

def text : Reader String := do
  if (← require) = '"' then
    skipChar
    textBody
  else mismatch

def whole (low high : Int) : Reader Int := do
  let c ← require
  if c = '-' || isAsciiDigit c then
    match ← number with
    | .whole n => if low ≤ n && n ≤ high then return n else throw .mismatched
    | _ => throw .mismatched
  else mismatch

def real : Reader Binary64 := do
  let c ← require
  if c = '-' || isAsciiDigit c then
    match ← number with
    | .whole n => return Binary64.ofInt n
    | .real x => return x
    | _ => throw .mismatched
  else mismatch

def natural : Reader Nat := return (← whole 0 (wordLimit - 1)).toNat

def optional {α : Type} (reader : Reader α) : Reader (Option α) := do
  match ← peek with
  | some 'n' =>
    word "null".toList
    return none
  | _ => return some (← reader)

def list {α : Type} (reader : Reader α) : Reader (List α) := do
  if (← require) = '[' then
    skipChar
    return (← items (fun done => return (← reader) :: done) (← fuelFor) true []).reverse
  else mismatch

/-- The closing bracket of a list from which nothing more is wanted. -/
def endList : Reader Unit := do
  if (← require) = ']' then skipChar else throw .malformed

/-! ## Structures

A structure is an object with one member per field, or a list of its fields in order. -/

section Structures

variable {σ φ : Type} [DecidableEq φ] (name : φ → String) (read : φ → σ → Reader σ)

/-- Reads fields in order from a list. Gives the fields that the list was too short for. -/
def positional : List φ → (first : Bool) → σ → Reader (σ × List φ)
  | [], _, state => do
    endList
    return (state, [])
  | field :: rest, first, state => do
    if ← anotherItem first then positional rest false (← read field state)
    else return (state, field :: rest)

/-- What follows a key of the object. A field may not come twice, and a member that is no field is
skipped. -/
def fieldMember (all : List φ) (state : σ × List φ) (key : String) : Reader (σ × List φ) := do
  match all.find? (name · = key) with
  | none =>
    colon
    skip
    return state
  | some field =>
    if field ∈ state.2 then throw .mismatched
    colon
    return (← read field state.1, field :: state.2)

/-- Reads a structure over its `start`. Gives the fields that are missing. -/
def structured (all : List φ) (start : σ) : Reader (σ × List φ) := do
  let c ← require
  if c = '[' then
    skipChar
    positional read all true start
  else if c = '\x7b' then
    skipChar
    let (result, seen) ← members textBody (fieldMember name read all) (← fuelFor) true (start, [])
    return (result, all.filter (· ∉ seen))
  else mismatch

end Structures

end Reader

end OneConnection.Json
