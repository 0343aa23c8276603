import OneConnection.Binary64.Layout

/-!
# JSON documents

The values of JSON and their compact text. Whole numbers and other numbers are kept apart, and the
members of an object are sorted by their keys.
-/

namespace OneConnection

inductive Json
  | null
  | bool (value : Bool)
  | whole (value : Int)
  | real (value : Binary64)
  | text (value : String)
  | list (items : List Json)
  | object (members : List (String × Json))

namespace Json

/-! ## Objects -/

/-- Puts a member at its place among sorted members. A member with the same key gives way. -/
def insertMember (key : String) (value : Json) :
    List (String × Json) → List (String × Json)
  | [] => [(key, value)]
  | (k, v) :: rest =>
    if key < k then (key, value) :: (k, v) :: rest
    else if key = k then (key, value) :: rest
    else (k, v) :: insertMember key value rest

/-! ## Text -/

/-- Doubles are written with all their places from `1e-5` up to below `1e16`, with a power of ten
elsewhere, and always so that they read as something other than a whole number. -/
def layout : Binary64.Layout :=
  { tie := .even, positional := fun leading => -5 ≤ leading && leading ≤ 15, markWhole := true }

/-- JSON has no text for infinities and NaN; they are written as null. -/
def writeReal (x : Binary64) : List Char :=
  match x.meaning with
  | .finite negative significand exponent => layout.write negative significand exponent
  | _ => "null".toList

/-- A character inside a string. Only quotes, backslashes and control characters are escaped. -/
def escapedChar (c : Char) : List Char :=
  if c = '"' then ['\\', '"']
  else if c = '\\' then ['\\', '\\']
  else if c = '\n' then ['\\', 'n']
  else if c = '\r' then ['\\', 'r']
  else if c = '\t' then ['\\', 't']
  else if c.toNat = 0x8 then ['\\', 'b']
  else if c.toNat = 0xC then ['\\', 'f']
  else if c.toNat < 0x20 then
    ['\\', 'u', '0', '0', Nat.digitChar (c.toNat / 16), Nat.digitChar (c.toNat % 16)]
  else [c]

def writeText (s : String) : List Char :=
  '"' :: s.toList.flatMap escapedChar ++ ['"']

def separated (parts : List (List Char)) : List Char := [','].intercalate parts

mutual

def write : Json → List Char
  | .null => "null".toList
  | .bool value => (if value then "true" else "false").toList
  | .whole value => (toString value).toList
  | .real value => writeReal value
  | .text value => writeText value
  | .list items => '[' :: separated (writeItems items) ++ [']']
  | .object members => '\x7b' :: separated (writeMembers members) ++ ['\x7d']

def writeItems : List Json → List (List Char)
  | [] => []
  | item :: rest => write item :: writeItems rest

def writeMembers : List (String × Json) → List (List Char)
  | [] => []
  | (key, value) :: rest => (writeText key ++ ':' :: write value) :: writeMembers rest

end

def compact (j : Json) : String := String.ofList j.write

/-! ## Equality -/

mutual

/-- Equality of documents. Numbers inside are compared as numbers, and a whole number differs from
a double of the same value. -/
def equal : Json → Json → Bool
  | .null, .null => true
  | .bool a, .bool b => a == b
  | .whole a, .whole b => a == b
  | .real a, .real b => a.equal b
  | .text a, .text b => a == b
  | .list a, .list b => equalItems a b
  | .object a, .object b => equalMembers a b
  | _, _ => false

def equalItems : List Json → List Json → Bool
  | [], [] => true
  | a :: as, b :: bs => equal a b && equalItems as bs
  | _, _ => false

def equalMembers : List (String × Json) → List (String × Json) → Bool
  | [], [] => true
  | (k, a) :: as, (l, b) :: bs => k == l && equal a b && equalMembers as bs
  | _, _ => false

end

end Json

end OneConnection
