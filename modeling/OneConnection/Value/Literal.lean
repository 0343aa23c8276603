import OneConnection.Value.Basic

/-!
# SQL literals

The literal that stands for a value in a logged statement. It is never sent to the database.
-/

namespace OneConnection

namespace Value

def doubleQuotes (cs : List Char) : List Char :=
  cs.flatMap fun c => if c = '\'' then ['\'', '\''] else [c]

def quotedLiteral (cs : List Char) : List Char := '\'' :: doubleQuotes cs ++ ['\'']

/-- Doubles are written with all their places, and a tie goes upward. -/
def literalLayout : Binary64.Layout :=
  { tie := .upward, positional := fun _ => true, markWhole := false }

def doubleLiteral (x : Binary64) : List Char :=
  match x.meaning with
  | .nan => "NaN".toList
  | .infinite negative => (if negative then "-inf" else "inf").toList
  | .finite negative significand exponent => literalLayout.write negative significand exponent

def hexByte (b : UInt8) : List Char :=
  [(Nat.digitChar (b.toNat / 16)).toUpper, (Nat.digitChar (b.toNat % 16)).toUpper]

def literal : Value → List Char
  | .null => "NULL".toList
  | .bool b => (if b then "TRUE" else "FALSE").toList
  | .int n => (toString n.toInt).toList
  | .bigInt n => (toString n.toInt).toList
  | .timestamp n => (toString n.toInt).toList
  | .double x => doubleLiteral x
  | .decimal digits => digits.toList
  | .text s => quotedLiteral s.toList
  | .bytes b => 'X' :: '\'' :: b.flatMap hexByte ++ ['\'']
  | .json j => quotedLiteral j.write

end Value

end OneConnection
