import OneConnection.Command.Basic
import OneConnection.Sql.Placeholder

/-!
# Combined commands

Several commands as one command of several statements. Every statement keeps its own values: its
numbered placeholders are counted on past the values of the statements before it.
-/

namespace OneConnection

namespace Command

/-- A statement without blank space at its end, and then without semicolons there. -/
def statement (c : Command) : List Char :=
  Text.dropEndWhile (· = ';') (Text.trimEnd c.sql.toList)

def separator : List Char := [';', '\n']

def statements (offset : Nat) : List Command → List (List Char)
  | [] => []
  | c :: rest =>
    Sql.shiftPlaceholders offset c.statement :: statements (offset + c.params.length) rest

/-- The longest time limit among commands. A command without a limit does not count. -/
def longestTimeout : List Command → Option Duration
  | [] => none
  | c :: rest =>
    match c.timeout, longestTimeout rest with
    | some a, some b => some (a.longer b)
    | some a, none => some a
    | none, b => b

def combine (cs : List Command) : Command where
  sql := String.ofList (separator.intercalate (statements 0 cs))
  params := cs.flatMap params
  expectation := .unchecked
  provider := cs.head?.bind provider
  timeout := longestTimeout cs

end Command

end OneConnection
