import OneConnection.Duration
import OneConnection.Error
import OneConnection.Text.Blank

/-!
# Commands

A statement with its bound values, the number of rows that it has to affect, and how it wants to be
run.
-/

namespace OneConnection

/-- The number of rows that a command is declared to affect. -/
inductive Expectation
  | unchecked
  | rows (count : RowCount)
  deriving DecidableEq, Repr

namespace Expectation

/-- What the command adds to the expected row count of a batch. -/
def count : Expectation → RowCount
  | .unchecked => 0
  | .rows n => n

def isChecked : Expectation → Bool
  | .unchecked => false
  | .rows _ => true

end Expectation

structure Command where
  sql : String
  params : List Value := []
  expectation : Expectation := .unchecked
  /-- The family of drivers that the command was built for. -/
  provider : Option String := none
  timeout : Option Duration := none

namespace Command

/-- A command needs a text that is more than blank space. -/
def isWellFormed (c : Command) : Bool := !(Text.trim c.sql.toList).isEmpty

/-- Gives a command without a time limit the default one. -/
def withDefaultTimeout (default : Option Duration) (c : Command) : Command :=
  { c with timeout := c.timeout <|> default }

def equal (a b : Command) : Bool :=
  a.sql == b.sql && Value.equalAll a.params b.params && a.expectation == b.expectation &&
    a.provider == b.provider && a.timeout == b.timeout

/-- Checks the row count of a command that ran on its own. -/
def verifyAlone (c : Command) (rows : RowCount) : Except Error Unit :=
  match c.expectation with
  | .unchecked => .ok ()
  | .rows expected =>
    match VerificationError.check expected rows [c.sql] with
    | some why => .error (.verification why)
    | none => .ok ()

/-- The error for result sets other than those that the command asks for. -/
def resultShapeError (c : Command) (message : String) : Error :=
  .query { failure := .resultShape, sql := some c.sql, params := c.params, message, source := none }

/-- Names the command in an error that does not name one yet. -/
def blame (c : Command) (e : Error) : Error := e.withSql c.sql c.params

end Command

end OneConnection
