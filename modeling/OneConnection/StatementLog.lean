import OneConnection.Command.Basic
import OneConnection.Settings.Basic
import OneConnection.Sql.Clause
import OneConnection.Sql.Expansion

/-!
# Statement log

Statements as they are logged before they run: with their values in place, and perhaps with one
clause per line.
-/

namespace OneConnection

inductive Level
  | warn | info | debug
  deriving DecidableEq, Repr

inductive Verbosity
  | off | warn | info | debug
  deriving DecidableEq, Repr

def Verbosity.admits : Verbosity → Level → Bool
  | .off, _ => false
  | .warn, level => level = .warn
  | .info, level => level ≠ .debug
  | .debug, _ => true

inductive LogStyle
  | asSent
  | clauses
  deriving DecidableEq, Repr

def LogStyle.format : LogStyle → List Char → List Char
  | .asSent, cs => cs
  | .clauses, cs => Sql.layOut cs

structure StatementLog where
  /-- Statements are announced whether or not somebody listens for details. -/
  announces : Bool
  style : LogStyle
  deriving DecidableEq, Repr

namespace StatementLog

def ofSettings (s : Settings) : StatementLog :=
  { announces := s.logSql, style := if s.formatSql then .clauses else .asSent }

/-- Whether statements are logged at all. -/
def isEnabled (log : StatementLog) (verbosity : Verbosity) : Bool :=
  log.announces || verbosity.admits .debug

/-- Announced statements are information, others are details. -/
def level (log : StatementLog) : Level := if log.announces then .info else .debug

def line (log : StatementLog) (c : Command) : String :=
  String.ofList (log.style.format (Sql.expandParameters c.params c.sql.toList))

end StatementLog

/-- The logged lines of the commands of one batch, in order. -/
structure BatchLog where
  lines : List String := []
  deriving DecidableEq, Repr

namespace BatchLog

def push (log : BatchLog) (line : String) : BatchLog := ⟨log.lines ++ [line]⟩

def size (log : BatchLog) : Nat := log.lines.length

def isEmpty (log : BatchLog) : Bool := log.lines.isEmpty

def numberedLine (n : Nat) (line : String) : String := s!"command {n}:{line}\n"

def numbered : (first : Nat) → List String → String
  | _, [] => ""
  | n, line :: rest => numberedLine n line ++ numbered (n + 1) rest

def heading : String := "Batch commands:\n"

def text (log : BatchLog) : String := heading ++ numbered 0 log.lines

end BatchLog

end OneConnection
