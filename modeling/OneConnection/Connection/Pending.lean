import OneConnection.Command.Combined
import OneConnection.StatementLog

/-!
# Pending batches

The commands that wait for the next flush.
-/

namespace OneConnection

structure PendingBatch where
  commands : List Command := []
  /-- The number of rows that the commands are declared to affect together, in one word. -/
  expectedRows : RowCount := 0
  /-- One command without an expectation leaves the whole batch unchecked. -/
  isChecked : Bool := true
  /-- The lines of the commands that were added while logging was on. -/
  log : BatchLog := {}

namespace PendingBatch

def size (b : PendingBatch) : Nat := b.commands.length

def isEmpty (b : PendingBatch) : Bool := b.commands.isEmpty

def push (c : Command) (line : Option String) (b : PendingBatch) : PendingBatch where
  commands := b.commands ++ [c]
  expectedRows := b.expectedRows + c.expectation.count
  isChecked := b.isChecked && c.expectation.isChecked
  log := match line with
    | some line => b.log.push line
    | none => b.log

@[simp] theorem commands_push (c : Command) (line : Option String) (b : PendingBatch) :
    (b.push c line).commands = b.commands ++ [c] := rfl

@[simp] theorem size_push (c : Command) (line : Option String) (b : PendingBatch) :
    (b.push c line).size = b.size + 1 := by
  rw [size, commands_push, List.length_append]
  rfl

/-- Compares the row count of the whole batch with the expected one. -/
def check (b : PendingBatch) (rows : RowCount) : Option VerificationError :=
  if b.isChecked then VerificationError.check b.expectedRows rows (b.commands.map (·.sql)) else none

/-- Names all commands of the batch in an error that names none. -/
def blame (b : PendingBatch) (e : Error) : Error := (Command.combine b.commands).blame e

end PendingBatch

end OneConnection
