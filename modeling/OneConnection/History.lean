import OneConnection.Command.Basic
import OneConnection.StatementLog

/-!
# History

What can be observed of a connection from outside: logged statements, warnings, and calls into the
driver.
-/

namespace OneConnection

structure ReaderId where
  number : Nat
  deriving DecidableEq, Repr

def ReaderId.text (id : ReaderId) : String := s!"reader#{id.number}"

inductive Warning
  | verificationFailed (expected actual : RowCount) (commands : Nat)
  /-- A batch was not sent before its connection was disposed. -/
  | batchDiscarded (commands : Nat)
  | bufferingFailed (reader : ReaderId) (why : Error)
  /-- Readers were open at disposal. -/
  | readersLeaked (count : Nat)
  | sessionDropped (why : Error)

inductive CallKind
  | reader | nonQuery | batch
  deriving DecidableEq, Repr

/-- By which of its two ways the driver is called. -/
inductive Mode
  | blocking | async
  deriving DecidableEq, Repr

structure DriverCall where
  kind : CallKind
  mode : Mode
  commands : List Command
  /-- The driver's cursors that are open at the call. -/
  openBefore : Nat

inductive Event
  | logged (level : Level) (text : String)
  | warned (warning : Warning)
  | called (call : DriverCall)

namespace Event

/-- Whether somebody who listens up to a level hears of the event. -/
def isHeard (verbosity : Verbosity) : Event → Bool
  | .logged level _ => verbosity.admits level
  | .warned _ => verbosity.admits .warn
  | .called _ => true

def call? : Event → Option DriverCall
  | .called call => some call
  | _ => none

end Event

end OneConnection
