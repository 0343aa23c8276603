import OneConnection.Capabilities
import OneConnection.Command.Basic
import OneConnection.History
import OneConnection.Outcome

/-!
# Drivers

What a connection needs of a driver: three calls, each in a blocking and in an asynchronous form. A
driver without asynchronous calls of its own answers them through the blocking ones.
-/

namespace OneConnection

inductive Attempt (α : Type)
  | returned (result : Except Error α)
  | crashed (message : String)

/-- What an asynchronous call gives: an outcome, after it was asked for it some times in vain. -/
inductive Promise (α : Type)
  | after (polls : Nat) (outcome : Outcome α)
  | crashed (message : String)

/-- The answer of a blocking call is there at once. -/
def Attempt.toPromise {α : Type} : Attempt α → Promise α
  | .returned result => .after 0 (.ofExcept result)
  | .crashed message => .crashed message

/-- A driver with state `δ`, whose readers are cursors `κ`. -/
structure Driver (δ κ : Type) where
  capabilities : Capabilities
  openReader : Command → δ → Attempt κ × δ
  execute : Command → δ → Attempt RowCount × δ
  executeBatch : List Command → δ → Attempt RowCount × δ
  openReaderAsync : Command → δ → Promise κ × δ :=
    fun c d => (openReader c d).map Attempt.toPromise id
  executeAsync : Command → δ → Promise RowCount × δ :=
    fun c d => (execute c d).map Attempt.toPromise id
  executeBatchAsync : List Command → δ → Promise RowCount × δ :=
    fun cs d => (executeBatch cs d).map Attempt.toPromise id

namespace Driver

variable {δ κ : Type}

def read (driver : Driver δ κ) (mode : Mode) (c : Command) (d : δ) : Promise κ × δ :=
  match mode with
  | .blocking => (driver.openReader c d).map Attempt.toPromise id
  | .async => driver.openReaderAsync c d

def nonQuery (driver : Driver δ κ) (mode : Mode) (c : Command) (d : δ) : Promise RowCount × δ :=
  match mode with
  | .blocking => (driver.execute c d).map Attempt.toPromise id
  | .async => driver.executeAsync c d

def batch (driver : Driver δ κ) (mode : Mode) (cs : List Command) (d : δ) : Promise RowCount × δ :=
  match mode with
  | .blocking => (driver.executeBatch cs d).map Attempt.toPromise id
  | .async => driver.executeBatchAsync cs d

end Driver

end OneConnection
