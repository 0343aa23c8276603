import OneConnection.Settings.Basic
import OneConnection.Text.Blank

/-!
# Settings from the environment

Some settings can be given by environment variables. A variable that is not set keeps the default.
-/

namespace OneConnection

abbrev Environment := String → Option String

namespace Settings

def batchSizeVariable : String := "SQLBATCH_BATCH_SIZE"
def commandTimeoutVariable : String := "SQLBATCH_COMMAND_TIMEOUT_SECS"
def logSqlVariable : String := "SQLBATCH_LOG_SQL"
def strictLeaksVariable : String := "SQLBATCH_STRICT_LEAKS"

def numberVariable (env : Environment) (name : String) : Except Error (Option Nat) :=
  match env name with
  | none => .ok none
  | some text =>
    match Text.readNatural (Text.trim text.toList) with
    | .ok n => .ok (some n)
    | .error why => .error (.settings (.invalidNumber name why))

/-- The words that turn a flag on, in any case of their letters. -/
def affirmations : List String := ["1", "true", "yes", "on"]

def flagVariable (env : Environment) (name : String) : Option Bool :=
  (env name).map fun text => affirmations.contains text.toLower

def ofEnvironment (env : Environment) : Except Error Settings := do
  let size ← numberVariable env batchSizeVariable
  let timeout ← numberVariable env commandTimeoutVariable
  let defaults : Settings := {}
  validate { defaults with
    batchSize := size.getD defaults.batchSize
    commandTimeout := (timeout.map Duration.ofSeconds).or defaults.commandTimeout
    logSql := (flagVariable env logSqlVariable).getD defaults.logSql
    strictLeaks := (flagVariable env strictLeaksVariable).getD defaults.strictLeaks }

end Settings

end OneConnection
