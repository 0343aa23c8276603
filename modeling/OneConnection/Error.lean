import OneConnection.Value.Basic
import OneConnection.Json.Reader

/-!
# Errors

What can go wrong, with the message of each failure. An error shared by several readers of one
failed execution looks like the error inside it.
-/

namespace OneConnection

/-- A text behind the heading that says what it is about. -/
def headed (heading text : String) : String := heading ++ ": " ++ text

/-- A number of rows. It is one word, and a sum that does not fit starts again from zero. -/
abbrev RowCount := UInt64

/-- How a batch of commands missed its expected row count. -/
inductive Shortfall
  /-- Fewer rows than expected were affected: someone else changed or removed them. -/
  | stale
  | tooManyRows
  deriving DecidableEq, Repr

/-- The row count of a batch was not the expected one. -/
structure VerificationError where
  shortfall : Shortfall
  expected : RowCount
  actual : RowCount
  /-- The statements of the batch, in execution order. -/
  statements : List String
  deriving DecidableEq, Repr

namespace VerificationError

def check (expected actual : RowCount) (statements : List String) : Option VerificationError :=
  if actual = expected then none
  else some ⟨if actual < expected then .stale else .tooManyRows, expected, actual, statements⟩

def message (e : VerificationError) : String :=
  let what := match e.shortfall with
    | .stale => "row was updated or deleted by another transaction"
    | .tooManyRows => "too many rows affected"
  s!"{what} (expected {e.expected} rows, database reported {e.actual}) in batch of " ++
    s!"{e.statements.length} statements"

end VerificationError

inductive QueryFailure
  | badStatement
  | constraint
  | deadlock
  | timeout
  | disconnected
  /-- The result sets were not the ones asked for. -/
  | resultShape
  | database
  deriving DecidableEq, Repr

def QueryFailure.isRetryable : QueryFailure → Bool
  | .deadlock | .timeout | .disconnected => true
  | _ => false

/-- A failure of a command, with the command's text once it is known. -/
structure QueryError where
  failure : QueryFailure
  sql : Option String
  params : List Value
  message : String
  /-- The driver's own words, if the failure has a cause below the driver. -/
  source : Option String

def QueryError.text (e : QueryError) : String :=
  match e.sql with
  | some sql => s!"{e.message} [SQL: {sql}]"
  | none => e.message

/-- A value could not be read as the wanted type. -/
structure TypeError where
  expected : String
  actual : String
  column : Option String
  deriving DecidableEq, Repr

def TypeError.message (e : TypeError) : String :=
  match e.column with
  | some column => s!"expected {e.expected} for column '{column}', found {e.actual}"
  | none => s!"expected {e.expected}, found {e.actual}"

inductive SettingsError
  | emptyBatches
  | invalidNumber (name : String) (why : Text.NumberError)
  | invalidDocument (why : Json.Problem)
  | reported (message : String) (source : Option String)
  deriving DecidableEq, Repr

namespace SettingsError

def message : SettingsError → String
  | .emptyBatches => "batch_size must be at least 1"
  | .invalidNumber name why => headed s!"invalid {name}" why.message
  | .invalidDocument why => headed "invalid json" why.label
  | .reported message _ => message

def source : SettingsError → Option String
  | .emptyBatches => none
  | .invalidNumber _ why => some why.message
  | .invalidDocument why => some why.label
  | .reported _ source => source

end SettingsError

inductive Error
  /-- A request that makes no sense. -/
  | invalidArgument (message : String)
  /-- No way to run a command is configured. -/
  | unsupported (message : String) (sql : Option String)
  | verification (why : VerificationError)
  | query (why : QueryError)
  | decoding (why : TypeError)
  | settings (why : SettingsError)
  /-- Readers were open when their connection was disposed. -/
  | readerLeak (count : Nat)
  | cancelled
  /-- One failure that several callers see. -/
  | shared (inner : Error)
  | custom (message : String)

namespace Error

def message : Error → String
  | .invalidArgument message => headed "Invalid argument" message
  | .unsupported message _ => headed "Unsupported operation" message
  | .verification why => headed "Batch verification failed" why.message
  | .query why => headed "Query error" why.text
  | .decoding why => headed "Type error" why.message
  | .settings why => headed "Configuration error" why.message
  | .readerLeak count => headed "Reader leak" s!"{count} reader(s) still open at disposal"
  | .cancelled => "Operation cancelled"
  | .shared inner => inner.message
  | .custom message => message

/-- The failure below all sharing. -/
def root : Error → Error
  | .shared inner => inner.root
  | other => other

def isRetryable : Error → Bool
  | .query why => why.failure.isRetryable
  | .shared inner => inner.isRetryable
  | _ => false

def sql (e : Error) : Option String :=
  match e.root with
  | .query why => why.sql
  | .unsupported _ sql => sql
  | _ => none

def isCancelled (e : Error) : Bool :=
  match e.root with
  | .cancelled => true
  | _ => false

def source : Error → Option String
  | .query why => why.source
  | .settings why => why.source
  | .shared inner => inner.source
  | _ => none

/-- A failure that the driver reports in its own words. -/
def ofDriver (failure : QueryFailure) (words : String) : Error :=
  .query { failure, sql := none, params := [], message := words, source := some words }

/-- Attaches the command that failed. An error that already names its SQL keeps it. -/
def withSql (sql : String) (params : List Value) : Error → Error
  | .query why =>
    .query (match why.sql with
      | none => { why with sql := some sql, params }
      | some _ => why)
  | .unsupported message none => .unsupported message (some sql)
  | other => other

end Error

end OneConnection
