import OneConnection.Settings.Basic

/-!
# Settings as a JSON document

Writing settings and reading them back. The time limit is written in whole seconds.
-/

namespace OneConnection

namespace Settings

open Json

inductive Field
  | batchSize | commandTimeout | logSql | formatSql | trackReaders | strictLeaks
  deriving DecidableEq, Repr

namespace Field

def all : List Field :=
  [.batchSize, .commandTimeout, .logSql, .formatSql, .trackReaders, .strictLeaks]

def name : Field → String
  | .batchSize => "batch_size"
  | .commandTimeout => "command_timeout"
  | .logSql => "log_sql"
  | .formatSql => "format_sql"
  | .trackReaders => "track_readers"
  | .strictLeaks => "strict_leak_detection"

def toJson (s : Settings) : Field → Json
  | .batchSize => .whole s.batchSize
  | .commandTimeout => match s.commandTimeout with
    | some d => .whole d.seconds
    | none => .null
  | .logSql => .bool s.logSql
  | .formatSql => .bool s.formatSql
  | .trackReaders => .bool s.trackReaders
  | .strictLeaks => .bool s.strictLeaks

def read (field : Field) (s : Settings) : Json.Reader Settings :=
  match field with
  | .batchSize => return { s with batchSize := ← Json.Reader.natural }
  | .commandTimeout => do
    return { s with
      commandTimeout := (← Json.Reader.optional Json.Reader.natural).map Duration.ofSeconds }
  | .logSql => return { s with logSql := ← Json.Reader.bool }
  | .formatSql => return { s with formatSql := ← Json.Reader.bool }
  | .trackReaders => return { s with trackReaders := ← Json.Reader.bool }
  | .strictLeaks => return { s with strictLeaks := ← Json.Reader.bool }

end Field

def toJson (s : Settings) : Json := .object (Field.all.map fun f => (f.name, f.toJson s))

def toDocument (s : Settings) : String := s.toJson.compact

/-- A missing field keeps its default. -/
def reader : Json.Reader Settings := do
  let (settings, _) ← Json.Reader.structured Field.name Field.read Field.all {}
  return settings

def ofDocument (text : String) : Except Error Settings :=
  match Json.Reader.runOn reader text with
  | .error why => .error (.settings (.invalidDocument why))
  | .ok s => s.validate

end Settings

end OneConnection
