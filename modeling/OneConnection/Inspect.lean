import OneConnection.Session
import OneConnection.Text.Quoted

/-!
# Descriptions

Values as texts for people who look into a running program: the name of a type with its fields.
-/

namespace OneConnection

namespace Inspect

def record (name : String) (fields : List (String × String)) : String :=
  name ++ " \x7b " ++ ", ".intercalate (fields.map fun (field, text) => field ++ ": " ++ text) ++
    " \x7d"

/-- A value that has more fields than it shows. -/
def partialRecord (name : String) (fields : List (String × String)) : String :=
  name ++ " \x7b " ++ String.join (fields.map fun (field, text) => field ++ ": " ++ text ++ ", ") ++
    ".. \x7d"

def option : Option String → String
  | some text => "Some(" ++ text ++ ")"
  | none => "None"

def list (items : List String) : String := "[" ++ ", ".intercalate items ++ "]"

def bool (b : Bool) : String := toString b

end Inspect

open Inspect

def Expectation.describe : Expectation → String
  | .unchecked => "None"
  | .rows count => s!"RowCount({count})"

def LogStyle.describe : LogStyle → String
  | .asSent => "None"
  | .clauses => "Basic"

def Capabilities.describe (c : Capabilities) : String :=
  record "DriverCapabilities" (Capabilities.Field.all.map fun f => (f.name, bool (f.get c)))

def Settings.describe (s : Settings) : String :=
  record "BatcherConfig"
    [("batch_size", toString s.batchSize),
      ("command_timeout", option (s.commandTimeout.map Duration.describe)),
      ("log_sql", bool s.logSql), ("format_sql", bool s.formatSql),
      ("track_readers", bool s.trackReaders), ("strict_leak_detection", bool s.strictLeaks)]

def Stats.describe (s : Stats) : String :=
  record "BatcherStats"
    [("round_trips", toString s.roundTrips), ("flushes", toString s.flushes),
      ("commands_batched", toString s.commandsBatched),
      ("readers_opened", toString s.readersOpened)]

def Handler.describe : Handler → String
  | .native name _ => record "NativeAsync" [("name", Text.quoted name)]
  | .fallback => "SyncFallback"

def Chain.describe (chain : Chain) : String :=
  record "ReaderDispatchChain" [("handlers", list (chain.handlers.map Handler.describe))]

def ReaderId.describe (id : ReaderId) : String := s!"ReaderId({id.number})"

def Handle.describe (h : Handle) : String := record "TrackedReader" [("id", h.id.describe)]

def Hybrid.describe {κ : Type} [Cursor κ] (h : Hybrid κ) : String :=
  record "HybridReader" [("in_memory", bool h.isInMemory)]

def DeferredBatch.describe (b : DeferredBatch) : String :=
  record "FutureBatch"
    [("queries", toString b.size), ("cacheable", bool b.agrees),
      ("cache_region", option (b.region.map Text.quoted)), ("sealed", bool b.isSealed),
      ("executed", bool b.isExecuted)]

def DeferredValue.describe {α : Type} (v : DeferredValue α) : String :=
  partialRecord "FutureValue" [("index", toString v.index), ("type", Text.quoted v.decoder.typeName)]

def DeferredList.describe {α : Type} (l : DeferredList α) : String :=
  partialRecord "DelayedEnumerable"
    [("index", toString l.index), ("type", Text.quoted l.decoder.typeName)]

def ReadyList.describe (l : ReadyList Int64) : String :=
  record "ReadyEnumerable" [("items", list (l.items.map fun n => toString n.toInt))]

def Connection.describe {δ κ : Type} (setup : Setup δ κ) (conn : Connection δ κ) : String :=
  partialRecord "Batcher"
    [("config", setup.settings.describe), ("capabilities", setup.driver.capabilities.describe),
      ("chain", setup.chain.describe), ("pending", toString conn.pending.size),
      ("open_readers", toString conn.registry.size)]

def Session.describe {δ κ : Type} (setup : Setup δ κ) (s : Session) (conn : Connection δ κ) :
    String :=
  let batch := (s.current? conn).bind conn.batch?
  record "Session"
    [("batcher", conn.describe setup), ("future_batch", option (batch.map DeferredBatch.describe)),
      ("closed", bool false)]

end OneConnection
