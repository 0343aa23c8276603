import OneConnection.Connection.Pending
import OneConnection.Deferred.Batch
import OneConnection.Dispatch
import OneConnection.Driver
import OneConnection.Registry

/-!
# Connections

The state that all users of one connection share, and what they do to it in small steps. The
driver, the settings and the ways to dispatch readers never change and stand apart.
-/

namespace OneConnection

structure Setup (δ κ : Type) where
  driver : Driver δ κ
  settings : Settings
  chain : Chain
  /-- How closely the log is listened to. -/
  verbosity : Verbosity

namespace Setup

variable {δ κ : Type}

/-- A setup whose chain follows from what the driver can do. -/
def create (driver : Driver δ κ) (settings : Settings) (verbosity : Verbosity) :
    Except Error (Setup δ κ) := do
  let settings ← settings.validate
  return { driver, settings, chain := .standard driver.capabilities, verbosity }

def statementLog (s : Setup δ κ) : StatementLog := .ofSettings s.settings

def logs (s : Setup δ κ) : Bool := s.statementLog.isEnabled s.verbosity

/-- A command as it is sent and logged. -/
def prepare (s : Setup δ κ) (c : Command) : Command :=
  c.withDefaultTimeout s.settings.commandTimeout

end Setup

inductive Access
  | free
  /-- One call is on its way. -/
  | held
  /-- A call crashed, and nobody may call the driver again. -/
  | broken
  deriving DecidableEq, Repr

structure Stats where
  /-- Calls prepared for the driver. -/
  roundTrips : Nat := 0
  flushes : Nat := 0
  commandsBatched : Nat := 0
  readersOpened : Nat := 0
  deriving DecidableEq, Repr

structure Connection (δ κ : Type) where
  database : δ
  access : Access := .free
  pending : PendingBatch := {}
  stats : Stats := {}
  registry : Registry
  readers : Readers κ := {}
  contexts : Contexts := {}
  /-- The deferred batches, in the order in which they were created. -/
  deferred : List DeferredBatch := []
  /-- From the first event to the last. -/
  history : List Event := []

namespace Connection

variable {δ κ α : Type}

def create (setup : Setup δ κ) (database : δ) : Connection δ κ where
  database
  registry := .create setup.settings setup.driver.capabilities

def isBusy (conn : Connection δ κ) : Bool := conn.access = .held

/-! ## Small steps -/

def record (event : Event) (conn : Connection δ κ) : Connection δ κ :=
  { conn with history := conn.history ++ [event] }

def recordAll (events : List Event) (conn : Connection δ κ) : Connection δ κ :=
  { conn with history := conn.history ++ events }

def warn (w : Warning) (conn : Connection δ κ) : Connection δ κ := conn.record (.warned w)

def setAccess (access : Access) (conn : Connection δ κ) : Connection δ κ := { conn with access }

def setReaders (readers : Readers κ) (conn : Connection δ κ) : Connection δ κ :=
  { conn with readers }

def cancelAll (requests : List CancelRequest) (conn : Connection δ κ) : Connection δ κ :=
  { conn with contexts := conn.contexts.cancelAll requests }

def count (f : Stats → Stats) (conn : Connection δ κ) : Connection δ κ :=
  { conn with stats := f conn.stats }

def logText (setup : Setup δ κ) (text : String) (conn : Connection δ κ) : Connection δ κ :=
  conn.record (.logged setup.statementLog.level text)

def logCommand (setup : Setup δ κ) (c : Command) (conn : Connection δ κ) : Connection δ κ :=
  if setup.logs then conn.logText setup (setup.statementLog.line c) else conn

/-- An empty log is not written. -/
def logBatch (setup : Setup δ κ) (log : BatchLog) (conn : Connection δ κ) : Connection δ κ :=
  if setup.logs && !log.isEmpty then conn.logText setup log.text else conn

variable [Cursor κ]

def fetch (place : Nat) (f : Reader κ → Fetch (Reader κ) α) (conn : Connection δ κ) :
    Except Error α × Connection δ κ :=
  let x := conn.readers.fetch place f
  (x.result, (conn.setReaders x.cursor).cancelAll x.cancels)

/-- Releases the cursors that may not stay open during a command. -/
def checkReaders (conn : Connection δ κ) : Nat × Connection δ κ :=
  let released := conn.registry.checkReaders conn.readers
  let warnings := released.failures.map fun (id, why) => Event.warned (.bufferingFailed id why)
  (released.count,
    ((conn.setReaders released.readers).cancelAll released.cancels).recordAll warnings)

def recordCall (kind : CallKind) (mode : Mode) (commands : List Command) (conn : Connection δ κ) :
    Connection δ κ :=
  conn.record (.called { kind, mode, commands, openBefore := conn.readers.openCursors })

def register (place : Nat) (conn : Connection δ κ) : Handle × Connection δ κ :=
  let (handle, registry, readers) := conn.registry.register place conn.readers
  (handle, { conn with registry, readers })

def closeReader (h : Handle) (conn : Connection δ κ) : Connection δ κ :=
  let (registry, readers) := conn.registry.closeAndRemove h conn.readers
  { conn with registry, readers }

/-- Closes the cursor at a place that nobody holds any more. -/
def dropCursor (place : Nat) (conn : Connection δ κ) : Connection δ κ :=
  conn.setReaders (Registry.closeOpen place conn.readers)

/-- A caller lets go of a reader. One that is tracked stays open. -/
def dropReader (h : Handle) (conn : Connection δ κ) : Connection δ κ :=
  if conn.registry.tracked.contains h then conn else conn.dropCursor h.place

end Connection

end OneConnection
