import OneConnection.Connection.Flushing

/-!
# Disposal

Giving up a connection: the pending batch is discarded, and readers that are still open are closed.
-/

namespace OneConnection

namespace Connection

variable {δ κ : Type} [Cursor κ]

/-- Closes every tracked reader, and says how many were open. -/
def closeAllReaders (conn : Connection δ κ) : Nat × Connection δ κ :=
  let (count, registry, readers) := conn.registry.closeAll conn.readers
  (count, { conn with registry, readers })

/-- Discards the pending batch, with a warning if it holds commands. -/
def discardPending (conn : Connection δ κ) : Connection δ κ :=
  let (batch, conn) := conn.takePending
  if batch.isEmpty then conn else conn.warn (.batchDiscarded batch.size)

/-- Closes every tracked reader, and complains if some were open. -/
def disposeReaders (strict : Bool) (conn : Connection δ κ) : Except Error Unit × Connection δ κ :=
  let (count, conn) := conn.closeAllReaders
  match Registry.leak strict count with
  | .ok warnings => (.ok (), conn.recordAll (warnings.map .warned))
  | .error why => (.error why, conn)

def dispose (setup : Setup δ κ) (conn : Connection δ κ) : Except Error Unit × Connection δ κ :=
  conn.discardPending.disposeReaders setup.settings.strictLeaks

end Connection

end OneConnection
