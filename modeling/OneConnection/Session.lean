import OneConnection.Connection.Disposal
import OneConnection.Deferred.View

/-!
# Sessions

A unit of work over one connection. It collects deferred queries in its current batch and starts a
new batch as soon as the current one has started to run.
-/

namespace OneConnection

structure Session where
  /-- The batch that took the last query. -/
  latest : Option Nat := none
  deriving DecidableEq, Repr

namespace Session

variable {δ κ : Type}

/-- The batch that takes the next query, if there is one. -/
def current? (s : Session) (conn : Connection δ κ) : Option Nat :=
  s.latest.filter fun batch => (conn.batch? batch).any fun b => !b.isSealed

/-- Offers a query to a batch. The batch that takes it is the current one from then on. -/
def offer (q : Query) (batch : Nat) (conn : Connection δ κ) :
    Option ((Nat × Nat) × Session × Connection δ κ) :=
  (conn.addQuery batch q).map fun (index, conn) => ((batch, index), ⟨some batch⟩, conn)

theorem offer_newBatch (q : Query) (conn : Connection δ κ) :
    offer q conn.newBatch.1 conn.newBatch.2 =
      some ((conn.newBatch.1, 0), ⟨some conn.newBatch.1⟩,
        conn.newBatch.2.updateBatch conn.newBatch.1 fun _ => DeferredBatch.append q {}) := by
  simp [offer, Connection.addQuery, Connection.newBatch, Connection.batch?, DeferredBatch.add,
    DeferredBatch.size]

/-- Puts a query into the current batch, or into a new one if there is none or if it refuses the
query. Gives the batch and the index in it. -/
def register (q : Query) (s : Session) (conn : Connection δ κ) :
    (Nat × Nat) × Session × Connection δ κ :=
  match (s.current? conn).bind fun batch => offer q batch conn with
  | some taken => taken
  | none =>
    (offer q conn.newBatch.1 conn.newBatch.2).get (by rw [offer_newBatch, Option.isSome_some])

variable [Cursor κ]

def close (setup : Setup δ κ) (_ : Session) (conn : Connection δ κ) :
    Except Error Unit × Connection δ κ :=
  conn.dispose setup

/-- Ends a session that nobody closed. What would be an error becomes a warning. -/
def abandon (setup : Setup δ κ) (_ : Session) (conn : Connection δ κ) : Connection δ κ :=
  match conn.dispose setup with
  | (.ok (), conn) => conn
  | (.error why, conn) => conn.warn (.sessionDropped why)

end Session

end OneConnection
