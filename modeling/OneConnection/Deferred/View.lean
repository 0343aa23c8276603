import OneConnection.Deferred.Execution
import OneConnection.Row.Decoding

/-!
# Views of deferred batches

A view reads the rows of one query of a batch. The first view that is read runs the whole batch, and
the others find its result or wait for it.
-/

namespace OneConnection

namespace Connection

variable {δ κ : Type}

def newBatch (conn : Connection δ κ) : Nat × Connection δ κ :=
  (conn.deferred.length, { conn with deferred := conn.deferred ++ [{}] })

def batch? (conn : Connection δ κ) (batch : Nat) : Option DeferredBatch := conn.deferred[batch]?

def updateBatch (batch : Nat) (f : DeferredBatch → DeferredBatch) (conn : Connection δ κ) :
    Connection δ κ :=
  { conn with deferred := conn.deferred.modify batch f }

/-- Puts a query into a batch and gives its index, unless the batch has started. -/
def addQuery (batch : Nat) (q : Query) (conn : Connection δ κ) :
    Option (Nat × Connection δ κ) := do
  let b ← conn.batch? batch
  let (index, b) ← b.add q
  return (index, conn.updateBatch batch fun _ => b)

end Connection

/-- Where the reading of a view is. -/
inductive Viewing
  | fresh
  /-- Another view runs the batch. -/
  | awaiting
  | running (execution : Execution)

inductive Turn
  /-- Its caller is cancelled. -/
  | refused (reason : CancelReason)
  /-- There is no such batch. -/
  | lost
  /-- The batch has kept its result. -/
  | recalls (result : Settled)
  | waits
  /-- Nobody runs the batch, and the view begins to. -/
  | starts (batch : DeferredBatch)
  | resumes (execution : Execution)

namespace Viewing

variable {δ κ : Type} [Cursor κ]

/-- Keeps what an execution reached. A cancelled execution leaves the batch as if nobody had run
it. -/
def settle (batch index : Nat) (result : Except Stop (List ResultSet)) (conn : Connection δ κ) :
    Outcome ResultSet × Connection δ κ :=
  let keep (settled : Settled) : Outcome ResultSet × Connection δ κ :=
    (.ofExcept (settled.rowsOf index),
      conn.updateBatch batch (.setProgress (.settled settled)))
  match result with
  | .ok sets => keep (.ok sets)
  | .error (.failed why) => keep (.error why)
  | .error (.cancelled reason) =>
    (.cancelled reason, conn.updateBatch batch (.setProgress .idle))

/-- What comes of a step of the execution that the view runs. -/
def proceed (batch index : Nat) :
    Polled Execution (Except Stop (List ResultSet)) × Connection δ κ →
      Polled Viewing (Outcome ResultSet) × Connection δ κ
  | (.waiting e, conn) => (.waiting (.running e), conn)
  | (.crashed message, conn) =>
    (.crashed message, conn.updateBatch batch (.setProgress .idle))
  | (.ready result, conn) =>
    let (outcome, conn) := settle batch index result conn
    (.ready outcome, conn)

def start (setup : Setup δ κ) (caller : Caller) (batch index : Nat) (b : DeferredBatch)
    (conn : Connection δ κ) : Polled Viewing (Outcome ResultSet) × Connection δ κ :=
  let errands := b.errands setup.driver.capabilities.multipleQueries
  proceed batch index
    (Execution.run setup caller errands [] (conn.updateBatch batch .start))

/-- Looks at the batch: its result, a view that runs it, or nobody. -/
def consult (batch : Nat) (conn : Connection δ κ) : Turn :=
  match conn.batch? batch with
  | none => .lost
  | some b =>
    match b.progress with
    | .settled result => .recalls result
    | .executing => .waits
    | .idle => .starts b

/-- The caller may be cancelled at the start, but not while another view runs the batch. -/
def turn (caller : Caller) (batch : Nat) : Viewing → Connection δ κ → Turn
  | .fresh, conn =>
    match caller.cancelReason? conn.contexts with
    | some reason => .refused reason
    | none => consult batch conn
  | .awaiting, conn => consult batch conn
  | .running e, _ => .resumes e

def poll (setup : Setup δ κ) (caller : Caller) (batch index : Nat) (view : Viewing)
    (conn : Connection δ κ) : Polled Viewing (Outcome ResultSet) × Connection δ κ :=
  match view.turn caller batch conn with
  | .refused reason => (.ready (.cancelled reason), conn)
  | .lost => (.ready (.error (.invalidArgument s!"no deferred batch {batch}")), conn)
  | .recalls result => (.ready (.ofExcept (result.rowsOf index)), conn)
  | .waits => (.waiting .awaiting, conn)
  | .starts b => start setup caller batch index b conn
  | .resumes e => proceed batch index (e.resume setup caller conn)

/-- A view that goes away while it runs the batch leaves it to the others. -/
def drop (setup : Setup δ κ) (caller : Caller) (batch : Nat) :
    Viewing → Connection δ κ → Connection δ κ
  | .running e, conn => (e.drop setup caller conn).updateBatch batch (.setProgress .idle)
  | _, conn => conn

end Viewing

/-- A deferred single value: the first row of a query. -/
structure DeferredValue (α : Type) where
  batch : Nat
  index : Nat
  decoder : RowDecoder α
  /-- What happens to the value each time that it is read. -/
  onEval : Option α → Option α := id

namespace DeferredValue

variable {α : Type}

/-- Without rows there is no value. -/
def project (v : DeferredValue α) (rows : ResultSet) : Except Error (Option α) :=
  match rows with
  | [] => .ok (v.onEval none)
  | row :: _ => (v.decoder.decode row).map fun a => v.onEval (some a)

end DeferredValue

structure DeferredList (α : Type) where
  batch : Nat
  index : Nat
  decoder : RowDecoder α
  /-- What happens to the list each time that it is read. -/
  onEval : List α → List α := id

namespace DeferredList

variable {α : Type}

def project (l : DeferredList α) (rows : ResultSet) : Except Error (List α) :=
  (l.decoder.decodeAll rows).map l.onEval

end DeferredList

/-- A list that is there already and can be read like a deferred one. -/
structure ReadyList (α : Type) where
  items : List α
  deriving DecidableEq, Repr

/-- Only a cancelled caller does not get the items. -/
def ReadyList.read {α : Type} (l : ReadyList α) (caller : Caller) (contexts : Contexts) :
    Outcome (List α) :=
  match caller.cancelReason? contexts with
  | some reason => .cancelled reason
  | none => .ok l.items

end OneConnection
