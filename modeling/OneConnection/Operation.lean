import OneConnection.Connection.Disposal
import OneConnection.Connection.Listing
import OneConnection.Deferred.View

/-!
# Operations

Everything that callers ask of a connection and that may have to wait, as one type. An operation
is polled until it is ready, or dropped before. What lists and views give is `ρ`.
-/

namespace OneConnection

inductive Request (ρ : Type)
  /-- Add a command to the pending batch. -/
  | add (command : Command)
  /-- Send the pending batch. -/
  | flush
  /-- Run a command on its own. -/
  | execute (command : Command)
  /-- Open a reader. -/
  | read (command : Command)
  /-- Open a reader, decode its rows and close it. -/
  | list (command : Command) (decoder : RowDecoder ρ)
  /-- Read a view of a deferred batch. -/
  | view (batch index : Nat) (project : ResultSet → Except Error ρ)
  /-- Give a command to the driver directly, and read the first row. -/
  | dispatch (command : Command)

inductive Reply (ρ : Type)
  | done
  | rows (count : RowCount)
  | reader (handle : Handle)
  | items (list : List ρ)
  | projected (result : ρ)
  | firstRow (row : Option Row)

inductive Operation (ρ : Type)
  | adding (state : Adding)
  | flushing (call : Call Flushing.Sent)
  | executing (command : Command) (call : Call Executing.Sent)
  | opening (command : Command) (call : Call Opening.Sent)
  | listing (command : Command) (decoder : RowDecoder ρ) (call : Call Opening.Sent)
  | viewing (batch index : Nat) (project : ResultSet → Except Error ρ) (state : Viewing)
  | dispatching (state : Dispatching)

/-- The operation of a request. Nothing happens before it is polled. -/
def Request.start {ρ : Type} : Request ρ → Operation ρ
  | .add c => .adding (.fresh c)
  | .flush => .flushing .waiting
  | .execute c => .executing c .waiting
  | .read c => .opening c .waiting
  | .list c decoder => .listing c decoder .waiting
  | .view batch index project => .viewing batch index project .fresh
  | .dispatch c => .dispatching (.fresh c)

namespace Operation

variable {δ κ ρ : Type} [Cursor κ]

def poll (setup : Setup δ κ) (caller : Caller) (operation : Operation ρ) (conn : Connection δ κ) :
    Polled (Operation ρ) (Outcome (Reply ρ)) × Connection δ κ :=
  match operation with
  | .adding state =>
    let (p, conn) := state.poll setup caller conn
    ((p.map (Outcome.map fun _ => .done)).within .adding, conn)
  | .flushing call =>
    let (p, conn) := Flushing.poll setup caller call conn
    ((p.map (Outcome.map .rows)).within .flushing, conn)
  | .executing c call =>
    let (p, conn) := Executing.poll setup caller c call conn
    ((p.map (Outcome.map .rows)).within (.executing c), conn)
  | .opening c call =>
    let (p, conn) := Opening.poll setup caller c call conn
    ((p.map (Outcome.map .reader)).within (.opening c), conn)
  | .listing c decoder call =>
    let (p, conn) := Listing.poll setup caller c decoder call conn
    ((p.map (Outcome.map .items)).within (.listing c decoder), conn)
  | .viewing batch index project state =>
    let (p, conn) := state.poll setup caller batch index conn
    ((p.map fun o => o.andThen fun rows => (project rows).map .projected).within
      (.viewing batch index project), conn)
  | .dispatching state =>
    let (p, conn) := state.poll setup caller conn
    ((p.map (Outcome.map .firstRow)).within .dispatching, conn)

def drop (setup : Setup δ κ) (caller : Caller) (operation : Operation ρ) (conn : Connection δ κ) :
    Connection δ κ :=
  match operation with
  | .adding state => state.drop setup caller conn
  | .flushing call => Flushing.drop setup caller call conn
  | .executing c call => Executing.drop setup caller c call conn
  | .opening c call => Opening.drop setup caller c call conn
  | .listing c _ call => Opening.drop setup caller c call conn
  | .viewing batch _ _ state => state.drop setup caller batch conn
  | .dispatching state => state.drop conn

end Operation

end OneConnection
