import OneConnection.Connection.Call

/-!
# Flushing

Commands are collected in the pending batch, and a flush sends them in one round trip. The batch is
empty as soon as a flush has the connection.
-/

namespace OneConnection

namespace Connection

variable {δ κ : Type}

/-- Puts a command into the pending batch, and says whether the batch is full now. -/
def push (setup : Setup δ κ) (c : Command) (conn : Connection δ κ) : Bool × Connection δ κ :=
  let c := setup.prepare c
  let line := if setup.logs then some (setup.statementLog.line c) else none
  let pending := conn.pending.push c line
  (setup.settings.batchSize ≤ pending.size,
    { conn with pending }.count fun s => { s with commandsBatched := s.commandsBatched + 1 })

def takePending (conn : Connection δ κ) : PendingBatch × Connection δ κ :=
  (conn.pending, { conn with pending := {} })

end Connection

namespace Flushing

variable {δ κ : Type} [Cursor κ]

/-- What a flush remembers: the batch that it has sent, and the driver's answer. -/
structure Sent where
  batch : PendingBatch
  rows : Outcome RowCount

def begin (setup : Setup δ κ) (mode : Mode) (conn : Connection δ κ) :
    Begun Sent RowCount × Connection δ κ :=
  let (batch, conn) := conn.takePending
  if batch.isEmpty then (.settled (.ok 0), conn)
  else
    let (_, conn) := conn.checkReaders
    let conn := (conn.logBatch setup batch.log).count fun s =>
      { s with flushes := s.flushes + 1, roundTrips := s.roundTrips + 1 }
    let conn := conn.recordCall .batch mode batch.commands
    match setup.driver.batch mode batch.commands conn.database with
    | (.after polls rows, database) => (.sent polls ⟨batch, rows⟩, { conn with database })
    | (.crashed message, database) => (.crashed message, { conn with database })

def verify (batch : PendingBatch) (rows : RowCount) (conn : Connection δ κ) :
    Outcome RowCount × Connection δ κ :=
  match batch.check rows with
  | none => (.ok rows, conn)
  | some why =>
    (.error (.verification why),
      conn.warn (.verificationFailed why.expected why.actual batch.size))

def finish (sent : Sent) (conn : Connection δ κ) : Outcome RowCount × Connection δ κ :=
  match sent.rows with
  | .ok rows => verify sent.batch rows conn
  | other => (other.mapError sent.batch.blame, conn)

/-- A flush gives the row count of the batch, and zero if nothing was pending. -/
def protocol (setup : Setup δ κ) (mode : Mode) : Protocol δ κ Sent RowCount where
  begin := begin setup mode
  finish := finish

def poll (setup : Setup δ κ) (caller : Caller) :
    Call Sent → Connection δ κ → Polled (Call Sent) (Outcome RowCount) × Connection δ κ :=
  (protocol setup caller.mode).poll caller

def drop (setup : Setup δ κ) (caller : Caller) : Call Sent → Connection δ κ → Connection δ κ :=
  (protocol setup caller.mode).drop

end Flushing

inductive Adding
  | fresh (command : Command)
  /-- The command filled the batch. -/
  | flushing (call : Call Flushing.Sent)

namespace Adding

variable {δ κ : Type} [Cursor κ]

def flush (setup : Setup δ κ) (caller : Caller) (call : Call Flushing.Sent)
    (conn : Connection δ κ) : Polled Adding (Outcome Unit) × Connection δ κ :=
  (Flushing.poll setup caller call conn).map
    (fun p => (p.map (Outcome.map fun _ => ())).within .flushing) id

/-- A command is in the batch once the caller was not cancelled at the start. -/
def poll (setup : Setup δ κ) (caller : Caller) :
    Adding → Connection δ κ → Polled Adding (Outcome Unit) × Connection δ κ
  | .flushing call, conn => flush setup caller call conn
  | .fresh c, conn =>
    match caller.cancelReason? conn.contexts with
    | some reason => (.ready (.cancelled reason), conn)
    | none =>
      match conn.push setup c with
      | (true, conn) => flush setup caller .waiting conn
      | (false, conn) => (.ready (.ok ()), conn)

def drop (setup : Setup δ κ) (caller : Caller) : Adding → Connection δ κ → Connection δ κ
  | .fresh _, conn => conn
  | .flushing call, conn => Flushing.drop setup caller call conn

end Adding

end OneConnection
