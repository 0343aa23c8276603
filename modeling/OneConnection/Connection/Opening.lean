import OneConnection.Connection.Executing

/-!
# Opening readers

Commands that read are given to the first handler of the chain that accepts them. The cursor that
the driver opens gets its place at once, and becomes a tracked reader when the call ends.
-/

namespace OneConnection

namespace Dispatch

variable {δ κ : Type} [Cursor κ]

/-- By which of its two ways the driver is called for a handler. -/
def mode (caller : Caller) (h : Handler) : Mode :=
  match caller with
  | .blocking => .blocking
  | .task _ => if h.isNative then .async else .blocking

inductive Result
  /-- The driver answers after some more polls. A cursor that it opens has its place already. -/
  | sent (polls : Nat) (place : Outcome Nat)
  /-- The caller was cancelled before the driver was called. -/
  | cancelled (reason : CancelReason)
  /-- No handler accepts the command. -/
  | rejected (why : Error)
  | crashed (message : String)

def keep (outcome : Outcome κ) (conn : Connection δ κ) : Outcome Nat × Connection δ κ :=
  match outcome with
  | .ok cursor =>
    let (place, readers) := conn.readers.add cursor
    (.ok place, conn.setReaders readers)
  | .error why => (.error why, conn)
  | .cancelled reason => (.cancelled reason, conn)
  | .panicked message => (.panicked message, conn)

/-- Gives a command to the handler that accepts it, unless the caller is cancelled. -/
def run (setup : Setup δ κ) (caller : Caller) (c : Command) (conn : Connection δ κ) :
    Result × Connection δ κ :=
  match caller.cancelReason? conn.contexts, setup.chain.select c with
  | some reason, _ => (.cancelled reason, conn)
  | none, .error why => (.rejected why, conn)
  | none, .ok handler =>
    let mode := mode caller handler
    let conn := conn.recordCall .reader mode [c]
    match setup.driver.read mode c conn.database with
    | (.after polls outcome, database) =>
      let (place, conn) := keep outcome { conn with database }
      (.sent polls place, conn)
    | (.crashed message, database) => (.crashed message, { conn with database })

/-- Closes the cursor of an answer that nobody waits for any more. -/
def discard (place : Outcome Nat) (conn : Connection δ κ) : Connection δ κ :=
  match place with
  | .ok place => conn.dropCursor place
  | _ => conn

end Dispatch

/-- Where a command is that goes to the driver past the connection's access rules. -/
inductive Dispatching
  | fresh (command : Command)
  | sent (polls : Nat) (place : Outcome Nat)

namespace Dispatching

variable {δ κ : Type} [Cursor κ]

/-- The first row, after which the reader is not needed any more. -/
def firstRow (place : Nat) (conn : Connection δ κ) :
    Except Error (Option Row) × Connection δ κ :=
  let (row, conn) := conn.fetch place Reader.nextRow
  (row, conn.dropCursor place)

def answer : Nat → Outcome Nat → Connection δ κ →
    Polled Dispatching (Outcome (Option Row)) × Connection δ κ
  | n + 1, place, conn => (.waiting (.sent n place), conn)
  | 0, .ok place, conn =>
    let (row, conn) := firstRow place conn
    (.ready (.ofExcept row), conn)
  | 0, .error why, conn => (.ready (.error why), conn)
  | 0, .cancelled reason, conn => (.ready (.cancelled reason), conn)
  | 0, .panicked message, conn => (.ready (.panicked message), conn)

def poll (setup : Setup δ κ) (caller : Caller) :
    Dispatching → Connection δ κ → Polled Dispatching (Outcome (Option Row)) × Connection δ κ
  | .sent polls place, conn => answer polls place conn
  | .fresh c, conn =>
    match Dispatch.run setup caller c conn with
    | (.sent polls place, conn) => answer polls place conn
    | (.cancelled reason, conn) => (.ready (.cancelled reason), conn)
    | (.rejected why, conn) => (.ready (.error why), conn)
    | (.crashed message, conn) => (.crashed message, conn)

def drop : Dispatching → Connection δ κ → Connection δ κ
  | .fresh _, conn => conn
  | .sent _ place, conn => Dispatch.discard place conn

end Dispatching

namespace Opening

variable {δ κ : Type} [Cursor κ]

/-- What an opening remembers: the command that it has sent, and the driver's answer. -/
structure Sent where
  command : Command
  place : Outcome Nat

def begin (setup : Setup δ κ) (caller : Caller) (c : Command) (conn : Connection δ κ) :
    Begun Sent Handle × Connection δ κ :=
  let (c, conn) := conn.beforeSingle setup c
  match Dispatch.run setup caller c conn with
  | (.sent polls place, conn) => (.sent polls ⟨c, place⟩, conn)
  | (.crashed message, conn) => (.crashed message, conn)
  | (.cancelled reason, conn) => (.settled (.cancelled reason), conn)
  | (.rejected why, conn) => (.settled (.error (c.blame why)), conn)

def finish (sent : Sent) (conn : Connection δ κ) : Outcome Handle × Connection δ κ :=
  match sent.place with
  | .ok place =>
    let (handle, conn) := conn.register place
    (.ok handle, conn.count fun s => { s with readersOpened := s.readersOpened + 1 })
  | .error why => (.error (sent.command.blame why), conn)
  | .cancelled reason => (.cancelled reason, conn)
  | .panicked message => (.panicked message, conn)

/-- Only commands that some handler accepts ask for the connection. -/
def protocol (setup : Setup δ κ) (caller : Caller) (c : Command) : Protocol δ κ Sent Handle where
  admission := (setup.chain.select c).map fun _ => ()
  begin := begin setup caller c
  finish := finish
  discard sent conn := Dispatch.discard sent.place conn

def poll (setup : Setup δ κ) (caller : Caller) (c : Command) :
    Call Sent → Connection δ κ → Polled (Call Sent) (Outcome Handle) × Connection δ κ :=
  (protocol setup caller c).poll caller

def drop (setup : Setup δ κ) (caller : Caller) (c : Command) :
    Call Sent → Connection δ κ → Connection δ κ :=
  (protocol setup caller c).drop

end Opening

end OneConnection
