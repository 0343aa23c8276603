import OneConnection.Connection.Call

/-!
# Executing

Commands that run at once and on their own, and give the number of rows that they affect.
-/

namespace OneConnection

namespace Connection

variable {δ κ : Type} [Cursor κ]

/-- What happens before every single command: the command as it is sent, with the connection made
ready for it. -/
def beforeSingle (setup : Setup δ κ) (c : Command) (conn : Connection δ κ) :
    Command × Connection δ κ :=
  let c := setup.prepare c
  let (_, conn) := conn.checkReaders
  (c, (conn.logCommand setup c).count fun s => { s with roundTrips := s.roundTrips + 1 })

end Connection

namespace Executing

variable {δ κ : Type} [Cursor κ]

/-- What an execution remembers: the command that it has sent, and the driver's answer. -/
structure Sent where
  command : Command
  rows : Outcome RowCount

def begin (setup : Setup δ κ) (mode : Mode) (c : Command) (conn : Connection δ κ) :
    Begun Sent RowCount × Connection δ κ :=
  let (c, conn) := conn.beforeSingle setup c
  let conn := conn.recordCall .nonQuery mode [c]
  match setup.driver.nonQuery mode c conn.database with
  | (.after polls rows, database) => (.sent polls ⟨c, rows⟩, { conn with database })
  | (.crashed message, database) => (.crashed message, { conn with database })

def finish (sent : Sent) : Outcome RowCount :=
  (sent.rows.mapError sent.command.blame).andThen fun rows =>
    (sent.command.verifyAlone rows).map fun _ => rows

def protocol (setup : Setup δ κ) (mode : Mode) (c : Command) : Protocol δ κ Sent RowCount where
  begin := begin setup mode c
  finish sent conn := (finish sent, conn)

def poll (setup : Setup δ κ) (caller : Caller) (c : Command) :
    Call Sent → Connection δ κ → Polled (Call Sent) (Outcome RowCount) × Connection δ κ :=
  (protocol setup caller.mode c).poll caller

def drop (setup : Setup δ κ) (caller : Caller) (c : Command) :
    Call Sent → Connection δ κ → Connection δ κ :=
  (protocol setup caller.mode c).drop

end Executing

end OneConnection
