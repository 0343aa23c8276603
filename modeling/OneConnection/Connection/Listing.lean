import OneConnection.Connection.Opening
import OneConnection.Row.Decoding

/-!
# Listing

A command that reads, with every row of its first result set decoded at once. The reader is closed
whatever comes of it.
-/

namespace OneConnection

namespace Listing

variable {δ κ α : Type} [Cursor κ]

def decode (decoder : RowDecoder α) (h : Handle) (conn : Connection δ κ) :
    Except Error (List α) × Connection δ κ :=
  let (items, conn) := conn.fetch h.place (Cursor.collect decoder.decode)
  (items, conn.closeReader h)

def poll (setup : Setup δ κ) (caller : Caller) (c : Command) (decoder : RowDecoder α)
    (call : Call Opening.Sent) (conn : Connection δ κ) :
    Polled (Call Opening.Sent) (Outcome (List α)) × Connection δ κ :=
  match Opening.poll setup caller c call conn with
  | (.waiting call, conn) => (.waiting call, conn)
  | (.crashed message, conn) => (.crashed message, conn)
  | (.ready (.ok h), conn) =>
    let (items, conn) := decode decoder h conn
    (.ready (.ofExcept items), conn)
  | (.ready (.error why), conn) => (.ready (.error why), conn)
  | (.ready (.cancelled reason), conn) => (.ready (.cancelled reason), conn)
  | (.ready (.panicked message), conn) => (.ready (.panicked message), conn)

end Listing

end OneConnection
