import OneConnection.Connection.Opening
import OneConnection.Deferred.Reading

/-!
# Running deferred batches

The errands of a batch are run one after the other. Each opens a reader, reads the result sets that
belong to it and closes the reader again.
-/

namespace OneConnection

/-- An execution that waits in one of its errands. -/
structure Execution where
  errand : Errand
  call : Call Opening.Sent
  rest : List Errand
  /-- The result sets of the errands that are done. -/
  done : List ResultSet

namespace Execution

variable {δ κ : Type} [Cursor κ]

/-- Reads the result sets of an errand and closes the reader. -/
def read (caller : Caller) (errand : Errand) (h : Handle) (conn : Connection δ κ) :
    Except Stop (List ResultSet) × Connection δ κ :=
  match conn.readers.get? h.place with
  | none => (.error (.failed (.custom "reader is closed")), conn.closeReader h)
  | some reader =>
    let x := Reading.sets caller errand.command errand.sets reader conn.contexts
    let readers := conn.readers.update h.place fun _ => x.cursor
    (x.result, { conn with readers, contexts := x.contexts }.closeReader h)

/-- Reads from the reader of an errand, if there is one. -/
def complete (caller : Caller) (errand : Errand) (opened : Outcome Handle)
    (conn : Connection δ κ) : Except Stop (List ResultSet) × Connection δ κ :=
  match opened with
  | .ok h => read caller errand h conn
  | .error why => (.error (.failed why), conn)
  | .cancelled reason => (.error (.cancelled reason), conn)
  | .panicked _ => (.error (.failed (.custom "reader dispatch panicked")), conn)

def ask (setup : Setup δ κ) (caller : Caller) (errand : Errand) (call : Call Opening.Sent)
    (conn : Connection δ κ) :
    Polled (Call Opening.Sent) (Except Stop (List ResultSet)) × Connection δ κ :=
  match Opening.poll setup caller errand.command call conn with
  | (.waiting call, conn) => (.waiting call, conn)
  | (.crashed message, conn) => (.crashed message, conn)
  | (.ready opened, conn) =>
    let (sets, conn) := complete caller errand opened conn
    (.ready sets, conn)

def run (setup : Setup δ κ) (caller : Caller) :
    List Errand → List ResultSet → Connection δ κ →
      Polled Execution (Except Stop (List ResultSet)) × Connection δ κ
  | [], done, conn => (.ready (.ok done), conn)
  | errand :: rest, done, conn =>
    match ask setup caller errand .waiting conn with
    | (.waiting call, conn) => (.waiting ⟨errand, call, rest, done⟩, conn)
    | (.crashed message, conn) => (.crashed message, conn)
    | (.ready (.error stop), conn) => (.ready (.error stop), conn)
    | (.ready (.ok sets), conn) => run setup caller rest (done ++ sets) conn

def resume (setup : Setup δ κ) (caller : Caller) (e : Execution) (conn : Connection δ κ) :
    Polled Execution (Except Stop (List ResultSet)) × Connection δ κ :=
  match ask setup caller e.errand e.call conn with
  | (.waiting call, conn) => (.waiting { e with call }, conn)
  | (.crashed message, conn) => (.crashed message, conn)
  | (.ready (.error stop), conn) => (.ready (.error stop), conn)
  | (.ready (.ok sets), conn) => run setup caller e.rest (e.done ++ sets) conn

def drop (setup : Setup δ κ) (caller : Caller) (e : Execution) (conn : Connection δ κ) :
    Connection δ κ :=
  Opening.drop setup caller e.errand.command e.call conn

end Execution

end OneConnection
