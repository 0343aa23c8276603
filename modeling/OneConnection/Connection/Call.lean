import OneConnection.Connection.Basic
import OneConnection.Polling

/-!
# Calls

The way of every call that needs the connection for itself. It waits until the connection is free,
sends what it has to send, waits for the driver, and gives the connection back.
-/

namespace OneConnection

/-- Where a call is. `β` is what it remembers while the driver works on it. -/
inductive Call (β : Type)
  /-- It waits for the connection. -/
  | waiting
  /-- It holds the connection, and the driver answers after some more polls. -/
  | sent (polls : Nat) (answer : β)

inductive Begun (β ρ : Type)
  | sent (polls : Nat) (answer : β)
  /-- There was nothing to send. -/
  | settled (outcome : Outcome ρ)
  | crashed (message : String)

/-- What a call does with the connection while it has it for itself. -/
structure Protocol (δ κ β ρ : Type) where
  /-- What the call needs before it asks for the connection. -/
  admission : Except Error Unit := .ok ()
  begin : Connection δ κ → Begun β ρ × Connection δ κ
  finish : β → Connection δ κ → Outcome ρ × Connection δ κ
  /-- What is left to do when the caller goes away before the driver answers. -/
  discard : β → Connection δ κ → Connection δ κ := fun _ conn => conn

namespace Protocol

variable {δ κ β ρ : Type}

/-- The error for a connection that a crash has broken. -/
def brokenError : Error := .custom "connection lock poisoned by a panicking driver call"

def answer (p : Protocol δ κ β ρ) :
    Nat → β → Connection δ κ → Polled (Call β) (Outcome ρ) × Connection δ κ
  | 0, b, conn =>
    let (outcome, conn) := p.finish b conn
    (.ready outcome, conn.setAccess .free)
  | n + 1, b, conn => (.waiting (.sent n b), conn)

def start (p : Protocol δ κ β ρ) (conn : Connection δ κ) :
    Polled (Call β) (Outcome ρ) × Connection δ κ :=
  match p.begin (conn.setAccess .held) with
  | (.settled outcome, conn) => (.ready outcome, conn.setAccess .free)
  | (.crashed message, conn) => (.crashed message, conn.setAccess .broken)
  | (.sent polls b, conn) => p.answer polls b conn

/-- A call that waits looks first whether its caller is cancelled, and then at the connection. -/
def poll (p : Protocol δ κ β ρ) (caller : Caller) :
    Call β → Connection δ κ → Polled (Call β) (Outcome ρ) × Connection δ κ
  | .sent polls b, conn => p.answer polls b conn
  | .waiting, conn =>
    match caller.cancelReason? conn.contexts, p.admission, conn.access with
    | some reason, _, _ => (.ready (.cancelled reason), conn)
    | none, .error why, _ => (.ready (.error why), conn)
    | none, .ok (), .broken => (.ready (.error brokenError), conn)
    | none, .ok (), .held => (.waiting .waiting, conn)
    | none, .ok (), .free => p.start conn

def drop (p : Protocol δ κ β ρ) : Call β → Connection δ κ → Connection δ κ
  | .waiting, conn => conn
  | .sent _ b, conn => (p.discard b conn).setAccess .free

end Protocol

/-- A caller that can wait calls the driver's asynchronous form. -/
def Caller.mode : Caller → Mode
  | .blocking => .blocking
  | .task _ => .async

end OneConnection
