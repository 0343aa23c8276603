import OneConnection.Command.Basic
import OneConnection.Cursor.Basic

/-!
# Reading result sets

All rows of as many result sets as a command is to give, unless the caller is cancelled between two
rows.
-/

namespace OneConnection

inductive Stop
  | cancelled (reason : CancelReason)
  | failed (why : Error)

/-- What reading gives, with the cursor and the contexts as they are afterwards. -/
structure Reading (κ α : Type) where
  result : Except Stop α
  cursor : κ
  contexts : Contexts

namespace Reading

variable {κ α β : Type}

def map (f : α → β) (x : Reading κ α) : Reading κ β := { x with result := x.result.map f }

def andThen (x : Reading κ α) (f : α → κ → Contexts → Reading κ β) : Reading κ β :=
  match x.result with
  | .ok a => f a x.cursor x.contexts
  | .error stop => ⟨.error stop, x.cursor, x.contexts⟩

variable [Cursor κ]

/-- The rows that are left in the current result set. The caller may be cancelled before each
row. -/
def set (caller : Caller) (c : Command) (cursor : κ) (contexts : Contexts) :
    Reading κ ResultSet :=
  match caller.cancelReason? contexts with
  | some reason => ⟨.error (.cancelled reason), cursor, contexts⟩
  | none =>
    let x := Cursor.nextRow cursor
    let contexts := contexts.cancelAll x.cancels
    match _more : x.result with
    | .error why => ⟨.error (.failed (c.blame why)), x.cursor, contexts⟩
    | .ok none => ⟨.ok [], x.cursor, contexts⟩
    | .ok (some row) => (set caller c x.cursor contexts).map (row :: ·)
termination_by Cursor.remaining cursor
decreasing_by exact Cursor.remaining_nextRow_lt cursor row ‹_›

/-- Moves to the next result set, which has to be there after the `got` that were read. -/
def advance (c : Command) (wanted got : Nat) (cursor : κ) (contexts : Contexts) :
    Reading κ Unit :=
  let x := Cursor.nextResult cursor
  let contexts := contexts.cancelAll x.cancels
  match x.result with
  | .error why => ⟨.error (.failed (c.blame why)), x.cursor, contexts⟩
  | .ok true => ⟨.ok (), x.cursor, contexts⟩
  | .ok false =>
    ⟨.error (.failed (c.resultShapeError s!"expected {wanted} result sets, got {got}")),
      x.cursor, contexts⟩

/-- The result sets after the first `got`, up to the wanted number. -/
def others (caller : Caller) (c : Command) (wanted : Nat) :
    (got todo : Nat) → κ → Contexts → Reading κ (List ResultSet)
  | _, 0, cursor, contexts => ⟨.ok [], cursor, contexts⟩
  | got, todo + 1, cursor, contexts =>
    (advance c wanted got cursor contexts).andThen fun _ cursor contexts =>
      (set caller c cursor contexts).andThen fun rows cursor contexts =>
        (others caller c wanted (got + 1) todo cursor contexts).map (rows :: ·)

/-- The first result sets of a cursor, of which there have to be enough. -/
def sets (caller : Caller) (c : Command) (wanted : Nat) (cursor : κ) (contexts : Contexts) :
    Reading κ (List ResultSet) :=
  match wanted with
  | 0 => ⟨.ok [], cursor, contexts⟩
  | n + 1 =>
    (set caller c cursor contexts).andThen fun rows cursor contexts =>
      (others caller c (n + 1) 1 n cursor contexts).map (rows :: ·)

end Reading

end OneConnection
