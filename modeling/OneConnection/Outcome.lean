import OneConnection.Cancellation
import OneConnection.Error

/-!
# Outcomes

How an operation ends. Cancellation and panics are ends of their own and not errors.
-/

namespace OneConnection

inductive Outcome (α : Type)
  | ok (value : α)
  | error (why : Error)
  | cancelled (reason : CancelReason)
  | panicked (message : String)

namespace Outcome

variable {α β : Type}

def ofExcept : Except Error α → Outcome α
  | .ok value => .ok value
  | .error why => .error why

def map (f : α → β) : Outcome α → Outcome β
  | .ok value => .ok (f value)
  | .error why => .error why
  | .cancelled reason => .cancelled reason
  | .panicked message => .panicked message

def andThen (o : Outcome α) (f : α → Except Error β) : Outcome β :=
  match o with
  | .ok value => ofExcept (f value)
  | .error why => .error why
  | .cancelled reason => .cancelled reason
  | .panicked message => .panicked message

def mapError (f : Error → Error) : Outcome α → Outcome α
  | .error why => .error (f why)
  | other => other

def isFailure : Outcome α → Bool
  | .ok _ => false
  | _ => true

def firstFailure : List (Outcome α) → Outcome (List α)
  | [] => .ok []
  | .ok value :: rest => (firstFailure rest).map (value :: ·)
  | .error why :: _ => .error why
  | .cancelled reason :: _ => .cancelled reason
  | .panicked message :: _ => .panicked message

end Outcome

end OneConnection
