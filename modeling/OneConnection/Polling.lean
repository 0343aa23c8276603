/-!
# Polling

Operations that are asked again and again until they have an answer. Several of them are driven
together by asking each unfinished one in turn.
-/

namespace OneConnection

/-- What asking an operation once gives. -/
inductive Polled (τ α : Type)
  | ready (answer : α)
  | waiting (operation : τ)
  /-- Asking the operation failed beyond repair, and it is gone. -/
  | crashed (message : String)

def Polled.map {τ α β : Type} (f : α → β) : Polled τ α → Polled τ β
  | .ready answer => .ready (f answer)
  | .waiting operation => .waiting operation
  | .crashed message => .crashed message

/-- The operation that still waits, seen as part of a larger one. -/
def Polled.within {τ υ α : Type} (f : τ → υ) : Polled τ α → Polled υ α
  | .ready answer => .ready answer
  | .waiting operation => .waiting (f operation)
  | .crashed message => .crashed message

/-- One of several operations that are driven together. -/
inductive Slot (τ α : Type)
  | running (operation : τ)
  | finished (answer : α)

namespace Slot

variable {σ τ α : Type}

def operation? : Slot τ α → Option τ
  | .running operation => some operation
  | .finished _ => none

def answer? : Slot τ α → Option α
  | .running _ => none
  | .finished answer => some answer

end Slot

namespace Joint

variable {σ τ α : Type}

/-- Asks every unfinished operation once, from the first to the last. A crash stops the round; what
remains are the operations that are not finished. -/
def round (poll : τ → σ → Polled τ α × σ) :
    List (Slot τ α) → σ → Except (String × List τ) (List (Slot τ α)) × σ
  | [], s => (.ok [], s)
  | .finished answer :: rest, s =>
    let (others, s) := round poll rest s
    (others.map (.finished answer :: ·), s)
  | .running operation :: rest, s =>
    match poll operation s with
    | (.crashed message, s) => (.error (message, rest.filterMap Slot.operation?), s)
    | (.ready answer, s) =>
      let (others, s) := round poll rest s
      (others.map (.finished answer :: ·), s)
    | (.waiting operation, s) =>
      match round poll rest s with
      | (.ok others, s) => (.ok (.running operation :: others), s)
      | (.error (message, remaining), s) => (.error (message, operation :: remaining), s)

/-- How driving several operations ends. -/
inductive End (τ α : Type)
  | ready (answers : List α)
  /-- Some operations have no answer yet. -/
  | waiting (slots : List (Slot τ α))
  | crashed (message : String) (remaining : List τ)

/-- At most `rounds` rounds, until every operation has its answer. -/
def run (poll : τ → σ → Polled τ α × σ) :
    (rounds : Nat) → List (Slot τ α) → σ → End τ α × σ
  | 0, slots, s => (.waiting slots, s)
  | n + 1, slots, s =>
    match round poll slots s with
    | (.error (message, remaining), s) => (.crashed message remaining, s)
    | (.ok slots, s) =>
      match slots.mapM Slot.answer? with
      | some answers => (.ready answers, s)
      | none => run poll n slots s

end Joint

end OneConnection
