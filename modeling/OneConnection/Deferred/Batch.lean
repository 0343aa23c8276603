import OneConnection.Command.Combined
import OneConnection.Row.Basic

/-!
# Deferred batches

Queries that wait until somebody wants the result of one of them, and then run together. A batch
takes no more queries once it has started, and keeps the result that it reaches.
-/

namespace OneConnection

/-- A query that is to run later. -/
structure Query where
  command : Command
  cacheable : Bool := false
  /-- Where a cache keeps the results. -/
  region : Option String := none

/-- What a finished execution leaves: the result sets of the queries, or the error that stopped
it. -/
abbrev Settled := Except Error (List ResultSet)

namespace Settled

/-- The rows of one query. Every view of a failed batch gets the same error. -/
def rowsOf (index : Nat) : Settled → Except Error ResultSet
  | .error why => .error (.shared why)
  | .ok sets =>
    match sets[index]? with
    | some rows => .ok rows
    | none => .error (.invalidArgument
        s!"future batch has {sets.length} queries, no query at index {index}")

end Settled

inductive Progress
  | idle
  /-- Some view runs it. -/
  | executing
  | settled (result : Settled)

structure DeferredBatch where
  queries : List Query := []
  /-- All queries are cacheable and keep their results in one region. -/
  agrees : Bool := true
  region : Option String := none
  /-- The batch takes no more queries. -/
  isSealed : Bool := false
  progress : Progress := .idle

/-- What a batch has to ask of the connection: a command, and how many result sets it gives. -/
structure Errand where
  command : Command
  sets : Nat

namespace DeferredBatch

def size (b : DeferredBatch) : Nat := b.queries.length

def isEmpty (b : DeferredBatch) : Bool := b.queries.isEmpty

def append (q : Query) (b : DeferredBatch) : DeferredBatch :=
  { b with
    queries := b.queries ++ [q]
    region := if b.isEmpty then q.region else b.region
    agrees := b.agrees && (b.isEmpty || b.region = q.region) && q.cacheable }

/-- Takes a query and gives its index, unless the batch has started. -/
def add (q : Query) (b : DeferredBatch) : Option (Nat × DeferredBatch) :=
  if b.isSealed then none else some (b.size, b.append q)

def isCacheable (b : DeferredBatch) : Bool := !b.isEmpty && b.agrees

def cacheRegion (b : DeferredBatch) : Option String := if b.agrees then b.region else none

def isExecuted (b : DeferredBatch) : Bool :=
  match b.progress with
  | .settled _ => true
  | _ => false

def commands (b : DeferredBatch) : List Command := b.queries.map (·.command)

@[simp] theorem queries_append (q : Query) (b : DeferredBatch) :
    (b.append q).queries = b.queries ++ [q] := rfl

@[simp] theorem commands_append (q : Query) (b : DeferredBatch) :
    (b.append q).commands = b.commands ++ [q.command] := by
  simp [commands]

def start (b : DeferredBatch) : DeferredBatch := { b with isSealed := true, progress := .executing }

def setProgress (p : Progress) (b : DeferredBatch) : DeferredBatch := { b with progress := p }

/-- All commands in one round trip if several statements may travel together, and otherwise one
after the other. -/
def errands (together : Bool) (b : DeferredBatch) : List Errand :=
  if b.isEmpty then []
  else if together then [⟨Command.combine b.commands, b.size⟩]
  else b.commands.map (⟨·, 1⟩)

end DeferredBatch

end OneConnection
