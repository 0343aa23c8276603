import OneConnection.Cursor.Buffered

/-!
# Cursors that can move into memory

A hybrid reads from its cursor until it is told to release it. It then reads the rows that are left
into memory and goes on from there, so that whoever reads it sees no difference.
-/

namespace OneConnection

inductive Hybrid (κ : Type)
  | streaming (cursor : κ)
  /-- With the cursor that the rows came from, as it was let go. -/
  | buffered (source : κ) (rows : Buffered)

namespace Hybrid

variable {κ : Type} [Cursor κ]

def isInMemory : Hybrid κ → Bool
  | .streaming _ => false
  | .buffered .. => true

/-- The cursor that the rows come from or came from. -/
def source : Hybrid κ → κ
  | .streaming c => c
  | .buffered c _ => c

def nextRow : Hybrid κ → Fetch (Hybrid κ) (Option Row)
  | .streaming c => (Cursor.nextRow c).within .streaming
  | .buffered c b => b.nextRow.within (.buffered c)

def nextResult : Hybrid κ → Fetch (Hybrid κ) Bool
  | .streaming c => (Cursor.nextResult c).within .streaming
  | .buffered c b => b.nextResult.within (.buffered c)

def close : Hybrid κ → Hybrid κ
  | .streaming c => .streaming (Cursor.close c)
  | .buffered c b => .buffered c b.close

def isClosed : Hybrid κ → Bool
  | .streaming c => Cursor.isClosed c
  | .buffered _ b => b.closed

/-- A cursor that is closed stays as it is. One that fails on the way is closed, and what was read
from it is lost. -/
def readIntoMemory : Hybrid κ → Fetch (Hybrid κ) Bool
  | .buffered c b => { result := .ok true, cursor := .buffered c b }
  | .streaming c =>
    if Cursor.isClosed c then { result := .ok true, cursor := .streaming c }
    else
      let x := Cursor.drain c
      match x.result with
      | .ok sets =>
        { result := .ok true, cursor := .buffered (Cursor.close x.cursor) { sets }
          cancels := x.cancels }
      | .error why =>
        { result := .error why, cursor := .streaming (Cursor.close x.cursor), cancels := x.cancels }

def remaining : Hybrid κ → Nat
  | .streaming c => Cursor.remaining c
  | .buffered _ b => b.remaining

instance : Cursor (Hybrid κ) where
  nextRow := nextRow
  nextResult := nextResult
  close := close
  isClosed := isClosed
  readIntoMemory := readIntoMemory
  remaining := remaining
  remaining_nextRow_le
    | .streaming c => Cursor.remaining_nextRow_le c
    | .buffered _ b => b.remaining_nextRow_le
  remaining_nextRow_lt
    | .streaming c => Cursor.remaining_nextRow_lt c
    | .buffered _ b => b.remaining_nextRow_lt
  remaining_nextResult_lt
    | .streaming c => Cursor.remaining_nextResult_lt c
    | .buffered _ b => b.remaining_nextResult_lt

end Hybrid

end OneConnection
