import OneConnection.Cursor.Basic

/-!
# Cursors in memory

A cursor over result sets that are in memory already.
-/

namespace OneConnection

structure Buffered where
  sets : List ResultSet := []
  closed : Bool := false

namespace Buffered

def nextRow (b : Buffered) : Fetch Buffered (Option Row) :=
  if b.closed then { result := .error (.custom "reader is closed"), cursor := b }
  else
    match b.sets with
    | (row :: rows) :: others => { result := .ok (some row), cursor := { b with sets := rows :: others } }
    | _ => { result := .ok none, cursor := b }

def nextResult (b : Buffered) : Fetch Buffered Bool :=
  if b.closed then { result := .ok false, cursor := b }
  else { result := .ok (!b.sets.tail.isEmpty), cursor := { b with sets := b.sets.tail } }

def close (_ : Buffered) : Buffered := { sets := [], closed := true }

def remaining (b : Buffered) : Nat := b.sets.foldr (fun set rest => set.length + 1 + rest) 0

theorem remaining_nextRow_le (b : Buffered) : remaining b.nextRow.cursor ≤ remaining b := by
  unfold nextRow
  split
  · exact Nat.le_refl _
  · split
    · rename_i h
      simp [remaining, h]
    · exact Nat.le_refl _

theorem remaining_nextRow_lt (b : Buffered) (row : Row) (h : b.nextRow.result = .ok (some row)) :
    remaining b.nextRow.cursor < remaining b := by
  unfold nextRow at *
  split
  · simp_all
  · split <;> simp_all [remaining]

theorem remaining_nextResult_lt (b : Buffered) (h : b.nextResult.result = .ok true) :
    remaining b.nextResult.cursor < remaining b := by
  unfold nextResult at *
  split
  · simp_all
  · cases hs : b.sets with
    | nil => simp_all
    | cons set others => simp [remaining, hs]

instance : Cursor Buffered where
  nextRow := nextRow
  nextResult := nextResult
  close := close
  isClosed := closed
  readIntoMemory b := { result := .ok true, cursor := b }
  remaining := remaining
  remaining_nextRow_le := remaining_nextRow_le
  remaining_nextRow_lt := remaining_nextRow_lt
  remaining_nextResult_lt := remaining_nextResult_lt

end Buffered

end OneConnection
