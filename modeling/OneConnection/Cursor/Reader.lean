import OneConnection.Cursor.Hybrid

/-!
# Readers

What a connection hands out for a command that reads, and the readers that it has handed out. A
reader keeps its place, so everyone who knows the place reads from the same cursor.
-/

namespace OneConnection

inductive Reader (κ : Type)
  | plain (cursor : κ)
  | hybrid (cursor : Hybrid κ)

namespace Reader

variable {κ : Type} [Cursor κ]

def nextRow : Reader κ → Fetch (Reader κ) (Option Row)
  | .plain c => (Cursor.nextRow c).within .plain
  | .hybrid c => c.nextRow.within .hybrid

def nextResult : Reader κ → Fetch (Reader κ) Bool
  | .plain c => (Cursor.nextResult c).within .plain
  | .hybrid c => c.nextResult.within .hybrid

def close : Reader κ → Reader κ
  | .plain c => .plain (Cursor.close c)
  | .hybrid c => .hybrid c.close

def isClosed : Reader κ → Bool
  | .plain c => Cursor.isClosed c
  | .hybrid c => c.isClosed

def readIntoMemory : Reader κ → Fetch (Reader κ) Bool
  | .plain c => (Cursor.readIntoMemory c).within .plain
  | .hybrid c => c.readIntoMemory.within .hybrid

def remaining : Reader κ → Nat
  | .plain c => Cursor.remaining c
  | .hybrid c => c.remaining

instance : Cursor (Reader κ) where
  nextRow := nextRow
  nextResult := nextResult
  close := close
  isClosed := isClosed
  readIntoMemory := readIntoMemory
  remaining := remaining
  remaining_nextRow_le
    | .plain c => Cursor.remaining_nextRow_le c
    | .hybrid c => Cursor.remaining_nextRow_le c
  remaining_nextRow_lt
    | .plain c => Cursor.remaining_nextRow_lt c
    | .hybrid c => Cursor.remaining_nextRow_lt c
  remaining_nextResult_lt
    | .plain c => Cursor.remaining_nextResult_lt c
    | .hybrid c => Cursor.remaining_nextResult_lt c

/-- The driver's cursor is still open, wherever the rows come from. -/
def holdsCursor : Reader κ → Bool
  | .plain c => !Cursor.isClosed c
  | .hybrid h => !Cursor.isClosed h.source

def movable : Reader κ → Reader κ
  | .plain c => .hybrid (.streaming c)
  | .hybrid c => .hybrid c

end Reader

/-- All readers that were opened on a connection, each at its place. -/
structure Readers (κ : Type) where
  entries : List (Reader κ) := []

namespace Readers

variable {κ α : Type} [Cursor κ]

def add (c : κ) (rs : Readers κ) : Nat × Readers κ :=
  (rs.entries.length, ⟨rs.entries ++ [.plain c]⟩)

def get? (rs : Readers κ) (place : Nat) : Option (Reader κ) := rs.entries[place]?

omit [Cursor κ] in
/-- A new cursor is at its place, and the others stay where they are. -/
theorem get?_add (c : κ) (rs : Readers κ) (place : Nat) :
    (rs.add c).2.get? place =
      if place = (rs.add c).1 then some (.plain c) else rs.get? place := by
  rcases Nat.lt_trichotomy place rs.entries.length with lt | rfl | gt
  · simp [add, get?, List.getElem?_append_left lt, Nat.ne_of_lt lt]
  · simp [add, get?]
  · simp [add, get?, List.getElem?_append_right (Nat.le_of_lt gt), Nat.ne_of_gt gt,
      Nat.le_of_lt gt, Nat.sub_ne_zero_of_lt gt]

def update (place : Nat) (f : Reader κ → Reader κ) (rs : Readers κ) : Readers κ :=
  ⟨rs.entries.modify place f⟩

def close (place : Nat) (rs : Readers κ) : Readers κ := rs.update place Reader.close

/-- There is nothing to read at a place that nobody was given. -/
def isClosed (rs : Readers κ) (place : Nat) : Bool :=
  match rs.get? place with
  | some reader => reader.isClosed
  | none => true

def fetch (place : Nat) (f : Reader κ → Fetch (Reader κ) α) (rs : Readers κ) :
    Fetch (Readers κ) α :=
  match rs.get? place with
  | some reader => (f reader).within fun reader => ⟨rs.entries.set place reader⟩
  | none => { result := .error (.custom "reader is closed"), cursor := rs }

def openCursors (rs : Readers κ) : Nat := rs.entries.countP Reader.holdsCursor

end Readers

end OneConnection
