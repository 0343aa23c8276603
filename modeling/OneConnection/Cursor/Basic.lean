import OneConnection.Cancellation
import OneConnection.Error
import OneConnection.Row.Basic

/-!
# Cursors

What reads the result sets of one command, row by row and only forwards, and the loops over it.
-/

namespace OneConnection

/-- What one fetch gives, and what is left of the cursor. Contexts can be cancelled while a fetch is
under way. -/
structure Fetch (κ α : Type) where
  result : Except Error α
  cursor : κ
  cancels : List CancelRequest := []

namespace Fetch

variable {κ ι α β : Type}

def map (f : α → β) (x : Fetch κ α) : Fetch κ β := { x with result := x.result.map f }

def within (f : κ → ι) (x : Fetch κ α) : Fetch ι α := { x with cursor := f x.cursor }

def after (earlier : List CancelRequest) (x : Fetch κ α) : Fetch κ α :=
  { x with cancels := earlier ++ x.cancels }

@[simp] theorem cursor_map (f : α → β) (x : Fetch κ α) : (x.map f).cursor = x.cursor := rfl

@[simp] theorem cursor_within (f : κ → ι) (x : Fetch κ α) : (x.within f).cursor = f x.cursor := rfl

@[simp] theorem cursor_after (earlier : List CancelRequest) (x : Fetch κ α) :
    (x.after earlier).cursor = x.cursor := rfl

@[simp] theorem result_within (f : κ → ι) (x : Fetch κ α) : (x.within f).result = x.result := rfl

@[simp] theorem result_after (earlier : List CancelRequest) (x : Fetch κ α) :
    (x.after earlier).result = x.result := rfl

end Fetch

/-- A cursor over the result sets of one command. -/
class Cursor (κ : Type) where
  /-- The next row of the current result set, if there is one. -/
  nextRow : κ → Fetch κ (Option Row)
  /-- Moves to the next result set and says whether there is one. -/
  nextResult : κ → Fetch κ Bool
  close : κ → κ
  isClosed : κ → Bool
  /-- Moves the rows that are left into memory and closes the cursor, and says whether it could. -/
  readIntoMemory : κ → Fetch κ Bool := fun c => { result := .ok false, cursor := c }
  /-- A bound for the rows and result sets that are left. -/
  remaining : κ → Nat
  remaining_nextRow_le (c : κ) : remaining (nextRow c).cursor ≤ remaining c
  remaining_nextRow_lt (c : κ) (row : Row) :
    (nextRow c).result = .ok (some row) → remaining (nextRow c).cursor < remaining c
  remaining_nextResult_lt (c : κ) :
    (nextResult c).result = .ok true → remaining (nextResult c).cursor < remaining c

namespace Cursor

variable {κ β : Type} [Cursor κ]

/-- The rows that are left in the current result set, as `read` gives them. -/
def collect (read : Row → Except Error β) (c : κ) : Fetch κ (List β) :=
  let x := nextRow c
  match _more : x.result with
  | .error why => { result := .error why, cursor := x.cursor, cancels := x.cancels }
  | .ok none => { result := .ok [], cursor := x.cursor, cancels := x.cancels }
  | .ok (some row) =>
    match read row with
    | .error why => { result := .error why, cursor := x.cursor, cancels := x.cancels }
    | .ok item => ((collect read x.cursor).map (item :: ·)).after x.cancels
termination_by remaining c
decreasing_by exact remaining_nextRow_lt c row ‹_›

/-- The rows that are left in the current result set. -/
def rows (c : κ) : Fetch κ ResultSet := collect .ok c

theorem remaining_collect_le (read : Row → Except Error β) (c : κ) :
    remaining (collect read c).cursor ≤ remaining c := by
  fun_induction collect read c with
  | case1 c x why h => exact remaining_nextRow_le c
  | case2 c x h => exact remaining_nextRow_le c
  | case3 c x row h why hr => exact remaining_nextRow_le c
  | case4 c x row h item hr ih => exact Nat.le_trans ih (remaining_nextRow_le c)

/-- Everything that is left: the rest of the current result set, and then the others. -/
def drain (c : κ) : Fetch κ (List ResultSet) :=
  let set := rows c
  match set.result with
  | .error why => { result := .error why, cursor := set.cursor, cancels := set.cancels }
  | .ok first =>
    let next := nextResult set.cursor
    match _more : next.result with
    | .error why =>
      { result := .error why, cursor := next.cursor, cancels := set.cancels ++ next.cancels }
    | .ok false =>
      { result := .ok [first], cursor := next.cursor, cancels := set.cancels ++ next.cancels }
    | .ok true => ((drain next.cursor).map (first :: ·)).after (set.cancels ++ next.cancels)
termination_by remaining c
decreasing_by
  exact Nat.lt_of_lt_of_le (remaining_nextResult_lt set.cursor ‹_›) (remaining_collect_le .ok c)

end Cursor

end OneConnection
