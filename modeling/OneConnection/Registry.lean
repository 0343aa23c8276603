import OneConnection.Capabilities
import OneConnection.Cursor.Reader
import OneConnection.History
import OneConnection.Settings.Basic

/-!
# Registry

Which readers of a connection are tracked, from the moment they are handed out until they are
closed. A driver that keeps only one cursor open has its cursor released before each command: the
tracked readers then go on from memory.
-/

namespace OneConnection

/-- A reader that was handed out, with its place among the readers. -/
structure Handle where
  id : ReaderId
  place : Nat
  deriving DecidableEq, Repr

structure Registry where
  /-- In any order. -/
  tracked : List Handle := []
  /-- How many readers were handed out. -/
  issued : Nat := 0
  tracking : Bool
  /-- The driver keeps several cursors open at once. -/
  keepsSeveral : Bool
  deriving Repr

namespace Registry

variable {κ : Type} [Cursor κ]

/-- Tracking can be switched off only if the driver keeps several cursors open. -/
def create (s : Settings) (c : Capabilities) : Registry where
  tracking := s.trackReaders || !c.multipleOpenReaders
  keepsSeveral := c.multipleOpenReaders

def keys (r : Registry) : List ReaderId := r.tracked.map (·.id)

/-- The identities of the tracked readers, in the order in which the readers were opened. -/
def ids (r : Registry) : List ReaderId := r.keys.mergeSort fun a b => a.number ≤ b.number

@[simp] theorem mem_ids {id : ReaderId} {r : Registry} : id ∈ r.ids ↔ id ∈ r.keys :=
  List.mem_mergeSort

def size (r : Registry) : Nat := r.tracked.length

def isEmpty (r : Registry) : Bool := r.tracked.isEmpty

def contains (r : Registry) (id : ReaderId) : Bool := r.keys.contains id

/-! ## Handing out and taking back -/

def register (place : Nat) (r : Registry) (rs : Readers κ) : Handle × Registry × Readers κ :=
  let handle : Handle := ⟨⟨r.issued + 1⟩, place⟩
  (handle,
    { r with
      tracked := if r.tracking then r.tracked ++ [handle] else r.tracked
      issued := r.issued + 1 },
    if r.keepsSeveral then rs else rs.update place Reader.movable)

def untrack (id : ReaderId) (r : Registry) : Registry :=
  { r with tracked := r.tracked.filter (·.id ≠ id) }

@[simp] theorem keys_untrack (id : ReaderId) (r : Registry) :
    (r.untrack id).keys = r.keys.filter (· ≠ id) := by
  simp [keys, untrack, List.filter_map, Function.comp_def]

/-- Closes the reader at a place unless it is closed. -/
def closeOpen (place : Nat) (rs : Readers κ) : Readers κ :=
  if rs.isClosed place then rs else rs.close place

def closeAndRemove (h : Handle) (r : Registry) (rs : Readers κ) : Registry × Readers κ :=
  (r.untrack h.id, closeOpen h.place rs)

/-! ## Releasing cursors -/

structure Release (κ : Type) where
  readers : Readers κ
  /-- Readers that were open. -/
  count : Nat := 0
  /-- Readers that could not be moved into memory and are closed. -/
  failures : List (ReaderId × Error) := []
  cancels : List CancelRequest := []

/-- Moves open readers into memory, from the first to the last. -/
def release : List Handle → Readers κ → Release κ
  | [], rs => { readers := rs }
  | h :: rest, rs =>
    if rs.isClosed h.place then release rest rs
    else
      let x := rs.fetch h.place Reader.readIntoMemory
      let kept := match x.result with
        | .ok true => x.cursor
        | _ => x.cursor.close h.place
      let failed := match x.result with
        | .ok _ => []
        | .error why => [(h.id, why)]
      let others := release rest kept
      { readers := others.readers
        count := others.count + 1
        failures := failed ++ others.failures
        cancels := x.cancels ++ others.cancels }

/-- Releases every cursor before a command, for drivers that keep only one open. -/
def checkReaders (r : Registry) (rs : Readers κ) : Release κ :=
  if r.keepsSeveral then { readers := rs } else release r.tracked rs

/-! ## Disposal -/

def openCount (handles : List Handle) (rs : Readers κ) : Nat :=
  handles.countP fun h => !rs.isClosed h.place

/-- Closes and forgets every tracked reader, and says how many were open. -/
def closeAll (r : Registry) (rs : Readers κ) : Nat × Registry × Readers κ :=
  (openCount r.tracked rs, { r with tracked := [] },
    r.tracked.foldl (fun rs h => closeOpen h.place rs) rs)

/-- What is said about readers that were open at disposal: a warning, or an error if leaks are not
tolerated. -/
def leak (strict : Bool) : (count : Nat) → Except Error (List Warning)
  | 0 => .ok []
  | count => if strict then .error (.readerLeak count) else .ok [.readersLeaked count]

end Registry

end OneConnection
