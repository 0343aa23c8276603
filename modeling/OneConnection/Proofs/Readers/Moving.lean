import OneConnection.Proofs.Readers.Calm
import OneConnection.Proofs.Readers.Sets
import OneConnection.Proofs.World

/-!
# Moving into memory

A hybrid shows its consumer what its cursor alone would have shown, wherever on the way its rows
were moved into memory.
-/

namespace OneConnection

theorem eq_ok_of_toOption {α : Type} {x : Except Error α} {a : α} (h : x.toOption = some a) :
    x = .ok a := by
  cases x with
  | error why => cases h
  | ok b => exact congrArg Except.ok (Option.some.inj h)

namespace Cursor

variable {κ ι ν : Type} [Cursor κ] [Cursor ι] [Cursor ν]

/-- What is left of a cursor after one use. -/
def use (way : Use) (c : κ) : κ :=
  match way with
  | .nextRow => (nextRow c).cursor
  | .nextResult => (nextResult c).cursor
  | .buffer => (readIntoMemory c).cursor
  | .close => close c

def useAll (ways : List Use) (c : κ) : κ := ways.foldl (fun c way => use way c) c

/-- The cursors show the same next, up to the texts of errors. -/
structure Alike (c : κ) (d : ι) : Prop where
  isClosed : isClosed c = isClosed d
  nextRow : (nextRow c).result.toOption = (nextRow d).result.toOption
  nextResult : (nextResult c).result.toOption = (nextResult d).result.toOption

namespace Alike

theorem refl (c : κ) : Alike c c := ⟨rfl, rfl, rfl⟩

theorem symm {c : κ} {d : ι} (h : Alike c d) : Alike d c :=
  ⟨h.isClosed.symm, h.nextRow.symm, h.nextResult.symm⟩

theorem trans {c : κ} {d : ι} {e : ν} (h : Alike c d) (h' : Alike d e) : Alike c e :=
  ⟨h.isClosed.trans h'.isClosed, h.nextRow.trans h'.nextRow, h.nextResult.trans h'.nextResult⟩

end Alike

/-- The cursors show the same, however they are read and closed. -/
def Follows (c : κ) (d : ι) : Prop :=
  ∀ ways, .buffer ∉ ways → Alike (useAll ways c) (useAll ways d)

end Cursor

open Cursor

namespace Buffered

/-- No result set at all shows the same as one without rows. -/
theorem follows_blank : Follows (⟨[], false⟩ : Buffered) (⟨[[]], false⟩ : Buffered) := by
  intro ways hways
  induction ways with
  | nil => exact ⟨rfl, rfl, rfl⟩
  | cons way rest ih =>
    have hrest : .buffer ∉ rest := fun h => hways (List.mem_cons_of_mem way h)
    cases way with
    | nextRow => exact ih hrest
    | nextResult => exact .refl _
    | buffer => exact absurd List.mem_cons_self hways
    | close => exact .refl _

theorem isClosed_use {b : Buffered} (h : isClosed b = true) (way : Use) :
    isClosed (use way b) = true := by
  cases way with
  | nextRow => exact releases.nextRow b h
  | nextResult => exact releases.nextResult b h
  | buffer => exact h
  | close => rfl

end Buffered

namespace Cursor.Follows

variable {κ ι ν : Type} [Cursor κ] [Cursor ι] [Cursor ν] {c : κ} {d : ι} {e : ν}

theorem alike (h : Follows c d) : Alike c d := h [] List.not_mem_nil

theorem trans (h : Follows c d) (h' : Follows d e) : Follows c e :=
  fun ways hways => (h ways hways).trans (h' ways hways)

theorem use (h : Follows c d) {way : Use} (hway : way ≠ .buffer) :
    Follows (use way c) (use way d) := by
  intro ways hways
  refine h (way :: ways) ?_
  rw [List.mem_cons, not_or]
  exact ⟨hway.symm, hways⟩

theorem nextRow (h : Follows c d) : Follows (nextRow c).cursor (nextRow d).cursor :=
  h.use (show Use.nextRow ≠ .buffer by decide)

theorem nextResult (h : Follows c d) : Follows (nextResult c).cursor (nextResult d).cursor :=
  h.use (show Use.nextResult ≠ .buffer by decide)

theorem close (h : Follows c d) : Follows (close c) (close d) :=
  h.use (show Use.close ≠ .buffer by decide)

end Cursor.Follows

/-! ## Draining -/

namespace Cursor

variable {κ : Type} [Cursor κ] {c c' : κ} {set : ResultSet} {others : List ResultSet}

theorem rows_of_yields (h : Yields c set c') :
    (rows c).result = .ok set ∧ (rows c).cursor = c' := by
  unfold rows
  induction h with
  | done hend =>
    rw [collect]
    split <;> simp_all
  | row hrow _ ih =>
    rw [collect]
    split <;> simp_all [Fetch.map, Except.map]

theorem drain_of_last (h : Yields c set c') (hlast : (nextResult c').result = .ok false) :
    (drain c).result = .ok [set] ∧ (drain c).cursor = (nextResult c').cursor := by
  obtain ⟨hrows, rfl⟩ := rows_of_yields h
  rw [drain]
  simp only [hrows]
  split <;> simp_all

theorem drain_of_more (h : Yields c set c') (hmore : (nextResult c').result = .ok true)
    {later : List ResultSet} (hlater : (drain (nextResult c').cursor).result = .ok later) :
    (drain c).result = .ok (set :: later) ∧
      (drain c).cursor = (drain (nextResult c').cursor).cursor := by
  obtain ⟨hrows, rfl⟩ := rows_of_yields h
  rw [drain]
  simp only [hrows]
  split <;> simp_all [Fetch.map, Except.map]

namespace Follows

theorem yields (h : Follows c (⟨set :: others, false⟩ : Buffered)) :
    ∃ c', Yields c set c' ∧ Follows c' (⟨[] :: others, false⟩ : Buffered) := by
  induction set generalizing c with
  | nil => exact ⟨_, .done (eq_ok_of_toOption h.alike.nextRow), h.nextRow⟩
  | cons row rest ih =>
    obtain ⟨c', hyields, hafter⟩ := ih h.nextRow
    exact ⟨c', .row (eq_ok_of_toOption h.alike.nextRow) hyields, hafter⟩

/-- Draining takes every result set, and leaves a cursor that still follows one in memory. -/
theorem drain (h : Follows c (⟨set :: others, false⟩ : Buffered)) :
    (drain c).result = .ok (set :: others) ∧
      ∃ b : Buffered, Follows (Cursor.drain c).cursor b := by
  induction others generalizing c set with
  | nil =>
    obtain ⟨c', hyields, hafter⟩ := h.yields
    obtain ⟨hsets, hcursor⟩ := drain_of_last hyields (eq_ok_of_toOption hafter.alike.nextResult)
    exact ⟨hsets, _, hcursor ▸ hafter.nextResult⟩
  | cons next others ih =>
    obtain ⟨c', hyields, hafter⟩ := h.yields
    obtain ⟨hlater, b, hb⟩ := ih hafter.nextResult
    obtain ⟨hsets, hcursor⟩ :=
      drain_of_more hyields (eq_ok_of_toOption hafter.alike.nextResult) hlater
    exact ⟨hsets, b, hcursor ▸ hb⟩

/-- A cursor without result sets shows the same as one with a single empty one. -/
theorem first {sets : List ResultSet} (h : Follows c (⟨sets, false⟩ : Buffered)) :
    ∃ set others, Follows c (⟨set :: others, false⟩ : Buffered) := by
  cases sets with
  | nil => exact ⟨[], [], h.trans Buffered.follows_blank⟩
  | cons set others => exact ⟨set, others, h⟩

end Follows

end Cursor

/-! ## Hybrids -/

namespace Hybrid

variable {κ : Type} [Cursor κ] {c : κ} {h : Hybrid κ}

/-- The hybrid reads from the cursor itself, or from what was left of it in memory. -/
inductive Shadows : Hybrid κ → κ → Prop
  | streaming {c : κ} {b : Buffered} : Follows c b → Shadows (.streaming c) c
  | buffered {source c : κ} {b : Buffered} : Cursor.isClosed source = true → Follows c b →
      Shadows (.buffered source b) c

theorem Shadows.alike (hs : Shadows h c) : Alike h c := by
  cases hs with
  | streaming => exact ⟨rfl, rfl, rfl⟩
  | buffered _ hb =>
    have hshows := hb.alike.symm
    exact ⟨hshows.isClosed, hshows.nextRow, hshows.nextResult⟩

theorem Shadows.use (hs : Shadows h c) {way : Use} (hway : way ≠ .buffer) :
    Shadows (Cursor.use way h) (Cursor.use way c) := by
  cases hs with
  | streaming hc =>
    have hnext := hc.use hway
    cases way with
    | nextRow | nextResult | close => exact .streaming hnext
    | buffer => exact absurd rfl hway
  | buffered hclosed hc =>
    have hnext := hc.use hway
    cases way with
    | nextRow | nextResult | close => exact .buffered hclosed hnext
    | buffer => exact absurd rfl hway

/-- Moving into memory leaves the consumer where it is, and closes the cursor. -/
theorem Shadows.readIntoMemory (hs : Shadows h c) :
    Shadows h.readIntoMemory.cursor c ∧
      Cursor.isClosed h.readIntoMemory.cursor.source = true := by
  cases hs with
  | buffered hclosed hc => exact ⟨.buffered hclosed hc, hclosed⟩
  | @streaming _ b hc =>
    unfold Hybrid.readIntoMemory
    dsimp only
    split
    · exact ⟨.streaming hc, ‹_›⟩
    · rename_i hopen
      obtain ⟨sets, closed⟩ := b
      have hb : closed = false := by
        have := hc.alike.isClosed
        simp_all [Cursor.isClosed]
      subst hb
      obtain ⟨set, others, hfirst⟩ := hc.first
      obtain ⟨hsets, b, hb⟩ := hfirst.drain
      have hreleased : Cursor.isClosed (Cursor.close (Cursor.drain c).cursor) = true :=
        hb.close.alike.isClosed
      simp only [hsets]
      exact ⟨.buffered hreleased hfirst, hreleased⟩

/-- A cursor that was closed is not opened again. -/
theorem Shadows.source_use (hs : Shadows h c) (hclosed : Cursor.isClosed h.source = true)
    {way : Use} (hway : way ≠ .buffer) : Cursor.isClosed (Cursor.use way h).source = true := by
  cases hs with
  | @streaming _ b hc =>
    have hb : Cursor.isClosed b = true := hc.alike.isClosed.symm.trans hclosed
    have hnext := (hc.use hway).alike.isClosed.trans (Buffered.isClosed_use hb way)
    cases way with
    | nextRow | nextResult | close => exact hnext
    | buffer => exact absurd rfl hway
  | buffered =>
    cases way with
    | nextRow | nextResult | close => exact hclosed
    | buffer => exact absurd rfl hway

theorem Shadows.useAll (hs : Shadows h c) (ways : List Use) :
    Shadows (Cursor.useAll ways h) (Cursor.useAll (ways.filter (· ≠ .buffer)) c) ∧
      (Cursor.isClosed h.source = true ∨ .buffer ∈ ways →
        Cursor.isClosed (Cursor.useAll ways h).source = true) := by
  induction ways generalizing h c with
  | nil => exact ⟨hs, fun hclosed => hclosed.resolve_right List.not_mem_nil⟩
  | cons way rest ih =>
    by_cases hway : way = .buffer
    · subst hway
      obtain ⟨hmoved, hreleased⟩ := hs.readIntoMemory
      obtain ⟨hrest, hclosed⟩ := ih hmoved
      exact ⟨hrest, fun _ => hclosed (.inl hreleased)⟩
    · obtain ⟨hrest, hclosed⟩ := ih (hs.use hway)
      rw [List.filter_cons_of_pos (by simpa using hway)]
      refine ⟨hrest, fun h => hclosed ?_⟩
      rcases h with h | h
      · exact .inl (hs.source_use h hway)
      · exact .inr (List.mem_of_ne_of_mem (Ne.symm hway) h)

/-- Moving into memory is invisible, and releases the cursor. -/
theorem moving_is_invisible {sets : List ResultSet} (hc : Follows c (⟨sets, false⟩ : Buffered))
    (ways : List Use) :
    Alike (useAll ways (Hybrid.streaming c)) (useAll (ways.filter (· ≠ .buffer)) c) ∧
      (.buffer ∈ ways → Cursor.isClosed (useAll ways (Hybrid.streaming c)).source = true) := by
  obtain ⟨hshadows, hclosed⟩ := (Shadows.streaming hc).useAll ways
  exact ⟨hshadows.alike, fun h => hclosed (.inr h)⟩

/-- In the middle of the first of two result sets. -/
theorem moving_is_invisible_halfway :
    Alike
        (useAll [.nextRow, .buffer, .nextRow, .nextResult]
          (Hybrid.streaming (⟨[[⟨["n"], [.bool true]⟩, ⟨["n"], [.null]⟩], []], false⟩ : Buffered)))
        (useAll [.nextRow, .nextRow, .nextResult]
          (⟨[[⟨["n"], [.bool true]⟩, ⟨["n"], [.null]⟩], []], false⟩ : Buffered)) ∧
      Cursor.isClosed
        (useAll [.nextRow, .buffer, .nextRow, .nextResult] (Hybrid.streaming
          (⟨[[⟨["n"], [.bool true]⟩, ⟨["n"], [.null]⟩], []], false⟩ : Buffered))).source = true := by
  obtain ⟨hshows, hreleased⟩ := moving_is_invisible
    (c := (⟨[[⟨["n"], [.bool true]⟩, ⟨["n"], [.null]⟩], []], false⟩ : Buffered))
    (fun _ _ => .refl _) [.nextRow, .buffer, .nextRow, .nextResult]
  exact ⟨hshows, hreleased (by decide)⟩

end Hybrid

end OneConnection
