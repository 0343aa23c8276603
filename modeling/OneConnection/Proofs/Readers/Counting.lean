import OneConnection.Proofs.Deferred.Delivery
import OneConnection.Proofs.Readers.Giving
import OneConnection.Proofs.Readers.Stopping

/-!
# Counting result sets

All the result sets of a cursor, and what reading a number of them comes to. Where there are too
few, the error says how many.
-/

namespace OneConnection

variable {κ : Type} [Cursor κ]

namespace Cursor

/-- The result sets of `c`, from the current one to the last. No fetch fails. -/
inductive Holds : κ → List ResultSet → Prop
  | last {c c' : κ} {rows : ResultSet} : Yields c rows c' → (nextResult c').result = .ok false →
      Holds c [rows]
  | more {c c' : κ} {rows : ResultSet} {others : List ResultSet} : Yields c rows c' →
      (nextResult c').result = .ok true → Holds (nextResult c').cursor others →
        Holds c (rows :: others)

theorem Holds.getElem?_eq {c : κ} {all : List ResultSet} (h : Holds c all) {i : Nat}
    {rows : ResultSet} (hset : HasSet c i rows) : all[i]? = some rows := by
  induction h generalizing i with
  | last hy hend =>
    cases hset with
    | current hy' =>
      obtain ⟨rfl, -⟩ := hy.unique hy'
      rfl
    | later hy' hmore _ =>
      obtain ⟨-, rfl⟩ := hy.unique hy'
      rw [hend] at hmore
      cases hmore
  | more hy _ _ ih =>
    cases hset with
    | current hy' =>
      obtain ⟨rfl, -⟩ := hy.unique hy'
      rfl
    | later hy' _ hset =>
      obtain ⟨-, rfl⟩ := hy.unique hy'
      exact ih hset

/-- A cursor that passes another one on holds the same result sets. -/
theorem Holds.within {ι : Type} [Cursor ι] {f : κ → ι}
    (hrow : ∀ c, nextRow (f c) = (nextRow c).within f)
    (hresult : ∀ c, nextResult (f c) = (nextResult c).within f) {c : κ} {all : List ResultSet}
    (h : Holds c all) : Holds (f c) all := by
  induction h with
  | last hy hend => exact .last (hy.within hrow) (by rw [hresult]; exact hend)
  | more hy hmore _ ih =>
    refine .more (hy.within hrow) (by rw [hresult]; exact hmore) ?_
    rw [hresult]
    exact ih

/-- The result sets that come after the current one. -/
def Precedes (c : κ) : List ResultSet → Prop
  | [] => (nextResult c).result = .ok false
  | rows :: others =>
    (nextResult c).result = .ok true ∧ Holds (nextResult c).cursor (rows :: others)

theorem Holds.precedes {c : κ} {all : List ResultSet} (h : Holds c all) :
    ∃ rows others c', all = rows :: others ∧ Yields c rows c' ∧ Precedes c' others := by
  cases h with
  | last hy hend => exact ⟨_, [], _, rfl, hy, hend⟩
  | @more _ c' rows others hy hmore hrest =>
    refine ⟨rows, others, c', rfl, hy, ?_⟩
    cases others with
    | nil => cases hrest
    | cons => exact ⟨hmore, hrest⟩

theorem Holds.not_breaks {c : κ} {all : List ResultSet} (h : Holds c all) {n : Nat} {why : Error}
    (hbreaks : Breaks c n why) : False := by
  induction hbreaks generalizing all with
  | row hstumbles =>
    obtain ⟨_, _, _, -, hy, -⟩ := h.precedes
    exact hstumbles.not_yields hy
  | result hy hfails =>
    cases h with
    | last hy' hend =>
      obtain ⟨-, rfl⟩ := hy.unique hy'
      rw [hfails] at hend
      cases hend
    | more hy' hmore _ =>
      obtain ⟨-, rfl⟩ := hy.unique hy'
      rw [hfails] at hmore
      cases hmore
  | later hy hmore _ ih =>
    cases h with
    | last hy' hend =>
      obtain ⟨-, rfl⟩ := hy.unique hy'
      rw [hmore] at hend
      cases hend
    | more hy' _ hrest =>
      obtain ⟨-, rfl⟩ := hy.unique hy'
      exact ih hrest

end Cursor

theorem Reader.Starts.holds {cursor : κ} {r : Reader κ} (h : r.Starts cursor)
    {all : List ResultSet} (hall : Cursor.Holds cursor all) : Cursor.Holds r all := by
  obtain ⟨f, rfl, hrow, hresult⟩ := h.exists_within
  exact hall.within hrow hresult

theorem Buffered.holds (rows : ResultSet) (others : List ResultSet) :
    Cursor.Holds (⟨rows :: others, false⟩ : Buffered) (rows :: others) := by
  induction others generalizing rows with
  | nil => exact .last (yields rows []) rfl
  | cons next others ih => exact .more (yields rows (next :: others)) rfl (ih next)

/-! ## Reading too many -/

namespace Reading

variable {caller : Caller} {c : Command}

/-- Where the rows are there, reading them does not fail. -/
theorem set_ne_failed {cursor cursor' : κ} {rows : ResultSet}
    (hy : Cursor.Yields cursor rows cursor') (contexts : Contexts) (why : Error) :
    (set caller c cursor contexts).result ≠ .error (.failed why) := by
  intro h
  rcases set_gives caller c hy contexts with hok | ⟨reason, hcancelled, -⟩
  · rw [hok] at h
    cases h
  · rw [hcancelled] at h
    cases h

/-- Reading more result sets than there are fails with the number that was there. -/
theorem others_eq_failed {wanted got todo : Nat} {cursor : κ} {contexts : Contexts}
    {rest : List ResultSet} {why : Error} (hrest : Cursor.Precedes cursor rest)
    (h : (others caller c wanted got todo cursor contexts).result = .error (.failed why)) :
    rest.length < todo ∧
      why = c.resultShapeError s!"expected {wanted} result sets, got {got + rest.length}" := by
  induction todo generalizing got cursor contexts rest with
  | zero => cases h
  | succ n ih =>
    unfold others at h
    cases rest with
    | nil =>
      have hnone : (advance c wanted got cursor contexts).result =
          .error (.failed (c.resultShapeError s!"expected {wanted} result sets, got {got}")) := by
        have hend : (Cursor.nextResult cursor).result = .ok false := hrest
        simp only [advance, hend]
      rcases andThen_eq_error h with ⟨hstop, -⟩ | ⟨_, hok, -⟩
      · rw [hnone] at hstop
        cases hstop
        exact ⟨Nat.succ_pos n, rfl⟩
      · rw [hnone] at hok
        cases hok
    | cons rows later =>
      obtain ⟨hmore, hholds⟩ := hrest
      obtain ⟨_, _, cursor', heq, hy, hlater⟩ := hholds.precedes
      cases heq
      rw [advance_of_more hmore] at h
      rcases andThen_eq_error h with ⟨hstop, -⟩ | ⟨_, _, heq⟩
      · cases hstop
      · rw [heq] at h
        rcases andThen_eq_error h with ⟨hstop, -⟩ | ⟨read, hread, heq⟩
        · exact absurd hstop (set_ne_failed hy _ why)
        · obtain ⟨-, hcursor⟩ := (yields_set _ _ _ _ read hread).unique hy
          rw [heq, hcursor] at h
          obtain ⟨hfew, hwhy⟩ := ih hlater (map_eq_error h)
          rw [Nat.add_right_comm] at hwhy
          exact ⟨Nat.succ_lt_succ hfew, hwhy⟩

theorem sets_eq_failed {wanted : Nat} {cursor : κ} {contexts : Contexts} {all : List ResultSet}
    {why : Error} (hall : Cursor.Holds cursor all)
    (h : (sets caller c wanted cursor contexts).result = .error (.failed why)) :
    all.length < wanted ∧
      why = c.resultShapeError s!"expected {wanted} result sets, got {all.length}" := by
  obtain ⟨rows, later, cursor', rfl, hy, hlater⟩ := hall.precedes
  cases wanted with
  | zero => cases h
  | succ n =>
    rcases andThen_eq_error h with ⟨hstop, -⟩ | ⟨read, hread, heq⟩
    · exact absurd hstop (set_ne_failed hy _ why)
    · obtain ⟨-, hcursor⟩ := (yields_set _ _ _ _ read hread).unique hy
      unfold sets at h
      dsimp only at h
      rw [heq, hcursor] at h
      obtain ⟨hfew, hwhy⟩ := others_eq_failed hlater (map_eq_error h)
      rw [Nat.add_comm 1] at hwhy
      exact ⟨Nat.succ_lt_succ hfew, hwhy⟩

end Reading

end OneConnection
