import OneConnection.Proofs.Readers.Sets

/-!
# Reading what is there

Reading gives every result set that the cursor has, or stops because the caller was cancelled.
-/

namespace OneConnection

variable {κ : Type} [Cursor κ]

namespace Cursor

section

variable {ι : Type} [Cursor ι] {f : κ → ι}

theorem Yields.within (hrow : ∀ c, nextRow (f c) = (nextRow c).within f) {c c' : κ}
    {rows : ResultSet} (h : Yields c rows c') : Yields (f c) rows (f c') := by
  induction h with
  | @done c hend =>
    have hcursor : (nextRow (f c)).cursor = f (nextRow c).cursor := by rw [hrow]; rfl
    rw [← hcursor]
    exact .done (by rw [hrow]; exact hend)
  | row hnext _ ih =>
    refine .row (by rw [hrow]; exact hnext) ?_
    rw [hrow]
    exact ih

/-- A cursor that passes another one on has the same result sets. -/
theorem HasSet.within (hrow : ∀ c, nextRow (f c) = (nextRow c).within f)
    (hresult : ∀ c, nextResult (f c) = (nextResult c).within f) {c : κ} {i : Nat}
    {rows : ResultSet} (h : HasSet c i rows) : HasSet (f c) i rows := by
  induction h with
  | current hy => exact .current (hy.within hrow)
  | later hy hmore _ ih =>
    refine .later (hy.within hrow) (by rw [hresult]; exact hmore) ?_
    rw [hresult]
    exact ih

end

/-- What comes after the current result set. -/
theorem HasSet.after {c c' : κ} {first rows : ResultSet} {i : Nat} (hy : Yields c first c')
    (h : HasSet c (i + 1) rows) :
    (nextResult c').result = .ok true ∧ HasSet (nextResult c').cursor i rows := by
  cases h with
  | later hy' hmore hset =>
    obtain ⟨-, rfl⟩ := hy.unique hy'
    exact ⟨hmore, hset⟩

end Cursor

namespace Reading

variable {α β : Type}

/-- The reading gives `a`, unless the caller was cancelled in the middle of it. -/
def Gives (caller : Caller) (x : Reading κ α) (a : α) : Prop :=
  x.result = .ok a ∨
    ∃ reason, x.result = .error (.cancelled reason) ∧ caller.cancelReason? x.contexts = some reason

variable {caller : Caller} {x : Reading κ α} {a : α} {b : β}

omit [Cursor κ] in
theorem Gives.andThen {f : α → κ → Contexts → Reading κ β} (h : x.Gives caller a)
    (hf : x.result = .ok a → (f a x.cursor x.contexts).Gives caller b) :
    (x.andThen f).Gives caller b := by
  unfold Reading.andThen
  rcases h with hx | ⟨reason, hx, hcancelled⟩
  · simp only [hx]
    exact hf hx
  · simp only [hx]
    exact .inr ⟨reason, rfl, hcancelled⟩

omit [Cursor κ] in
theorem Gives.map (f : α → β) (h : x.Gives caller a) : (x.map f).Gives caller (f a) := by
  rcases h with hx | ⟨reason, hx, hcancelled⟩
  · exact .inl (by simp [Reading.map, hx, Except.map])
  · exact .inr ⟨reason, by simp [Reading.map, hx, Except.map], hcancelled⟩

theorem set_gives (caller : Caller) (c : Command) {cursor cursor' : κ} {rows : ResultSet}
    (h : Cursor.Yields cursor rows cursor') (contexts : Contexts) :
    (set caller c cursor contexts).Gives caller rows := by
  induction h generalizing contexts with
  | done hend =>
    rw [set]
    split
    · exact .inr ⟨_, rfl, ‹_›⟩
    · dsimp only
      split <;> simp_all [Gives]
  | row hrow _ ih =>
    rw [set]
    split
    · exact .inr ⟨_, rfl, ‹_›⟩
    · dsimp only
      split
      · simp_all
      · simp_all
      · rename_i row' hrow'
        rw [hrow] at hrow'
        cases hrow'
        exact (ih _).map _

theorem advance_of_more {c : Command} {wanted got : Nat} {cursor : κ} {contexts : Contexts}
    (hmore : (Cursor.nextResult cursor).result = .ok true) :
    advance c wanted got cursor contexts = ⟨.ok (), (Cursor.nextResult cursor).cursor,
      contexts.cancelAll (Cursor.nextResult cursor).cancels⟩ := by
  simp only [advance, hmore]

theorem others_gives (caller : Caller) (c : Command) (wanted : Nat) {later : List ResultSet}
    (got : Nat) {cursor : κ} (contexts : Contexts)
    (h : ∀ i rows, later[i]? = some rows → (Cursor.nextResult cursor).result = .ok true ∧
      Cursor.HasSet (Cursor.nextResult cursor).cursor i rows) :
    (others caller c wanted got later.length cursor contexts).Gives caller later := by
  induction later generalizing got cursor contexts with
  | nil => exact .inl rfl
  | cons rows rest ih =>
    obtain ⟨hmore, hset⟩ := h 0 rows rfl
    cases hset with
    | @current _ cursor' _ hy =>
      rw [List.length_cons, others, advance_of_more hmore]
      refine Gives.andThen (.inl rfl) fun _ => ?_
      refine (set_gives caller c hy _).andThen fun hread => ?_
      have hcursor := (yields_set caller c _ _ rows hread).unique hy
      rw [hcursor.2]
      refine (ih (got + 1) _ ?_).map _
      intro i rows' hi
      exact Cursor.HasSet.after hy (h (i + 1) rows' hi).2

/-- Reading gives the result sets that the cursor has. -/
theorem sets_gives (caller : Caller) (c : Command) {all : List ResultSet} {cursor : κ}
    (contexts : Contexts) (h : ∀ i rows, all[i]? = some rows → Cursor.HasSet cursor i rows) :
    (sets caller c all.length cursor contexts).Gives caller all := by
  cases all with
  | nil => exact .inl rfl
  | cons rows rest =>
    cases h 0 rows rfl with
    | @current _ cursor' _ hy =>
      refine (set_gives caller c hy contexts).andThen fun hread => ?_
      have hcursor := (yields_set caller c _ _ rows hread).unique hy
      rw [hcursor.2]
      refine (others_gives caller c _ 1 _ ?_).map _
      intro i rows' hi
      exact Cursor.HasSet.after hy (h (i + 1) rows' hi)

end Reading

end OneConnection
