import OneConnection.Cursor.Reader
import OneConnection.Deferred.Reading

/-!
# Result sets

What the result sets of a cursor are, and that reading gives them in their order.
-/

namespace OneConnection

variable {κ : Type} [Cursor κ]

namespace Cursor

/-- `rows` are left in the current result set of `c`, and `c'` is what is left after them. -/
inductive Yields : κ → ResultSet → κ → Prop
  | done {c : κ} : (nextRow c).result = .ok none → Yields c [] (nextRow c).cursor
  | row {c c' : κ} {row : Row} {rows : ResultSet} : (nextRow c).result = .ok (some row) →
      Yields (nextRow c).cursor rows c' → Yields c (row :: rows) c'

/-- `rows` is the result set that comes `i` after the current one. -/
inductive HasSet : κ → Nat → ResultSet → Prop
  | current {c c' : κ} {rows : ResultSet} : Yields c rows c' → HasSet c 0 rows
  | later {c c' : κ} {before rows : ResultSet} {i : Nat} : Yields c before c' →
      (nextResult c').result = .ok true → HasSet (nextResult c').cursor i rows →
        HasSet c (i + 1) rows

theorem Yields.unique {c c₁ c₂ : κ} {rows₁ rows₂ : ResultSet} (h₁ : Yields c rows₁ c₁)
    (h₂ : Yields c rows₂ c₂) : rows₁ = rows₂ ∧ c₁ = c₂ := by
  induction h₁ generalizing rows₂ c₂ with
  | done hend =>
    cases h₂ with
    | done => exact ⟨rfl, rfl⟩
    | row hrow =>
      rw [hend] at hrow
      cases hrow
  | row hrow _ ih =>
    cases h₂ with
    | done hend =>
      rw [hrow] at hend
      cases hend
    | row hrow' hrest =>
      rw [hrow] at hrow'
      cases hrow'
      obtain ⟨rfl, rfl⟩ := ih hrest
      exact ⟨rfl, rfl⟩

/-- A cursor has one result set in each place. -/
theorem HasSet.unique {c : κ} {i : Nat} {rows₁ rows₂ : ResultSet} (h₁ : HasSet c i rows₁)
    (h₂ : HasSet c i rows₂) : rows₁ = rows₂ := by
  induction h₁ with
  | current hy =>
    cases h₂ with
    | current hy' => exact (hy.unique hy').1
  | later hy _ _ ih =>
    cases h₂ with
    | later hy' _ hset =>
      obtain ⟨-, rfl⟩ := hy.unique hy'
      exact ih hset

/-! ## Cursors within cursors -/

section

variable {ι : Type} [Cursor ι] {f : κ → ι}

theorem Yields.of_within (hrow : ∀ c, nextRow (f c) = (nextRow c).within f) {c : κ} {x : ι}
    {rows : ResultSet} (h : Yields (f c) rows x) : ∃ c', x = f c' ∧ Yields c rows c' := by
  generalize hd : f c = d at h
  induction h generalizing c with
  | done hend =>
    subst hd
    rw [hrow] at hend ⊢
    exact ⟨_, rfl, .done hend⟩
  | row hnext _ ih =>
    subst hd
    rw [hrow] at hnext
    obtain ⟨c', rfl, hy⟩ := ih (c := (nextRow c).cursor) (by rw [hrow]; rfl)
    exact ⟨c', rfl, .row hnext hy⟩

/-- A cursor that another one passes on has the same result sets. -/
theorem HasSet.of_within (hrow : ∀ c, nextRow (f c) = (nextRow c).within f)
    (hresult : ∀ c, nextResult (f c) = (nextResult c).within f) {c : κ} {i : Nat}
    {rows : ResultSet} (h : HasSet (f c) i rows) : HasSet c i rows := by
  generalize hd : f c = d at h
  induction h generalizing c with
  | current hy =>
    subst hd
    obtain ⟨c', -, hy⟩ := hy.of_within hrow
    exact .current hy
  | later hy hnext _ ih =>
    subst hd
    obtain ⟨c', rfl, hy'⟩ := hy.of_within hrow
    rw [hresult] at hnext
    exact .later hy' hnext (ih (by rw [hresult]; rfl))

end

end Cursor

theorem Reader.hasSet_plain {c : κ} {i : Nat} {rows : ResultSet}
    (h : Cursor.HasSet (Reader.plain c) i rows) : Cursor.HasSet c i rows :=
  Cursor.HasSet.of_within (f := Reader.plain) (fun _ => rfl) (fun _ => rfl) h

theorem Reader.hasSet_streaming {c : κ} {i : Nat} {rows : ResultSet}
    (h : Cursor.HasSet (Reader.hybrid (.streaming c)) i rows) : Cursor.HasSet c i rows :=
  Cursor.HasSet.of_within (f := fun c : κ => Reader.hybrid (.streaming c)) (fun _ => rfl)
    (fun _ => rfl) h

/-! ## Cursors in memory -/

namespace Buffered

theorem yields (rows : ResultSet) (others : List ResultSet) :
    Cursor.Yields (⟨rows :: others, false⟩ : Buffered) rows ⟨[] :: others, false⟩ := by
  induction rows with
  | nil => exact .done rfl
  | cons row rest ih => exact .row rfl ih

theorem hasSet {sets : List ResultSet} {i : Nat} {rows : ResultSet} (h : sets[i]? = some rows) :
    Cursor.HasSet (⟨sets, false⟩ : Buffered) i rows := by
  induction i generalizing sets with
  | zero =>
    obtain ⟨others, rfl⟩ : ∃ others, sets = rows :: others := by
      cases sets with
      | nil => cases h
      | cons first others => exact ⟨others, congrArg (· :: others) (Option.some.inj h)⟩
    exact .current (yields rows others)
  | succ i ih =>
    cases sets with
    | nil => cases h
    | cons first others =>
      have hrest : others[i]? = some rows := h
      refine .later (yields first others) ?_ (ih hrest)
      cases others with
      | nil => cases hrest
      | cons => rfl

end Buffered

/-! ## Reading -/

namespace Reading

variable {α β : Type}

omit [Cursor κ] in
theorem andThen_eq_ok {x : Reading κ α} {f : α → κ → Contexts → Reading κ β} {b : β}
    (h : (x.andThen f).result = .ok b) :
    ∃ a, x.result = .ok a ∧ x.andThen f = f a x.cursor x.contexts := by
  unfold andThen at *
  cases hx : x.result with
  | error stop =>
    rw [hx] at h
    cases h
  | ok a => exact ⟨a, rfl, rfl⟩

omit [Cursor κ] in
theorem map_eq_ok {x : Reading κ α} {f : α → β} {b : β} (h : (x.map f).result = .ok b) :
    ∃ a, x.result = .ok a ∧ b = f a := by
  unfold map at h
  cases hx : x.result with
  | error stop =>
    rw [hx] at h
    cases h
  | ok a =>
    rw [hx] at h
    exact ⟨a, rfl, (Except.ok.inj h).symm⟩

theorem yields_set (caller : Caller) (c : Command) (cursor : κ) (contexts : Contexts) :
    ∀ rows, (set caller c cursor contexts).result = .ok rows →
      Cursor.Yields cursor rows (set caller c cursor contexts).cursor := by
  fun_induction set caller c cursor contexts with
  | case1 | case2 => nofun
  | case3 cursor contexts hc x contexts' hx =>
    rintro _ ⟨⟩
    exact .done hx
  | case4 cursor contexts hc x contexts' row hx ih =>
    intro rows h
    obtain ⟨rest, hrest, rfl⟩ := map_eq_ok h
    exact .row hx (ih rest hrest)

theorem advance_eq_ok {c : Command} {wanted got : Nat} {cursor : κ} {contexts : Contexts}
    (h : (advance c wanted got cursor contexts).result = .ok ()) :
    (Cursor.nextResult cursor).result = .ok true ∧
      (advance c wanted got cursor contexts).cursor = (Cursor.nextResult cursor).cursor := by
  simp only [advance] at *
  split at h
  · cases h
  · exact ⟨‹_›, by simp [*]⟩
  · cases h

/-- What is read after a result set are the result sets that come after it. -/
theorem hasSet_others {caller : Caller} {c : Command} {wanted got todo : Nat} {cursor : κ}
    {contexts : Contexts} {sets : List ResultSet}
    (h : (others caller c wanted got todo cursor contexts).result = .ok sets) :
    sets.length = todo ∧ ∀ i rows, sets[i]? = some rows →
      (Cursor.nextResult cursor).result = .ok true ∧
        Cursor.HasSet (Cursor.nextResult cursor).cursor i rows := by
  -- Each round moves on before it reads, so nothing is said about the current result set.
  induction todo generalizing got cursor contexts sets with
  | zero =>
    cases h
    exact ⟨rfl, nofun⟩
  | succ n ih =>
    unfold others at h
    obtain ⟨_, hadvance, heq⟩ := andThen_eq_ok h
    obtain ⟨hmore, hnext⟩ := advance_eq_ok hadvance
    rw [heq, hnext] at h
    obtain ⟨rows, hset, heq⟩ := andThen_eq_ok h
    rw [heq] at h
    obtain ⟨rest, hrest, rfl⟩ := map_eq_ok h
    have hyields := yields_set _ _ _ _ _ hset
    obtain ⟨hlength, hlater⟩ := ih hrest
    refine ⟨congrArg (· + 1) hlength, ?_⟩
    intro i rows' hi
    refine ⟨hmore, ?_⟩
    cases i with
    | zero =>
      cases hi
      exact .current hyields
    | succ i =>
      obtain ⟨hmore', hset'⟩ := hlater i rows' hi
      exact .later hyields hmore' hset'

/-- Reading gives the wanted number of result sets, each as the cursor has it. -/
theorem hasSet_sets {caller : Caller} {c : Command} {wanted : Nat} {cursor : κ}
    {contexts : Contexts} {all : List ResultSet}
    (h : (sets caller c wanted cursor contexts).result = .ok all) :
    all.length = wanted ∧ ∀ i rows, all[i]? = some rows → Cursor.HasSet cursor i rows := by
  cases wanted with
  | zero =>
    cases h
    exact ⟨rfl, nofun⟩
  | succ n =>
    obtain ⟨rows, hset, heq⟩ := andThen_eq_ok h
    unfold sets at h
    dsimp only at h
    rw [heq] at h
    obtain ⟨rest, hrest, rfl⟩ := map_eq_ok h
    have hyields := yields_set _ _ _ _ _ hset
    obtain ⟨hlength, hlater⟩ := hasSet_others hrest
    refine ⟨congrArg (· + 1) hlength, ?_⟩
    intro i rows' hi
    cases i with
    | zero =>
      cases hi
      exact .current hyields
    | succ i =>
      obtain ⟨hmore, hset'⟩ := hlater i rows' hi
      exact .later hyields hmore hset'

end Reading

end OneConnection
