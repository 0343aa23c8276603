import OneConnection.Proofs.Readers.Giving

/-!
# Reading that stops

Reading stops when the caller is cancelled, and when the cursor breaks. What the cursor raises then
is the error that reading gives, with the command that was read.
-/

namespace OneConnection

variable {κ : Type} [Cursor κ]

namespace Reading

variable {α β : Type} {caller : Caller} {c : Command}

omit [Cursor κ] in
theorem andThen_eq_error {x : Reading κ α} {f : α → κ → Contexts → Reading κ β} {stop : Stop}
    (h : (x.andThen f).result = .error stop) :
    (x.result = .error stop ∧ (x.andThen f).contexts = x.contexts) ∨
      ∃ a, x.result = .ok a ∧ x.andThen f = f a x.cursor x.contexts := by
  unfold andThen at *
  cases hx : x.result with
  | ok a => exact .inr ⟨a, rfl, rfl⟩
  | error stop' =>
    rw [hx] at h
    cases h
    exact .inl ⟨rfl, rfl⟩

omit [Cursor κ] in
theorem map_eq_error {x : Reading κ α} {f : α → β} {stop : Stop}
    (h : (x.map f).result = .error stop) : x.result = .error stop := by
  unfold map at h
  cases hx : x.result with
  | ok a =>
    rw [hx] at h
    cases h
  | error stop' =>
    rw [hx] at h
    cases h
    rfl

/-! ## Cancellation -/

theorem cancelled_of_set {cursor : κ} {contexts : Contexts} {reason : CancelReason}
    (h : (set caller c cursor contexts).result = .error (.cancelled reason)) :
    caller.cancelReason? (set caller c cursor contexts).contexts = some reason := by
  fun_induction set caller c cursor contexts with
  | case1 cursor contexts reason' hc =>
    cases h
    exact hc
  | case2 | case3 => cases h
  | case4 cursor contexts hc x contexts' row hx ih => exact ih (map_eq_error h)

theorem advance_ne_cancelled {wanted got : Nat} {cursor : κ} {contexts : Contexts}
    {reason : CancelReason} :
    (advance c wanted got cursor contexts).result ≠ .error (.cancelled reason) := by
  intro h
  simp only [advance] at h
  split at h <;> cases h

theorem cancelled_of_others {wanted got todo : Nat} {cursor : κ} {contexts : Contexts}
    {reason : CancelReason}
    (h : (others caller c wanted got todo cursor contexts).result = .error (.cancelled reason)) :
    caller.cancelReason? (others caller c wanted got todo cursor contexts).contexts =
      some reason := by
  induction todo generalizing got cursor contexts with
  | zero => cases h
  | succ n ih =>
    unfold others at h ⊢
    rcases andThen_eq_error h with ⟨hstop, -⟩ | ⟨_, _, heq⟩
    · exact absurd hstop advance_ne_cancelled
    · rw [heq] at h ⊢
      rcases andThen_eq_error h with ⟨hstop, hcontexts⟩ | ⟨_, _, heq⟩
      · rw [hcontexts]
        exact cancelled_of_set hstop
      · rw [heq] at h ⊢
        exact ih (map_eq_error h)

/-- Reading is cancelled only by a caller who is cancelled. -/
theorem cancelled_of_sets {wanted : Nat} {cursor : κ} {contexts : Contexts} {reason : CancelReason}
    (h : (sets caller c wanted cursor contexts).result = .error (.cancelled reason)) :
    caller.cancelReason? (sets caller c wanted cursor contexts).contexts = some reason := by
  cases wanted with
  | zero => cases h
  | succ n =>
    unfold sets at *
    dsimp only at *
    rcases andThen_eq_error h with ⟨hstop, hcontexts⟩ | ⟨_, _, heq⟩
    · rw [hcontexts]
      exact cancelled_of_set hstop
    · rw [heq] at h ⊢
      exact cancelled_of_others (map_eq_error h)

end Reading

/-! ## Cursors that break -/

namespace Cursor

/-- Fetching the rows that are left in the current result set fails in the end, behind rows that
`read` accepts. -/
inductive Stumbles {β : Type} (read : Row → Except Error β) : κ → Error → Prop
  | now {c : κ} {why : Error} : (nextRow c).result = .error why → Stumbles read c why
  | later {c : κ} {row : Row} {item : β} {why : Error} : (nextRow c).result = .ok (some row) →
      read row = .ok item → Stumbles read (nextRow c).cursor why → Stumbles read c why

/-- A fetch of the first `n` result sets fails: the one of a row, or the one of the next result
set. -/
inductive Breaks : κ → Nat → Error → Prop
  | row {c : κ} {n : Nat} {why : Error} : Stumbles .ok c why → Breaks c (n + 1) why
  | result {c c' : κ} {rows : ResultSet} {n : Nat} {why : Error} : Yields c rows c' →
      (nextResult c').result = .error why → Breaks c (n + 2) why
  | later {c c' : κ} {rows : ResultSet} {n : Nat} {why : Error} : Yields c rows c' →
      (nextResult c').result = .ok true → Breaks (nextResult c').cursor (n + 1) why →
        Breaks c (n + 2) why

section

variable {β : Type} {read : Row → Except Error β}

theorem Stumbles.not_yields {c c' : κ} {why : Error} {rows : ResultSet} (h : Stumbles read c why)
    (hy : Yields c rows c') : False := by
  induction h generalizing rows with
  | now hfails =>
    cases hy with
    | done hend => rw [hfails] at hend; cases hend
    | row hrow => rw [hfails] at hrow; cases hrow
  | later hrow _ _ ih =>
    cases hy with
    | done hend => rw [hrow] at hend; cases hend
    | row _ hrest => exact ih hrest

/-- The loop over the rows comes to the fetch that fails. -/
theorem Stumbles.result_collect {c : κ} {why : Error} (h : Stumbles read c why) :
    (collect read c).result = .error why := by
  induction h with
  | now hfails =>
    rw [collect]
    split <;> simp_all
  | later hrow hread _ ih =>
    rw [collect]
    split
    · simp_all
    · simp_all
    · rename_i row' hrow'
      rw [hrow] at hrow'
      cases hrow'
      rw [hread]
      exact congrArg (Except.map _) ih

theorem Stumbles.within {ι : Type} [Cursor ι] {f : κ → ι}
    (hrow : ∀ c, nextRow (f c) = (nextRow c).within f) {c : κ} {why : Error}
    (h : Stumbles read c why) : Stumbles read (f c) why := by
  induction h with
  | now hfails => exact .now (by rw [hrow]; exact hfails)
  | later hnext hread _ ih =>
    refine .later (by rw [hrow]; exact hnext) hread ?_
    rw [hrow]
    exact ih

/-- What passes another cursor on fails only with it. -/
theorem Stumbles.of_within {ι : Type} [Cursor ι] {f : κ → ι}
    (hrow : ∀ c, nextRow (f c) = (nextRow c).within f) {c : κ} {why : Error}
    (h : Stumbles read (f c) why) : Stumbles read c why := by
  generalize hr : f c = r at h
  induction h generalizing c with
  | now hfails =>
    subst hr
    rw [hrow] at hfails
    exact .now hfails
  | later hnext hread _ ih =>
    subst hr
    rw [hrow] at hnext ih
    exact .later hnext hread (ih rfl)

end

/-- A cursor that breaks does not have all the result sets. -/
theorem Breaks.not_hasSet {c : κ} {n : Nat} {why : Error} (h : Breaks c n why)
    (hsets : ∀ i < n, ∃ rows, HasSet c i rows) : False := by
  induction h with
  | row hstumbles =>
    obtain ⟨rows, hset⟩ := hsets 0 (Nat.succ_pos _)
    cases hset with
    | current hy => exact hstumbles.not_yields hy
  | result hy hfails =>
    obtain ⟨rows, hset⟩ := hsets 1 (by omega)
    cases hset with
    | later hy' hmore =>
      obtain ⟨-, rfl⟩ := hy.unique hy'
      rw [hfails] at hmore
      cases hmore
  | later hy _ _ ih =>
    refine ih fun i hi => ?_
    obtain ⟨rows, hset⟩ := hsets (i + 1) (by omega)
    cases hset with
    | later hy' _ hset =>
      obtain ⟨-, rfl⟩ := hy.unique hy'
      exact ⟨rows, hset⟩

theorem Breaks.within {ι : Type} [Cursor ι] {f : κ → ι}
    (hrow : ∀ c, nextRow (f c) = (nextRow c).within f)
    (hresult : ∀ c, nextResult (f c) = (nextResult c).within f) {c : κ} {n : Nat} {why : Error}
    (h : Breaks c n why) : Breaks (f c) n why := by
  induction h with
  | row hstumbles => exact .row (hstumbles.within hrow)
  | result hy hfails => exact .result (hy.within hrow) (by rw [hresult]; exact hfails)
  | later hy hmore _ ih =>
    refine .later (hy.within hrow) (by rw [hresult]; exact hmore) ?_
    rw [hresult]
    exact ih

end Cursor

namespace Reading

variable {α β : Type} {caller : Caller} {c : Command} {cursor : κ} {why : Error}

/-- The reading gives this error, unless the caller was cancelled in the middle of it. -/
def Fails (x : Reading κ α) (why : Error) : Prop :=
  x.result = .error (.failed why) ∨ ∃ reason, x.result = .error (.cancelled reason)

omit [Cursor κ] in
theorem Fails.map {x : Reading κ α} (f : α → β) (h : x.Fails why) : (x.map f).Fails why := by
  rcases h with hx | ⟨reason, hx⟩
  · exact .inl (by simp [Reading.map, hx, Except.map])
  · exact .inr ⟨reason, by simp [Reading.map, hx, Except.map]⟩

omit [Cursor κ] in
theorem Fails.andThen {x : Reading κ α} (f : α → κ → Contexts → Reading κ β) (h : x.Fails why) :
    (x.andThen f).Fails why := by
  rcases h with hx | ⟨reason, hx⟩
  · exact .inl (by simp [Reading.andThen, hx])
  · exact .inr ⟨reason, by simp [Reading.andThen, hx]⟩

omit [Cursor κ] in
theorem Gives.andThen_fails {x : Reading κ α} {a : α} {f : α → κ → Contexts → Reading κ β}
    (h : x.Gives caller a) (hf : x.result = .ok a → (f a x.cursor x.contexts).Fails why) :
    (x.andThen f).Fails why := by
  rcases h with hx | ⟨reason, hx, -⟩
  · have heq : x.andThen f = f a x.cursor x.contexts := by simp only [Reading.andThen, hx]
    rw [heq]
    exact hf hx
  · exact Fails.andThen f (.inr ⟨reason, hx⟩)

theorem set_fails (caller : Caller) (c : Command) {read : Row → Except Error α}
    (h : Cursor.Stumbles read cursor why) (contexts : Contexts) :
    (set caller c cursor contexts).Fails (c.blame why) := by
  induction h generalizing contexts with
  | now hfails =>
    rw [set]
    split
    · exact .inr ⟨_, rfl⟩
    · dsimp only
      split <;> simp_all [Fails]
  | later hrow _ _ ih =>
    rw [set]
    split
    · exact .inr ⟨_, rfl⟩
    · dsimp only
      split
      · simp_all
      · simp_all
      · exact (ih _).map _

/-- Reading a result set fails only with the cursor. -/
theorem stumbles_of_set {contexts : Contexts}
    (h : (set caller c cursor contexts).result = .error (.failed why)) :
    ∃ raised, Cursor.Stumbles .ok cursor raised := by
  fun_induction set caller c cursor contexts with
  | case1 | case3 => cases h
  | case2 cursor contexts hc x contexts' raised hx => exact ⟨raised, .now hx⟩
  | case4 cursor contexts hc x contexts' row hx ih =>
    obtain ⟨raised, hstumbles⟩ := ih (map_eq_error h)
    exact ⟨raised, .later hx rfl hstumbles⟩

/-- Reading the current result set and those after it comes to the fetch that fails. -/
theorem set_others_fails (caller : Caller) (c : Command) (wanted got : Nat) {n todo : Nat}
    (contexts : Contexts) (h : Cursor.Breaks cursor n why) (hn : n = todo + 1) :
    ((set caller c cursor contexts).andThen fun rows cursor contexts =>
      (others caller c wanted got todo cursor contexts).map (rows :: ·)).Fails (c.blame why) := by
  -- On how the cursor breaks: each result set that is there takes one off what is still to do.
  induction h generalizing got todo contexts with
  | row hstumbles => exact Fails.andThen _ (set_fails caller c hstumbles contexts)
  | result hy hfails =>
    cases hn
    refine (set_gives caller c hy contexts).andThen_fails fun hread => Fails.map _ ?_
    rw [((yields_set _ _ _ _ _ hread).unique hy).2]
    unfold others
    exact Fails.andThen _ (.inl (by simp only [advance, hfails]))
  | later hy hmore _ ih =>
    cases hn
    refine (set_gives caller c hy contexts).andThen_fails fun hread => Fails.map _ ?_
    rw [((yields_set _ _ _ _ _ hread).unique hy).2]
    unfold others
    rw [advance_of_more hmore]
    exact ih (got + 1) _ rfl

/-- A cursor that breaks stops the reading. -/
theorem sets_fails (caller : Caller) (c : Command) {n : Nat} (contexts : Contexts)
    (h : Cursor.Breaks cursor n why) : (sets caller c n cursor contexts).Fails (c.blame why) := by
  cases n with
  | zero => cases h
  | succ n => exact set_others_fails caller c (n + 1) 1 contexts h rfl

end Reading

end OneConnection
