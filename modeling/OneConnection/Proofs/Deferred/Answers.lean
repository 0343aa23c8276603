import OneConnection.Proofs.Deferred.Serving

/-!
# Answers to queries

What a view gives is what the driver answered to the query of this view, and not to another one.
-/

namespace OneConnection

variable {δ κ ρ : Type} [Cursor κ] {setup : Setup δ κ}

/-! ## Statements -/

/-- Every command keeps its place among the statements of the combined command. -/
theorem Command.getElem?_statements (offset : Nat) (cs : List Command) (i : Nat) :
    (statements offset cs)[i]? = cs[i]?.map fun c =>
      Sql.shiftPlaceholders (offset + ((cs.take i).flatMap params).length) c.statement := by
  induction cs generalizing offset i with
  | nil => rfl
  | cons c rest ih =>
    cases i with
    | zero => rfl
    | succ i =>
      rw [statements, List.getElem?_cons_succ, ih, List.getElem?_cons_succ, List.take_succ_cons,
        List.flatMap_cons, List.length_append, Nat.add_assoc]

/-- The driver answered the query at index `i` of a batch with `rows`: in the cursor of the combined
command, or in the cursor that it opened for this query. -/
inductive Setup.Answers (setup : Setup δ κ) (b : DeferredBatch) (i : Nat) (q : Query)
    (rows : ResultSet) : List (Opened κ) → Prop
  | together {cursor : κ} : setup.driver.capabilities.multipleQueries = true →
      (Command.statements 0 b.commands)[i]? = some (Sql.shiftPlaceholders
        ((b.commands.take i).flatMap Command.params).length q.command.statement) →
      Cursor.HasSet cursor i rows →
      Answers setup b i q rows [⟨setup.prepare (Command.combine b.commands), some cursor⟩]
  | apart {cursor : κ} {opened : List (Opened κ)} :
      setup.driver.capabilities.multipleQueries = false →
      opened.map (·.command) = b.commands.map setup.prepare →
      opened[i]? = some ⟨setup.prepare q.command, some cursor⟩ →
      Cursor.HasSet cursor 0 rows →
      Answers setup b i q rows opened

theorem Delivered.answers {b : DeferredBatch} {i : Nat} {q : Query} {rows : ResultSet}
    {opened : List (Opened κ)} {sets : List ResultSet}
    (h : Delivered setup (setup.errandsOf b) opened sets) (hq : b.queries[i]? = some q)
    (hi : sets[i]? = some rows) : setup.Answers b i q rows opened := by
  have hempty : b.isEmpty = false := by
    unfold DeferredBatch.isEmpty
    cases hb : b.queries with
    | nil =>
      rw [hb] at hq
      cases hq
    | cons => rfl
  have hc : b.commands[i]? = some q.command := by
    unfold DeferredBatch.commands
    rw [List.getElem?_map, hq]
    rfl
  unfold Setup.errandsOf DeferredBatch.errands at h
  rw [hempty] at h
  cases hm : setup.driver.capabilities.multipleQueries with
  | true =>
    rw [hm] at h
    obtain ⟨cursor, rfl, -, hsets⟩ := h.together
    refine .together hm ?_ (hsets i rows hi)
    rw [Command.getElem?_statements, hc, Nat.zero_add]
    rfl
  | false =>
    rw [hm] at h
    have heach : Delivered setup (b.commands.map (⟨·, 1⟩)) opened sets := h
    obtain ⟨c, cursor, hc', ho, hset⟩ := heach.apart hi
    rw [hc] at hc'
    cases hc'
    refine .apart hm ?_ ho hset
    rw [heach.commands, List.map_map]
    rfl

/-! ## Results -/

theorem Outcome.ofExcept_eq_ok {α : Type} {x : Except Error α} {a : α} (h : ofExcept x = .ok a) :
    x = .ok a := by
  cases x <;> cases h
  rfl

theorem Outcome.andThen_eq_ok {α β : Type} {o : Outcome α} {f : α → Except Error β} {b : β}
    (h : o.andThen f = .ok b) : ∃ a, o = .ok a ∧ f a = .ok b := by
  cases o with
  | ok a => exact ⟨a, rfl, ofExcept_eq_ok h⟩
  | error | cancelled | panicked => cases h

namespace Viewing

variable {caller : Caller} {k i : Nat} {view : Viewing} {conn : Connection δ κ}
  {b : DeferredBatch} {rows : ResultSet}

end Viewing

/-! ## Views -/

namespace Operation

end Operation

namespace Served

variable {k : Nat} {w : World δ κ ρ} {executions : List (List (Opened κ))}

theorem registers_open (h : Served setup k w executions) (hw : Registered w)
    (hk : w.session.latest = some k) (hnone : executions = []) (q : Query) :
    ∃ b, w.conn.batch? k = some b ∧ w.Registers setup q k b := by
  obtain ⟨b, hb⟩ := hw.batch?_of_latest hk
  refine ⟨b, hb, World.registers_open setup q hk hb ?_⟩
  rw [h.isSealed hb, hnone]
  rfl

theorem fixed (h : Served setup k w executions) {b : DeferredBatch} (hb : w.conn.batch? k = some b)
    (hsome : executions ≠ []) (later : List (Step ρ)) :
    ∃ b', (w.run setup later).conn.batch? k = some b' ∧ b'.queries = b.queries := by
  obtain ⟨b', hb', hage⟩ := World.run_ages setup later hb
  exact ⟨b', hb', (hage.fixed (h.sealed_of_ne hb hsome)).2⟩

end Served

namespace World

end World

end OneConnection
