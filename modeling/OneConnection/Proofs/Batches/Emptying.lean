import OneConnection.Proofs.Batches.Verification
import OneConnection.Proofs.Conservation

/-!
# What a flush leaves

Once a flush has the connection, nothing of the batch that it found is pending. A flush that finds
the connection broken never has it, and leaves everything.
-/

namespace OneConnection

variable {δ κ ρ : Type} [Cursor κ] {setup : Setup δ κ}

/-! ## Polls -/

namespace Flushing

variable {caller : Caller} {conn : Connection δ κ}

theorem pending_answer (setup : Setup δ κ) (mode : Mode) (polls : Nat) (sent : Sent)
    (conn : Connection δ κ) :
    ((protocol setup mode).answer polls sent conn).2.pending = conn.pending := by
  cases polls with
  | succ n => rfl
  | zero =>
    simp only [Protocol.answer, protocol, finish, verify]
    split
    · split <;> rfl
    · rfl

/-- What a flush does that waits for the connection. -/
inductive Waits (caller : Caller) (conn : Connection δ κ) :
    Polled (Call Sent) (Outcome RowCount) × Connection δ κ → Prop
  | cancelled (reason : CancelReason) : Waits caller conn (.ready (.cancelled reason), conn)
  | broken (h : conn.access = .broken) :
      Waits caller conn (.ready (.error Protocol.brokenError), conn)
  | held (h : conn.access = .held) : Waits caller conn (.waiting .waiting, conn)
  | begun {x : Polled (Call Sent) (Outcome RowCount) × Connection δ κ} (h : x.2.pending = {}) :
      Waits caller conn x

theorem poll_waiting (setup : Setup δ κ) (caller : Caller) (conn : Connection δ κ) :
    Waits caller conn (poll setup caller .waiting conn) := by
  unfold poll
  cases hcaller : caller.cancelReason? conn.contexts with
  | some reason =>
    simp only [Protocol.poll, hcaller]
    exact .cancelled reason
  | none =>
    cases haccess : conn.access with
    | broken =>
      simp only [Protocol.poll, hcaller, protocol, haccess]
      exact .broken haccess
    | held =>
      rw [Protocol.poll_held hcaller rfl haccess]
      exact .held haccess
    | free =>
      rw [Protocol.poll_free hcaller rfl haccess]
      apply Waits.begun
      have hpending := pending_begin setup caller.mode (conn.setAccess .held)
      simp only [protocol]
      generalize begin setup caller.mode (conn.setAccess .held) = begun at hpending
      obtain ⟨⟨polls, sent⟩ | outcome | message, conn'⟩ := begun
      · exact (pending_answer setup caller.mode polls sent conn').trans hpending
      · exact hpending
      · exact hpending

end Flushing

/-! ## Steps -/

namespace World

variable {w : World δ κ ρ} {n : Nat}

/-- A step leaves the end of what was pending and of what it adds. -/
theorem pending_step (setup : Setup δ κ) (w : World δ κ ρ) (s : Step ρ) :
    (w.step setup s).conn.pending.commands <:+ w.conn.pending.commands ++ w.accepts setup s := by
  cases s with
  | ask caller request => simp [step, accepts]
  | poll n =>
    cases ht : w.task? n with
    | none => simp [step, accepts, ht]
    | some t =>
      obtain ⟨sent, hflow⟩ := t.operation.poll_flow setup t.caller w.conn
      rw [step_poll ht, conn_answer]
      simp only [accepts, ht]
      exact ⟨sent.flatten, hflow.commands.symm⟩
  | drop n =>
    cases ht : w.task? n with
    | none => simp [step, accepts, ht]
    | some t =>
      obtain ⟨sent, hflow⟩ := t.operation.drop_flow setup t.caller w.conn
      rw [step_drop ht]
      exact ⟨sent.flatten, hflow.commands.symm⟩
  | act a =>
    simp only [step, accepts, pending_act, List.append_nil]
    split
    · exact List.nil_suffix
    · exact List.suffix_rfl

/-- The task is a flush or over. Once the flush has been sent, only `added` is pending. -/
def Flushes (n : Nat) (added : List Command) (w : World δ κ ρ) : Prop :=
  ∃ t, w.tasks[n]? = some t ∧ ∀ u, t = some u → ∃ call, u.operation = .flushing call ∧
    ∀ polls sent, call = .sent polls sent → w.conn.pending.commands <:+ added

theorem poll_flushing (setup : Setup δ κ) {caller : Caller} {call : Call Flushing.Sent}
    (h : w.task? n = some ⟨caller, .flushing call⟩) :
    (w.step setup (.poll n)).tasks[n]? =
      some ((Flushing.poll setup caller call w.conn).1.waiting?.map
        fun call => ⟨caller, .flushing call⟩) ∧
    (w.step setup (.poll n)).conn = (Flushing.poll setup caller call w.conn).2 := by
  refine ⟨?_, ?_⟩
  · rw [tasks_poll setup h]
    simp [Operation.poll, Function.comp_def]
  · rw [step_poll h, conn_answer]
    rfl

theorem Flushes.poll {added : List Command} {caller : Caller} {call : Call Flushing.Sent}
    (h : w.task? n = some ⟨caller, .flushing call⟩)
    (hkept : ∀ polls sent, call = .sent polls sent →
      (w.step setup (.poll n)).conn.pending.commands <:+ added) :
    (w.step setup (.poll n)).Flushes n added := by
  obtain ⟨htasks, hconn⟩ := poll_flushing setup h
  refine ⟨_, htasks, ?_⟩
  intro u hu
  obtain ⟨call', hcall', rfl⟩ := Option.map_eq_some_iff.mp hu
  refine ⟨call', rfl, ?_⟩
  rintro polls sent rfl
  cases call with
  | sent polls' sent' => exact hkept polls' sent' rfl
  | waiting =>
    rw [hconn]
    have hwaits := Flushing.poll_waiting setup caller w.conn
    generalize Flushing.poll setup caller .waiting w.conn = x at hwaits hcall'
    cases hwaits with
    | cancelled | broken | held => cases hcall'
    | begun hpending =>
      rw [hpending]
      exact List.nil_suffix

theorem Flushes.step {added : List Command} (s : Step ρ) (h : w.Flushes n added) :
    (w.step setup s).Flushes n (added ++ w.accepts setup s) := by
  obtain ⟨t, ht, hcall⟩ := h
  have hkept : w.conn.pending.commands <:+ added →
      (w.step setup s).conn.pending.commands <:+ added ++ w.accepts setup s := by
    rintro ⟨front, hfront⟩
    refine (pending_step setup w s).trans ⟨front, ?_⟩
    rw [← hfront, List.append_assoc]
  rcases tasks_step_or ht s with hsame | hgone | ⟨rfl, hsome⟩
  · refine ⟨t, hsame, ?_⟩
    intro u hu
    obtain ⟨call, hop, hsent⟩ := hcall u hu
    exact ⟨call, hop, fun polls sent h => hkept (hsent polls sent h)⟩
  · refine ⟨none, hgone, ?_⟩
    rintro _ ⟨⟩
  · obtain ⟨⟨caller, operation⟩, rfl⟩ := Option.isSome_iff_exists.mp hsome
    obtain ⟨call, rfl, hsent⟩ := hcall _ rfl
    exact .poll (task?_eq_some.mpr ht) fun polls sent h => hkept (hsent polls sent h)

omit [Cursor κ] in
theorem Flushes.asked {caller : Caller} (added : List Command)
    (h : w.task? n = some ⟨caller, .flushing .waiting⟩) : w.Flushes n added := by
  refine ⟨_, task?_eq_some.mp h, ?_⟩
  rintro _ ⟨⟩
  refine ⟨.waiting, rfl, ?_⟩
  rintro _ _ ⟨⟩

/-- In every run, a flush that succeeds or fails leaves only what was added after it was asked for,
unless the connection is broken. Then it fails with that error and changes nothing. -/
theorem flush_leaves_later (setup : Setup δ κ) (database : δ) (before later : List (Step ρ))
    {caller : Caller} {result : Except Error (Reply ρ)} :
    let asked : World δ κ ρ := (create setup database).run setup before
    let w := asked.run setup later
    let after := (w.step setup (.poll n)).conn
    let added := (account setup (Ledger.note setup) asked later {}).accepted
    asked.task? n = some ⟨caller, .flushing .waiting⟩ →
    w.hears? setup n (.poll n) = some (.ofExcept result) →
    (after.pending.commands <:+ added ∧
      after.pending.expectedRows = (after.pending.commands.map (·.expectation.count)).sum) ∨
    (w.conn.access = .broken ∧ result = .error Protocol.brokenError ∧ after = w.conn) := by
  intro asked w after added htask hheard
  have hafter : after.pending.Tallied := by
    have hrun := tallied_run (ρ := ρ) setup database (before ++ later ++ [.poll n])
    rw [run_append, run_append] at hrun
    exact hrun
  have hflushes : w.Flushes n added :=
    account_induction (P := fun w l => w.Flushes n (Ledger.accepted l)) (fun _ _ s _ h => h.step s)
      (Flushes.asked [] htask)
  obtain ⟨t, ht, hcall⟩ := hflushes
  have hw : w.task? n = t := by simp [task?, ht]
  cases t with
  | none => simp [hears?, hw] at hheard
  | some t =>
    obtain ⟨caller', operation⟩ := t
    obtain ⟨call, rfl, hsent⟩ := hcall _ rfl
    obtain ⟨-, hconn⟩ := poll_flushing setup hw
    rw [hears?_poll hw] at hheard
    simp only [Operation.poll] at hheard
    have hexpected := hafter.expectedRows
    rw [show after = _ from hconn] at hexpected ⊢
    cases call with
    | sent polls sent =>
      have hpending := Flushing.pending_answer setup caller'.mode polls sent w.conn
      exact .inl ⟨hpending ▸ hsent polls sent rfl, hexpected⟩
    | waiting =>
      have hwaits := Flushing.poll_waiting setup caller' w.conn
      generalize Flushing.poll setup caller' .waiting w.conn = x at hwaits hheard hexpected
      cases hwaits with
      | cancelled reason => cases result <;> cases hheard
      | broken hbroken =>
        refine .inr ⟨hbroken, ?_, rfl⟩
        cases result <;> cases hheard
        rfl
      | held => cases hheard
      | begun hpending =>
        refine .inl ⟨?_, hexpected⟩
        rw [hpending]
        exact List.nil_suffix

end World

/-- Of two commands, the one that was added while the driver worked on the other is left, although
the flush fails. -/
theorem flush_leaves_later_stale :
    let x : Caller := .task ⟨"x"⟩
    let c : Command := { sql := "update", expectation := .rows 2 }
    let asked : World Unit Buffered Nat := (World.create Setup.slow ()).run Setup.slow
      [.ask .blocking (.add c), .poll 0, .ask x .flush]
    let later : List (Step Nat) := [.poll 1, .ask .blocking (.add c), .poll 2]
    let w := asked.run Setup.slow later
    (w.step Setup.slow (.poll 1)).conn.pending.commands <:+
      (World.account Setup.slow (Ledger.note Setup.slow) asked later {}).accepted := by
  intro x c asked later w
  have htask : asked.task? 1 = some ⟨x, .flushing .waiting⟩ := by cbv
  have hheard : w.hears? Setup.slow 1 (.poll 1) =
      some (.ofExcept (.error (.verification ⟨.stale, 2, 1, ["update"]⟩))) := by cbv
  have hfree : w.conn.access ≠ .broken := by
    have haccess : w.conn.access = .held := by cbv
    rw [haccess]
    decide
  rcases World.flush_leaves_later Setup.slow () _ later htask hheard with h | h
  · exact h.1
  · exact absurd h.1 hfree

/-- A driver in memory that crashes on every batch. -/
def Setup.crashing : Setup Unit Buffered where
  driver :=
    { capabilities := {}
      openReader := fun _ d => (.returned (.ok { sets := [] }), d)
      execute := fun _ d => (.returned (.ok 1), d)
      executeBatch := fun _ d => (.crashed "boom", d) }
  settings := {}
  chain := .standard {}
  verbosity := .off

/-- A flush on a broken connection fails, and the batch is not empty afterwards. -/
theorem broken_flush_leaves_batch :
    let c : Command := { sql := "insert", expectation := .rows 1 }
    let steps : List (Step Nat) :=
      [.ask .blocking (.add c), .poll 0, .ask .blocking .flush, .poll 1,
       .ask .blocking (.add c), .poll 2, .ask .blocking .flush]
    let w : World Unit Buffered Nat := (World.create Setup.crashing ()).run Setup.crashing steps
    let w' := w.step Setup.crashing (.poll 3)
    w.hears? Setup.crashing 3 (.poll 3) = some (.error Protocol.brokenError) ∧
    w'.conn.pending.commands = [Setup.crashing.prepare c] ∧ w'.conn.pending.expectedRows = 1 := by
  intro c steps w w'
  refine ⟨?_, ?_, ?_⟩
  · cbv
  · cbv
  · cbv

end OneConnection
