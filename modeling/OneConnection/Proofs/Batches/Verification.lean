import Mathlib
import OneConnection.Proofs.Acts
import OneConnection.Proofs.Replies

/-!
# Row counts of batches

Whether the row count of a batch is right depends on the commands of this batch alone. The sums that
the pending batch keeps are those of its commands, whatever batches came before.
-/

namespace OneConnection

variable {δ κ ρ : Type}

/-! ## Sums -/

/-- What the batch has added up is what its commands declare. -/
structure PendingBatch.Tallied (b : PendingBatch) : Prop where
  expectedRows : b.expectedRows = (b.commands.map (·.expectation.count)).sum
  isChecked : b.isChecked = b.commands.all (·.expectation.isChecked)

namespace PendingBatch.Tallied

theorem empty : Tallied {} := ⟨rfl, rfl⟩

theorem push {b : PendingBatch} (c : Command) (line : Option String) (h : b.Tallied) :
    (b.push c line).Tallied := by
  constructor
  · simp [PendingBatch.push, h.expectedRows]
  · simp [PendingBatch.push, h.isChecked]

end PendingBatch.Tallied

theorem Flushing.pending_begin [Cursor κ] (setup : Setup δ κ) (mode : Mode)
    (conn : Connection δ κ) : (begin setup mode conn).2.pending = {} := by
  have hquiet : Quiet fun conn : Connection δ κ => conn.pending = {} :=
    { access := fun _ _ h => h
      hold := fun _ _ _ _ h => h
      note := fun _ _ _ h => h
      count := fun _ _ h => h }
  exact hquiet.flush setup mode (·.pending = {}) (fun _ => rfl) (fun _ _ _ h => h) rfl

theorem endures_tallied [Cursor κ] (setup : Setup δ κ) :
    Endures setup fun conn => conn.pending.Tallied where
  access _ _ h := h
  hold _ _ _ _ h := h
  note _ _ _ h := h
  count _ _ h := h
  call _ _ _ _ _ _ h := h
  flush conn mode _ := by
    rw [Flushing.pending_begin]
    exact .empty

theorem World.tallied_run [Cursor κ] (setup : Setup δ κ) (database : δ) (steps : List (Step ρ)) :
    ((create setup database : World δ κ ρ).run setup steps).conn.pending.Tallied := by
  refine (endures_tallied setup).run ?_ (fun _ _ h => h) ?_ steps .empty
  · intro c conn h
    exact h.push _ _
  · intro conn h
    rw [Connection.pending_discardPending]
    exact .empty

/-! ## Verdicts -/

/-- A sum that fits a word is the sum of the numbers. -/
theorem RowCount.toNat_sum {counts : List RowCount}
    (hfits : (counts.map (·.toNat)).sum < Text.wordLimit) :
    counts.sum.toNat = (counts.map (·.toNat)).sum := by
  induction counts with
  | nil => rfl
  | cons count rest ih =>
    rw [List.map_cons, List.sum_cons] at hfits ⊢
    rw [List.sum_cons, UInt64.toNat_add, ih (by omega)]
    exact Nat.mod_eq_of_lt hfits

/-- What a row count means for commands that were sent together. -/
def Command.verdict (cs : List Command) (rows : RowCount) : Except Error RowCount :=
  let expected := (cs.map (·.expectation.count)).sum
  if (∃ c ∈ cs, c.expectation = .unchecked) ∨ rows = expected then .ok rows
  else
    .error (.verification
      { shortfall := if rows < expected then .stale else .tooManyRows
        expected, actual := rows, statements := cs.map (·.sql) })

theorem Expectation.isChecked_eq_false {e : Expectation} :
    e.isChecked = false ↔ e = .unchecked := by
  cases e <;> simp [isChecked]

theorem PendingBatch.Tallied.verify_fst {b : PendingBatch} (h : b.Tallied) (rows : RowCount)
    (conn : Connection δ κ) :
    (Flushing.verify b rows conn).1 = .ofExcept (Command.verdict b.commands rows) := by
  unfold Flushing.verify PendingBatch.check VerificationError.check Command.verdict
  rw [h.isChecked, h.expectedRows]
  by_cases hchecked : ∃ c ∈ b.commands, c.expectation = .unchecked
  · have hall : b.commands.all (·.expectation.isChecked) = false := by
      obtain ⟨c, hc, he⟩ := hchecked
      exact List.all_eq_false.mpr ⟨c, hc, by simp [he, Expectation.isChecked]⟩
    simp [hall, hchecked, Outcome.ofExcept]
  · have hall : b.commands.all (·.expectation.isChecked) = true := by
      refine List.all_eq_true.mpr fun c hc => ?_
      cases he : c.expectation.isChecked with
      | true => rfl
      | false => exact absurd ⟨c, hc, Expectation.isChecked_eq_false.mp he⟩ hchecked
    by_cases hrows : rows = (b.commands.map (·.expectation.count)).sum <;>
      simp [hall, hchecked, hrows, Outcome.ofExcept]

theorem Command.verifyAlone_eq (c : Command) (rows : RowCount) :
    ((c.verifyAlone rows).map fun _ => rows) = verdict [c] rows := by
  unfold verifyAlone verdict VerificationError.check
  cases he : c.expectation with
  | unchecked => simp [he, Except.map]
  | rows expected =>
    by_cases hrows : rows = expected <;>
      simp [he, hrows, Expectation.count, Except.map]

/-! ## Sending -/

/-- The commands that a poll of the operation sends together once it has the connection, what the
driver gives for them, and what the operation makes of their row count. -/
inductive Operation.Sends (setup : Setup δ κ) (mode : Mode) (conn : Connection δ κ) :
    Operation ρ → List Command → Promise RowCount → (RowCount → Reply ρ) → Prop
  | flush : Sends setup mode conn (.flushing .waiting) conn.pending.commands
      (setup.driver.batch mode conn.pending.commands conn.database).1 .rows
  /-- An addition that filled the batch and had to wait. -/
  | filled : Sends setup mode conn (.adding (.flushing .waiting)) conn.pending.commands
      (setup.driver.batch mode conn.pending.commands conn.database).1 (fun _ => .done)
  /-- An addition that fills the batch. -/
  | fill {c : Command} {cs : List Command} (hcs : cs = conn.pending.commands ++ [setup.prepare c])
      (hfull : setup.settings.batchSize ≤ cs.length) :
      Sends setup mode conn (.adding (.fresh c)) cs
        (setup.driver.batch mode cs conn.database).1 (fun _ => .done)
  | execute {c : Command} : Sends setup mode conn (.executing c .waiting) [setup.prepare c]
      (setup.driver.nonQuery mode (setup.prepare c) conn.database).1 .rows

/-! ## Calls -/

namespace Protocol

variable {β α : Type} {p : Protocol δ κ β α} {caller : Caller} {conn : Connection δ κ}

theorem poll_free (hcaller : caller.cancelReason? conn.contexts = none)
    (hadmission : p.admission = .ok ()) (hfree : conn.access = .free) :
    p.poll caller .waiting conn = p.afterBegin (p.begin (conn.setAccess .held)) := by
  simp only [poll, hcaller, hadmission, hfree]
  exact start_eq p conn

theorem poll_held (hcaller : caller.cancelReason? conn.contexts = none)
    (hadmission : p.admission = .ok ()) (hheld : conn.access = .held) :
    p.poll caller .waiting conn = (.waiting .waiting, conn) := by
  simp only [poll, hcaller, hadmission, hheld]

/-- An operation around a call answers what the call makes of the driver's answer. -/
theorem due_answer [Cursor κ] {setup : Setup δ κ} {wrap : Call β → Operation ρ}
    {f : Outcome α → Outcome (Reply ρ)} {b : β} {outcome : Outcome α}
    (hpoll : ∀ call conn, ((wrap call).poll setup caller conn).1 =
      ((p.poll caller call conn).1.map f).within wrap)
    (hfinish : ∀ conn, (p.finish b conn).1 = outcome) (polls : Nat) (conn : Connection δ κ) :
    Polled.Due setup caller (f outcome) polls (((p.answer polls b conn).1.map f).within wrap) := by
  induction polls generalizing conn with
  | zero =>
    have hanswer : (p.answer 0 b conn).1 = .ready outcome := congrArg Polled.ready (hfinish conn)
    rw [hanswer]
    exact .ready
  | succ n ih =>
    refine .waiting fun conn => ?_
    rw [hpoll]
    exact ih conn

end Protocol

variable [Cursor κ] {setup : Setup δ κ} {caller : Caller} {conn : Connection δ κ} {polls : Nat}
  {rows : RowCount}

theorem Flushing.poll_due {wrap : Call Flushing.Sent → Operation ρ}
    {f : Outcome RowCount → Outcome (Reply ρ)}
    (hpoll : ∀ call conn, ((wrap call).poll setup caller conn).1 =
      ((poll setup caller call conn).1.map f).within wrap)
    (htallied : conn.pending.Tallied) (hcs : conn.pending.commands ≠ [])
    (hcaller : caller.cancelReason? conn.contexts = none) (hfree : conn.access = .free)
    (hdriver : (setup.driver.batch caller.mode conn.pending.commands conn.database).1 =
      .after polls (.ok rows)) :
    Polled.Due setup caller (f (.ofExcept (Command.verdict conn.pending.commands rows))) polls
      (((poll setup caller .waiting conn).1.map f).within wrap) := by
  have hfull : (conn.setAccess .held).pending.isEmpty = false := by
    cases h : (conn.setAccess .held).pending.isEmpty with
    | false => rfl
    | true => exact absurd (List.isEmpty_iff.mp h) hcs
  unfold poll
  rw [Protocol.poll_free hcaller rfl hfree]
  simp only [protocol, begin_eq, hfull, ready_database]
  rcases hanswer : setup.driver.batch caller.mode (conn.setAccess .held).pending.commands
    (conn.setAccess .held).database with ⟨promise, database⟩
  obtain rfl : promise = .after polls (.ok rows) := (congrArg Prod.fst hanswer).symm.trans hdriver
  exact Protocol.due_answer (p := protocol setup caller.mode) hpoll
    (htallied.verify_fst rows) polls _

theorem Executing.poll_due (c : Command) (hcaller : caller.cancelReason? conn.contexts = none)
    (hfree : conn.access = .free)
    (hdriver : (setup.driver.nonQuery caller.mode (setup.prepare c) conn.database).1 =
      .after polls (.ok rows)) :
    Polled.Due (ρ := ρ) setup caller
      ((Outcome.ofExcept (Command.verdict [setup.prepare c] rows)).map .rows) polls
      ((Operation.executing c .waiting).poll setup caller conn).1 := by
  have hfinish : finish ⟨setup.prepare c, .ok rows⟩ =
      .ofExcept (Command.verdict [setup.prepare c] rows) := by
    rw [← Command.verifyAlone_eq]
    rfl
  simp only [Operation.poll, poll]
  rw [Protocol.poll_free hcaller rfl hfree]
  simp only [protocol, begin_eq, Connection.beforeSingle_database]
  rcases hanswer : setup.driver.nonQuery caller.mode (setup.prepare c)
    (conn.setAccess .held).database with ⟨promise, database⟩
  obtain rfl : promise = .after polls (.ok rows) := (congrArg Prod.fst hanswer).symm.trans hdriver
  exact Protocol.due_answer (p := protocol setup caller.mode c) (b := ⟨setup.prepare c, .ok rows⟩)
    (fun _ _ => rfl) (fun _ => hfinish) polls _

theorem Polled.within_within {τ υ φ α β γ : Type} (f : α → β) (f' : β → γ) (g : τ → υ) (g' : υ → φ)
    (x : Polled τ α) :
    (((x.map f).within g).map f').within g' =
      (x.map fun a => f' (f a)).within fun t => g' (g t) := by
  cases x <;> rfl

theorem Outcome.map_map {α β γ : Type} (f : α → β) (g : β → γ) (o : Outcome α) :
    (o.map f).map g = o.map fun a => g (f a) := by
  cases o <;> rfl

namespace Operation

variable {operation : Operation ρ} {cs : List Command} {reply : RowCount → Reply ρ}

theorem poll_filled (setup : Setup δ κ) (caller : Caller) (call : Call Flushing.Sent)
    (conn : Connection δ κ) : ((adding (ρ := ρ) (.flushing call)).poll setup caller conn).1 =
      ((Flushing.poll setup caller call conn).1.map (Outcome.map fun _ => .done)).within
        fun call => adding (.flushing call) := by
  simp only [poll, Adding.poll, Adding.flush, Prod.map_fst, Polled.within_within, Outcome.map_map]

theorem poll_fill (setup : Setup δ κ) (c : Command)
    (hcaller : caller.cancelReason? conn.contexts = none)
    (hfull : setup.settings.batchSize ≤ conn.pending.commands.length + 1) :
    (adding (ρ := ρ) (.fresh c)).poll setup caller conn =
      (adding (.flushing .waiting)).poll setup caller (conn.push setup c).2 := by
  have hpush : conn.push setup c = (true, (conn.push setup c).2) := by
    refine Prod.ext ?_ rfl
    simpa [Connection.push, PendingBatch.size] using hfull
  simp only [poll, Adding.poll, hcaller]
  rw [hpush]

/-- While the connection is held, an operation goes on waiting with what it is going to send. -/
theorem Sends.held {promise : Promise RowCount}
    (hsends : operation.Sends setup caller.mode conn cs promise reply)
    (hcaller : caller.cancelReason? conn.contexts = none) (hheld : conn.access = .held) :
    ∃ later, (operation.poll setup caller conn).1 = .waiting later ∧
      later.Sends setup caller.mode (operation.poll setup caller conn).2 cs promise reply := by
  have hwait : ∀ conn : Connection δ κ, caller.cancelReason? conn.contexts = none →
      conn.access = .held → Flushing.poll setup caller .waiting conn = (.waiting .waiting, conn) :=
    fun conn hcaller hheld => Protocol.poll_held hcaller rfl hheld
  cases hsends with
  | flush =>
    refine ⟨.flushing .waiting, ?_⟩
    simp only [poll, hwait conn hcaller hheld]
    exact ⟨rfl, .flush⟩
  | filled =>
    refine ⟨.adding (.flushing .waiting), ?_⟩
    simp only [poll, Adding.poll, Adding.flush, hwait conn hcaller hheld]
    exact ⟨rfl, .filled⟩
  | @fill c _ heq hfull =>
    subst heq
    refine ⟨.adding (.flushing .waiting), ?_⟩
    rw [poll_fill setup c hcaller (by simpa using hfull)]
    simp only [poll, Adding.poll, Adding.flush, hwait (conn.push setup c).2 hcaller hheld]
    have hsends : (adding (ρ := ρ) (.flushing .waiting)).Sends setup caller.mode
        (conn.push setup c).2 _ _ _ := .filled
    exact ⟨rfl, hsends⟩
  | @execute c =>
    refine ⟨.executing c .waiting, ?_⟩
    have hpoll : Executing.poll setup caller c .waiting conn = (.waiting .waiting, conn) :=
      Protocol.poll_held hcaller rfl hheld
    simp only [poll, hpoll]
    exact ⟨rfl, .execute⟩

theorem Sends.due {promise : Promise RowCount}
    (hsends : operation.Sends setup caller.mode conn cs promise reply)
    (htallied : conn.pending.Tallied) (hcs : cs ≠ [])
    (hcaller : caller.cancelReason? conn.contexts = none) (hfree : conn.access = .free)
    (hdriver : promise = .after polls (.ok rows)) :
    Polled.Due setup caller ((Outcome.ofExcept (Command.verdict cs rows)).map reply) polls
      (operation.poll setup caller conn).1 := by
  cases hsends with
  | flush => exact Flushing.poll_due (fun _ _ => rfl) htallied hcs hcaller hfree hdriver
  | filled =>
    rw [poll_filled]
    exact Flushing.poll_due (poll_filled setup caller) htallied hcs hcaller hfree hdriver
  | @fill c _ heq hfull =>
    subst heq
    have hpushed : (conn.push setup c).2.pending.Tallied := htallied.push _ _
    rw [poll_fill setup c hcaller (by simpa using hfull), poll_filled]
    exact Flushing.poll_due (poll_filled setup caller) hpushed hcs hcaller hfree hdriver
  | execute => exact Executing.poll_due _ hcaller hfree hdriver

end Operation

/-! ## Runs -/

/-- In every run, commands that are sent together get the verdict on their row count, whatever was
sent before them and whatever others do while the driver works. While another call is on its way
they wait. A command that runs on its own gets the same verdict as a batch of it alone. What the
verdict calls the sum of the counts is just that unless it gets too large for a word. -/
theorem World.row_counts_checked (setup : Setup δ κ) (database : δ) (before later : List (Step ρ))
    {n polls : Nat} {rows : RowCount} {caller : Caller} {operation : Operation ρ}
    {cs : List Command} {reply : RowCount → Reply ρ} :
    let w : World δ κ ρ := (World.create setup database).run setup before
    let w' := w.step setup (.poll n)
    let counts := cs.map (·.expectation.count)
    w.task? n = some ⟨caller, operation⟩ → caller.cancelReason? w.conn.contexts = none →
    cs ≠ [] → operation.Sends setup caller.mode w.conn cs (.after polls (.ok rows)) reply →
    Step.drop n ∉ later →
    (w.conn.access = .free → w.heard setup n (.poll n :: later) =
      if later.countP (·.polls n) < polls then []
      else [(Outcome.ofExcept (Command.verdict cs rows)).map reply]) ∧
    (w.conn.access = .held → ∃ operation', w'.task? n = some ⟨caller, operation'⟩ ∧
      operation'.Sends setup caller.mode w'.conn cs (.after polls (.ok rows)) reply) ∧
    ((counts.map (·.toNat)).sum < Text.wordLimit →
      counts.sum.toNat = (counts.map (·.toNat)).sum) := by
  intro w w' counts htask hcaller hcs hsends hkept
  have htallied : w.conn.pending.Tallied := tallied_run setup database before
  refine ⟨?_, ?_, ?_⟩
  · intro hfree
    exact heard_poll htask (hsends.due htallied hcs hcaller hfree rfl) hkept
  · intro hheld
    obtain ⟨operation', hpoll, hsends'⟩ := hsends.held hcaller hheld
    refine ⟨operation', ?_, ?_⟩
    · rw [task?, tasks_poll setup htask, hpoll]
      rfl
    · rw [show w' = _ from step_poll htask, conn_answer]
      exact hsends'
  · exact RowCount.toNat_sum

/-- A driver in memory that reports one row for every call. Tasks have to ask it twice. -/
def Setup.slow : Setup Unit Buffered where
  driver :=
    { capabilities := {}
      openReader := fun _ d => (.returned (.ok { sets := [] }), d)
      execute := fun _ d => (.returned (.ok 1), d)
      executeBatch := fun _ d => (.returned (.ok 1), d)
      executeAsync := fun _ d => (.after 1 (.ok 1), d)
      executeBatchAsync := fun _ d => (.after 1 (.ok 1), d) }
  settings := {}
  chain := .standard {}
  verbosity := .off

/-- An unchecked command in one batch does not keep the next one from being found stale. -/
theorem row_counts_checked_stale :
    let x : Caller := .task ⟨"task"⟩
    let c : Command := { sql := "update", expectation := .rows 2 }
    let before : List (Step Nat) :=
      [.ask .blocking (.add { sql := "insert" }), .poll 0, .ask .blocking .flush, .poll 1,
       .ask .blocking (.add c), .poll 2, .ask x .flush]
    let w : World Unit Buffered Nat := (World.create Setup.slow ()).run Setup.slow before
    let later : List (Step Nat) := [.ask .blocking (.add c), .poll 4, .poll 3]
    w.heard Setup.slow 3 (.poll 3 :: later) =
      [.error (.verification ⟨.stale, 2, 1, ["update"]⟩)] := by
  intro x c before w later
  have htask : w.task? 3 = some ⟨x, .flushing .waiting⟩ := rfl
  have hcaller : x.cancelReason? w.conn.contexts = none := rfl
  have hsends : (Operation.flushing (ρ := Nat) .waiting).Sends Setup.slow x.mode w.conn
      [Setup.slow.prepare c] (.after 1 (.ok 1)) .rows := .flush
  have h := World.row_counts_checked Setup.slow () before later htask hcaller
    (List.cons_ne_nil _ _) hsends (by simp [later])
  exact h.1 rfl

end OneConnection
