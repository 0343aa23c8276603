import OneConnection.Proofs.Deferred.Turns

/-!
# Settling

A batch is run by one view at a time, and by nobody once an execution has come to a result. An
execution that is cancelled or dropped leaves the batch to the next view.
-/

namespace OneConnection

variable {δ κ ρ : Type} [Cursor κ] {setup : Setup δ κ}

namespace Progress

def isExecuting : Progress → Bool
  | .executing => true
  | _ => false

def settled? : Progress → Option Settled
  | .settled result => some result
  | _ => none

end Progress

/-- What became of the executions of a batch. -/
structure Tally where
  started : Nat := 0
  cancelled : Nat := 0
  /-- With the view that ran them, or in a crash. -/
  dropped : Nat := 0
  /-- The result sets or errors that the others came to. -/
  settled : List Settled := []

namespace Tally

/-- Counts what a step of an execution comes to. -/
def ended (t : Tally) : Polled Execution (Except Stop (List ResultSet)) → Tally
  | .waiting _ => t
  | .crashed _ => { t with dropped := t.dropped + 1 }
  | .ready (.error (.cancelled _)) => { t with cancelled := t.cancelled + 1 }
  | .ready (.error (.failed why)) => { t with settled := t.settled ++ [.error why] }
  | .ready (.ok sets) => { t with settled := t.settled ++ [.ok sets] }

def begun (t : Tally) : Turn → Tally
  | .starts _ => { t with started := t.started + 1 }
  | _ => t

def polled (setup : Setup δ κ) (caller : Caller) (batch : Nat) (view : Viewing)
    (conn : Connection δ κ) (t : Tally) : Tally :=
  match view.work setup caller batch conn with
  | none => t
  | some x => (t.begun (view.turn caller batch conn)).ended x.1

/-- Counts what a step does with the executions of a batch. -/
def note (setup : Setup δ κ) (batch : Nat) (w : World δ κ ρ) (s : Step ρ) (t : Tally) : Tally :=
  match s with
  | .poll n =>
    match w.task? n with
    | some ⟨caller, .viewing b _ _ view⟩ =>
      if b = batch then t.polled setup caller b view w.conn else t
    | _ => t
  | .drop n =>
    if (w.task? n).any (·.operation.runs batch) then { t with dropped := t.dropped + 1 } else t
  | _ => t

end Tally

/-- The tally of a batch agrees with the batch and with the views that run it. -/
structure Accounted (batch : Nat) (w : World δ κ ρ) (t : Tally) : Prop where
  running : w.count (Operation.runs batch) = (w.conn.progress batch).isExecuting.toNat
  settled : t.settled = (w.conn.progress batch).settled?.toList
  balance : t.started =
    t.cancelled + t.dropped + t.settled.length + w.count (Operation.runs batch)

namespace Accounted

variable {batch : Nat} {w w' : World δ κ ρ} {t : Tally}

omit [Cursor κ] in
/-- Nothing has to be counted when the views that run the batch stay the same and so does how far
the batch has come. -/
theorem of_eq (h : Accounted batch w t)
    (hcount : w'.count (Operation.runs batch) = w.count (Operation.runs batch))
    (hprogress : w'.conn.progress batch = w.conn.progress batch) : Accounted batch w' t where
  running := by rw [hcount, h.running, hprogress]
  settled := by rw [h.settled, hprogress]
  balance := by rw [hcount, h.balance]

omit [Cursor κ] in
theorem of_step (t₀ : Tally) {b : DeferredBatch} (hb : b.progress = .executing)
    (y : Polled Execution (Except Stop (List ResultSet)))
    (hbatch : w'.conn.batch? batch = some (b.after y))
    (hcount : w'.count (Operation.runs batch) = (y.waits fun _ => true).toNat)
    (hsettled : t₀.settled = []) (hstarted : t₀.started = t₀.cancelled + t₀.dropped + 1) :
    Accounted batch w' (t₀.ended y) := by
  have hprogress := Connection.progress_of_batch? hbatch
  rcases y with ((reason | why) | sets) | e | message <;>
    constructor <;>
    simp_all [DeferredBatch.after, DeferredBatch.setProgress, Tally.ended, Polled.waits,
      Progress.isExecuting, Progress.settled?] <;>
    omega

omit [Cursor κ] in
/-- As long as the batch has no result, what was started was cancelled or dropped or is running. -/
theorem unsettled (h : Accounted batch w t) {p : Progress} (hp : w.conn.progress batch = p)
    (hnone : p.settled? = none) :
    t.settled = [] ∧ w.count (Operation.runs batch) = p.isExecuting.toNat ∧
      t.started = t.cancelled + t.dropped + p.isExecuting.toNat := by
  subst p
  have hsettled : t.settled = [] := by rw [h.settled, hnone, Option.toList_none]
  refine ⟨hsettled, h.running, ?_⟩
  rw [h.balance, hsettled, h.running, List.length_nil, Nat.add_zero]

omit [Cursor κ] in
/-- While a view runs the batch, the batch knows. -/
theorem executing_of_runs (h : Accounted batch w t) {n : Nat} {task : Task ρ}
    (ht : w.task? n = some task) (hr : task.operation.runs batch = true) :
    ∃ b, w.conn.batch? batch = some b ∧ b.progress = .executing := by
  have hpos : w.count (Operation.runs batch) ≠ 0 := by
    intro h0
    rw [World.count_eq_zero h0 ht] at hr
    cases hr
  rw [h.running] at hpos
  cases hb : w.conn.batch? batch with
  | none => simp [Connection.progress, hb, Progress.isExecuting] at hpos
  | some b =>
    rw [Connection.progress_of_batch? hb] at hpos
    refine ⟨b, rfl, ?_⟩
    cases hp : b.progress with
    | executing => rfl
    | idle | settled => simp [hp, Progress.isExecuting] at hpos

theorem poll_view (setup : Setup δ κ) {n : Nat} {caller : Caller} {index : Nat}
    {project : ResultSet → Except Error ρ}
    {view : Viewing} (ht : w.task? n = some ⟨caller, .viewing batch index project view⟩)
    (h : Accounted batch w t) :
    Accounted batch (w.step setup (.poll n)) (t.polled setup caller batch view w.conn) := by
  let operation : Operation ρ := .viewing batch index project view
  have hstep : w.step setup (.poll n) =
      w.answer n caller (operation.poll setup caller w.conn) := World.step_poll ht
  have hconn : (w.step setup (.poll n)).conn = (view.poll setup caller batch index w.conn).2 := by
    rw [hstep, World.conn_answer]
    rfl
  have hcount : (w.step setup (.poll n)).count (Operation.runs batch) + view.isRunning.toNat =
      w.count (Operation.runs batch) +
        ((view.poll setup caller batch index w.conn).1.waits Viewing.isRunning).toNat := by
    rw [hstep]
    have := World.count_answer ht caller (operation.poll setup caller w.conn)
      (Operation.runs batch)
    simpa [operation, Operation.poll, Operation.runs] using this
  unfold Tally.polled
  cases hw : view.work setup caller batch w.conn with
  | none =>
    obtain ⟨hsame, hrun⟩ := Viewing.poll_of_idle index hw
    refine h.of_eq ?_ (by rw [hconn, hsame])
    simpa [hrun, Viewing.isRunning_of_idle hw] using hcount
  | some x =>
    rw [Viewing.poll_of_work hw] at hconn hcount
    rw [Viewing.waits_proceed] at hcount
    have hbatch : (w.step setup (.poll n)).conn.batch? batch =
        (x.2.batch? batch).map (·.after x.1) := by
      rw [hconn, Viewing.batch?_proceed]
    rcases Viewing.work_batch? hw with ⟨b, hturn, hx⟩ | ⟨e, rfl, hx⟩
    · -- The view starts an execution of a batch that nobody runs.
      obtain ⟨hb, hidle, hrun⟩ := Viewing.turn_starts hturn
      rw [hx] at hbatch
      obtain ⟨hnone, hcounted, hstarted⟩ :=
        h.unsettled ((Connection.progress_of_batch? hb).trans hidle) rfl
      rw [hrun, hcounted] at hcount
      rw [hturn]
      exact of_step _ rfl x.1 hbatch (hcount.trans (Nat.zero_add _)) hnone
        (congrArg Nat.succ hstarted)
    · -- The view goes on with the only execution.
      obtain ⟨b, hb, hexec⟩ := h.executing_of_runs ht (Operation.runs_running ..)
      rw [hx, hb] at hbatch
      obtain ⟨hnone, hcounted, hstarted⟩ :=
        h.unsettled ((Connection.progress_of_batch? hb).trans hexec) rfl
      rw [hcounted, Nat.add_comm] at hcount
      exact of_step t hexec x.1 hbatch (Nat.add_left_cancel hcount) hnone hstarted

theorem poll (n : Nat) (h : Accounted batch w t) :
    Accounted batch (w.step setup (.poll n)) (t.note setup batch w (.poll n)) := by
  cases ht : w.task? n with
  | none => simpa [World.step, Tally.note, ht] using h
  | some task =>
    obtain ⟨caller, operation⟩ := task
    cases hv : operation.views batch with
    | true =>
      cases operation with
      | viewing b index project view =>
        obtain rfl : b = batch := of_decide_eq_true hv
        have := h.poll_view setup ht
        simpa [Tally.note, ht] using this
      | _ => cases hv
    | false =>
      have hnote : t.note setup batch w (.poll n) = t := by
        simp only [Tally.note, ht]
        split
        · rename_i heq
          cases heq
          rw [if_neg (of_decide_eq_false hv)]
        · rfl
      have hcount := World.count_answer ht caller (operation.poll setup caller w.conn)
        (Operation.runs batch)
      rw [hnote, World.step_poll ht]
      refine h.of_eq ?_ (Connection.progress_congr ?_)
      · simpa [Operation.runs_of_not_views hv, Operation.waits_runs hv] using hcount
      · rw [World.conn_answer, Operation.poll_elsewhere hv]

theorem drop (n : Nat) (h : Accounted batch w t) :
    Accounted batch (w.step setup (.drop n)) (t.note setup batch w (.drop n)) := by
  cases ht : w.task? n with
  | none => simpa [World.step, Tally.note, ht] using h
  | some task =>
    obtain ⟨caller, operation⟩ := task
    have hcount := World.count_drop setup ht (Operation.runs batch)
    rw [World.step_drop ht] at hcount ⊢
    simp only [Tally.note, ht, Option.any_some]
    cases hr : operation.runs batch with
    | false =>
      refine h.of_eq ?_ (Connection.progress_congr (Operation.drop_elsewhere hr))
      simpa [hr] using hcount
    | true =>
      obtain ⟨b, hb, hexec⟩ := h.executing_of_runs ht hr
      obtain ⟨index, project, e, rfl⟩ := Operation.runs_eq_true hr
      have hbatch := Viewing.drop_batch? setup caller e hb
      obtain ⟨hnone, hcounted, hstarted⟩ :=
        h.unsettled ((Connection.progress_of_batch? hb).trans hexec) rfl
      rw [hr, hcounted] at hcount
      exact of_step t hexec (.crashed "") hbatch (Nat.succ.inj hcount) hnone hstarted

theorem step (setup : Setup δ κ) (s : Step ρ) (h : Accounted batch w t) :
    Accounted batch (w.step setup s) (t.note setup batch w s) := by
  cases s with
  | poll n => exact h.poll n
  | drop n => exact h.drop n
  | ask caller request =>
    refine h.of_eq ?_ rfl
    rw [World.count_ask, Operation.runs_start]
    rfl
  | act a =>
    exact h.of_eq (World.count_act setup w a _) ((World.act_grown setup w a).progress_eq batch)

omit [Cursor κ] in
theorem create (setup : Setup δ κ) (database : δ) (batch : Nat) :
    Accounted batch (World.create setup database : World δ κ ρ) {} := by
  constructor <;> rfl

end Accounted

/-! ## After the result -/

/-- What a view gives once its batch has come to a result: what is read off the rows with its index,
or the one error that all views share. -/
def Settled.reply (index : Nat) (project : ResultSet → Except Error ρ) :
    Settled → Outcome (Reply ρ)
  | .error why => .error (.shared why)
  | .ok sets =>
    if h : index < sets.length then .ofExcept ((project sets[index]).map .projected)
    else .error (.invalidArgument
      s!"future batch has {sets.length} queries, no query at index {index}")

theorem Settled.andThen_rowsOf (index : Nat) (project : ResultSet → Except Error ρ)
    (result : Settled) :
    ((Outcome.ofExcept (result.rowsOf index)).andThen fun rows =>
      (project rows).map Reply.projected) = result.reply index project := by
  cases result with
  | error why => rfl
  | ok sets =>
    simp only [reply, rowsOf]
    by_cases h : index < sets.length
    · rw [List.getElem?_eq_getElem h, dif_pos h]
      rfl
    · rw [List.getElem?_eq_none (Nat.le_of_not_lt h), dif_neg h]
      rfl

/-- The batch keeps its result, and its views no longer touch the connection. -/
structure Recalls (setup : Setup δ κ) (batch : Nat) (result : Settled) (w : World δ κ ρ) :
    Prop where
  kept : ∃ b, w.conn.batch? batch = some b ∧ b.progress = .settled result
  poll : ∀ n caller index project view,
    w.task? n = some ⟨caller, .viewing batch index project view⟩ →
      ((Operation.viewing batch index project view).poll setup caller w.conn).2 = w.conn
  drop : ∀ n caller index project view,
    w.task? n = some ⟨caller, .viewing batch index project view⟩ →
      (Operation.viewing batch index project view).drop setup caller w.conn = w.conn
  reply : ∀ n caller index project view,
    w.task? n = some ⟨caller, .viewing batch index project view⟩ →
      caller.cancelReason? w.conn.contexts = none →
        ((Operation.viewing batch index project view).poll setup caller w.conn).1 =
          .ready (result.reply index project)

/-- A view that nobody has read yet finds the result. -/
theorem Recalls.read {batch : Nat} {result : Settled} {w : World δ κ ρ}
    (h : Recalls setup batch result w) (index : Nat) (project : ResultSet → Except Error ρ)
    {caller : Caller} (hc : caller.cancelReason? w.conn.contexts = none) :
    ((Request.view batch index project).start.poll setup caller w.conn).1 =
      .ready (result.reply index project) := by
  obtain ⟨b, hb, hp⟩ := h.kept
  have hpoll : (Viewing.fresh.poll setup caller batch index w.conn).1 =
      .ready (.ofExcept (result.rowsOf index)) :=
    congrArg Prod.fst (Viewing.poll_of_settled hb hp rfl hc)
  simp only [Request.start, Operation.poll, hpoll]
  exact congrArg Polled.ready (Settled.andThen_rowsOf index project result)

/-- The batch has a result, and no view runs it. -/
structure Kept (batch : Nat) (result : Settled) (w : World δ κ ρ) : Prop where
  result : ∃ b, w.conn.batch? batch = some b ∧ b.progress = .settled result
  unrun : w.count (Operation.runs batch) = 0

namespace Kept

variable {batch : Nat} {result : Settled} {w w' : World δ κ ρ}

omit [Cursor κ] in
theorem isRunning (h : Kept batch result w) {n : Nat} {caller : Caller} {index : Nat}
    {project : ResultSet → Except Error ρ} {view : Viewing}
    (ht : w.task? n = some ⟨caller, .viewing batch index project view⟩) :
    view.isRunning = false := by
  simpa [Operation.runs] using World.count_eq_zero h.unrun ht

theorem recalls (h : Kept batch result w) : Recalls setup batch result w := by
  obtain ⟨b, hb, hp⟩ := h.result
  refine ⟨h.result, ?_, ?_, ?_⟩
  · intro n caller index project view ht
    have hidle := Viewing.idle_of_settled setup caller hb hp (h.isRunning ht)
    exact (Viewing.poll_of_idle index hidle).1
  · intro n caller index project view ht
    cases view with
    | running e => cases h.isRunning ht
    | fresh | awaiting => rfl
  · intro n caller index project view ht hc
    simp only [Operation.poll, Viewing.poll_of_settled hb hp (h.isRunning ht) hc]
    exact congrArg Polled.ready (Settled.andThen_rowsOf index project result)

omit [Cursor κ] in
theorem of_eq (h : Kept batch result w)
    (hcount : w'.count (Operation.runs batch) = w.count (Operation.runs batch))
    (hbatch : w'.conn.batch? batch = w.conn.batch? batch) : Kept batch result w' where
  result := by
    rw [hbatch]
    exact h.result
  unrun := by rw [hcount, h.unrun]

theorem step (s : Step ρ) (h : Kept batch result w) : Kept batch result (w.step setup s) := by
  obtain ⟨b, hb, hp⟩ := h.result
  cases s with
  | ask caller request =>
    refine h.of_eq ?_ rfl
    rw [World.count_ask, Operation.runs_start]
    rfl
  | poll n =>
    cases ht : w.task? n with
    | none => simpa [World.step, ht] using h
    | some task =>
      obtain ⟨caller, operation⟩ := task
      have hr := World.count_eq_zero h.unrun ht
      have hcount := World.count_answer ht caller (operation.poll setup caller w.conn)
        (Operation.runs batch)
      rw [World.step_poll ht]
      cases hv : operation.views batch with
      | false =>
        refine h.of_eq ?_ ?_
        · simpa [hr, Operation.waits_runs hv] using hcount
        · rw [World.conn_answer, Operation.poll_elsewhere hv]
      | true =>
        cases operation with
        | viewing k index project view =>
          obtain rfl : k = batch := of_decide_eq_true hv
          have hw := Viewing.idle_of_settled setup caller hb hp
            (h.isRunning ht)
          obtain ⟨hsame, hwaits⟩ := Viewing.poll_of_idle index hw
          refine h.of_eq ?_ ?_
          · simpa [Operation.poll, Operation.runs, hwaits, h.isRunning ht] using hcount
          · rw [World.conn_answer]
            exact congrArg (Connection.batch? · k) hsame
        | _ => cases hv
  | drop n =>
    cases ht : w.task? n with
    | none => simpa [World.step, ht] using h
    | some task =>
      have hr := World.count_eq_zero h.unrun ht
      have hcount := World.count_drop setup ht (Operation.runs batch)
      refine h.of_eq ?_ ?_
      · simpa [hr] using hcount
      · rw [World.step_drop ht, Operation.drop_elsewhere hr]
  | act a =>
    obtain ⟨b', hb', g⟩ := (World.act_grown setup w a).old batch b hb
    exact ⟨⟨b', hb', g.progress.trans hp⟩, (World.count_act setup w a _).trans h.unrun⟩

end Kept

/-- At most one execution of a batch is in flight. All that were started before were cancelled or
dropped but for at most one, and what that one came to the batch recalls forever. -/
theorem settles_once (setup : Setup δ κ) (database : δ) (batch : Nat) (steps : List (Step ρ)) :
    let start : World δ κ ρ := .create setup database
    let w := start.run setup steps
    let t := World.account setup (Tally.note setup batch) start steps {}
    w.count (Operation.runs batch) ≤ 1 ∧
    t.started = t.cancelled + t.dropped + t.settled.length + w.count (Operation.runs batch) ∧
    t.settled.length + w.count (Operation.runs batch) ≤ 1 ∧
    ∀ result ∈ t.settled, ∀ later, Recalls setup batch result (w.run setup later) := by
  intro start w t
  have hstart := Accounted.create (ρ := ρ) setup database batch
  have h : Accounted batch w t :=
    World.account_induction (fun _ _ s _ h => h.step setup s) hstart
  have hone : t.settled.length + w.count (Operation.runs batch) ≤ 1 := by
    rw [h.settled, h.running]
    cases w.conn.progress batch with
    | idle => exact Nat.zero_le _
    | executing | settled => exact Nat.le_refl _
  refine ⟨Nat.le_trans (Nat.le_add_left _ _) hone, h.balance, hone, ?_⟩
  intro result hresult later
  -- The batch keeps what the tally has noted.
  have hp : w.conn.progress batch = .settled result := by
    rw [h.settled] at hresult
    cases hp : w.conn.progress batch <;> simp_all [Progress.settled?]
  obtain ⟨b, hb⟩ : ∃ b, w.conn.batch? batch = some b := by
    cases hb : w.conn.batch? batch with
    | none => simp [Connection.progress, hb] at hp
    | some b => exact ⟨b, rfl⟩
  rw [Connection.progress_of_batch? hb] at hp
  have hunrun : w.count (Operation.runs batch) = 0 := by
    rw [h.running, Connection.progress_of_batch? hb, hp]
    rfl
  have hkept : Kept batch result w := ⟨⟨b, hb, hp⟩, hunrun⟩
  exact (World.run_induction (fun _ s _ h => h.step s) hkept).recalls

/-- A driver in memory that sends several queries together and answers tasks only at the second
poll, with a row for the first query and two for the second. -/
def Setup.tardy : Setup Unit Buffered where
  driver :=
    { capabilities := { nativeAsync := true, multipleQueries := true }
      openReader := fun _ d => (.returned (.error (.custom "no blocking readers")), d)
      execute := fun _ d => (.returned (.ok 0), d)
      executeBatch := fun _ d => (.returned (.ok 0), d)
      openReaderAsync := fun _ d =>
        (.after 1 (.ok { sets := [[⟨["a"], []⟩], [⟨["b"], []⟩, ⟨["c"], []⟩]] }), d) }
  settings := {}
  chain := .standard { nativeAsync := true }
  verbosity := .off

/-- One execution is cancelled and the next one is dropped. The third one comes to rows, and when
the caller of the first is back, it is given those of the query that it asks for. -/
theorem settles_once_tardy :
    let setup := Setup.tardy
    let view (index : Nat) : Request (List (List String)) :=
      .view 0 index fun rows => .ok (rows.map Row.columns)
    let x : Caller := .task ⟨"x"⟩
    let y : Caller := .task ⟨"y"⟩
    let steps : List (Step (List (List String))) :=
      [.act (.register { command := { sql := "select 1" } }),
       .act (.register { command := { sql := "select 2" } }),
       .ask x (view 0), .poll 0, .act (.cancel { context := ⟨"x"⟩ }), .poll 0,
       .ask y (view 1), .poll 1, .drop 1,
       .ask y (view 0), .poll 2, .poll 2]
    let start : World Unit Buffered (List (List String)) := .create setup ()
    let t := World.account setup (Tally.note setup 0) start steps {}
    let w := start.run setup steps
    let later := w.run setup [.act (.revive ⟨"x"⟩)]
    t.started = 3 ∧ t.cancelled = 1 ∧ t.dropped = 1 ∧
      (∃ sets, sets.map (·.map Row.columns) = [[["a"]], [["b"], ["c"]]] ∧
        ∀ later, Recalls setup 0 (.ok sets) (w.run setup later)) ∧
      ((view 1).start.poll setup x later.conn).1 = .ready (.ok (.projected [["b"], ["c"]])) := by
  intro setup view x y steps start t w later
  have hkept := (settles_once setup () 0 steps).2.2.2
  have hsettled : t.settled.map (fun result => result.toOption.map (·.map (·.map Row.columns))) =
      [some [[["a"]], [["b"], ["c"]]]] := by
    decide +kernel
  obtain ⟨result, hresult, hread⟩ := List.map_eq_singleton_iff.mp hsettled
  obtain ⟨sets, hok, hcolumns⟩ := Option.map_eq_some_iff.mp hread
  obtain rfl : result = .ok sets := by
    cases result with
    | ok sets' => exact congrArg Except.ok (Option.some.inj hok)
    | error why => cases hok
  have hrecalls : ∀ later, Recalls setup 0 (.ok sets) (w.run setup later) := by
    refine hkept _ ?_
    rw [hresult]
    exact List.mem_singleton_self _
  refine ⟨by decide +kernel, by decide +kernel, by decide +kernel, ⟨sets, hcolumns, hrecalls⟩, ?_⟩
  have hcaller : x.cancelReason? later.conn.contexts = none := by decide +kernel
  have hreply := (hrecalls [.act (.revive ⟨"x"⟩)]).read 1 (fun rows => .ok (rows.map Row.columns))
    hcaller
  obtain ⟨first, rest, rfl, -, hrest⟩ := List.map_eq_cons_iff.mp hcolumns
  obtain ⟨second, none, rfl, hsecond, -⟩ := List.map_eq_cons_iff.mp hrest
  refine hreply.trans (congrArg Polled.ready ?_)
  show Outcome.ok (Reply.projected (second.map Row.columns)) = _
  rw [hsecond]

end OneConnection
