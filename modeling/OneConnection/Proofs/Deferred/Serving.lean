import OneConnection.Proofs.Deferred.Delivery
import OneConnection.Proofs.Deferred.Registering
import OneConnection.Proofs.Deferred.Settling
import OneConnection.Proofs.Discipline.Runs

/-!
# Serving views

A view of a query gets the rows that the driver gave for this query when its batch was run.
-/

namespace OneConnection

variable {δ κ ρ : Type} [Cursor κ] {setup : Setup δ κ}

/-! ## Accounts of executions -/

/-- Puts on record what the poll of a view sends. The last execution stands first. -/
def Turn.note (setup : Setup δ κ) (calls : List DriverCall) (database : δ) :
    Turn → List (List (Opened κ)) → List (List (Opened κ))
  | .starts _, executions => (setup.driver.replay calls ([], database)).1 :: executions
  | .resumes _, current :: earlier =>
    (setup.driver.replay calls (current, database)).1 :: earlier
  | _, executions => executions

namespace World

def noteExecutions (setup : Setup δ κ) (k : Nat) (w : World δ κ ρ) (s : Step ρ)
    (executions : List (List (Opened κ))) : List (List (Opened κ)) :=
  match s with
  | .poll n =>
    match w.task? n with
    | some ⟨caller, .viewing batch _ _ view⟩ =>
      if batch = k then
        (view.turn caller k w.conn).note setup ((w.step setup s).calls.drop w.calls.length)
          w.conn.database executions
      else executions
    | _ => executions
  | _ => executions

/-- The executions of a batch, from the last to the first: the commands that each has sent, with the
cursors that the driver opened. -/
def executions (setup : Setup δ κ) (start : World δ κ ρ) (steps : List (Step ρ)) (k : Nat) :
    List (List (Opened κ)) :=
  start.account setup (noteExecutions setup k) steps []

end World

def Setup.errandsOf (setup : Setup δ κ) (b : DeferredBatch) : List Errand :=
  b.errands setup.driver.capabilities.multipleQueries

omit [Cursor κ] in
theorem Setup.errandsOf_congr {b b' : DeferredBatch} (h : b'.queries = b.queries) :
    setup.errandsOf b' = setup.errandsOf b := by
  unfold errandsOf DeferredBatch.errands DeferredBatch.isEmpty DeferredBatch.commands
    DeferredBatch.size
  rw [h]

/-- The executions of a batch sent what the batch has to send, and the last one is behind what the
batch has come to. -/
structure Served (setup : Setup δ κ) (k : Nat) (w : World δ κ ρ)
    (executions : List (List (Opened κ))) : Prop where
  started : (w.conn.batch? k).any (·.isSealed) = !executions.isEmpty
  planned : ∀ b, w.conn.batch? k = some b → ∀ opened ∈ executions,
    opened.map (·.command) <+: setup.sends (setup.errandsOf b)
  running : ∀ n caller index project e,
    w.task? n = some ⟨caller, .viewing k index project (.running e)⟩ →
    ∃ b opened earlier, w.conn.batch? k = some b ∧ executions = opened :: earlier ∧
      Execution.Waits setup w.conn opened (setup.errandsOf b) e.errand e.rest e.done e.call w.conn
  settled : ∀ b sets, w.conn.batch? k = some b → b.progress = .settled (.ok sets) →
    ∃ opened earlier, executions = opened :: earlier ∧
      Delivered setup (setup.errandsOf b) opened sets
  failed : ∀ b why, w.conn.batch? k = some b → b.progress = .settled (.error why) →
    ∃ opened earlier caller contexts, executions = opened :: earlier ∧
      Execution.Halted setup caller (setup.errandsOf b) (.failed why) contexts opened

namespace Served

variable {k n : Nat} {w w' : World δ κ ρ} {executions : List (List (Opened κ))}

theorem isSealed (h : Served setup k w executions) {b : DeferredBatch}
    (hb : w.conn.batch? k = some b) : b.isSealed = !executions.isEmpty := by
  have hs := h.started
  rwa [hb] at hs

theorem sealed_of_ne (h : Served setup k w executions) {b : DeferredBatch}
    (hb : w.conn.batch? k = some b) (hne : executions ≠ []) : b.isSealed = true := by
  rw [h.isSealed hb, Bool.not_eq_true', List.isEmpty_eq_false_iff]
  exact hne

/-- A view that runs the batch is behind the last execution. -/
theorem execution {t : Tally} (h : Served setup k w executions) (ha : Accounted k w t)
    {caller : Caller} {index : Nat} {project : ResultSet → Except Error ρ} {e : Execution}
    (ht : w.task? n = some ⟨caller, .viewing k index project (.running e)⟩) :
    ∃ b opened earlier, w.conn.batch? k = some b ∧ b.progress = .executing ∧
      executions = opened :: earlier ∧
      Execution.Waits setup w.conn opened (setup.errandsOf b) e.errand e.rest e.done e.call
        w.conn := by
  obtain ⟨b, opened, earlier, hb, hexecutions, hwaits⟩ := h.running n caller index project e ht
  obtain ⟨b', hb', hexec⟩ := ha.executing_of_runs ht (Operation.runs_running ..)
  rw [hb] at hb'
  cases hb'
  exact ⟨b, opened, earlier, hb, hexec, hexecutions, hwaits⟩

theorem errandsOf_eq (h : Served setup k w executions) {b b' : DeferredBatch}
    (hb : w.conn.batch? k = some b) (hgrows : b.Grows b') (hne : executions ≠ []) :
    setup.errandsOf b' = setup.errandsOf b := by
  apply setup.errandsOf_congr
  exact hgrows.fixed (h.sealed_of_ne hb hne)

theorem of_none (h : Served setup k w executions) (hb : w.conn.batch? k = none)
    (hnew : ∀ b, w'.conn.batch? k = some b → b.progress = .idle ∧ b.isSealed = false)
    (htasks : ∀ n t, w'.task? n = some t → t.operation.runs k = true → w.task? n = some t) :
    Served setup k w' executions := by
  have hnil : executions = [] := by simpa [hb] using h.started
  subst hnil
  refine ⟨?_, nofun, ?_, ?_, ?_⟩
  · cases hb' : w'.conn.batch? k with
    | none => rfl
    | some b => exact (hnew b hb').2
  · intro n caller index project e ht
    obtain ⟨_, _, _, _, hne, _⟩ := h.running n _ _ _ e (htasks n _ ht (Operation.runs_running ..))
    cases hne
  all_goals
    intro b result hb' hp
    rw [(hnew b hb').1] at hp
    cases hp

theorem of_grows (h : Served setup k w executions) {b b' : DeferredBatch}
    (hb : w.conn.batch? k = some b) (hb' : w'.conn.batch? k = some b') (hgrows : b.Grows b')
    (htasks : ∀ n t, w'.task? n = some t → t.operation.runs k = true → w.task? n = some t)
    (hcursor : ∀ n t polls place cursor, w'.task? n = some t → t.operation.runs k = true →
      t.operation.flight? = some (polls, some place) →
      w.conn.readers.get? place = some (.plain cursor) →
        w'.conn.readers.get? place = some (.plain cursor)) :
    Served setup k w' executions := by
  have hsame : ∀ b₁, w'.conn.batch? k = some b₁ → b₁ = b' := by
    rw [hb']
    exact fun _ h => (Option.some.inj h).symm
  refine ⟨?_, ?_, ?_, ?_, ?_⟩
  · rw [← h.started, hb, hb']
    exact hgrows.isSealed
  · intro b₁ hb₁ opened hopened
    rw [hsame b₁ hb₁, h.errandsOf_eq hb hgrows (List.ne_nil_of_mem hopened)]
    exact h.planned b hb opened hopened
  · intro n caller index project e ht
    have hruns : Operation.runs k (.viewing k index project (.running e)) = true :=
      Operation.runs_running ..
    obtain ⟨b₀, opened, earlier, hb₀, rfl, hwaits⟩ :=
      h.running n caller index project e (htasks n _ ht hruns)
    rw [hb] at hb₀
    cases hb₀
    refine ⟨b', opened, earlier, hb', rfl, ?_⟩
    rw [h.errandsOf_eq hb hgrows (List.cons_ne_nil _ _)]
    apply hwaits.frame
    intro polls sent place cursor hcall hplace
    apply hcursor n _ polls place cursor ht hruns
    simp [Operation.flight?, Viewing.flight?, Execution.flight?, hcall, Call.flight?, hplace,
      Outcome.value?]
  · intro b₁ sets hb₁ hp
    rw [hsame b₁ hb₁] at hp ⊢
    obtain ⟨opened, earlier, rfl, hdelivered⟩ :=
      h.settled b sets hb (hgrows.progress.symm.trans hp)
    refine ⟨opened, earlier, rfl, ?_⟩
    rw [h.errandsOf_eq hb hgrows (List.cons_ne_nil _ _)]
    exact hdelivered
  · intro b₁ why hb₁ hp
    rw [hsame b₁ hb₁] at hp ⊢
    obtain ⟨opened, earlier, caller, contexts, rfl, hhalted⟩ :=
      h.failed b why hb (hgrows.progress.symm.trans hp)
    refine ⟨opened, earlier, caller, contexts, rfl, ?_⟩
    rw [h.errandsOf_eq hb hgrows (List.cons_ne_nil _ _)]
    exact hhalted

/-- Nothing happens to the executions of a batch that nobody works on. -/
theorem of_frame (h : Served setup k w executions)
    (hbatch : w'.conn.batch? k = w.conn.batch? k ∨ Grown w.conn w'.conn)
    (htasks : ∀ n t, w'.task? n = some t → t.operation.runs k = true → w.task? n = some t)
    (hcursor : ∀ n t polls place cursor, w'.task? n = some t → t.operation.runs k = true →
      t.operation.flight? = some (polls, some place) →
      w.conn.readers.get? place = some (.plain cursor) →
        w'.conn.readers.get? place = some (.plain cursor)) :
    Served setup k w' executions := by
  cases hb : w.conn.batch? k with
  | none =>
    refine h.of_none hb ?_ htasks
    intro b' hb'
    rcases hbatch with heq | hgrown
    · rw [heq, hb] at hb'
      cases hb'
    · exact hgrown.new k b' hb hb'
  | some b =>
    obtain ⟨b', hb', hgrows⟩ : ∃ b', w'.conn.batch? k = some b' ∧ b.Grows b' := by
      rcases hbatch with heq | hgrown
      · exact ⟨b, heq.trans hb, .refl b⟩
      · exact hgrown.old k b hb
    exact h.of_grows hb hb' hgrows htasks hcursor

omit [Cursor κ] in
theorem waiting_of_runs (hw' : w'.count (Operation.runs k) =
      (w'.conn.progress k).isExecuting.toNat)
    {y : Polled Execution (Except Stop (List ResultSet))} {b : DeferredBatch}
    (hbatch : w'.conn.batch? k = some (b.after y)) {t : Task ρ} (ht : w'.task? n = some t)
    (hr : t.operation.runs k = true) : ∃ e, y = .waiting e := by
  rw [Connection.progress_of_batch? hbatch] at hw'
  cases y with
  | waiting e => exact ⟨e, rfl⟩
  | crashed message =>
    rw [World.count_eq_zero hw' ht] at hr
    cases hr
  | ready result =>
    have hzero : w'.count (Operation.runs k) = 0 := by
      rw [hw']
      rcases result with (_ | _) | _ <;> rfl
    rw [World.count_eq_zero hzero ht] at hr
    cases hr

theorem of_work (hw' : w'.count (Operation.runs k) =
      (w'.conn.progress k).isExecuting.toNat)
    {x : Polled Execution (Except Stop (List ResultSet)) × Connection δ κ} {b : DeferredBatch}
    {opened : List (Opened κ)} {earlier : List (List (Opened κ))}
    (hsealed : b.isSealed = true) (hexec : b.progress = .executing)
    (hbatch : w'.conn.batch? k = some (b.after x.1)) (hreaders : w'.conn.readers = x.2.readers)
    (htask : ∀ e, x.1 = .waiting e → ∃ m caller index project,
      w'.task? m = some ⟨caller, .viewing k index project (.running e)⟩)
    (hearlier : ∀ opened ∈ earlier, opened.map (·.command) <+: setup.sends (setup.errandsOf b))
    (hopened : opened.map (·.command) <+: setup.sends (setup.errandsOf b))
    {caller : Caller} (hserves : Execution.Serves setup caller (setup.errandsOf b) opened x.2 x.1) :
    Served setup k w' (opened :: earlier) := by
  have hafter := DeferredBatch.Ages.after b x.1
  have herrands : setup.errandsOf (b.after x.1) = setup.errandsOf b :=
    setup.errandsOf_congr (hafter.fixed hsealed).2
  refine ⟨?_, ?_, ?_, ?_, ?_⟩
  · rw [hbatch]
    exact (hafter.fixed hsealed).1
  · intro b' hb' o ho
    rw [hbatch] at hb'
    cases hb'
    rw [herrands]
    rcases List.mem_cons.mp ho with rfl | ho
    · exact hopened
    · exact hearlier o ho
  · intro m caller' index' project' e hm
    refine ⟨_, opened, earlier, hbatch, rfl, ?_⟩
    obtain ⟨e', hx⟩ := waiting_of_runs hw' hbatch hm (Operation.runs_running ..)
    obtain ⟨n, caller, index, project, htask⟩ := htask e' hx
    -- There is room for one view that runs the batch, so this one is the one that was polled.
    have hone : w'.count (Operation.runs k) ≤ 1 := hw' ▸ Bool.toNat_le _
    obtain rfl := World.eq_of_count_le_one hone htask (Operation.runs_running ..) hm
      (Operation.runs_running ..)
    rw [htask] at hm
    cases hm
    rw [hx] at hserves herrands
    rw [hx, herrands]
    apply Execution.Waits.frame hserves
    intro polls sent place cursor _ _ hget
    rw [hreaders]
    exact hget
  · intro b' sets hb' hp
    rw [hbatch] at hb'
    cases hb'
    refine ⟨opened, earlier, rfl, ?_⟩
    rw [herrands]
    exact hserves.delivered hexec hp
  · intro b' why hb' hp
    rw [hbatch] at hb'
    cases hb'
    have hhalted := hserves.halted hexec hp
    rw [← herrands] at hhalted
    exact ⟨opened, earlier, caller, _, rfl, hhalted⟩

theorem step_of_work {caller : Caller} {index : Nat} {project : ResultSet → Except Error ρ}
    {view : Viewing} {x : Polled Execution (Except Stop (List ResultSet)) × Connection δ κ}
    (ht : w.task? n = some ⟨caller, .viewing k index project view⟩)
    (hw : view.work setup caller k w.conn = some x) :
    (w.step setup (.poll n)).conn = (Viewing.proceed k index x).2 := by
  rw [World.step_poll ht, World.conn_answer]
  exact congrArg Prod.snd (Viewing.poll_of_work hw)

/-- A poll that works on the batch puts on record what the execution sends, and the execution is
behind this. -/
theorem work_serves {t : Tally} {caller : Caller} {index : Nat}
    {project : ResultSet → Except Error ρ} {view : Viewing}
    {x : Polled Execution (Except Stop (List ResultSet)) × Connection δ κ}
    (ht : w.task? n = some ⟨caller, .viewing k index project view⟩)
    (hw : view.work setup caller k w.conn = some x) (ha : Accounted k w t)
    (h : Served setup k w executions) :
    ∃ b opened earlier, b.isSealed = true ∧ b.progress = .executing ∧
      (w.step setup (.poll n)).conn.batch? k = some (b.after x.1) ∧
      w.noteExecutions setup k (.poll n) executions = opened :: earlier ∧
      (∀ opened ∈ earlier, opened.map (·.command) <+: setup.sends (setup.errandsOf b)) ∧
      opened.map (·.command) <+: setup.sends (setup.errandsOf b) ∧
      Execution.Serves setup caller (setup.errandsOf b) opened x.2 x.1 ∧
      ∀ message, x.1 = .crashed message → Execution.Stalled setup (setup.errandsOf b) opened := by
  have hconn := step_of_work ht hw
  obtain ⟨deferred, hproceed⟩ := Viewing.proceed_eq k index x
  have hcalls : (w.step setup (.poll n)).calls = x.2.calls := by
    rw [World.calls, hconn, hproceed]
    rfl
  have hbatch := Viewing.batch?_proceed k index x
  rw [← hconn] at hbatch
  simp only [World.noteExecutions, ht, if_pos, hcalls]
  rcases Viewing.work_batch? hw with ⟨b, hturn, hx⟩ | ⟨e, rfl, hx⟩
  · -- A new execution goes on record with nothing before it.
    obtain ⟨hb, -, -⟩ := Viewing.turn_starts hturn
    obtain ⟨opened, hrec, hplan, hserves, hcrash⟩ := Viewing.start_serves hw hturn
    have hlater : (setup.driver.replay (x.2.calls.drop w.calls.length) ([], w.conn.database)).1 =
        opened := hrec.replay_later
    rw [hturn, Turn.note, hlater]
    rw [hx] at hbatch
    exact ⟨b.start, opened, executions, rfl, rfl, hbatch, rfl, h.planned b hb, hplan, hserves,
      hcrash⟩
  · obtain ⟨b, before, earlier, hb, hexec, rfl, hwaits⟩ := h.execution ha ht
    obtain ⟨opened, hrec, hplan, hserves, hcrash⟩ := Viewing.resume_serves hw hwaits
    have hlater : (setup.driver.replay (x.2.calls.drop w.calls.length)
        (before, w.conn.database)).1 = opened := hrec.replay_later
    rw [Viewing.turn, Turn.note, hlater]
    refine ⟨b, opened, earlier, h.isSealed hb, hexec, ?_, rfl, ?_, hplan, hserves, hcrash⟩
    · rw [hbatch, hx, hb]
      rfl
    · exact fun o ho => h.planned b hb o (List.mem_cons_of_mem _ ho)

theorem poll_work {t : Tally} {caller : Caller} {index : Nat} {project : ResultSet → Except Error ρ}
    {view : Viewing} {x : Polled Execution (Except Stop (List ResultSet)) × Connection δ κ}
    (ht : w.task? n = some ⟨caller, .viewing k index project view⟩)
    (hw : view.work setup caller k w.conn = some x) (ha : Accounted k w t)
    (h : Served setup k w executions) :
    Served setup k (w.step setup (.poll n)) (w.noteExecutions setup k (.poll n) executions) := by
  obtain ⟨b, opened, earlier, hsealed, hexec, hbatch, hnote, hearlier, hplan, hserves, -⟩ :=
    h.work_serves ht hw ha
  have hreaders : (w.step setup (.poll n)).conn.readers = x.2.readers := by
    obtain ⟨deferred, hproceed⟩ := Viewing.proceed_eq k index x
    rw [step_of_work ht hw, hproceed]
  have htask : ∀ e, x.1 = .waiting e → ∃ m caller index project,
      (w.step setup (.poll n)).task? m = some ⟨caller, .viewing k index project (.running e)⟩ := by
    intro e hx
    have hwaiting : x.1.waiting? = some e := by rw [hx]; rfl
    refine ⟨n, caller, index, project, ?_⟩
    rw [World.step_poll ht, World.task?_answer ht, if_pos rfl]
    simp [Operation.poll, Viewing.poll_of_work hw, Viewing.waiting?_proceed, hwaiting]
  rw [hnote]
  exact of_work (ha.step setup (.poll n)).running hsealed hexec hbatch hreaders htask hearlier hplan
    hserves

theorem noteExecutions_idle {caller : Caller} {operation : Operation ρ}
    (ht : w.task? n = some ⟨caller, operation⟩)
    (hidle : ∀ index project view, operation = .viewing k index project view →
      view.work setup caller k w.conn = none) :
    w.noteExecutions setup k (.poll n) executions = executions := by
  simp only [World.noteExecutions, ht]
  split
  · rename_i heq
    cases heq
    split
    · subst k
      have hw := hidle _ _ _ rfl
      unfold Viewing.work at hw
      split at hw
      · cases hw
      · cases hw
      · unfold Turn.note
        split <;> first | rfl | simp_all
    · rfl
  · rfl

theorem poll_idle (hd : World.Disciplined false w) {caller : Caller} {operation : Operation ρ}
    (ht : w.task? n = some ⟨caller, operation⟩)
    (hbatch : (operation.poll setup caller w.conn).2.batch? k = w.conn.batch? k)
    (hruns : operation.runs k = false)
    (hwaits : (operation.poll setup caller w.conn).1.waits (Operation.runs k) = false)
    (h : Served setup k w executions) : Served setup k (w.step setup (.poll n)) executions := by
  have htasks : ∀ m t, (w.step setup (.poll n)).task? m = some t → t.operation.runs k = true →
      w.task? m = some t := by
    intro m t hm hr
    rw [World.step_poll ht, World.task?_answer ht] at hm
    split at hm
    · obtain ⟨next, hnext, rfl⟩ := Option.map_eq_some_iff.mp hm
      rw [Polled.waits_eq_any, hnext] at hwaits
      exact absurd (hr.symm.trans hwaits) nofun
    · exact hm
  refine h.of_frame (.inl ?_) htasks ?_
  · rw [World.step_poll ht, World.conn_answer]
    exact hbatch
  · intro m t polls place cursor hm hr hf hget
    refine hd.cursor_step (by nofun) (htasks m t hm hr) hf ?_ nofun hget
    rintro ⟨⟩
    have ht' := htasks n t hm hr
    rw [ht] at ht'
    cases ht'
    rw [hruns] at hr
    cases hr

theorem poll {t : Tally} (hd : World.Disciplined false w) (ha : Accounted k w t)
    (h : Served setup k w executions) :
    Served setup k (w.step setup (.poll n)) (w.noteExecutions setup k (.poll n) executions) := by
  cases ht : w.task? n with
  | none => simpa [World.step, World.noteExecutions, ht] using h
  | some task =>
    obtain ⟨caller, operation⟩ := task
    cases hv : operation.views k with
    | false =>
      rw [noteExecutions_idle ht (by rintro _ _ _ rfl; simp [Operation.views] at hv)]
      exact h.poll_idle hd ht (Operation.poll_elsewhere hv) (Operation.runs_of_not_views hv)
        (Operation.waits_runs hv)
    | true =>
      cases operation with
      | viewing batch index project view =>
        obtain rfl : batch = k := of_decide_eq_true hv
        cases hw : view.work setup caller batch w.conn with
        | some x => exact h.poll_work ht hw ha
        | none =>
          obtain ⟨hsame, hwaits⟩ := Viewing.poll_of_idle index hw
          rw [noteExecutions_idle ht (by rintro _ _ _ ⟨⟩; exact hw)]
          refine h.poll_idle hd ht (congrArg (Connection.batch? · batch) hsame) ?_ ?_
          · simp [Operation.runs, Viewing.isRunning_of_idle hw]
          · simpa [Operation.poll, Operation.runs] using hwaits
      | _ => cases hv

theorem drop {t : Tally} (hd : World.Disciplined false w) (ha : Accounted k w t)
    (h : Served setup k w executions) : Served setup k (w.step setup (.drop n)) executions := by
  cases ht : w.task? n with
  | none => simpa [World.step, ht] using h
  | some task =>
    obtain ⟨caller, operation⟩ := task
    have hstep : w.step setup (.drop n) = _ := World.step_drop ht
    have htasks : ∀ m t, (w.step setup (.drop n)).task? m = some t →
        n ≠ m ∧ w.task? m = some t := by
      intro m t hm
      rw [World.task?_drop setup ht] at hm
      split at hm
      · cases hm
      · exact ⟨‹_›, hm⟩
    cases hr : operation.runs k with
    | false =>
      refine h.of_frame (.inl ?_) (fun m t hm _ => (htasks m t hm).2) ?_
      · rw [hstep]
        exact Operation.drop_elsewhere hr
      · intro m t polls place cursor hm _ hf hget
        refine hd.cursor_step (by rintro ⟨⟩) (htasks m t hm).2 hf (by rintro ⟨⟩) ?_ hget
        rintro ⟨⟩
        exact (htasks n t hm).1 rfl
    | true =>
      -- Going away is like a crash: nothing is left of the execution but its record.
      obtain ⟨index, project, e, rfl⟩ := Operation.runs_eq_true hr
      obtain ⟨b, opened, earlier, hb, hexec, rfl, -⟩ := h.execution ha ht
      have hplanned := h.planned b hb
      have hcount := (ha.step setup (.drop n)).running
      have hbatch : (w.step setup (.drop n)).conn.batch? k = some (b.after (.crashed "")) := by
        rw [hstep]
        exact Viewing.drop_batch? setup caller e hb
      have hserves : Execution.Serves setup caller (setup.errandsOf b) opened
          (w.step setup (.drop n)).conn (.crashed "") := trivial
      refine of_work (x := (.crashed "", (w.step setup (.drop n)).conn)) hcount (h.isSealed hb)
        hexec hbatch rfl ?_ ?_ (hplanned _ List.mem_cons_self) hserves
      · rintro _ ⟨⟩
      · exact fun o ho => hplanned o (List.mem_cons_of_mem _ ho)

theorem act (hd : World.Disciplined false w) (a : Act) (h : Served setup k w executions) :
    Served setup k (w.step setup (.act a)) executions := by
  refine h.of_frame (.inr (World.act_grown setup w a)) ?_ ?_
  · intro n t ht _
    rwa [World.step, World.task?_act] at ht
  · intro n t polls place cursor ht _ hf hget
    rw [World.step, World.task?_act] at ht
    exact hd.cursor_step (by rintro ⟨⟩) ht hf (by rintro ⟨⟩) (by rintro ⟨⟩) hget

theorem ask (caller : Caller) (request : Request ρ) (h : Served setup k w executions) :
    Served setup k (w.step setup (.ask caller request)) executions := by
  refine h.of_frame (.inl rfl) ?_ fun _ _ _ _ _ _ _ _ hget => hget
  intro n t ht hr
  rw [World.task?_ask] at ht
  split at ht
  · cases ht
    rw [Operation.runs_start] at hr
    cases hr
  · exact ht

theorem step {t : Tally} (s : Step ρ) (hd : World.Disciplined false w) (ha : Accounted k w t)
    (h : Served setup k w executions) :
    Served setup k (w.step setup s) (w.noteExecutions setup k s executions) := by
  cases s with
  | poll n => exact h.poll hd ha
  | drop n => exact h.drop hd ha
  | act a => exact h.act hd a
  | ask caller request => exact h.ask caller request

theorem create (setup : Setup δ κ) (database : δ) (k : Nat) :
    Served setup k (World.create setup database : World δ κ ρ) [] where
  started := rfl
  planned _ hb := nomatch hb
  running _ _ _ _ _ ht := nomatch ht
  settled _ _ hb := nomatch hb
  failed _ _ hb := nomatch hb

theorem run (setup : Setup δ κ) (database : δ) (k : Nat) {steps : List (Step ρ)}
    (hsteps : ∀ caller c, .ask caller (.dispatch c) ∉ steps) :
    Served setup k ((World.create setup database).run setup steps)
      ((World.create setup database).executions setup steps k) := by
  refine (World.account_induction (P := fun w executions => World.Disciplined false w ∧
    (∃ t, Accounted k w t) ∧ Served setup k w executions) ?_ ⟨?_, ?_, ?_⟩).2.2
  · rintro w executions s hs ⟨hd, ⟨t, ha⟩, h⟩
    refine ⟨hd.step (by nofun) ?_, ⟨_, ha.step setup s⟩, h.step s hd ha⟩
    rintro caller c rfl
    exact hsteps caller c hs
  · exact World.Disciplined.create setup database (by nofun)
  · exact ⟨_, Accounted.create setup database k⟩
  · exact create setup database k

end Served

end OneConnection
