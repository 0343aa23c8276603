import OneConnection.Proofs.Deferred.Counting
import OneConnection.Proofs.Deferred.Refusing

/-!
# Refused queries

With a driver that raises no error, a batch with a query that is refused sends the queries before
it and no other, and every view gives the error of the refusal. A combined command is refused or
sent as a whole, so that a query in it may be sent that would be refused alone.
-/

namespace OneConnection

variable {δ κ ρ : Type} [Cursor κ] {setup : Setup δ κ}

/-! ## What a batch sends -/

namespace Setup

/-- The commands that a batch has to send: all of them as one, or one after the other. -/
def outgoing (setup : Setup δ κ) (b : DeferredBatch) : List Command :=
  if setup.driver.capabilities.multipleQueries && !b.isEmpty then [Command.combine b.commands]
  else b.commands

omit [Cursor κ]

theorem outgoing_of_isEmpty {b : DeferredBatch} (hb : b.isEmpty = true) :
    setup.outgoing b = [] := by
  rw [outgoing, hb, b.commands_eq_nil.mpr hb, Bool.not_true, Bool.and_false,
    if_neg Bool.false_ne_true]

theorem outgoing_together (hmany : setup.driver.capabilities.multipleQueries = true)
    {b : DeferredBatch} (hb : b.isEmpty = false) :
    setup.outgoing b = [Command.combine b.commands] := by
  rw [outgoing, hmany, hb]
  rfl

theorem outgoing_apart (hone : setup.driver.capabilities.multipleQueries = false)
    (b : DeferredBatch) : setup.outgoing b = b.commands := by
  rw [outgoing, hone]
  rfl

theorem errandsOf_apart (hone : setup.driver.capabilities.multipleQueries = false)
    (b : DeferredBatch) : setup.errandsOf b = b.commands.map (⟨·, 1⟩) := by
  unfold errandsOf DeferredBatch.errands
  rw [hone]
  split
  · rename_i hempty
    rw [b.commands_eq_nil.mpr hempty]
    rfl
  · rfl

theorem command_errandsOf (setup : Setup δ κ) (b : DeferredBatch) :
    (setup.errandsOf b).map (·.command) = setup.outgoing b := by
  cases hmany : setup.driver.capabilities.multipleQueries with
  | false =>
    rw [errandsOf_apart hmany, outgoing_apart hmany, List.map_map]
    exact List.map_id _
  | true =>
    cases hempty : b.isEmpty with
    | false => rw [errandsOf_together hmany hempty, outgoing_together hmany hempty]; rfl
    | true =>
      rw [errandsOf, DeferredBatch.errands, if_pos hempty, outgoing_of_isEmpty hempty]
      rfl

/-- What is sent for a batch is what its errands send. -/
theorem sends_errandsOf (setup : Setup δ κ) (b : DeferredBatch) :
    setup.sends (setup.errandsOf b) = (setup.outgoing b).map setup.prepare := by
  rw [← command_errandsOf, List.map_map]
  rfl

section

variable {c : Command} {why : Error} {before after : List Command}

theorem Refuses.of_apart (hbefore : ∀ c ∈ before, setup.refusal? c = none)
    (hrefused : setup.refusal? c = some why) (after : List Command) :
    setup.Refuses ((before ++ c :: after).map (⟨·, 1⟩)) before.length why := by
  induction before with
  | nil => exact .now hrefused
  | cons first before ih =>
    refine .later (hbefore first List.mem_cons_self) rfl (ih fun c hc => ?_)
    exact hbefore c (List.mem_cons_of_mem first hc)

/-- The first command that is refused belongs to the first errand that is refused. -/
theorem refuses_errandsOf {b : DeferredBatch} (hsplit : setup.outgoing b = before ++ c :: after)
    (hbefore : ∀ c ∈ before, setup.refusal? c = none) (hrefused : setup.refusal? c = some why) :
    setup.Refuses (setup.errandsOf b) before.length why := by
  cases hmany : setup.driver.capabilities.multipleQueries with
  | false =>
    rw [outgoing_apart hmany] at hsplit
    rw [errandsOf_apart hmany, hsplit]
    exact .of_apart hbefore hrefused after
  | true =>
    cases hempty : b.isEmpty with
    | true =>
      rw [outgoing_of_isEmpty hempty] at hsplit
      have hnonempty : before ++ c :: after ≠ [] :=
        List.append_ne_nil_of_right_ne_nil before (List.cons_ne_nil c after)
      exact absurd hsplit hnonempty.symm
    | false =>
      rw [outgoing_together hmany hempty] at hsplit
      rw [errandsOf_together hmany hempty]
      cases before with
      | nil =>
        cases hsplit
        exact .now hrefused
      | cons first before =>
        cases before <;> cases hsplit

end

end Setup

/-! ## Batches with a refused query -/

theorem DeferredBatch.queries_after (b : DeferredBatch)
    (y : Polled Execution (Except Stop (List ResultSet))) : (b.after y).queries = b.queries := by
  rcases y with ((reason | why) | sets) | e | message <;> rfl

/-- Whatever comes from the refused query on is not sent, and no view gets anything but the error of
the refusal. -/
structure Withheld (setup : Setup δ κ) (k : Nat) (w : World δ κ ρ)
    (executions : List (List (Opened κ))) : Prop where
  steadfast : ∀ opened ∈ executions, Steadfast opened
  short : ∀ b m why, w.conn.batch? k = some b → setup.Refuses (setup.errandsOf b) m why →
    ∀ opened ∈ executions, opened.length ≤ m
  settled : ∀ b m why result, w.conn.batch? k = some b →
    setup.Refuses (setup.errandsOf b) m why → b.progress = .settled result → result = .error why

theorem Served.ne_nil_of_settled {k : Nat} {w : World δ κ ρ} {executions : List (List (Opened κ))}
    (h : Served setup k w executions) {b : DeferredBatch} {result : Settled}
    (hb : w.conn.batch? k = some b) (hp : b.progress = .settled result) : executions ≠ [] := by
  cases result with
  | ok sets =>
    obtain ⟨opened, earlier, rfl, -⟩ := h.settled b sets hb hp
    exact List.cons_ne_nil _ _
  | error why =>
    obtain ⟨opened, earlier, -, -, rfl, -⟩ := h.failed b why hb hp
    exact List.cons_ne_nil _ _

namespace Withheld

variable {k n : Nat} {w w' : World δ κ ρ} {executions : List (List (Opened κ))}

/-- Nothing happens to a batch that nobody works on. -/
theorem of_frame (hs : Served setup k w executions) (h : Withheld setup k w executions)
    (hbatch : w'.conn.batch? k = w.conn.batch? k ∨ Grown w.conn w'.conn) :
    Withheld setup k w' executions := by
  have hold : ∀ b', w'.conn.batch? k = some b' →
      (executions = [] ∧ b'.progress = .idle) ∨
        ∃ b, w.conn.batch? k = some b ∧ b'.progress = b.progress ∧
          (executions ≠ [] → setup.errandsOf b' = setup.errandsOf b) := by
    intro b' hb'
    rcases hbatch with heq | hgrown
    · exact .inr ⟨b', heq ▸ hb', rfl, fun _ => rfl⟩
    · cases hb : w.conn.batch? k with
      | none => exact .inl ⟨by simpa [hb] using hs.started, (hgrown.new k b' hb hb').1⟩
      | some b =>
        obtain ⟨b₁, hb₁, hgrows⟩ := hgrown.old k b hb
        cases hb'.symm.trans hb₁
        exact .inr ⟨b, rfl, hgrows.progress, hs.errandsOf_eq hb hgrows⟩
  refine ⟨h.steadfast, ?_, ?_⟩
  · intro b' m why hb' hrefuses opened hopened
    rcases hold b' hb' with ⟨rfl, -⟩ | ⟨b, hb, -, hsame⟩
    · cases hopened
    · rw [hsame (List.ne_nil_of_mem hopened)] at hrefuses
      exact h.short b m why hb hrefuses opened hopened
  · intro b' m why result hb' hrefuses hp
    rcases hold b' hb' with ⟨-, hidle⟩ | ⟨b, hb, hprogress, hsame⟩
    · rw [hidle] at hp
      cases hp
    · rw [hprogress] at hp
      rw [hsame (hs.ne_nil_of_settled hb hp)] at hrefuses
      exact h.settled b m why result hb hrefuses hp

theorem noteExecutions_steadfast (hwilling : setup.driver.Willing) (s : Step ρ)
    (h : ∀ opened ∈ executions, Steadfast opened) :
    ∀ opened ∈ w.noteExecutions setup k s executions, Steadfast opened := by
  have hnote : ∀ (turn : Turn) calls d, ∀ opened ∈ turn.note setup calls d executions,
      Steadfast opened := by
    intro turn calls d opened hopened
    unfold Turn.note at hopened
    split at hopened
    · rcases List.mem_cons.mp hopened with rfl | hopened
      · exact hwilling.replay calls .nil
      · exact h opened hopened
    · rcases List.mem_cons.mp hopened with rfl | hopened
      · exact hwilling.replay calls (h _ List.mem_cons_self)
      · exact h opened (List.mem_cons_of_mem _ hopened)
    · exact h opened hopened
  unfold World.noteExecutions
  split
  · split
    · split
      · exact hnote _ _ _
      · exact h
    · exact h
  · exact h

section

variable {t : Tally} {caller : Caller} {index : Nat} {project : ResultSet → Except Error ρ}
  {view : Viewing} {x : Polled Execution (Except Stop (List ResultSet)) × Connection δ κ}
  {m : Nat} {why : Error} {b : DeferredBatch}

/-- A poll that works on the batch does not get past the refused query. -/
theorem work_stays (hwilling : setup.driver.Willing) (hbroken : w.conn.access ≠ .broken)
    (ht : w.task? n = some ⟨caller, .viewing k index project view⟩)
    (hw : view.work setup caller k w.conn = some x) (ha : Accounted k w t)
    (hs : Served setup k w executions) (h : Withheld setup k w executions)
    (hb : w.conn.batch? k = some b) (hrefuses : setup.Refuses (setup.errandsOf b) m why) :
    (∃ opened earlier, w.noteExecutions setup k (.poll n) executions = opened :: earlier ∧
      opened.length ≤ m ∧ ∀ o ∈ earlier, o.length ≤ m) ∧
    ((∃ e, x.1 = .waiting e) ∨
      ∃ stop, x.1 = .ready (.error stop) ∧ stop.Declines caller why x.2.contexts) := by
  obtain ⟨deferred, hproceed⟩ := Viewing.proceed_eq k index x
  have hcalls : (w.step setup (.poll n)).calls = x.2.calls := by
    rw [World.calls, Served.step_of_work ht hw, hproceed]
    rfl
  have hshort := h.short b m why hb hrefuses
  simp only [World.noteExecutions, ht, if_pos, hcalls]
  rcases Viewing.work_batch? hw with ⟨b₀, hturn, -⟩ | ⟨e, rfl, -⟩
  · obtain ⟨hb₀, -, -⟩ := Viewing.turn_starts hturn
    cases hb.symm.trans hb₀
    obtain ⟨⟨opened, hrec, hlength⟩, hends⟩ :=
      Viewing.start_stays hwilling hw hturn hrefuses hbroken
    have hlater : (setup.driver.replay (x.2.calls.drop w.calls.length) ([], w.conn.database)).1 =
        opened := hrec.replay_later
    rw [hturn, Turn.note, hlater]
    exact ⟨⟨opened, executions, rfl, hlength, hshort⟩, hends⟩
  · obtain ⟨b₀, before, earlier, hb₀, -, rfl, hwaits⟩ := hs.execution ha ht
    cases hb.symm.trans hb₀
    have hfirst : before ∈ before :: earlier := List.mem_cons_self
    obtain ⟨⟨opened, hrec, hlength⟩, hends⟩ := Viewing.resume_stays hwilling hw hwaits hrefuses
      (h.steadfast before hfirst) (hshort before hfirst) hbroken
    have hlater : (setup.driver.replay (x.2.calls.drop w.calls.length)
        (before, w.conn.database)).1 = opened := hrec.replay_later
    rw [Viewing.turn, Turn.note, hlater]
    exact ⟨⟨opened, earlier, rfl, hlength, fun o ho => hshort o (List.mem_cons_of_mem _ ho)⟩, hends⟩

/-- After a poll that works on it, a batch is what has come of its execution. -/
theorem work_batch (ht : w.task? n = some ⟨caller, .viewing k index project view⟩)
    (hw : view.work setup caller k w.conn = some x) (ha : Accounted k w t)
    (hs : Served setup k w executions) :
    ∃ b b₀, w.conn.batch? k = some b ∧ b₀.progress = .executing ∧
      setup.errandsOf b₀ = setup.errandsOf b ∧
      (w.step setup (.poll n)).conn.batch? k = some (b₀.after x.1) := by
  have hproceed := Viewing.batch?_proceed k index x
  rw [← Served.step_of_work ht hw] at hproceed
  rw [hproceed]
  rcases Viewing.work_batch? hw with ⟨b, hturn, hx⟩ | ⟨e, rfl, hx⟩
  · refine ⟨b, b.start, (Viewing.turn_starts hturn).1, rfl, setup.errandsOf_congr rfl, ?_⟩
    rw [hx]
    rfl
  · obtain ⟨b, -, -, hb, hexec, -⟩ := hs.execution ha ht
    refine ⟨b, b, hb, hexec, rfl, ?_⟩
    rw [hx, hb]
    rfl

theorem poll_work (hwilling : setup.driver.Willing) (hbroken : w.conn.access ≠ .broken)
    (ht : w.task? n = some ⟨caller, .viewing k index project view⟩)
    (hw : view.work setup caller k w.conn = some x) (ha : Accounted k w t)
    (hs : Served setup k w executions) (h : Withheld setup k w executions) :
    Withheld setup k (w.step setup (.poll n)) (w.noteExecutions setup k (.poll n) executions) := by
  obtain ⟨b, b₀, hb, hexec, hsame, hafter⟩ := work_batch ht hw ha hs
  have hbefore : ∀ b₁ m why, (w.step setup (.poll n)).conn.batch? k = some b₁ →
      setup.Refuses (setup.errandsOf b₁) m why →
        b₁ = b₀.after x.1 ∧ setup.Refuses (setup.errandsOf b) m why := by
    intro b₁ m why hb₁ hrefuses
    cases hafter.symm.trans hb₁
    rw [setup.errandsOf_congr (b₀.queries_after x.1), hsame] at hrefuses
    exact ⟨rfl, hrefuses⟩
  refine ⟨noteExecutions_steadfast hwilling _ h.steadfast, ?_, ?_⟩
  · intro b₁ m why hb₁ hrefuses o ho
    obtain ⟨⟨opened, earlier, hnote, hlength, hearlier⟩, -⟩ :=
      h.work_stays hwilling hbroken ht hw ha hs hb (hbefore b₁ m why hb₁ hrefuses).2
    rw [hnote] at ho
    rcases List.mem_cons.mp ho with rfl | ho
    · exact hlength
    · exact hearlier o ho
  · intro b₁ m why result hb₁ hrefuses hp
    obtain ⟨rfl, hsame⟩ := hbefore b₁ m why hb₁ hrefuses
    obtain ⟨-, ⟨e, hx⟩ | ⟨stop, hx, rfl | ⟨reason, rfl, -⟩⟩⟩ :=
      h.work_stays hwilling hbroken ht hw ha hs hb hsame
    all_goals rw [hx] at hp
    · cases hexec.symm.trans hp
    · cases hp
      rfl
    · cases hp

end

theorem poll {t : Tally} (hwilling : setup.driver.Willing) (hbroken : w.conn.access ≠ .broken)
    (ha : Accounted k w t) (hs : Served setup k w executions) (h : Withheld setup k w executions) :
    Withheld setup k (w.step setup (.poll n)) (w.noteExecutions setup k (.poll n) executions) := by
  cases ht : w.task? n with
  | none => simpa [World.step, World.noteExecutions, ht] using h
  | some task =>
    obtain ⟨caller, operation⟩ := task
    have hidle : (operation.poll setup caller w.conn).2.batch? k = w.conn.batch? k →
        Withheld setup k (w.step setup (.poll n)) executions := by
      intro hbatch
      refine h.of_frame hs (.inl ?_)
      rw [World.step_poll ht, World.conn_answer]
      exact hbatch
    cases hv : operation.views k with
    | false =>
      rw [Served.noteExecutions_idle ht (by rintro _ _ _ rfl; simp [Operation.views] at hv)]
      exact hidle (Operation.poll_elsewhere hv)
    | true =>
      cases operation with
      | viewing batch index project view =>
        obtain rfl : batch = k := of_decide_eq_true hv
        cases hw : view.work setup caller batch w.conn with
        | some x => exact h.poll_work hwilling hbroken ht hw ha hs
        | none =>
          rw [Served.noteExecutions_idle ht (by rintro _ _ _ ⟨⟩; exact hw)]
          exact hidle (congrArg (Connection.batch? · batch) (Viewing.poll_of_idle index hw).1)
      | _ => cases hv

theorem drop {t : Tally} (ha : Accounted k w t) (hs : Served setup k w executions)
    (h : Withheld setup k w executions) : Withheld setup k (w.step setup (.drop n)) executions := by
  cases ht : w.task? n with
  | none => simpa [World.step, ht] using h
  | some task =>
    obtain ⟨caller, operation⟩ := task
    cases hr : operation.runs k with
    | false =>
      refine h.of_frame hs (.inl ?_)
      rw [World.step_drop ht]
      exact Operation.drop_elsewhere hr
    | true =>
      -- The batch is idle again, and what was sent for it stays on record.
      obtain ⟨index, project, e, rfl⟩ := Operation.runs_eq_true hr
      obtain ⟨b, opened, earlier, hb, -, -, -⟩ := hs.execution ha ht
      have hbatch : (w.step setup (.drop n)).conn.batch? k = some (b.setProgress .idle) := by
        rw [World.step_drop ht]
        exact Viewing.drop_batch? setup caller e hb
      refine ⟨h.steadfast, ?_, ?_⟩
      · intro b' m why hb' hrefuses
        cases hbatch.symm.trans hb'
        have hsame : setup.errandsOf (b.setProgress .idle) = setup.errandsOf b :=
          setup.errandsOf_congr rfl
        rw [hsame] at hrefuses
        exact h.short b m why hb hrefuses
      · intro b' m why result hb' _ hp
        cases hbatch.symm.trans hb'
        cases hp

theorem step {t : Tally} (hwilling : setup.driver.Willing) (hbroken : w.conn.access ≠ .broken)
    (s : Step ρ) (ha : Accounted k w t) (hs : Served setup k w executions)
    (h : Withheld setup k w executions) :
    Withheld setup k (w.step setup s) (w.noteExecutions setup k s executions) := by
  cases s with
  | poll n => exact h.poll hwilling hbroken ha hs
  | drop n => exact h.drop ha hs
  | act a => exact h.of_frame hs (.inr (World.act_grown setup w a))
  | ask caller request => exact h.of_frame hs (.inl rfl)

theorem create (setup : Setup δ κ) (database : δ) (k : Nat) :
    Withheld setup k (World.create setup database : World δ κ ρ) [] where
  steadfast _ h := absurd h List.not_mem_nil
  short _ _ _ _ _ _ h := absurd h List.not_mem_nil
  settled _ _ _ _ hb := nomatch hb

end Withheld

/-! ## Polls of a view -/

/-- A poll waits, or it gives the error, unless its caller is cancelled. -/
def Polled.Declines {τ α : Type} (caller : Caller) (why : Error) :
    Polled τ (Outcome α) × Connection δ κ → Prop :=
  Polled.Ensures (fun o conn => o.Declines caller why conn.contexts) (fun _ _ => True)
    fun _ => False

section

variable {k n m : Nat} {w : World δ κ ρ} {executions : List (List (Opened κ))} {t : Tally}
  {caller : Caller} {project : ResultSet → Except Error ρ} {view : Viewing} {b : DeferredBatch}
  {why : Error}

omit [Cursor κ] in
theorem Operation.declines_afterViewing (k index : Nat) (project : ResultSet → Except Error ρ)
    {y : Polled Viewing (Outcome ResultSet) × Connection δ κ} (h : Polled.Declines caller why y) :
    Polled.Declines caller why (Operation.afterViewing k index project y) := by
  obtain ⟨o | view | message, conn⟩ := y
  · exact Outcome.Declines.andThen _ h
  · trivial
  · exact h

omit [Cursor κ] in
theorem Viewing.declines_proceed (k index : Nat)
    {x : Polled Execution (Except Stop (List ResultSet)) × Connection δ κ}
    (h : (∃ e, x.1 = .waiting e) ∨
      ∃ stop, x.1 = .ready (.error stop) ∧ stop.Declines caller why x.2.contexts) :
    Polled.Declines caller (.shared why) (Viewing.proceed k index x) := by
  obtain ⟨y, conn⟩ := x
  rcases h with ⟨e, rfl⟩ | ⟨stop, rfl, hdeclines⟩
  · trivial
  · exact Viewing.settle_declines k index hdeclines

/-- A view that does not work on its batch finds no other result than the error. -/
theorem Viewing.declines_idle {conn : Connection δ κ} (index : Nat)
    (hw : view.work setup caller k conn = none) (hb : conn.batch? k = some b)
    (hsettled : ∀ result, b.progress = .settled result → result = .error why) :
    Polled.Declines caller (.shared why) (view.poll setup caller k index conn) := by
  have hsame := (Viewing.poll_of_idle index hw).1
  have hcases := Viewing.poll_idle_cases index hw hb
  generalize view.poll setup caller k index conn = y at hsame hcases
  obtain ⟨p, conn'⟩ := y
  obtain rfl : conn' = conn := hsame
  rcases hcases with ⟨reason, hcancelled, rfl⟩ | ⟨result, hp, rfl⟩ | ⟨-, rfl⟩
  · exact .inr ⟨reason, rfl, hcancelled⟩
  · cases hsettled result hp
    exact .inl rfl
  · trivial

theorem Withheld.poll_declines (hwilling : setup.driver.Willing)
    (hbroken : w.conn.access ≠ .broken) {index : Nat}
    (ht : w.task? n = some ⟨caller, .viewing k index project view⟩) (ha : Accounted k w t)
    (hs : Served setup k w executions) (h : Withheld setup k w executions)
    (hb : w.conn.batch? k = some b) (hrefuses : setup.Refuses (setup.errandsOf b) m why) :
    Polled.Declines caller (.shared why)
      ((Operation.viewing k index project view).poll setup caller w.conn) := by
  have hview : Polled.Declines caller (.shared why) (view.poll setup caller k index w.conn) := by
    cases hw : view.work setup caller k w.conn with
    | none => exact Viewing.declines_idle index hw hb (h.settled b m why · hb hrefuses)
    | some x =>
      rw [Viewing.poll_of_work hw]
      exact Viewing.declines_proceed k index
        (h.work_stays hwilling hbroken ht hw ha hs hb hrefuses).2
  exact Operation.declines_afterViewing k index project hview

/-- A view that is driven alone comes to the error, unless its caller is cancelled. -/
theorem Viewing.comesTo_declined {conn : Connection δ κ} (hwilling : setup.driver.Willing)
    (caller : Caller) (index : Nat) (hfree : conn.access = .free) (hb : conn.batch? k = some b)
    (hexec : b.progress.isExecuting = false) (hrefuses : setup.Refuses (setup.errandsOf b) m why)
    (hsettled : ∀ result, b.progress = .settled result → result = .error why) :
    ∃ o conn', Polled.ComesTo (poll setup caller k index) (poll setup caller k index .fresh conn)
      o conn' ∧ o.Declines caller (.shared why) conn'.contexts := by
  cases hcaller : caller.cancelReason? conn.contexts with
  | some reason =>
    have hrefused : poll setup caller k index .fresh conn = (.ready (.cancelled reason), conn) := by
      simp only [poll, turn, hcaller]
    rw [hrefused]
    exact ⟨_, conn, .ready, .inr ⟨reason, rfl, hcaller⟩⟩
  | none =>
    cases hp : b.progress with
    | executing =>
      rw [hp] at hexec
      cases hexec
    | settled result =>
      cases hsettled result hp
      rw [poll_of_settled hb hp rfl hcaller]
      exact ⟨_, conn, .ready, .inl rfl⟩
    | idle =>
      have hstarted : (conn.updateBatch k .start).access = .free := hfree
      obtain ⟨stop, conn', hcomes, hdeclines⟩ :=
        Execution.comesTo_declined hwilling caller hrefuses hstarted
      have hends := Viewing.comesTo (k := k) index hcomes
      rw [poll_fresh setup index hcaller hb hp]
      exact ⟨_, _, hends, settle_declines k index hdeclines⟩

theorem Operation.run_declined {conn : Connection δ κ} (hwilling : setup.driver.Willing)
    (caller : Caller) (index : Nat) (project : ResultSet → Except Error ρ)
    (hfree : conn.access = .free) (hb : conn.batch? k = some b)
    (hexec : b.progress.isExecuting = false) (hrefuses : setup.Refuses (setup.errandsOf b) m why)
    (hsettled : ∀ result, b.progress = .settled result → result = .error why) :
    ∃ rounds o conn', Joint.run (Operation.poll setup caller) rounds
        [.running (Request.view k index project).start] conn = (.ready [o], conn') ∧
      o.Declines caller (.shared why) conn'.contexts := by
  obtain ⟨o, conn', hcomes, hdeclines⟩ :=
    Viewing.comesTo_declined hwilling caller index hfree hb hexec hrefuses hsettled
  have hends : Polled.ComesTo (Operation.poll setup caller)
      (Operation.poll setup caller (Request.view k index project).start conn) _ conn' :=
    Operation.comesTo index project hcomes
  obtain ⟨rounds, hrun⟩ := hends.run_single
  exact ⟨rounds, _, conn', hrun, hdeclines.andThen _⟩

end

/-! ## Runs -/

namespace World

/-- With a driver that raises no error, look at the first command of a batch that is refused. Of
what the batch has to send, only commands before this one are ever sent. A view of the batch that is
polled waits or gives the error of the refusal, unless its caller is cancelled, and one that is
driven alone does not wait forever. Besides, the driver is given nothing to read, by whomever, that
the chain refuses. -/
theorem refused_query_stops_batch (setup : Setup δ κ) (database : δ) (steps : List (Step ρ))
    (hwilling : setup.driver.Willing) (hsteps : ∀ caller c, .ask caller (.dispatch c) ∉ steps)
    {k : Nat} {b : DeferredBatch} {before after : List Command} {c : Command} {why : Error}
    (hb : ((create setup database).run setup steps).conn.batch? k = some b)
    (hsplit : setup.outgoing b = before ++ c :: after)
    (hbefore : ∀ c ∈ before, setup.refusal? c = none) (hrefused : setup.refusal? c = some why) :
    let start : World δ κ ρ := create setup database
    let w := start.run setup steps
    w.conn.Screened setup ∧
      (∀ opened ∈ start.executions setup steps k,
        opened.map (·.command) <+: before.map setup.prepare) ∧
      (∀ n caller index project view,
        w.task? n = some ⟨caller, .viewing k index project view⟩ →
          Polled.Declines caller (.shared why)
            ((Operation.viewing k index project view).poll setup caller w.conn)) ∧
      (w.conn.access = .free → b.progress.isExecuting = false →
        ∀ caller index (project : ResultSet → Except Error ρ), ∃ rounds o conn',
          Joint.run (Operation.poll setup caller) rounds
              [.running (Request.view k index project).start] w.conn = (.ready [o], conn') ∧
            o.Declines caller (.shared why) conn'.contexts) := by
  intro start w
  have hrefuses := Setup.refuses_errandsOf hsplit hbefore hrefused
  obtain ⟨-, horderly, ⟨t, ha⟩, hs, h⟩ : Disciplined false w ∧ w.conn.Orderly setup ∧
      (∃ t, Accounted k w t) ∧ Served setup k w (start.executions setup steps k) ∧
        Withheld setup k w (start.executions setup steps k) := by
    refine account_induction (P := fun w executions => Disciplined false w ∧
      w.conn.Orderly setup ∧ (∃ t, Accounted k w t) ∧ Served setup k w executions ∧
        Withheld setup k w executions) ?_ ⟨?_, ?_, ?_, ?_, ?_⟩
    · rintro w executions s hs ⟨hd, horderly, ⟨t, ha⟩, hserved, h⟩
      have hask : ∀ caller c, s ≠ .ask caller (.dispatch c) := by
        rintro caller c rfl
        exact hsteps caller c hs
      exact ⟨hd.step (by nofun) hask, horderly.step hwilling s hd.indirect, ⟨_, ha.step setup s⟩,
        hserved.step s hd ha, h.step hwilling horderly.usable s ha hserved⟩
    · exact Disciplined.create setup database nofun
    · exact ⟨nofun, fun _ h => absurd h List.not_mem_nil⟩
    · exact ⟨_, Accounted.create setup database k⟩
    · exact Served.create setup database k
    · exact Withheld.create setup database k
  refine ⟨horderly.screened, ?_, ?_, ?_⟩
  · intro opened hopened
    have hplanned := hs.planned b hb opened hopened
    have hshort := h.short b _ why hb hrefuses opened hopened
    rw [Setup.sends_errandsOf, hsplit, List.map_append] at hplanned
    refine List.prefix_of_prefix_length_le hplanned (List.prefix_append _ _) ?_
    rw [List.length_map, List.length_map]
    exact hshort
  · intro n caller index project view ht
    exact h.poll_declines hwilling horderly.usable ht ha hs hb hrefuses
  · intro hfree hexec caller index project
    exact Operation.run_declined hwilling caller index project hfree hb hexec hrefuses
      (h.settled b _ why · hb hrefuses)

end World

/-! ## A blank query -/

/-- A driver in memory that has result sets for every statement. -/
theorem Setup.willing_answering {answers : String → List ResultSet}
    (hanswers : ∀ sql, answers sql ≠ []) (together : Bool) :
    ((Setup.answering answers).allowing together).driver.Willing where
  read mode c d := by
    obtain ⟨rows, others, hsets⟩ := List.exists_cons_of_ne_nil (hanswers c.sql)
    refine ⟨0, ⟨answers c.sql, false⟩, d, by cases mode <;> rfl, fun n why hbreaks => ?_⟩
    rw [hsets] at hbreaks
    exact (Buffered.holds rows others).not_breaks hbreaks
  nonQuery mode _ d := ⟨0, 0, d, by cases mode <;> rfl⟩
  batch mode _ d := ⟨0, 0, d, by cases mode <;> rfl⟩

theorem Chain.select_blank (chain : Chain) {c : Command} (h : c.isWellFormed = false) :
    chain.select c = .error (.invalidArgument "command has no SQL text") := by
  unfold select
  rw [h]
  rfl

/-- The second query is blank, and the third one is not sent either. -/
theorem refused_query_stops_batch_blank :
    let setup := (Setup.answering fun _ => [[]]).allowing false
    let steps : List (Step Nat) :=
      [.act (.register { command := { sql := "select 1" } }),
       .act (.register { command := { sql := " " } }),
       .act (.register { command := { sql := "select 2" } }),
       .ask .blocking (.view 0 0 fun rows => .ok rows.length), .poll 0]
    let start := World.create setup ()
    let w := start.run setup steps
    (∀ opened ∈ start.executions setup steps 0, opened.map (·.command.sql) <+: ["select 1"]) ∧
      ∀ caller index (project : ResultSet → Except Error Nat), ∃ rounds o conn',
        Joint.run (Operation.poll setup caller) rounds
            [.running (Request.view 0 index project).start] w.conn = (.ready [o], conn') ∧
          o.Declines caller (.shared (.invalidArgument "command has no SQL text"))
            conn'.contexts := by
  intro setup steps start w
  obtain ⟨b, hb, hsqls⟩ := Option.map_eq_some_iff.mp
    (show (w.conn.batch? 0).map (fun b => b.commands.map (·.sql)) =
      some ["select 1", " ", "select 2"] by decide +kernel)
  obtain ⟨first, _, hcommands, hfirst, hsqls⟩ := List.map_eq_cons_iff.mp hsqls
  obtain ⟨blank, after, rfl, hblank, -⟩ := List.map_eq_cons_iff.mp hsqls
  have hsplit : setup.outgoing b = [first] ++ blank :: after :=
    (Setup.outgoing_apart rfl b).trans hcommands
  have hwell : first.isWellFormed = true := by
    unfold Command.isWellFormed
    rw [hfirst]
    decide
  have hill : blank.isWellFormed = false := by
    unfold Command.isWellFormed
    rw [hblank]
    decide
  have hbefore : ∀ c ∈ [first], setup.refusal? c = none := by
    intro c hc
    cases List.mem_singleton.mp hc
    exact Setup.refusal?_eq_none.mpr
      ⟨⟨_, Chain.select_standard {} hwell⟩, _, Chain.select_standard {} hwell⟩
  have hrefused : setup.refusal? blank = some (.invalidArgument "command has no SQL text") :=
    Setup.refusal?_eq_some.mpr (.inl (Chain.select_blank _ hill))
  obtain ⟨-, hsent, -, hends⟩ := World.refused_query_stops_batch setup () steps
    (Setup.willing_answering (fun _ => List.cons_ne_nil _ _) false) (by simp [steps]) hb hsplit
    hbefore hrefused
  have hfree : w.conn.access = .free := by decide +kernel
  refine ⟨fun opened hopened => ?_, hends hfree ?_⟩
  · have hprefix := (hsent opened hopened).map (·.sql)
    rw [List.map_map, List.map_singleton, List.map_singleton] at hprefix
    rw [← hfirst]
    exact hprefix
  · have hidle : (w.conn.batch? 0).map (·.progress.isExecuting) = some false := by decide +kernel
    rw [hb] at hidle
    exact Option.some.inj hidle

/-- A blank query that travels with another one is not refused. The driver gets a statement for each
of them, and both views get rows. -/
theorem combined_query_escapes_refusal :
    let row (n : Int64) : Row := ⟨["v"], [.bigInt n]⟩
    let blank : Command := { sql := " " }
    let other : Command := { sql := "select 1" }
    let setup := Setup.answering fun _ => [[row 1], [row 2]]
    let steps : List (Step (List (Option Int64))) :=
      [.act (.register { command := blank }), .act (.register { command := other })]
    let w := (World.create setup ()).run setup steps
    let view := (Request.view 0 1 fun rows =>
      .ok (rows.map fun r => (r.get? 0).bind Value.toInt64?)).start
    setup.driver.capabilities.multipleQueries = true ∧ setup.driver.Willing ∧
      setup.chain.select blank = .error (.invalidArgument "command has no SQL text") ∧
      (view.poll setup .blocking w.conn).2.calls.map (fun call => call.commands.map (·.sql)) =
        [[";\nselect 1"]] ∧
      (view.poll setup .blocking w.conn).1 = .ready (.ok (.projected [some 2])) := by
  intro row blank other setup steps w view
  refine ⟨rfl, Setup.willing_answering (fun _ => List.cons_ne_nil _ _) true,
    Chain.select_blank _ (by decide), by decide +kernel, ?_⟩
  have hvalue : ((view.poll setup .blocking w.conn).1.answer?.bind fun o =>
      o.value?.bind Reply.projected?) = some [some 2] := by decide +kernel
  obtain ⟨o, ho, hreply⟩ := Option.bind_eq_some_iff.mp hvalue
  obtain ⟨reply, hreply, hprojected⟩ := Option.bind_eq_some_iff.mp hreply
  rw [Polled.answer?_eq_some.mp ho, Outcome.value?_eq_some.mp hreply,
    Reply.projected?_eq_some.mp hprojected]

end OneConnection
