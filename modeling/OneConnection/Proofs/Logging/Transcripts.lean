import OneConnection.Proofs.Batches.Verification
import OneConnection.Proofs.Discipline.Waiting
import OneConnection.Proofs.Logging.Announcing

/-!
# Transcripts of runs

Whatever a step of a run has the driver do, it announces it just before, and it announces nothing
else but perhaps, at the end, a command that reads and is given up.
-/

namespace OneConnection

variable {δ κ ρ : Type} [Cursor κ] {setup : Setup δ κ} {conn₀ conn : Connection δ κ}

/-! ## Calls -/

theorem Flushing.announced_leads (hlogs : setup.logs = true) (conn₀ : Connection δ κ)
    (mode : Mode) :
    (protocol setup mode).Leads (Announced setup conn₀ []) (fun _ => Announced setup conn₀ [])
      (fun _ => Announced setup conn₀ []) (Announced setup conn₀ []) where
  fails _ _ h _ := h
  begins conn h _ := by
    show Begun.Ensures _ _ _ (begin setup mode (conn.setAccess .held))
    rw [begin_eq]
    split
    · exact ⟨rfl, h.transcript⟩
    · rename_i hfull
      have hin : setup.statementLog.InStep (conn.setAccess .held).pending := h.inStep
      have hready : Announced setup conn₀
          [.logged setup.statementLog.level conn.pending.log.text]
          (ready setup (conn.setAccess .held)) := by
        refine h.logged ?_ (Connection.transcript_ready hlogs hin (eq_false_of_ne_true hfull))
        rw [Connection.pending_ready]
        rfl
      exact Begun.ofPromise_announced _ (hready.recordCall (hin.announces mode _)) _
  finishes sent conn h := by
    simp only [protocol, finish, verify]
    split
    · split
      · exact h.congr rfl rfl
      · exact h.congr rfl (Connection.transcript_warn _ conn)
    · exact h.congr rfl rfl

theorem Executing.announced_leads (hlogs : setup.logs = true) (conn₀ : Connection δ κ) (mode : Mode)
    (c : Command) :
    (protocol setup mode c).Leads (Announced setup conn₀ []) (fun _ => Announced setup conn₀ [])
      (fun _ => Announced setup conn₀ []) (Announced setup conn₀ []) where
  fails _ _ h _ := h
  begins conn h _ := by
    show Begun.Ensures _ _ _ (begin setup mode c (conn.setAccess .held))
    rw [begin_eq]
    have hheld : Announced setup conn₀ [] (conn.setAccess .held) := h.congr rfl rfl
    exact Begun.ofPromise_announced _
      ((hheld.beforeSingle hlogs c).recordCall (.single (by decide))) _
  finishes sent conn h := h.congr rfl rfl

/-- An opening that fails may leave an announcement without a call. -/
theorem Opening.announced_leads (hlogs : setup.logs = true) (conn₀ : Connection δ κ)
    (caller : Caller) (c : Command) :
    (protocol setup caller c).Leads (Announced setup conn₀ []) (fun _ => Announced setup conn₀ [])
      (fun o conn => AnnouncedBy setup caller conn₀ conn ∧
        (o.isFailure = false → Announced setup conn₀ [] conn))
      (Announced setup conn₀ []) where
  fails o conn h ho := ⟨h.toEnd, fun hok => absurd (ho.symm.trans hok) (by decide)⟩
  begins conn h _ := by
    show Begun.Ensures _ _ _ (begin setup caller c (conn.setAccess .held))
    rw [begin_eq]
    have hheld : Announced setup conn₀ [] (conn.setAccess .held) := h.congr rfl rfl
    -- Up to the call, the announcement of the command stands at the end.
    have hleft := hheld.beforeSingle hlogs c
    generalize ((conn.setAccess .held).beforeSingle setup c).2 = ready at hleft
    cases hcancelled : caller.cancelReason? ready.contexts with
    | some reason =>
      simp only [Dispatch.run, hcancelled]
      exact ⟨⟨_, hleft.congr rfl rfl, .cancelled hcancelled⟩, fun hok => by cases hok⟩
    | none =>
      cases hselect : setup.chain.select (setup.prepare c) with
      | error why =>
        simp only [Dispatch.run, hcancelled, hselect]
        exact ⟨⟨_, hleft.congr rfl rfl, .rejected hselect⟩, fun hok => by cases hok⟩
      | ok handler =>
        rw [Dispatch.run_eq hcancelled hselect]
        have hcall : Announced setup conn₀ []
            (ready.recordCall .reader (Dispatch.mode caller handler) [setup.prepare c]) :=
          hleft.recordCall (.single (by decide))
        generalize setup.driver.read _ _ ready.database = answer
        obtain ⟨⟨_, _ | _ | _ | _⟩ | _, _⟩ := answer <;> exact hcall.congr rfl rfl
  finishes sent conn h := by
    have hsame : (finish sent conn).2.pending = conn.pending ∧
        (finish sent conn).2.transcript = conn.transcript := by
      unfold finish
      split <;> exact ⟨rfl, rfl⟩
    have hdone : Announced setup conn₀ [] ((finish sent conn).2.setAccess .free) :=
      h.congr hsame.1 hsame.2
    exact ⟨hdone.toEnd, fun _ => hdone⟩

omit [Cursor κ] in
/-- What holds whether a call waits or is sent. -/
theorem Protocol.Leads.poll_announced {β α : Type} {p : Protocol δ κ β α}
    {D : Outcome α → Connection δ κ → Prop}
    (hp : p.Leads (Announced setup conn₀ []) (fun _ => Announced setup conn₀ []) D
      (Announced setup conn₀ []))
    (caller : Caller) (call : Call β) (h : Announced setup conn₀ [] conn) :
    Polled.Ensures D (fun _ => Announced setup conn₀ []) (Announced setup conn₀ [])
      (p.poll caller call conn) := by
  have hcall : Call.Holds (Announced setup conn₀ []) (fun _ => Announced setup conn₀ []) call
      conn := by
    cases call <;> exact h
  refine Polled.ensures_mono (fun _ _ h => h) ?_ (fun _ h => h)
    (poll_ensures hp caller call conn hcall)
  intro call conn h
  cases call <;> exact h

theorem Listing.poll_announced {α : Type} (hlogs : setup.logs = true) (caller : Caller)
    (c : Command) (decoder : RowDecoder α) (call : Call Opening.Sent)
    (h : Announced setup conn₀ [] conn) :
    AnnouncedBy setup caller conn₀ (poll setup caller c decoder call conn).2 := by
  have hopening : Polled.Ensures _ _ _ (Opening.poll setup caller c call conn) :=
    (Opening.announced_leads hlogs conn₀ caller c).poll_announced caller call h
  rw [poll_eq]
  generalize Opening.poll setup caller c call conn = x at hopening
  obtain ⟨o | call | message, opened⟩ := x
  · cases o with
    | ok handle =>
      have hdecoded : Announced setup conn₀ [] (decode decoder handle opened).2 :=
        (hopening.2 rfl).congr rfl rfl
      exact hdecoded.toEnd
    | error | cancelled | panicked => exact hopening.1
  · exact hopening.toEnd
  · exact hopening.toEnd

/-! ## Operations -/

theorem Execution.announced_leads (hlogs : setup.logs = true) (conn₀ : Connection δ κ)
    (caller : Caller) :
    Leads setup caller (fun _ _ _ _ => Announced setup conn₀ [])
      (fun _ _ => Announced setup conn₀ []) (fun _ => AnnouncedBy setup caller conn₀)
      (Announced setup conn₀ []) where
  begins _ _ _ _ h := h
  asks errand rest done call conn h := by
    have hopening : Polled.Ensures _ _ _ (Opening.poll setup caller errand.command call conn) :=
      (Opening.announced_leads hlogs conn₀ caller errand.command).poll_announced caller call h
    rw [ask_eq]
    generalize Opening.poll setup caller errand.command call conn = x at hopening
    obtain ⟨o | call | message, opened⟩ := x
    · cases o with
      | ok handle =>
        have hread : Announced setup conn₀ [] (read caller errand handle opened).2 := by
          have hopened := hopening.2 rfl
          unfold read
          split <;> exact hopened.congr rfl rfl
        show Polled.Ensures _ _ _ (.ready (read caller errand handle opened).1, _)
        cases (read caller errand handle opened).1 with
        | ok sets => exact hread
        | error stop => exact hread.toEnd
      | error | cancelled | panicked => exact hopening.1
    · exact hopening
    · exact hopening

omit [Cursor κ] in
/-- Whatever becomes of an execution, the view only notes it in its batch. -/
theorem Viewing.proceed_announced {caller : Caller} (batch index : Nat)
    {x : Polled Execution (Except Stop (List ResultSet)) × Connection δ κ}
    (h : AnnouncedBy setup caller conn₀ x.2) :
    AnnouncedBy setup caller conn₀ (proceed batch index x).2 := by
  obtain ⟨((_ | _) | _) | e | message, conn⟩ := x
  all_goals exact h.congr rfl rfl rfl

theorem Viewing.poll_announced (hlogs : setup.logs = true) (caller : Caller) (batch index : Nat)
    (view : Viewing) (h : Announced setup conn₀ [] conn) :
    AnnouncedBy setup caller conn₀ (view.poll setup caller batch index conn).2 := by
  have hleads := Execution.announced_leads hlogs conn₀ caller
  have hend : ∀ {x : Polled Execution (Except Stop (List ResultSet)) × Connection δ κ},
      Polled.Ensures (Execution.Ends (fun _ _ => Announced setup conn₀ [])
        fun _ => AnnouncedBy setup caller conn₀)
        (fun _ => Announced setup conn₀ []) (Announced setup conn₀ []) x →
      AnnouncedBy setup caller conn₀ x.2 := by
    rintro ⟨(stop | sets) | e | message, conn⟩ hx
    · exact hx
    all_goals exact hx.toEnd
  unfold poll
  cases view.turn caller batch conn with
  | refused | lost | recalls | waits => exact h.toEnd
  | starts b =>
    exact proceed_announced batch index
      (hend (Execution.run_ensures hleads _ _ _ (h.congr rfl rfl)))
  | resumes e => exact proceed_announced batch index (hend (Execution.resume_ensures hleads e _ h))

theorem Flushing.poll_announced (hlogs : setup.logs = true) (caller : Caller)
    (call : Call Flushing.Sent) (h : Announced setup conn₀ [] conn) :
    Announced setup conn₀ [] (poll setup caller call conn).2 :=
  Polled.ensures_const.mp ((announced_leads hlogs conn₀ caller.mode).poll_announced caller call h)

theorem Adding.poll_announced (hlogs : setup.logs = true) (caller : Caller) (state : Adding)
    (h : Announced setup conn₀ [] conn) :
    Announced setup conn₀ [] (state.poll setup caller conn).2 := by
  cases state with
  | flushing call => exact Flushing.poll_announced hlogs caller call h
  | fresh c =>
    -- The line of the command is written into the batch, and nothing is logged yet.
    have hpush : Announced setup conn₀ [] (conn.push setup c).2 :=
      ⟨h.inStep.pushed hlogs c, h.transcript⟩
    simp only [poll]
    split
    · exact h
    · split <;> rename_i heq <;> rw [heq] at hpush
      · exact Flushing.poll_announced hlogs caller .waiting hpush
      · exact hpush

/-- How the poll of an operation ends, unless it goes to the driver past the connection. -/
theorem Operation.poll_announced (hlogs : setup.logs = true) (caller : Caller)
    {operation : Operation ρ} (hdirect : operation.isDirect = false)
    (hin : setup.statementLog.InStep conn.pending) :
    AnnouncedBy setup caller conn (operation.poll setup caller conn).2 := by
  have h : Announced setup conn [] conn := .refl hin
  cases operation with
  | adding state => exact (Adding.poll_announced hlogs caller state h).toEnd
  | flushing call => exact (Flushing.poll_announced hlogs caller call h).toEnd
  | executing c call =>
    have hcall := (Executing.announced_leads hlogs conn caller.mode c).poll_announced caller call h
    exact (Polled.ensures_const.mp hcall).toEnd
  | opening c call =>
    have hcall := (Opening.announced_leads hlogs conn caller c).poll_announced caller call h
    have hend : AnnouncedBy setup caller conn (Opening.poll setup caller c call conn).2 :=
      Polled.ensures_const.mp
        (Polled.ensures_mono (fun _ _ h => h.1) (fun _ _ h => h.toEnd) (fun _ h => h.toEnd) hcall)
    exact hend
  | listing c decoder call => exact Listing.poll_announced hlogs caller c decoder call h
  | viewing batch index project view => exact Viewing.poll_announced hlogs caller batch index view h
  | dispatching state => cases hdirect

/-! ## Runs -/

theorem endures_inStep (setup : Setup δ κ) :
    Endures setup fun conn => setup.statementLog.InStep conn.pending where
  access _ _ h := h
  hold _ _ _ _ h := h
  note _ _ _ h := h
  count _ _ h := h
  call _ _ _ _ _ _ h := h
  flush conn mode _ := by
    rw [Flushing.pending_begin]
    rfl

namespace World

theorem transcript_act (setup : Setup δ κ) (w : World δ κ ρ) (a : Act) :
    (w.act setup a).conn.transcript = w.conn.transcript := by
  have hdispose : (w.conn.dispose setup).2.transcript = w.conn.transcript := by
    have hdiscard : w.conn.discardPending.transcript = w.conn.transcript := by
      simp only [Connection.discardPending]
      split
      · rfl
      · exact Connection.transcript_warn _ w.conn.takePending.2
    simp only [Connection.dispose, Connection.disposeReaders]
    split
    · exact (Connection.transcript_warnAll _ _).trans hdiscard
    · exact hdiscard
  cases a with
  | cancel | revive | newBatch | closeAllReaders => rfl
  | checkReaders => exact Connection.transcript_checkReaders
  | register q =>
    obtain ⟨deferred, heq⟩ := w.session.register_deferred q w.conn
    show (w.session.register q w.conn).2.2.transcript = _
    rw [heq]
    rfl
  | addQuery batch q =>
    simp only [act]
    split
    · obtain ⟨b, -, -, hx⟩ := Connection.addQuery_eq_some ‹_›
      cases hx
      rfl
    · rfl
  | use h way =>
    simp only [act]
    split
    · cases way <;> rfl
    · rfl
  | closeReader h =>
    simp only [act]
    split <;> rfl
  | dropReader h =>
    simp only [act]
    split
    · unfold Connection.dropReader
      split <;> rfl
    · rfl
  | dispose | close => exact hdispose
  | abandon =>
    simp only [act, Session.abandon]
    split <;> rename_i heq <;> rw [heq] at hdispose
    · exact hdispose
    · exact (Connection.transcript_warn _ _).trans hdispose

theorem inStep_run (setup : Setup δ κ) (hlogs : setup.logs = true) (database : δ)
    (steps : List (Step ρ)) :
    setup.statementLog.InStep
      ((create setup database : World δ κ ρ).run setup steps).conn.pending := by
  refine (endures_inStep setup).run (fun c _ h => h.pushed hlogs c) (fun _ _ h => h) ?_ steps rfl
  intro conn _
  rw [Connection.pending_discardPending]
  rfl

/-- What a step adds to the transcript: calls, each behind the entry that announces it. At its end a
poll may announce a command that reads and give it up. -/
def StepAnnounced (setup : Setup δ κ) (w : World δ κ ρ) (s : Step ρ) : Prop :=
  ∃ events left,
    (w.step setup s).conn.transcript = w.conn.transcript ++ events ++ left ∧
    setup.statementLog.Pairs events ∧
    (left = [] ∨ ∃ n t, s = .poll n ∧ w.task? n = some t ∧
      GivenUp setup t.caller (w.step setup s).conn.contexts left)

theorem StepAnnounced.of_same {w : World δ κ ρ} {s : Step ρ}
    (h : (w.step setup s).conn.transcript = w.conn.transcript) : w.StepAnnounced setup s :=
  ⟨[], [], by simpa using h, .nil, .inl rfl⟩

omit [Cursor κ] in
/-- Whether a step is no poll of a command that goes to the driver past the connection. -/
def indirect (w : World δ κ ρ) : Step ρ → Bool
  | .poll n => (w.task? n).all (!·.operation.isDirect)
  | _ => true

/-- Whether no step of a run polls a command that goes to the driver past the connection. -/
def runsIndirect (setup : Setup δ κ) : World δ κ ρ → List (Step ρ) → Bool
  | _, [] => true
  | w, s :: rest => w.indirect s && runsIndirect setup (w.step setup s) rest

theorem runsIndirect_concat (w : World δ κ ρ) (steps : List (Step ρ)) (s : Step ρ) :
    w.runsIndirect setup (steps ++ [s]) =
      (w.runsIndirect setup steps && (w.run setup steps).indirect s) := by
  induction steps generalizing w with
  | nil => exact Bool.and_comm _ _
  | cons first rest ih =>
    rw [List.cons_append, runsIndirect, ih, ← Bool.and_assoc]
    rfl

theorem step_announced (hlogs : setup.logs = true) {w : World δ κ ρ} {s : Step ρ}
    (hin : setup.statementLog.InStep w.conn.pending) (hindirect : w.indirect s = true) :
    w.StepAnnounced setup s := by
  cases s with
  | ask caller request => exact .of_same rfl
  | act a => exact .of_same (transcript_act setup w a)
  | drop n =>
    refine .of_same ?_
    simp only [step]
    split
    · exact congrArg (List.filter _) (Operation.history_drop _ _)
    · rfl
  | poll n =>
    cases ht : w.task? n with
    | none =>
      refine .of_same ?_
      simp only [step, ht]
    | some t =>
      have hdirect : t.operation.isDirect = false := by simpa [indirect, ht] using hindirect
      have hpoll := Operation.poll_announced hlogs t.caller hdirect hin
      have hconn : (w.step setup (.poll n)).conn = (t.operation.poll setup t.caller w.conn).2 := by
        rw [step_poll ht, conn_answer]
      rw [← hconn] at hpoll
      obtain ⟨left, hannounced, hleft⟩ := hpoll
      obtain ⟨events, hevents, hpairs⟩ := hannounced.transcript
      exact ⟨events, left, hevents, hpairs, .inr ⟨n, t, rfl, ht, hleft⟩⟩

/-- What was announced before a step is still right behind it. -/
theorem StepAnnounced.audited {w : World δ κ ρ} {s : Step ρ} (h : w.StepAnnounced setup s)
    (haudited : setup.statementLog.Audited w.conn.transcript) :
    setup.statementLog.Audited (w.step setup s).conn.transcript := by
  obtain ⟨events, left, hevents, hpairs, hleft⟩ := h
  rw [hevents]
  obtain rfl | ⟨n, t, -, -, hleft⟩ := hleft
  · rw [List.append_nil]
    exact haudited.append hpairs
  · exact hleft.audited (haudited.append hpairs)

/-- When statements are logged, every call of a run stands right behind the one entry that announces
it: the line of its command, or the lines of all commands of the batch, in order and numbered from
zero, whatever became of earlier batches. From step to step, nothing else is logged but perhaps, at
the end of a poll, a command that reads and is given up, since its caller is cancelled or no handler
accepts it. Only commands that somebody gives to the driver past the connection are not logged. -/
theorem calls_announced (setup : Setup δ κ) (hlogs : setup.logs = true) (database : δ)
    (steps : List (Step ρ)) :
    let start : World δ κ ρ := create setup database
    let w := start.run setup steps
    (start.runsIndirect setup steps = true →
      setup.statementLog.Audited w.conn.transcript) ∧
    ∀ s, w.indirect s = true → w.StepAnnounced setup s := by
  intro start w
  have hstep : ∀ (before : List (Step ρ)) (s : Step ρ),
      (start.run setup before).indirect s = true →
      (start.run setup before).StepAnnounced setup s :=
    fun before s => step_announced hlogs (inStep_run setup hlogs database before)
  refine ⟨?_, hstep steps⟩
  -- The induction goes along the run from its end: each step adds to what those before it left.
  induction steps using List.reverseRecOn with
  | nil => exact fun _ => .nil
  | append_singleton before s ih =>
    intro hindirect
    rw [runsIndirect_concat, Bool.and_eq_true] at hindirect
    show setup.statementLog.Audited (start.run setup (before ++ [s])).conn.transcript
    rw [run_append]
    exact (hstep before s hindirect.2).audited (ih hindirect.1)

end World

/-- A driver in memory whose statements are logged, with two at most in a batch. -/
def Setup.announcing : Setup Unit Buffered :=
  { Setup.slow with settings := { batchSize := 2, logSql := true, formatSql := false } }

/-- A flush is given up while the driver works on it, and a command runs on its own after it. -/
theorem calls_announced_batch :
    let x : Caller := .task ⟨"task"⟩
    let c (sql : String) : Command := { sql }
    let steps : List (Step Nat) :=
      [.ask x (.add (c "insert")), .poll 0, .ask x (.add (c "update")), .poll 1, .drop 1,
       .ask .blocking (.execute (c "delete")), .poll 2]
    let w := (World.create Setup.announcing ()).run Setup.announcing steps
    w.conn.transcript =
      [.logged .info "Batch commands:\ncommand 0:insert\ncommand 1:update\n",
       .called ⟨.batch, .async, [c "insert", c "update"], 0⟩,
       .logged .info "delete",
       .called ⟨.nonQuery, .blocking, [c "delete"], 0⟩] ∧
    Setup.announcing.statementLog.Audited w.conn.transcript := by
  intro x c steps w
  have hlogs : Setup.announcing.logs = true := by decide
  have hindirect :
      (World.create Setup.announcing ()).runsIndirect Setup.announcing steps = true := by
    cbv
  refine ⟨?_, (World.calls_announced Setup.announcing hlogs () steps).1 hindirect⟩
  cbv

end OneConnection
