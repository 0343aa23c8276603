import OneConnection.Proofs.Agreement.Operations

/-!
# Announcements

Before the driver is called, the statements that it is given are logged. Lines of pending commands
are written when the commands are added and logged when they are sent, so they have to keep in step
with them in between. A command that reads may be announced and then given up.
-/

namespace OneConnection

variable {δ κ : Type}

/-! ## Transcripts -/

def Event.isWarning : Event → Bool
  | .warned _ => true
  | _ => false

/-- What was logged and what was called, in the order in which it happened. -/
def Connection.transcript (conn : Connection δ κ) : List Event :=
  conn.history.filter (!·.isWarning)

namespace StatementLog

/-- The text for a call: the line of its command, or all lines of a batch under a heading, with
their numbers. -/
inductive Announces (log : StatementLog) : DriverCall → String → Prop
  | single {kind : CallKind} {mode : Mode} {c : Command} {openBefore : Nat} : kind ≠ .batch →
      Announces log ⟨kind, mode, [c], openBefore⟩ (log.line c)
  | batch {mode : Mode} {cs : List Command} {openBefore : Nat} :
      Announces log ⟨.batch, mode, cs, openBefore⟩
        ("Batch commands:\n" ++ String.join (cs.mapIdx fun i c => s!"command {i}:{log.line c}\n"))

/-- Every call stands right behind the entry that announces it, and there is no other entry. -/
inductive Pairs (log : StatementLog) : List Event → Prop
  | nil : Pairs log []
  | call {events : List Event} {call : DriverCall} {text : String} : Pairs log events →
      log.Announces call text → Pairs log (events ++ [.logged log.level text, .called call])

/-- Every call stands right behind the entry that announces it, and every other entry is the line
of a command that was given up. -/
inductive Audited (log : StatementLog) : List Event → Prop
  | nil : Audited log []
  | call {events : List Event} {call : DriverCall} {text : String} : Audited log events →
      log.Announces call text → Audited log (events ++ [.logged log.level text, .called call])
  | givenUp {events : List Event} (c : Command) : Audited log events →
      Audited log (events ++ [.logged log.level (log.line c)])

end StatementLog

theorem BatchLog.numbered_map (line : Command → String) (n : Nat) (cs : List Command) :
    numbered n (cs.map line) =
      String.join (cs.mapIdx fun i c => numberedLine (n + i) (line c)) := by
  induction cs generalizing n with
  | nil => rfl
  | cons c rest ih =>
    rw [List.map_cons, numbered, ih, List.mapIdx_cons, String.join_cons]
    simp only [Nat.add_zero, Nat.add_assoc, Nat.add_comm 1]

namespace StatementLog

variable {log : StatementLog}

theorem Audited.append {earlier events : List Event} (h : log.Audited earlier)
    (hpairs : log.Pairs events) : log.Audited (earlier ++ events) := by
  induction hpairs with
  | nil => rwa [List.append_nil]
  | call _ hcall ih =>
    rw [← List.append_assoc]
    exact .call ih hcall

/-- The lines that wait with a pending batch are those of its commands. -/
def InStep (log : StatementLog) (b : PendingBatch) : Prop := b.log.lines = b.commands.map log.line

theorem InStep.push {b : PendingBatch} (h : log.InStep b) (c : Command) :
    log.InStep (b.push c (some (log.line c))) := by
  unfold InStep at *
  simp [PendingBatch.push, BatchLog.push, h]

theorem InStep.pushed {setup : Setup δ κ} {conn : Connection δ κ}
    (h : setup.statementLog.InStep conn.pending) (hlogs : setup.logs = true) (c : Command) :
    setup.statementLog.InStep (conn.push setup c).2.pending := by
  simp only [Connection.push, hlogs, if_true]
  exact h.push (setup.prepare c)

theorem InStep.announces {b : PendingBatch} (h : log.InStep b) (mode : Mode) (openBefore : Nat) :
    log.Announces ⟨.batch, mode, b.commands, openBefore⟩ b.log.text := by
  have htext : b.log.text = "Batch commands:\n" ++
      String.join (b.commands.mapIdx fun i c => s!"command {i}:{log.line c}\n") := by
    rw [BatchLog.text, h, BatchLog.numbered_map]
    simp only [Nat.zero_add]
    rfl
  rw [htext]
  exact .batch

end StatementLog

/-! ## What a poll adds -/

/-- What is left over at the end of a poll: nothing, or the announcement of a command that reads. It
was given up because the caller was cancelled meanwhile, or because no handler accepts it as it was
to be sent. -/
inductive GivenUp (setup : Setup δ κ) (caller : Caller) (contexts : Contexts) : List Event → Prop
  | nothing : GivenUp setup caller contexts []
  | cancelled {c : Command} {reason : CancelReason} : caller.cancelReason? contexts = some reason →
      GivenUp setup caller contexts
        [.logged setup.statementLog.level (setup.statementLog.line (setup.prepare c))]
  | rejected {c : Command} {why : Error} : setup.chain.select (setup.prepare c) = .error why →
      GivenUp setup caller contexts
        [.logged setup.statementLog.level (setup.statementLog.line (setup.prepare c))]

theorem GivenUp.audited {setup : Setup δ κ} {caller : Caller} {contexts : Contexts}
    {events left : List Event} (h : GivenUp setup caller contexts left)
    (haudited : setup.statementLog.Audited events) :
    setup.statementLog.Audited (events ++ left) := by
  cases h with
  | nothing => rwa [List.append_nil]
  | cancelled | rejected => exact .givenUp _ haudited

/-- Since `conn₀`, every call was announced, and `left` was logged after the last one. -/
structure Announced (setup : Setup δ κ) (conn₀ : Connection δ κ) (left : List Event)
    (conn : Connection δ κ) : Prop where
  inStep : setup.statementLog.InStep conn.pending
  transcript : ∃ events, conn.transcript = conn₀.transcript ++ events ++ left ∧
    setup.statementLog.Pairs events

/-- How a poll may end. -/
def AnnouncedBy (setup : Setup δ κ) (caller : Caller) (conn₀ conn : Connection δ κ) : Prop :=
  ∃ left, Announced setup conn₀ left conn ∧ GivenUp setup caller conn.contexts left

namespace Announced

variable {setup : Setup δ κ} {caller : Caller} {conn₀ conn conn' : Connection δ κ}
  {left : List Event}

theorem refl (h : setup.statementLog.InStep conn.pending) : Announced setup conn [] conn :=
  ⟨h, [], by simp, .nil⟩

theorem congr (h : Announced setup conn₀ left conn) (hpending : conn'.pending = conn.pending)
    (htranscript : conn'.transcript = conn.transcript) : Announced setup conn₀ left conn' := by
  refine ⟨?_, ?_⟩
  · rw [hpending]
    exact h.inStep
  · rw [htranscript]
    exact h.transcript

/-- Something is logged after the last call. -/
theorem logged (h : Announced setup conn₀ [] conn)
    (hpending : setup.statementLog.InStep conn'.pending)
    (htranscript : conn'.transcript = conn.transcript ++ left) :
    Announced setup conn₀ left conn' := by
  obtain ⟨events, hevents, hpairs⟩ := h.transcript
  refine ⟨hpending, events, ?_, hpairs⟩
  rw [htranscript, hevents, List.append_nil]

theorem toEnd (h : Announced setup conn₀ [] conn) : AnnouncedBy setup caller conn₀ conn :=
  ⟨[], h, .nothing⟩

end Announced

theorem AnnouncedBy.congr {setup : Setup δ κ} {caller : Caller} {conn₀ conn conn' : Connection δ κ}
    (h : AnnouncedBy setup caller conn₀ conn) (hpending : conn'.pending = conn.pending)
    (htranscript : conn'.transcript = conn.transcript)
    (hcontexts : conn'.contexts = conn.contexts) : AnnouncedBy setup caller conn₀ conn' := by
  obtain ⟨left, hannounced, hleft⟩ := h
  refine ⟨left, hannounced.congr hpending htranscript, ?_⟩
  rw [hcontexts]
  exact hleft

/-! ## Small steps -/

namespace Connection

variable {setup : Setup δ κ} {conn : Connection δ κ}

theorem transcript_warnAll (ws : List Warning) (conn : Connection δ κ) :
    (conn.recordAll (ws.map .warned)).transcript = conn.transcript := by
  have hnone : (ws.map Event.warned).filter (!·.isWarning) = [] := by
    simp [List.filter_eq_nil_iff, Event.isWarning]
  rw [transcript, recordAll, List.filter_append, hnone, List.append_nil]
  rfl

theorem transcript_warn (w : Warning) (conn : Connection δ κ) :
    (conn.warn w).transcript = conn.transcript := transcript_warnAll [w] conn

theorem transcript_record {event : Event} (h : event.isWarning = false) :
    (conn.record event).transcript = conn.transcript ++ [event] := by
  simp [transcript, record, h]

theorem transcript_logCommand (hlogs : setup.logs = true) (c : Command) :
    (conn.logCommand setup c).transcript =
      conn.transcript ++ [.logged setup.statementLog.level (setup.statementLog.line c)] := by
  rw [logCommand, if_pos hlogs]
  exact transcript_record rfl

variable [Cursor κ]

theorem transcript_checkReaders : conn.checkReaders.2.transcript = conn.transcript := by
  have hwarnings : ∀ failures : List (ReaderId × Error),
      failures.map (fun x => Event.warned (.bufferingFailed x.1 x.2)) =
        (failures.map fun x => Warning.bufferingFailed x.1 x.2).map .warned := by
    simp
  unfold checkReaders
  dsimp only
  rw [hwarnings]
  exact transcript_warnAll _ _

theorem transcript_recordCall (kind : CallKind) (mode : Mode) (cs : List Command) :
    (conn.recordCall kind mode cs).transcript =
      conn.transcript ++ [.called ⟨kind, mode, cs, conn.readers.openCursors⟩] :=
  transcript_record rfl

/-- A single command is announced. -/
theorem transcript_beforeSingle (hlogs : setup.logs = true) (c : Command) :
    (conn.beforeSingle setup c).2.transcript = conn.transcript ++
      [.logged setup.statementLog.level (setup.statementLog.line (setup.prepare c))] := by
  have hchecked : conn.checkReaders.2.transcript = conn.transcript := transcript_checkReaders
  rw [← hchecked]
  exact transcript_logCommand hlogs (setup.prepare c)

theorem pending_beforeSingle (setup : Setup δ κ) (c : Command) (conn : Connection δ κ) :
    (conn.beforeSingle setup c).2.pending = conn.pending := by
  unfold beforeSingle logCommand
  dsimp only
  split <;> rfl

/-- The batch of a flush is announced, if there is one. -/
theorem transcript_ready (hlogs : setup.logs = true)
    (hin : setup.statementLog.InStep conn.pending) (hfull : conn.pending.isEmpty = false) :
    (Flushing.ready setup conn).transcript =
      conn.transcript ++ [.logged setup.statementLog.level conn.pending.log.text] := by
  have hwritten : conn.pending.log.isEmpty = false := by
    rw [BatchLog.isEmpty, hin, List.isEmpty_map]
    exact hfull
  have hlog : (conn.takePending.2.checkReaders.2.logBatch setup conn.pending.log).transcript =
      conn.takePending.2.checkReaders.2.transcript ++
        [.logged setup.statementLog.level conn.pending.log.text] := by
    rw [logBatch, hlogs, hwritten]
    exact transcript_record rfl
  rw [transcript_checkReaders] at hlog
  exact hlog

theorem pending_ready (setup : Setup δ κ) (conn : Connection δ κ) :
    (Flushing.ready setup conn).pending = {} := by
  unfold Flushing.ready logBatch
  split <;> rfl

end Connection

theorem Announced.beforeSingle [Cursor κ] {setup : Setup δ κ} {conn₀ conn : Connection δ κ}
    (h : Announced setup conn₀ [] conn) (hlogs : setup.logs = true) (c : Command) :
    Announced setup conn₀
      [.logged setup.statementLog.level (setup.statementLog.line (setup.prepare c))]
      (conn.beforeSingle setup c).2 := by
  refine h.logged ?_ (Connection.transcript_beforeSingle hlogs c)
  rw [Connection.pending_beforeSingle]
  exact h.inStep

/-- What was logged last announces the call. -/
theorem Announced.recordCall [Cursor κ] {setup : Setup δ κ} {conn₀ conn : Connection δ κ}
    {text : String}
    (h : Announced setup conn₀ [.logged setup.statementLog.level text] conn) {kind : CallKind}
    {mode : Mode} {cs : List Command}
    (hannounces : setup.statementLog.Announces
      ⟨kind, mode, cs, conn.readers.openCursors⟩ text) :
    Announced setup conn₀ [] (conn.recordCall kind mode cs) := by
  obtain ⟨events, hevents, hpairs⟩ := h.transcript
  refine ⟨h.inStep, _, ?_, hpairs.call hannounces⟩
  rw [Connection.transcript_recordCall, hevents]
  simp

theorem Begun.ofPromise_announced {setup : Setup δ κ} {α β ρ : Type} (f : Outcome α → β)
    {conn₀ conn : Connection δ κ} (h : Announced setup conn₀ [] conn) (answer : Promise α × δ) :
    Begun.Ensures (fun _ => Announced setup conn₀ []) (fun _ => Announced setup conn₀ [])
      (Announced setup conn₀ []) (Begun.ofPromise (ρ := ρ) f conn answer) := by
  obtain ⟨_ | _, database⟩ := answer <;> exact h.congr rfl rfl

end OneConnection
