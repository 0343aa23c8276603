import OneConnection.Proofs.Deferred.Delivery
import OneConnection.Proofs.Driving
import OneConnection.Proofs.Readers.Giving
import OneConnection.Proofs.Sql.Binding

/-!
# One round trip or several

A batch gives the same results whether its queries travel together or one by one, if the driver
answers them alike.
-/

namespace OneConnection

variable {δ κ ρ : Type}

/-! ## Commands that say something -/

namespace Text

theorem isBlank_of_trim_eq_nil {cs : List Char} (h : trim cs = []) :
    ∀ d ∈ cs, isBlank d = true := by
  obtain ⟨rest, htext, hrest⟩ := append_of_dropEndWhile isBlank cs
  intro d hd
  rw [← htext] at hd
  rcases List.mem_append.mp hd with hd | hd
  · have hall : (trimEnd cs).takeWhile isBlank = trimEnd cs := by
      have hsplit := List.takeWhile_append_dropWhile (p := isBlank) (l := trimEnd cs)
      rwa [show (trimEnd cs).dropWhile isBlank = [] from h, List.append_nil] at hsplit
    rw [← trimEnd, ← hall] at hd
    exact List.all_eq_true.mp List.all_takeWhile d hd
  · exact hrest d hd

end Text

namespace Command

theorem isWellFormed_of_mem {c : Command} {d : Char} (hd : d ∈ c.sql.toList)
    (h : Text.isBlank d = false) : c.isWellFormed = true := by
  unfold isWellFormed
  cases htrim : Text.trim c.sql.toList with
  | nil =>
    rw [Text.isBlank_of_trim_eq_nil htrim d hd] at h
    cases h
  | cons => rfl

theorem sql_combine (cs : List Command) :
    (combine cs).sql.toList = separator.intercalate (statements 0 cs) :=
  String.toList_ofList

/-- Only a single statement can be blank once its semicolons are cut off. -/
theorem isWellFormed_combine {cs : List Command} (hne : cs ≠ [])
    (hsingle : ∀ c, cs = [c] → ∃ d ∈ c.statement, Text.isBlank d = false) :
    (combine cs).isWellFormed = true := by
  rcases cs with _ | ⟨c, _ | ⟨c', rest⟩⟩
  · exact absurd rfl hne
  · obtain ⟨d, hd, hblank⟩ := hsingle c rfl
    refine isWellFormed_of_mem ?_ hblank
    rw [sql_combine, statements, statements, List.intercalate_singleton]
    exact hd
  · have hsemicolon : Text.isBlank ';' = false := by decide
    refine isWellFormed_of_mem ?_ hsemicolon
    rw [sql_combine, statements, statements, List.intercalate_cons_cons]
    simp [separator]

end Command

/-! ## Handlers -/

/-- The first handler of the standard chain. It accepts every command. -/
def Capabilities.handler (c : Capabilities) : Handler :=
  if c.nativeAsync then .nativeAny "native" else .fallback

theorem Chain.select_standard (caps : Capabilities) {c : Command} (h : c.isWellFormed = true) :
    (Chain.standard caps).select c = .ok caps.handler := by
  unfold Chain.select Chain.standard Capabilities.handler
  rw [h]
  cases caps.nativeAsync <;> rfl

variable [Cursor κ]

/-! ## One reader call -/

/-- What is done before a call leaves these as they are. -/
structure Connection.Framed (conn conn' : Connection δ κ) : Prop where
  database : conn'.database = conn.database
  registry : conn'.registry = conn.registry
  deferred : conn'.deferred = conn.deferred
  calls : conn'.calls = conn.calls

theorem Connection.framed_beforeSingle (setup : Setup δ κ) (c : Command) (conn : Connection δ κ) :
    ∃ ready, conn.beforeSingle setup c = (setup.prepare c, ready) ∧ conn.Framed ready := by
  have hcalls : Quiet fun conn' : Connection δ κ => conn'.calls = conn.calls :=
    { access := fun _ _ h => h
      hold := fun _ _ _ _ h => h
      note := fun _ _ he h => (Connection.calls_record he).trans h
      count := fun _ _ h => h }
  refine ⟨_, rfl, ?_, ?_, ?_, hcalls.beforeSingle setup c rfl⟩
  all_goals
    simp only [Connection.logCommand]
    split <;> rfl

/-- No reader has an identity that is yet to be given. -/
def Registry.Numbered (reg : Registry) : Prop := ∀ h ∈ reg.tracked, h.id.number ≤ reg.issued

/-- Since `conn`, the driver was asked for the readers of these commands and for nothing else, and
all of them are closed. -/
structure Connection.RoundTrips (conn conn' : Connection δ κ) (sent : List Command) : Prop where
  access : conn'.access = .free
  tracked : conn'.registry.tracked = conn.registry.tracked
  issued : conn.registry.issued ≤ conn'.registry.issued
  deferred : conn'.deferred = conn.deferred
  calls : ∃ later, conn'.calls = conn.calls ++ later ∧
    later.map (fun call => (call.kind, call.commands)) = sent.map fun c => (.reader, [c])

namespace Connection.RoundTrips

variable {conn conn' conn'' : Connection δ κ} {sent sent' : List Command}

omit [Cursor κ] in
theorem nil (h : conn.access = .free) : conn.RoundTrips conn [] :=
  ⟨h, rfl, Nat.le_refl _, rfl, [], (List.append_nil _).symm, rfl⟩

omit [Cursor κ] in
theorem append (h : conn.RoundTrips conn' sent) (h' : conn'.RoundTrips conn'' sent') :
    conn.RoundTrips conn'' (sent ++ sent') where
  access := h'.access
  tracked := h'.tracked.trans h.tracked
  issued := Nat.le_trans h.issued h'.issued
  deferred := h'.deferred.trans h.deferred
  calls := by
    obtain ⟨later, hcalls, hsent⟩ := h.calls
    obtain ⟨later', hcalls', hsent'⟩ := h'.calls
    refine ⟨later ++ later', ?_, ?_⟩
    · rw [hcalls', hcalls, List.append_assoc]
    · rw [List.map_append, hsent, hsent', List.map_append]

omit [Cursor κ] in
theorem numbered (h : conn.RoundTrips conn' sent) (hids : conn.registry.Numbered) :
    conn'.registry.Numbered := by
  intro x hx
  rw [h.tracked] at hx
  exact Nat.le_trans (hids x hx) h.issued

end Connection.RoundTrips

section

variable {setup : Setup δ κ} {caller : Caller} {conn : Connection δ κ} {c : Command}
  {handler : Handler} {cursor : κ} {database : δ} {polls : Nat}

omit [Cursor κ] in
theorem Protocol.answer_comesTo {β α : Type} (p : Protocol δ κ β α) (caller : Caller)
    (polls : Nat) (b : β) (conn : Connection δ κ) :
    Polled.ComesTo (p.poll caller) (p.answer polls b conn) (p.finish b conn).1
      ((p.finish b conn).2.setAccess .free) := by
  induction polls with
  | zero => exact .ready
  | succ n ih => exact .waiting ih

theorem Reader.Starts.hasSet_of {r : Reader κ} (h : r.Starts cursor) {i : Nat} {rows : ResultSet}
    (hset : Cursor.HasSet cursor i rows) : Cursor.HasSet r i rows := by
  obtain ⟨f, rfl, hrow, hresult⟩ := h.exists_within
  exact hset.within hrow hresult

/-- The connection once the driver has opened a cursor for a command. -/
def Connection.opened (mode : Mode) (c : Command) (cursor : κ) (database : δ)
    (conn : Connection δ κ) : Connection δ κ :=
  { conn.recordCall .reader mode [c] with database, readers := (conn.readers.add cursor).2 }

theorem Dispatch.run_eq_sent (hcaller : caller.cancelReason? conn.contexts = none)
    (hselect : setup.chain.select c = .ok handler)
    (hread : setup.driver.read (Dispatch.mode caller handler) c conn.database =
      (.after polls (.ok cursor), database)) :
    Dispatch.run setup caller c conn =
      (.sent polls (.ok (conn.readers.add cursor).1),
        conn.opened (Dispatch.mode caller handler) c cursor database) := by
  rw [run_eq hcaller hselect, hread]
  rfl

/-- A reader that was just opened, tracked as the last one if at all. -/
structure Connection.HandedOut (conn : Connection δ κ) (c : Command) (cursor : κ) (database : δ)
    (h : Handle) (conn' : Connection δ κ) : Prop where
  starts : ∃ r, conn'.readers.get? h.place = some r ∧ r.Starts cursor
  access : conn'.access = .free
  database : conn'.database = database
  id : h.id.number = conn.registry.issued + 1
  issued : conn'.registry.issued = conn.registry.issued + 1
  tracked : conn'.registry.tracked = conn.registry.tracked ∨
    conn'.registry.tracked = conn.registry.tracked ++ [h]
  deferred : conn'.deferred = conn.deferred
  calls : ∃ call, conn'.calls = conn.calls ++ [call] ∧ call.kind = .reader ∧ call.commands = [c]

/-- The caller was cancelled on the way, or the call gave what it should. -/
def Outcome.Reaches {α : Type} (caller : Caller) (P : α → Connection δ κ → Prop)
    (o : Outcome α) (conn : Connection δ κ) : Prop :=
  (∃ reason, o = .cancelled reason ∧ caller.cancelReason? conn.contexts = some reason) ∨
    ∃ a, o = .ok a ∧ P a conn

theorem Opening.finish_handedOut {ready : Connection δ κ}
    (hframe : (conn.setAccess .held).Framed ready) (mode : Mode) (c : Command) (cursor : κ)
    (database : δ) :
    ∃ h conn', Opening.finish ⟨c, .ok (ready.readers.add cursor).1⟩
        (ready.opened mode c cursor database) = (.ok h, conn') ∧
      conn.HandedOut c cursor database h (conn'.setAccess .free) := by
  have hreg : ready.registry = conn.registry := hframe.registry
  have hget : (ready.opened mode c cursor database).readers.get? (ready.readers.add cursor).1 =
      some (.plain cursor) := (Readers.get?_add cursor ready.readers _).trans (if_pos rfl)
  refine ⟨_, _, rfl, ?_⟩
  constructor
  · exact Reader.starts_register hget
  · rfl
  · rfl
  · exact congrArg (·.issued + 1) hreg
  · exact congrArg (·.issued + 1) hreg
  · rw [← hreg]
    by_cases htracking : ready.registry.tracking = true
    · exact .inr (if_pos htracking)
    · exact .inl (if_neg htracking)
  · exact hframe.deferred
  · have hcalls : ready.calls = conn.calls := hframe.calls
    refine ⟨⟨.reader, mode, [c], ready.readers.openCursors⟩, ?_, rfl, rfl⟩
    rw [← hcalls]
    exact List.filterMap_append

/-- A command that no handler accepts is refused without a call. -/
theorem Opening.poll_rejected {why : Error} (hcaller : caller.cancelReason? conn.contexts = none)
    (hselect : setup.chain.select c = .error why) :
    Opening.poll setup caller c .waiting conn = (.ready (.error why), conn) := by
  unfold Opening.poll
  simp only [Protocol.poll, Opening.protocol, hcaller, hselect]
  rfl

/-- Opening a reader for a command that is well formed gives the cursor that the driver opens. -/
theorem Opening.comesTo (hfree : conn.access = .free)
    (hselect : ∀ c', c'.isWellFormed = true → setup.chain.select c' = .ok handler)
    (hwell : c.isWellFormed = true)
    (hread : setup.driver.read (Dispatch.mode caller handler) (setup.prepare c) conn.database =
      (.after polls (.ok cursor), database)) :
    ∃ outcome conn', Polled.ComesTo (Opening.poll setup caller c)
        (Opening.poll setup caller c .waiting conn) outcome conn' ∧
      outcome.Reaches caller (conn.HandedOut (setup.prepare c) cursor database) conn' := by
  have hadmission : (setup.chain.select c).map (fun _ => ()) = .ok () := by
    rw [hselect c hwell]
    rfl
  obtain ⟨ready, hready, hframe⟩ := Connection.framed_beforeSingle setup c (conn.setAccess .held)
  cases hcaller : caller.cancelReason? conn.contexts with
  | some reason =>
    have hpoll : Opening.poll setup caller c .waiting conn =
        (.ready (.cancelled reason), conn) := by
      unfold Opening.poll Protocol.poll
      simp only [hcaller]
    rw [hpoll]
    exact ⟨_, _, .ready, .inl ⟨reason, rfl, hcaller⟩⟩
  | none =>
    have hpoll : Opening.poll setup caller c .waiting conn =
        (Opening.protocol setup caller c).start conn := by
      unfold Opening.poll Protocol.poll
      simp only [Opening.protocol, hcaller, hadmission, hfree]
    rw [hpoll]
    -- Making the connection ready may itself have cancelled the caller.
    cases hcancelled : caller.cancelReason? ready.contexts with
    | some reason =>
      have hstart : (Opening.protocol setup caller c).start conn =
          (.ready (.cancelled reason), ready.setAccess .free) := by
        simp only [Protocol.start, Opening.protocol, Opening.begin, hready, Dispatch.run,
          hcancelled]
      rw [hstart]
      exact ⟨_, _, .ready, .inl ⟨reason, rfl, hcancelled⟩⟩
    | none =>
      have hready' : setup.driver.read (Dispatch.mode caller handler) (setup.prepare c)
          ready.database = (.after polls (.ok cursor), database) := by
        rw [hframe.database]
        exact hread
      have hrun := Dispatch.run_eq_sent hcancelled (hselect (setup.prepare c) hwell) hready'
      obtain ⟨h, conn', hfinish, hout⟩ := Opening.finish_handedOut hframe
        (Dispatch.mode caller handler) (setup.prepare c) cursor database
      generalize ready.opened (Dispatch.mode caller handler) (setup.prepare c) cursor database =
        waiting at hrun hfinish
      have hstart : (Opening.protocol setup caller c).start conn =
          (Opening.protocol setup caller c).answer polls
            ⟨setup.prepare c, .ok (ready.readers.add cursor).1⟩ waiting := by
        simp only [Protocol.start, Opening.protocol, Opening.begin, hready, hrun]
      have hcomes : Polled.ComesTo (Opening.poll setup caller c)
          ((Opening.protocol setup caller c).answer polls
            ⟨setup.prepare c, .ok (ready.readers.add cursor).1⟩ waiting)
          (Opening.finish ⟨setup.prepare c, .ok (ready.readers.add cursor).1⟩ waiting).1
          ((Opening.finish ⟨setup.prepare c, .ok (ready.readers.add cursor).1⟩ waiting).2.setAccess
            .free) := Protocol.answer_comesTo ..
      rw [hfinish] at hcomes
      rw [hstart]
      exact ⟨_, _, hcomes, .inr ⟨h, rfl, hout⟩⟩

/-! ## One errand -/

/-- The caller was cancelled on the way, or the result sets are there and `P` holds. -/
def Reached (caller : Caller) (sets : List ResultSet) (P : Connection δ κ → Prop)
    (result : Except Stop (List ResultSet)) (conn : Connection δ κ) : Prop :=
  (∃ reason, result = .error (.cancelled reason) ∧
    caller.cancelReason? conn.contexts = some reason) ∨ (result = .ok sets ∧ P conn)

/-- The command was sent and its reader is closed, and this is the database now. -/
def Connection.Left (conn : Connection δ κ) (sent : List Command) (database : δ)
    (conn' : Connection δ κ) : Prop :=
  conn.RoundTrips conn' sent ∧ conn'.database = database

omit [Cursor κ] in
/-- Closing a reader that was just handed out leaves the others tracked. -/
theorem Connection.HandedOut.tracked_untrack {h : Handle} {conn' : Connection δ κ}
    (hout : conn.HandedOut c cursor database h conn') (hids : conn.registry.Numbered) :
    (conn'.registry.untrack h.id).tracked = conn.registry.tracked := by
  have hothers : conn.registry.tracked.filter (·.id ≠ h.id) = conn.registry.tracked := by
    rw [List.filter_eq_self]
    intro x hx
    have hle := hids x hx
    have hid := hout.id
    rw [decide_eq_true_eq]
    intro heq
    rw [heq] at hle
    omega
  unfold Registry.untrack
  rcases hout.tracked with heq | heq
  · rw [heq]
    exact hothers
  · rw [heq, List.filter_append, hothers]
    simp

namespace Execution

variable {errand : Errand} {sets : List ResultSet}

theorem read_reached (caller : Caller) {h : Handle} {conn' : Connection δ κ}
    (hout : conn.HandedOut c cursor database h conn') (hids : conn.registry.Numbered)
    (hlength : sets.length = errand.sets)
    (hsets : ∀ i rows, sets[i]? = some rows → Cursor.HasSet cursor i rows) :
    Reached caller sets (conn.Left [c] database) (read caller errand h conn').1
      (read caller errand h conn').2 := by
  obtain ⟨r, hr, hstarts⟩ := hout.starts
  have hthere : ∀ i rows, sets[i]? = some rows → Cursor.HasSet r i rows := by
    intro i rows hi
    exact hstarts.hasSet_of (hsets i rows hi)
  have hgives := Reading.sets_gives caller errand.command conn'.contexts hthere
  rw [hlength] at hgives
  unfold read
  rw [hr]
  rcases hgives with hok | ⟨reason, hstop, hcancelled⟩
  · refine .inr ⟨hok, ⟨hout.access, hout.tracked_untrack hids, ?_, hout.deferred, ?_⟩,
      hout.database⟩
    · have hissued : conn'.registry.issued = conn.registry.issued + 1 := hout.issued
      show conn.registry.issued ≤ conn'.registry.issued
      omega
    · obtain ⟨call, hcalls, hkind, hcommands⟩ := hout.calls
      refine ⟨[call], hcalls, ?_⟩
      rw [List.map_singleton, hkind, hcommands]
      rfl
  · exact .inl ⟨reason, hstop, hcancelled⟩

theorem ask_comesTo (hfree : conn.access = .free) (hids : conn.registry.Numbered)
    (hselect : ∀ c, c.isWellFormed = true → setup.chain.select c = .ok handler)
    (hwell : errand.command.isWellFormed = true)
    (hread : setup.driver.read (Dispatch.mode caller handler) (setup.prepare errand.command)
      conn.database = (.after polls (.ok cursor), database))
    (hlength : sets.length = errand.sets)
    (hsets : ∀ i rows, sets[i]? = some rows → Cursor.HasSet cursor i rows) :
    ∃ result conn', Polled.ComesTo (ask setup caller errand)
        (ask setup caller errand .waiting conn) result conn' ∧
      Reached caller sets (conn.Left [setup.prepare errand.command] database) result conn' := by
  obtain ⟨outcome, conn₁, hopening, hreaches⟩ := Opening.comesTo hfree hselect hwell hread
  refine ⟨(complete caller errand outcome conn₁).1, (complete caller errand outcome conn₁).2,
    ?_, ?_⟩
  · rw [ask_eq]
    exact hopening.through id (fun _ _ => rfl) (ask_eq setup caller errand) .ready
  · rcases hreaches with ⟨reason, rfl, hcancelled⟩ | ⟨h, rfl, hout⟩
    · exact .inl ⟨reason, rfl, hcancelled⟩
    · exact read_reached caller hout hids hlength hsets

end Execution

/-! ## All errands -/

/-- Asked for the readers of these commands one after the other, the driver gives cursors with these
result sets. -/
inductive Driver.Supplies (driver : Driver δ κ) (mode : Mode) :
    δ → List Command → List (List ResultSet) → Prop
  | nil {d : δ} : Supplies driver mode d [] []
  | cons {d d' : δ} {c : Command} {cs : List Command} {polls : Nat} {cursor : κ}
      {sets : List ResultSet} {others : List (List ResultSet)} :
      driver.read mode c d = (.after polls (.ok cursor), d') →
      (∀ i rows, sets[i]? = some rows → Cursor.HasSet cursor i rows) →
      Supplies driver mode d' cs others → Supplies driver mode d (c :: cs) (sets :: others)

theorem Execution.comesTo (setup : Setup δ κ) (conn : Connection δ κ) {errands : List Errand}
    {plan : List (List ResultSet)}
    (hselect : ∀ c, c.isWellFormed = true → setup.chain.select c = .ok handler)
    (hwell : ∀ errand ∈ errands, errand.command.isWellFormed = true)
    (hsupplies : setup.driver.Supplies (Dispatch.mode caller handler) conn.database
      (setup.sends errands) plan)
    (hlengths : plan.map List.length = errands.map (·.sets))
    (hfree : conn.access = .free) (hids : conn.registry.Numbered) (done : List ResultSet) :
    ∃ result conn', Polled.ComesTo (Execution.resume setup caller)
        (Execution.run setup caller errands done conn) result conn' ∧
      Reached caller (done ++ plan.flatten) (conn.RoundTrips · (setup.sends errands)) result
        conn' := by
  induction errands generalizing plan conn done with
  | nil =>
    cases hsupplies
    refine ⟨.ok done, conn, .ready, .inr ⟨?_, .nil hfree⟩⟩
    rw [List.flatten_nil, List.append_nil]
  | cons errand rest ih =>
    rcases hsupplies with _ | ⟨hread, hsets, hrest⟩
    rename_i sets others
    rw [List.map_cons, List.map_cons, List.cons.injEq] at hlengths
    have hmine := hwell errand List.mem_cons_self
    have hothers := fun x hx => hwell x (List.mem_cons_of_mem errand hx)
    obtain ⟨first, conn₁, hask, hreached⟩ :=
      Execution.ask_comesTo hfree hids hselect hmine hread hlengths.1 hsets
    have hgoes : ∀ {result conn'}, Polled.ComesTo (Execution.resume setup caller)
          (Execution.afterErrand setup caller errand rest done (.ready first, conn₁)) result conn' →
        Polled.ComesTo (Execution.resume setup caller)
          (Execution.run setup caller (errand :: rest) done conn) result conn' := by
      intro result conn' hend
      rw [Execution.run_cons]
      exact hask.through (⟨errand, ·, rest, done⟩) (fun _ _ => rfl)
        (Execution.resume_eq setup caller errand rest done) hend
    rcases hreached with ⟨reason, rfl, hcancelled⟩ | ⟨rfl, htrips, rfl⟩
    · exact ⟨_, _, hgoes .ready, .inl ⟨reason, rfl, hcancelled⟩⟩
    · obtain ⟨result, conn', hcomes, hreached⟩ := ih conn₁ hothers hrest hlengths.2 htrips.access
        (htrips.numbered hids) (done ++ sets)
      refine ⟨result, conn', hgoes hcomes, hreached.imp_right ?_⟩
      rintro ⟨rfl, htrips'⟩
      refine ⟨?_, htrips.append htrips'⟩
      rw [List.flatten_cons, List.append_assoc]

end

/-! ## Views -/

/-- The setup with a driver that takes several statements in one command, or does not. -/
def Setup.allowing (together : Bool) (setup : Setup δ κ) : Setup δ κ :=
  { setup with driver :=
    { setup.driver with capabilities :=
      { setup.driver.capabilities with multipleQueries := together } } }

/-- By which of its two ways the driver is asked for readers. -/
def Setup.readMode (setup : Setup δ κ) (caller : Caller) : Mode :=
  Dispatch.mode caller setup.driver.capabilities.handler

/-- A view that is driven alone ends. Unless its caller was cancelled meanwhile, it gives the rows
of its query, the batch keeps all result sets, no reader stays behind, and these commands were
sent. -/
def Setup.Delivers (setup : Setup δ κ) (caller : Caller) (conn : Connection δ κ) (k : Nat)
    (b : DeferredBatch) (sets : List ResultSet) (sent : List Command) : Prop :=
  ∀ (ρ : Type) (i : Nat) (project : ResultSet → Except Error ρ), ∃ rounds answer conn',
    Joint.run (Operation.poll setup caller) rounds [.running (Request.view k i project).start]
        conn = (.ready [answer], conn') ∧
      (caller.cancelReason? conn'.contexts = none →
        answer = (Outcome.ofExcept (Settled.rowsOf i (.ok sets))).andThen
          (fun rows => (project rows).map .projected) ∧
        conn'.batch? k = some { b with isSealed := true, progress := .settled (.ok sets) } ∧
        conn'.registry.tracked = conn.registry.tracked ∧
        ∃ later, conn'.calls = conn.calls ++ later ∧
          later.map (fun call => (call.kind, call.commands)) = sent.map fun c => (.reader, [c]))

section

variable {setup : Setup δ κ} {caller : Caller} {conn : Connection δ κ} {k : Nat}
  {b : DeferredBatch}

theorem Driver.Supplies.allowing (together : Bool) {mode : Mode} {d : δ} {cs : List Command}
    {plan : List (List ResultSet)} (h : setup.driver.Supplies mode d cs plan) :
    (setup.allowing together).driver.Supplies mode d cs plan := by
  induction h with
  | nil => exact .nil
  | cons hread hsets _ ih => exact .cons hread hsets ih

theorem Driver.Supplies.length_eq {driver : Driver δ κ} {mode : Mode} {d : δ} {cs : List Command}
    {plan : List (List ResultSet)} (h : driver.Supplies mode d cs plan) :
    cs.length = plan.length := by
  induction h with
  | nil => rfl
  | cons _ _ _ ih => rw [List.length_cons, List.length_cons, ih]

theorem Viewing.poll_fresh (setup : Setup δ κ) (i : Nat)
    (hcaller : caller.cancelReason? conn.contexts = none)
    (hb : conn.batch? k = some b) (hidle : b.progress = .idle) :
    Viewing.poll setup caller k i .fresh conn = Viewing.proceed k i
      (Execution.run setup caller (b.errands setup.driver.capabilities.multipleQueries) []
        (conn.updateBatch k .start)) := by
  unfold Viewing.poll
  simp only [Viewing.turn, hcaller, Viewing.consult, hb, hidle]
  rfl

theorem Viewing.comesTo (i : Nat)
    {x : Polled Execution (Except Stop (List ResultSet)) × Connection δ κ}
    {result : Except Stop (List ResultSet)} {conn' : Connection δ κ}
    (h : Polled.ComesTo (Execution.resume setup caller) x result conn') :
    Polled.ComesTo (Viewing.poll setup caller k i) (Viewing.proceed k i x)
      (Viewing.settle k i result conn').1 (Viewing.settle k i result conn').2 :=
  h.through .running (fun _ _ => rfl) (fun _ _ => rfl) .ready

/-- What a view of a query makes of its rows. -/
def Operation.afterViewing (k i : Nat) (project : ResultSet → Except Error ρ) :
    Polled Viewing (Outcome ResultSet) × Connection δ κ →
      Polled (Operation ρ) (Outcome (Reply ρ)) × Connection δ κ
  | (p, conn) =>
    ((p.map fun o => o.andThen fun rows => (project rows).map .projected).within
      (.viewing k i project), conn)

theorem Operation.comesTo (i : Nat) (project : ResultSet → Except Error ρ)
    {x : Polled Viewing (Outcome ResultSet) × Connection δ κ} {outcome : Outcome ResultSet}
    {conn' : Connection δ κ} (h : Polled.ComesTo (Viewing.poll setup caller k i) x outcome conn') :
    Polled.ComesTo (Operation.poll setup caller) (Operation.afterViewing k i project x)
      (outcome.andThen fun rows => (project rows).map .projected) conn' :=
  h.through (Operation.viewing k i project) (fun _ _ => rfl) (fun _ _ => rfl) .ready

/-- A batch ends with its first errand if no handler accepts the command. -/
theorem Operation.poll_rejected (i : Nat) (project : ResultSet → Except Error ρ) {errand : Errand}
    {rest : List Errand} {why : Error} (hcaller : caller.cancelReason? conn.contexts = none)
    (hb : conn.batch? k = some b) (hidle : b.progress = .idle)
    (herrands : b.errands setup.driver.capabilities.multipleQueries = errand :: rest)
    (hselect : setup.chain.select errand.command = .error why) :
    (Operation.poll setup caller (Request.view k i project).start conn).1 =
      .ready (.error (.shared why)) := by
  have hstarted : caller.cancelReason? (conn.updateBatch k .start).contexts = none := hcaller
  have hview := Viewing.poll_fresh setup i hcaller hb hidle
  rw [herrands, Execution.run_cons, Execution.ask_eq,
    Opening.poll_rejected hstarted hselect] at hview
  exact congrArg (fun x => (Operation.afterViewing k i project x).1) hview

/-- The errands of a batch, in either way. -/
theorem Setup.delivers (together : Bool) (caller : Caller) {handler : Handler}
    {plan : List (List ResultSet)}
    (hselect : ∀ c, c.isWellFormed = true → setup.chain.select c = .ok handler)
    (hfree : conn.access = .free) (hids : conn.registry.Numbered)
    (hb : conn.batch? k = some b) (hidle : b.progress = .idle) {errands : List Errand}
    (herrands : b.errands together = errands)
    (hwell : ∀ errand ∈ errands, errand.command.isWellFormed = true)
    (hsupplies : setup.driver.Supplies (Dispatch.mode caller handler) conn.database
      (setup.sends errands) plan)
    (hlengths : plan.map List.length = errands.map (·.sets)) :
    (setup.allowing together).Delivers caller conn k b plan.flatten (setup.sends errands) := by
  intro ρ i project
  have hpoll : Operation.poll (setup.allowing together) caller (Request.view k i project).start
      conn = Operation.afterViewing k i project
        (Viewing.poll (setup.allowing together) caller k i .fresh conn) := rfl
  cases hcaller : caller.cancelReason? conn.contexts with
  | some reason =>
    have hrefused : Viewing.poll (setup.allowing together) caller k i .fresh conn =
        (.ready (.cancelled reason), conn) := by
      unfold Viewing.poll
      simp only [Viewing.turn, hcaller]
    have hends : Polled.ComesTo (Operation.poll (setup.allowing together) caller)
        (Operation.poll (setup.allowing together) caller (Request.view k i project).start conn)
        (.cancelled reason) conn := by
      rw [hpoll, hrefused]
      exact .ready
    obtain ⟨rounds, hrun⟩ := hends.run_single
    refine ⟨rounds, _, conn, hrun, fun hend => ?_⟩
    rw [hcaller] at hend
    cases hend
  | none =>
    have hwork :
        b.errands (setup.allowing together).driver.capabilities.multipleQueries = errands :=
      herrands
    rw [Viewing.poll_fresh _ i hcaller hb hidle, hwork] at hpoll
    obtain ⟨result, conn₁, hcomes, hreached⟩ :=
      Execution.comesTo (setup.allowing together) (conn.updateBatch k .start) hselect hwell
        (hsupplies.allowing together) hlengths hfree hids []
    have hends := Operation.comesTo i project (Viewing.comesTo (k := k) i hcomes)
    rw [← hpoll] at hends
    obtain ⟨rounds, hrun⟩ := hends.run_single
    refine ⟨rounds, _, _, hrun, fun hend => ?_⟩
    rcases hreached with ⟨reason, rfl, hcancelled⟩ | ⟨rfl, htrips⟩
    · have hsame : caller.cancelReason? conn₁.contexts = none := hend
      rw [hsame] at hcancelled
      cases hcancelled
    · refine ⟨rfl, ?_, htrips.tracked, htrips.calls⟩
      have hstarted : conn₁.batch? k = some b.start := by
        rw [Connection.batch?_congr htrips.deferred, Connection.batch?_updateBatch, if_pos rfl, hb]
        rfl
      have hkept := Connection.batch?_updateBatch k k
        (.setProgress (.settled (.ok plan.flatten))) conn₁
      rw [if_pos rfl, hstarted] at hkept
      exact hkept

omit [Cursor κ] in
theorem DeferredBatch.commands_eq_nil (b : DeferredBatch) :
    b.commands = [] ↔ b.isEmpty = true := by
  unfold commands isEmpty
  rw [List.map_eq_nil_iff, List.isEmpty_iff]

/-- Together, one reader call gives what one call for each query gives apart. -/
theorem round_trips_agree (setup : Setup δ κ) (caller : Caller) (conn : Connection δ κ) (k : Nat)
    (b : DeferredBatch) (sets : List ResultSet)
    (hchain : setup.chain = .standard setup.driver.capabilities)
    (hfree : conn.access = .free) (hids : conn.registry.Numbered)
    (hb : conn.batch? k = some b) (hidle : b.progress = .idle)
    (hwell : ∀ c ∈ b.commands, c.isWellFormed = true)
    (hsingle : ∀ c, b.commands = [c] → ∃ d ∈ c.statement, Text.isBlank d = false)
    (htogether : b.isEmpty = false → setup.driver.Supplies (setup.readMode caller) conn.database
      [setup.prepare (Command.combine b.commands)] [sets])
    (hapart : setup.driver.Supplies (setup.readMode caller) conn.database
      (b.commands.map setup.prepare) (sets.map ([·]))) :
    (setup.allowing true).Delivers caller conn k b sets
        (if b.isEmpty then [] else [setup.prepare (Command.combine b.commands)]) ∧
      (setup.allowing false).Delivers caller conn k b sets (b.commands.map setup.prepare) := by
  have hselect : ∀ c, c.isWellFormed = true →
      setup.chain.select c = .ok setup.driver.capabilities.handler := by
    rw [hchain]
    exact fun c => Chain.select_standard _
  have hlength := hapart.length_eq
  rw [List.length_map, List.length_map] at hlength
  have hsize : b.size = b.commands.length := (List.length_map _).symm
  cases hempty : b.isEmpty with
  | true =>
    have hnone : ∀ together, b.errands together = [] := by
      intro together
      unfold DeferredBatch.errands
      rw [hempty, if_pos rfl]
    rw [b.commands_eq_nil.mpr hempty] at hlength ⊢
    obtain rfl : sets = [] := List.length_eq_zero_iff.mp hlength.symm
    have hnobody : ∀ errand ∈ ([] : List Errand), errand.command.isWellFormed = true :=
      fun _ h => absurd h List.not_mem_nil
    constructor
    · exact Setup.delivers true caller hselect hfree hids hb hidle (hnone true) hnobody .nil rfl
    · exact Setup.delivers false caller hselect hfree hids hb hidle (hnone false) hnobody .nil rfl
  | false =>
    have hfull : ∀ together, b.errands together = if together then
        [⟨Command.combine b.commands, b.size⟩] else b.commands.map (⟨·, 1⟩) := by
      intro together
      unfold DeferredBatch.errands
      rw [hempty, if_neg Bool.false_ne_true]
    have hcombined : (Command.combine b.commands).isWellFormed = true := by
      refine Command.isWellFormed_combine ?_ hsingle
      rw [ne_eq, b.commands_eq_nil, hempty]
      exact Bool.false_ne_true
    constructor
    · have hlengths : [sets].map List.length = [b.size] := by rw [hsize, hlength]; rfl
      have hsends := Setup.delivers true caller hselect hfree hids hb hidle (hfull true)
        (by simpa using hcombined) (htogether hempty) hlengths
      rw [List.flatten_singleton] at hsends
      exact hsends
    · have hsent : setup.sends (b.commands.map (⟨·, 1⟩)) = b.commands.map setup.prepare :=
        List.map_map
      have hlengths : (sets.map ([·])).map List.length =
          (b.commands.map (⟨·, 1⟩)).map Errand.sets := by
        rw [List.map_map, List.map_map]
        show sets.map (fun _ => 1) = b.commands.map fun _ => 1
        rw [List.map_const', List.map_const', hlength]
      have hsends := Setup.delivers false caller hselect hfree hids hb hidle (hfull false)
        (by simpa using hwell) (hsent ▸ hapart) hlengths
      rw [if_neg Bool.false_ne_true, hsent, ← List.flatMap_def, List.flatMap_singleton'] at hsends
      exact hsends

end

/-- A driver in memory that has an answer to every statement. -/
def Setup.answering (answers : String → List ResultSet) : Setup Unit Buffered where
  driver :=
    { capabilities := {}
      openReader := fun c d => (.returned (.ok { sets := answers c.sql }), d)
      execute := fun _ d => (.returned (.ok 0), d)
      executeBatch := fun _ d => (.returned (.ok 0), d) }
  settings := {}
  chain := .standard {}
  verbosity := .off

theorem Setup.supplies_answering (answers : String → List ResultSet) {mode : Mode}
    {cs : List Command} {plan : List (List ResultSet)}
    (h : cs.map (fun c => answers c.sql) = plan) :
    (Setup.answering answers).driver.Supplies mode () cs plan := by
  subst h
  induction cs with
  | nil => exact .nil
  | cons c rest ih =>
    have hread : (Setup.answering answers).driver.read mode c () =
        (.after 0 (.ok { sets := answers c.sql }), ()) := by
      cases mode <;> rfl
    exact .cons hread (fun i rows hi => Buffered.hasSet hi) ih

/-- Two queries, the second one without rows. -/
theorem round_trips_agree_pair :
    let first : Command := { sql := "select 1" }
    let second : Command := { sql := "select 2;" }
    let setup := Setup.answering fun sql =>
      if sql = "select 1;\nselect 2" then [[⟨[], []⟩], []]
      else if sql = "select 1" then [[⟨[], []⟩]] else [[]]
    let b : DeferredBatch := { queries := [{ command := first }, { command := second }] }
    let conn : Connection Unit Buffered :=
      { Connection.create setup () with deferred := [b] }
    (setup.allowing true).Delivers .blocking conn 0 b [[⟨[], []⟩], []]
        [Command.combine [first, second]] ∧
      (setup.allowing false).Delivers .blocking conn 0 b [[⟨[], []⟩], []] [first, second] := by
  intro first second setup b conn
  have hsql : (Command.combine [first, second]).sql = "select 1;\nselect 2" := by decide +kernel
  refine round_trips_agree setup .blocking conn 0 b [[⟨[], []⟩], []] rfl rfl ?_ rfl rfl ?_ ?_ ?_ ?_
  · exact fun _ h => absurd h List.not_mem_nil
  · decide
  · intro c h
    cases h
  · intro _
    apply Setup.supplies_answering
    exact congrArg (fun x => [x]) (if_pos hsql)
  · apply Setup.supplies_answering
    rfl

/-- A batch of a single semicolon has a command that is well formed, but combined it has no text. -/
theorem round_trips_differ :
    let c : Command := { sql := ";" }
    let setup := Setup.answering fun _ => [[⟨[], []⟩]]
    let b : DeferredBatch := { queries := [{ command := c }] }
    let conn : Connection Unit Buffered := { Connection.create setup () with deferred := [b] }
    c.isWellFormed = true ∧
      setup.driver.Supplies .blocking () [setup.prepare (Command.combine [c])] [[[⟨[], []⟩]]] ∧
      setup.driver.Supplies .blocking () [setup.prepare c] [[[⟨[], []⟩]]] ∧
      (setup.allowing false).Delivers .blocking conn 0 b [[⟨[], []⟩]] [setup.prepare c] ∧
      ¬ (setup.allowing true).Delivers .blocking conn 0 b [[⟨[], []⟩]]
        [setup.prepare (Command.combine [c])] := by
  intro c setup b conn
  have hsupplies : setup.driver.Supplies .blocking () [setup.prepare c] [[[⟨[], []⟩]]] :=
    Setup.supplies_answering _ rfl
  refine ⟨by decide, Setup.supplies_answering _ rfl, hsupplies, ?_, ?_⟩
  · have hselect : ∀ c, c.isWellFormed = true →
        setup.chain.select c = .ok setup.driver.capabilities.handler :=
      fun _ => Chain.select_standard {}
    have hids : conn.registry.Numbered := fun _ h => absurd h List.not_mem_nil
    have herrands : b.errands false = [⟨c, 1⟩] := rfl
    have hwell : ∀ errand ∈ [(⟨c, 1⟩ : Errand)], errand.command.isWellFormed = true := by
      simp only [List.mem_singleton, forall_eq]
      decide
    exact Setup.delivers false .blocking hselect rfl hids rfl rfl herrands hwell hsupplies rfl
  · intro h
    obtain ⟨rounds, answer, conn', hrun, hends⟩ := h Nat 0 fun rows => .ok rows.length
    have hblank : (Command.combine [c]).isWellFormed = false := by decide +kernel
    have hselect : (setup.allowing true).chain.select (Command.combine [c]) =
        .error (.invalidArgument "command has no SQL text") := by
      unfold Chain.select
      rw [hblank]
      rfl
    have hready : (Operation.poll (setup.allowing true) .blocking
        (Request.view 0 0 fun rows => .ok rows.length).start conn).1 =
          .ready (.error (.shared _)) :=
      Operation.poll_rejected 0 _ rfl rfl rfl rfl hselect
    have hanswer := (hends rfl).1
    rw [Joint.eq_of_run_single hready hrun] at hanswer
    cases hanswer

end OneConnection
