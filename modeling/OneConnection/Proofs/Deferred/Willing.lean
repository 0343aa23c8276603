import OneConnection.Proofs.Agreement.Operations
import OneConnection.Proofs.Deferred.RoundTrips
import OneConnection.Proofs.Flights
import OneConnection.Proofs.Readers.Stopping

/-!
# Willing drivers

A driver that raises no error opens a cursor for everything that it is asked to read, and never
breaks a connection. What it is asked to read has passed the chain before.
-/

namespace OneConnection

variable {δ κ ρ : Type} [Cursor κ] {setup : Setup δ κ}

/-! ## Drivers that raise no error -/

/-- No fetch of it ever fails. -/
def Cursor.Sturdy (cursor : κ) : Prop := ∀ n why, ¬ Cursor.Breaks cursor n why

/-- Every call succeeds in the end, and so does every fetch of a cursor that it opens. -/
structure Driver.Willing (driver : Driver δ κ) : Prop where
  read : ∀ mode c d, ∃ polls cursor d',
    driver.read mode c d = (.after polls (.ok cursor), d') ∧ Cursor.Sturdy cursor
  nonQuery : ∀ mode c d, ∃ polls rows d', driver.nonQuery mode c d = (.after polls (.ok rows), d')
  batch : ∀ mode cs d, ∃ polls rows d', driver.batch mode cs d = (.after polls (.ok rows), d')

/-- Every call on record opened a cursor that does not break. -/
def Steadfast (opened : List (Opened κ)) : Prop :=
  ∀ o ∈ opened, ∃ cursor, o.cursor = some cursor ∧ Cursor.Sturdy cursor

theorem Steadfast.nil : Steadfast ([] : List (Opened κ)) := fun _ h => absurd h List.not_mem_nil

theorem Steadfast.append {opened : List (Opened κ)} {o : Opened κ} (h : Steadfast opened)
    {cursor : κ} (hcursor : o.cursor = some cursor) (hsturdy : Cursor.Sturdy cursor) :
    Steadfast (opened ++ [o]) := by
  intro x hx
  rcases List.mem_append.mp hx with hx | hx
  · exact h x hx
  · cases List.mem_singleton.mp hx
    exact ⟨cursor, hcursor, hsturdy⟩

namespace Driver.Willing

variable {driver : Driver δ κ}

theorem serve (h : driver.Willing) {x : List (Opened κ) × δ} (hx : Steadfast x.1)
    (call : DriverCall) : Steadfast (driver.serve x call).1 := by
  unfold Driver.serve
  split
  · rename_i c _ _
    obtain ⟨polls, cursor, d', hread, hsturdy⟩ := h.read call.mode c x.2
    rw [hread]
    exact hx.append rfl hsturdy
  · exact hx
  · exact hx
  · exact hx

theorem replay (h : driver.Willing) (calls : List DriverCall) {x : List (Opened κ) × δ}
    (hx : Steadfast x.1) : Steadfast (driver.replay calls x).1 := by
  induction calls generalizing x with
  | nil => exact hx
  | cons call rest ih => exact ih (h.serve hx call)

end Driver.Willing

section

variable {conn₀ conn : Connection δ κ} {before past opened : List (Opened κ)} {c : Command}

theorem Recorded.steadfast (h : Recorded setup conn₀ before opened conn)
    (hwilling : setup.driver.Willing) (hbefore : Steadfast before) : Steadfast opened := by
  obtain ⟨calls, -, hreplay⟩ := h
  have hlater : Steadfast (setup.driver.replay calls (before, conn₀.database)).1 :=
    hwilling.replay calls hbefore
  rwa [hreplay] at hlater

/-- The driver gives a place for every command that it was asked to read. -/
theorem Asked.placed {sent : Outcome Nat} (h : Asked setup conn₀ before past c sent conn)
    (hwilling : setup.driver.Willing) (hbefore : Steadfast before) :
    ∃ place, sent = .ok place := by
  obtain ⟨cursor?, hrec, -, hnone⟩ := h
  obtain ⟨cursor, hcursor, -⟩ := hrec.steadfast hwilling hbefore _
    (List.mem_append_right past (List.mem_singleton_self _))
  cases hsent : sent.value? with
  | some place => exact ⟨place, Outcome.value?_eq_some.mp hsent⟩
  | none => exact absurd ((hnone hsent).symm.trans hcursor) nofun

/-- Reading one result set of a cursor that does not break stops only for a cancelled caller. -/
theorem Execution.Unread.cancelled {caller : Caller} {errand : Errand} {cursor : κ} {stop : Stop}
    {contexts : Contexts} (h : Execution.Unread caller errand cursor stop contexts)
    (hsets : errand.sets = 1) (hsturdy : Cursor.Sturdy cursor) :
    ∃ reason, stop = .cancelled reason ∧ caller.cancelReason? contexts = some reason := by
  obtain ⟨r, contexts₀, hstarts, hread, rfl⟩ := h
  cases stop with
  | cancelled reason => exact ⟨reason, rfl, Reading.cancelled_of_sets hread⟩
  | failed why =>
    rw [hsets, Reading.sets] at hread
    rcases Reading.andThen_eq_error hread with ⟨hstop, -⟩ | ⟨rows, -, heq⟩
    · obtain ⟨raised, hstumbles⟩ := Reading.stumbles_of_set hstop
      obtain ⟨f, rfl, hrow, -⟩ := hstarts.exists_within
      exact absurd (.row (hstumbles.of_within hrow)) (hsturdy 1 raised)
    · rw [heq] at hread
      cases hread

end

/-! ## What the driver is given to read -/

/-- Every command that the driver was given to read has a handler. -/
def Connection.Screened (setup : Setup δ κ) (conn : Connection δ κ) : Prop :=
  ∀ call ∈ conn.calls, call.kind = .reader → ∀ c ∈ call.commands,
    ∃ handler, setup.chain.select c = .ok handler

omit [Cursor κ] in
theorem quiet_screened (setup : Setup δ κ) :
    Quiet fun conn : Connection δ κ => conn.Screened setup where
  access _ _ h := h
  hold _ _ _ _ h := h
  note conn event he h := by
    show ∀ call ∈ (conn.record event).calls, _
    rw [Connection.calls_record he]
    exact h
  count _ _ h := h

theorem Access.free_ne_broken : Access.free ≠ .broken := by decide

theorem Access.held_ne_broken : Access.held ≠ .broken := by decide

/-- No call has crashed, and nothing that is refused was sent. -/
structure Connection.Orderly (setup : Setup δ κ) (conn : Connection δ κ) : Prop where
  usable : conn.access ≠ .broken
  screened : conn.Screened setup

theorem Flushing.ready_access (setup : Setup δ κ) (conn : Connection δ κ) :
    (ready setup conn).access = conn.access := by
  unfold ready Connection.logBatch
  split <;> rfl

theorem Connection.beforeSingle_access (setup : Setup δ κ) (c : Command) (conn : Connection δ κ) :
    (conn.beforeSingle setup c).2.access = conn.access := by
  unfold beforeSingle logCommand
  dsimp only
  split <;> rfl

theorem Execution.access_read (caller : Caller) (errand : Errand) (h : Handle)
    (conn : Connection δ κ) : (read caller errand h conn).2.access = conn.access := by
  unfold read
  split <;> rfl

namespace Connection.Orderly

variable {conn : Connection δ κ}

omit [Cursor κ] in
theorem free (h : conn.Orderly setup) : (conn.setAccess .free).Orderly setup :=
  ⟨Access.free_ne_broken, h.screened⟩

omit [Cursor κ] in
theorem held (h : conn.Orderly setup) : (conn.setAccess .held).Orderly setup :=
  ⟨Access.held_ne_broken, h.screened⟩

theorem beforeSingle (c : Command) (h : conn.Orderly setup) :
    (conn.beforeSingle setup c).2.Orderly setup where
  usable := by
    rw [beforeSingle_access]
    exact h.usable
  screened := (quiet_screened setup).beforeSingle setup c h.screened

theorem call {kind : CallKind} {mode : Mode} {cs : List Command} {database : δ}
    (h : conn.Orderly setup)
    (hcs : kind = .reader → ∀ c ∈ cs, ∃ handler, setup.chain.select c = .ok handler) :
    { conn.recordCall kind mode cs with database }.Orderly setup := by
  have hcalls : (conn.recordCall kind mode cs).calls =
      conn.calls ++ [⟨kind, mode, cs, conn.readers.openCursors⟩] := List.filterMap_append
  refine ⟨h.usable, fun call hcall hkind => ?_⟩
  rcases List.mem_append.mp (hcalls ▸ hcall) with hcall | hcall
  · exact h.screened call hcall hkind
  · cases List.mem_singleton.mp hcall
    exact hcs hkind

theorem flushing_leads (hwilling : setup.driver.Willing) (mode : Mode) :
    (Flushing.protocol setup mode).Leads (Orderly setup) (fun _ => Orderly setup)
      (fun _ => Orderly setup) (Orderly setup) where
  fails _ _ h _ := h
  begins conn h _ := by
    show Begun.Ensures _ _ _ (Flushing.begin setup mode (conn.setAccess .held))
    rw [Flushing.begin_eq]
    split
    · exact ⟨Access.free_ne_broken, h.screened⟩
    · have hready : (Flushing.ready setup (conn.setAccess .held)).Orderly setup := by
        have hq := quiet_screened setup
        refine ⟨?_, hq.count _ _ (hq.note.logBatch setup _ (hq.checkReaders h.screened))⟩
        rw [Flushing.ready_access]
        exact h.held.usable
      obtain ⟨polls, rows, d', hcall⟩ := hwilling.batch mode conn.pending.commands
        (Flushing.ready setup (conn.setAccess .held)).database
      rw [show (conn.setAccess .held).pending = conn.pending from rfl, hcall]
      exact hready.call (absurd · (by decide))
  finishes sent conn h := by
    simp only [Flushing.protocol, Flushing.finish, Flushing.verify]
    split
    · split
      · exact h.free
      · exact ⟨Access.free_ne_broken, (quiet_screened setup).note _ _ rfl h.screened⟩
    · exact h.free

theorem executing_leads (hwilling : setup.driver.Willing) (mode : Mode) (c : Command) :
    (Executing.protocol setup mode c).Leads (Orderly setup) (fun _ => Orderly setup)
      (fun _ => Orderly setup) (Orderly setup) where
  fails _ _ h _ := h
  begins conn h _ := by
    have hready := h.held.beforeSingle c
    show Begun.Ensures _ _ _ (Executing.begin setup mode c (conn.setAccess .held))
    rw [Executing.begin_eq]
    obtain ⟨polls, rows, d', hcall⟩ := hwilling.nonQuery mode (setup.prepare c)
      ((conn.setAccess .held).beforeSingle setup c).2.database
    rw [hcall]
    exact hready.call (absurd · (by decide))
  finishes sent conn h := h.free

theorem opening_leads (hwilling : setup.driver.Willing) (caller : Caller) (c : Command) :
    (Opening.protocol setup caller c).Leads (Orderly setup) (fun _ => Orderly setup)
      (fun _ => Orderly setup) (Orderly setup) where
  fails _ _ h _ := h
  begins conn h _ := by
    have hready := h.held.beforeSingle c
    show Begun.Ensures _ _ _ (Opening.begin setup caller c (conn.setAccess .held))
    rw [Opening.begin_eq]
    generalize ((conn.setAccess .held).beforeSingle setup c).2 = ready at hready
    cases hcancelled : caller.cancelReason? ready.contexts with
    | some reason =>
      simp only [Dispatch.run, hcancelled]
      exact hready.free
    | none =>
      cases hselect : setup.chain.select (setup.prepare c) with
      | error why =>
        simp only [Dispatch.run, hcancelled, hselect]
        exact hready.free
      | ok handler =>
        obtain ⟨polls, cursor, d', hread, -⟩ := hwilling.read (Dispatch.mode caller handler)
          (setup.prepare c) ready.database
        rw [Dispatch.run_eq_sent hcancelled hselect hread]
        have hcall : { ready.recordCall .reader (Dispatch.mode caller handler) [setup.prepare c] with
            database := d' }.Orderly setup := by
          refine hready.call fun _ c' hc' => ?_
          cases List.mem_singleton.mp hc'
          exact ⟨handler, hselect⟩
        exact ⟨hcall.usable, hcall.screened⟩
  finishes sent conn h := by
    have hfinish : (Opening.finish sent conn).2.calls = conn.calls := by
      unfold Opening.finish
      split <;> rfl
    have hscreened : (Opening.finish sent conn).2.Screened setup := by
      unfold Screened
      rw [hfinish]
      exact h.screened
    exact ⟨Access.free_ne_broken, hscreened⟩

/-- Nothing but a crash breaks a connection, and a willing driver does not crash. -/
theorem carries (hwilling : setup.driver.Willing) (caller : Caller) :
    Carries setup caller (fun conn _ => conn.Orderly setup) fun _ => Orderly setup where
  idle _ := Iff.rfl
  polls _ _ _ _ h := h
  push _ _ h := ⟨h.usable, h.screened⟩
  defer _ _ h := ⟨h.usable, h.screened⟩
  flushing := flushing_leads hwilling caller.mode
  executing := executing_leads hwilling caller.mode
  opening := opening_leads hwilling caller
  decode _ _ _ h := ⟨h.usable, h.screened⟩
  read errand x conn h := by
    refine ⟨?_, (quiet_screened setup).read caller errand x h.screened⟩
    rw [Execution.access_read]
    exact h.usable
  release _ h := h.free
  discard _ _ h := ⟨Access.free_ne_broken, h.screened⟩

theorem step {w : World δ κ ρ} (hwilling : setup.driver.Willing) (s : Step ρ)
    (hdirect : ∀ n t, w.task? n = some t → t.operation.isDirect = false)
    (h : w.conn.Orderly setup) : (w.step setup s).conn.Orderly setup := by
  cases s with
  | ask caller request => exact h
  | act a =>
    refine ⟨?_, ?_⟩
    · rw [World.step, (World.rests_act setup w a).access]
      exact h.usable
    · have hcalls : (w.act setup a).conn.calls = w.conn.calls := World.calls_act setup w a
      unfold Screened
      rw [World.step, hcalls]
      exact h.screened
  | poll n =>
    cases ht : w.task? n with
    | none => simpa only [World.step, ht] using h
    | some t =>
      rw [World.step_poll ht, World.conn_answer]
      exact Polled.ensures_const.mp (Polled.ensures_mono (fun _ _ h => h) (fun _ _ h => h.2)
        (fun _ h => h) ((carries hwilling t.caller).poll (hdirect n t ht) h))
  | drop n =>
    cases ht : w.task? n with
    | none => simpa only [World.step, ht] using h
    | some t =>
      rw [World.step_drop ht]
      exact (carries hwilling t.caller).drop (hdirect n t ht) h

end Connection.Orderly

end OneConnection
