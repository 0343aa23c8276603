import OneConnection.Proofs.Flights
import OneConnection.Proofs.Statistics.Counting

/-!
# Counting operations

What a whole operation does to the statistics. A round trip is counted before the driver is called for
a reader, and the call is not made if its caller turns out to be cancelled, or if no handler accepts
the command with its time limit. Nothing else is counted wrongly.
-/

namespace OneConnection

variable {δ κ : Type}

/-! ## Readers that are handed out -/

def Outcome.opened (o : Outcome Handle) : Nat := o.value?.toList.length

def Begun.opened {β ρ : Type} (opened : Outcome ρ → Nat) : Begun β ρ → Nat
  | .settled outcome => opened outcome
  | _ => 0

def Polled.opened {τ α : Type} (opened : α → Nat) : Polled τ α → Nat
  | .ready a => opened a
  | _ => 0

@[simp] theorem Polled.opened_zero {τ α : Type} (x : Polled τ α) : x.opened (fun _ => 0) = 0 := by
  cases x <;> rfl

variable [Cursor κ]

/-- The readers that a poll of an opening hands out. -/
def Opening.opened (setup : Setup δ κ) (caller : Caller) (c : Command) (call : Call Opening.Sent)
    (conn : Connection δ κ) : Nat :=
  (Opening.poll setup caller c call conn).1.opened Outcome.opened

namespace Execution

/-- The readers that errands hand out when they are run. -/
def opened (setup : Setup δ κ) (caller : Caller) : List Errand → Connection δ κ → Nat
  | [], _ => 0
  | errand :: rest, conn =>
    Opening.opened setup caller errand.command .waiting conn +
      match ask setup caller errand .waiting conn with
      | (.ready (.ok _), conn) => opened setup caller rest conn
      | _ => 0

/-- The readers that an execution hands out when it goes on. -/
def openedOn (setup : Setup δ κ) (caller : Caller) (e : Execution) (conn : Connection δ κ) : Nat :=
  Opening.opened setup caller e.errand.command e.call conn +
    match ask setup caller e.errand e.call conn with
    | (.ready (.ok _), conn) => opened setup caller e.rest conn
    | _ => 0

end Execution

def Viewing.opened (setup : Setup δ κ) (caller : Caller) (batch : Nat) (view : Viewing)
    (conn : Connection δ κ) : Nat :=
  match view.turn caller batch conn with
  | .starts b =>
    Execution.opened setup caller (b.errands setup.driver.capabilities.multipleQueries)
      (conn.updateBatch batch .start)
  | .resumes e => e.openedOn setup caller conn
  | _ => 0

/-- The readers that a poll hands out, to the caller or to what reads for the caller. -/
def Operation.opened {ρ : Type} (setup : Setup δ κ) (caller : Caller) (conn : Connection δ κ) :
    Operation ρ → Nat
  | .opening c call => Opening.opened setup caller c call conn
  | .listing c _ call => Opening.opened setup caller c call conn
  | .viewing batch _ _ view => view.opened setup caller batch conn
  | _ => 0

/-! ## Operations -/

/-- How the counters stand after an operation of `caller` that has accepted `k` commands and has handed
out `n` readers. The round trips may get ahead of the calls, and do so at most once and because the
caller was cancelled meanwhile, as long as commands are accepted with their time limit. -/
structure Counts (setup : Setup δ κ) (caller : Caller) (k n : Nat) (conn conn' : Connection δ κ) :
    Prop where
  batched : conn'.standing.batched = conn.standing.batched + k
  opened : conn'.standing.opened = conn.standing.opened + n
  flushes : conn'.standing.flushes = conn.standing.flushes
  behind : conn.standing.trips ≤ conn'.standing.trips
  ahead : setup.Steady → conn'.standing.trips + caller.cancelled conn.contexts ≤
    conn.standing.trips + caller.cancelled conn'.contexts

namespace Counts

variable {setup : Setup δ κ} {caller : Caller} {k n l m : Nat} {conn conn' conn'' : Connection δ κ}

omit [Cursor κ]

theorem of_right (h : CountsRight caller conn conn') : Counts setup caller 0 0 conn conn' := by
  refine ⟨congrArg Standing.batched h.standing, congrArg Standing.opened h.standing,
    congrArg Standing.flushes h.standing, ?_, fun _ => ?_⟩
  · exact Int.le_of_eq (congrArg Standing.trips h.standing.symm)
  · rw [h.standing]
    exact Int.add_le_add_left (Int.ofNat_le.mpr h.cancelled) _

theorem refl (conn : Connection δ κ) : Counts setup caller 0 0 conn conn := of_right (.refl conn)

theorem trans (h : Counts setup caller k n conn conn') (h' : Counts setup caller l m conn' conn'') :
    Counts setup caller (k + l) (n + m) conn conn'' where
  batched := by rw [h'.batched, h.batched, Nat.add_assoc]
  opened := by rw [h'.opened, h.opened, Nat.add_assoc]
  flushes := h'.flushes.trans h.flushes
  behind := Int.le_trans h.behind h'.behind
  ahead hsteady := by
    have := h.ahead hsteady
    have := h'.ahead hsteady
    omega

theorem after (h : CountsRight caller conn conn') (h' : Counts setup caller k n conn' conn'') :
    Counts setup caller k n conn conn'' := by
  simpa using (of_right h).trans h'

theorem before (h : Counts setup caller k n conn conn') (h' : CountsRight caller conn' conn'') :
    Counts setup caller k n conn conn'' :=
  h.trans (of_right h')

/-- A round trip that comes to nothing. -/
theorem trip (h : CountsRight caller conn conn')
    (hwhy : setup.Steady → caller.cancelled conn.contexts < caller.cancelled conn'.contexts) :
    Counts setup caller 0 0 conn conn'.trip := by
  have hstanding : conn'.trip.standing =
      { conn'.standing with trips := conn'.standing.trips + 1 } := Connection.standing_trip
  rw [h.standing] at hstanding
  refine ⟨?_, ?_, ?_, ?_, fun hsteady => ?_⟩ <;> rw [hstanding]
  · rfl
  · rfl
  · dsimp only
    omega
  · have := hwhy hsteady
    show _ ≤ conn.standing.trips + caller.cancelled conn'.contexts
    dsimp only
    omega

theorem push (setup : Setup δ κ) (c : Command) (conn : Connection δ κ) :
    Counts setup caller 1 0 conn (conn.push setup c).2 :=
  ⟨rfl, rfl, rfl, Int.le_refl _, fun _ => Int.le_refl _⟩

theorem register (place : Nat) (conn : Connection δ κ) :
    Counts setup caller 0 1 conn ((conn.register place).2.count fun s =>
      { s with readersOpened := s.readersOpened + 1 }) :=
  ⟨rfl, rfl, rfl, Int.le_refl _, fun _ => Int.le_refl _⟩

end Counts

/-! ### Calls -/

namespace Protocol

variable {β ρ : Type} {setup : Setup δ κ} {caller : Caller} {p : Protocol δ κ β ρ}
  {opened : Outcome ρ → Nat}

omit [Cursor κ]

theorem answer_counts
    (hfinish : ∀ b conn, Counts setup caller 0 (opened (p.finish b conn).1) conn (p.finish b conn).2)
    (polls : Nat) (b : β) (conn : Connection δ κ) :
    Counts setup caller 0 ((p.answer polls b conn).1.opened opened) conn
      (p.answer polls b conn).2 := by
  cases polls with
  | zero => exact (hfinish b conn).before (.setAccess _ _)
  | succ n => exact .refl conn

/-- A call begins only for a caller that is not cancelled and with what it needs. -/
theorem poll_counts (hfails : ∀ o, o.isFailure → opened o = 0)
    (hbegin : ∀ conn, caller.cancelReason? conn.contexts = none → p.admission = .ok () →
      Counts setup caller 0 ((p.begin conn).1.opened opened) conn (p.begin conn).2)
    (hfinish : ∀ b conn, Counts setup caller 0 (opened (p.finish b conn).1) conn (p.finish b conn).2)
    (call : Call β) (conn : Connection δ κ) :
    Counts setup caller 0 ((p.poll caller call conn).1.opened opened) conn
      (p.poll caller call conn).2 := by
  cases call with
  | sent polls b => exact answer_counts hfinish polls b conn
  | waiting =>
    have hfailed {o : Outcome ρ} (ho : o.isFailure) :
        Counts setup caller 0 (opened o) conn conn := by
      rw [hfails o ho]
      exact .refl conn
    simp only [poll]
    split
    · exact hfailed rfl
    · exact hfailed rfl
    · exact hfailed rfl
    · exact .refl conn
    · rename_i hcaller hadmission _
      have hbegun := hbegin (conn.setAccess .held) hcaller hadmission
      rw [start_eq]
      refine .after (.setAccess .held conn) ?_
      rcases hx : p.begin (conn.setAccess .held) with ⟨⟨polls, b⟩ | outcome | message, conn'⟩ <;>
        rw [hx] at hbegun
      · have hsent : Counts setup caller 0 0 (conn.setAccess .held) conn' := hbegun
        have hanswer := hsent.trans (answer_counts hfinish polls b conn')
        simp only [Nat.zero_add] at hanswer
        exact hanswer
      · exact hbegun.before (.setAccess _ _)
      · exact hbegun.before (.setAccess _ _)

/-- A call that hands out no readers and counts right counts right at every poll. -/
theorem poll_counts_none (hbegin : ∀ conn, CountsRight caller conn (p.begin conn).2)
    (hfinish : ∀ b conn, CountsRight caller conn (p.finish b conn).2) (call : Call β)
    (conn : Connection δ κ) : Counts setup caller 0 0 conn (p.poll caller call conn).2 := by
  have hbegun (conn : Connection δ κ) :
      Counts setup caller 0 ((p.begin conn).1.opened fun _ => 0) conn (p.begin conn).2 := by
    have hright := hbegin conn
    rcases hx : p.begin conn with ⟨_ | _ | _, conn'⟩ <;> rw [hx] at hright <;>
      exact .of_right hright
  have hpoll : Counts setup caller 0 ((p.poll caller call conn).1.opened fun _ => 0) conn
      (p.poll caller call conn).2 :=
    poll_counts (fun _ _ => rfl) (fun conn _ _ => hbegun conn)
      (fun b conn => .of_right (hfinish b conn)) call conn
  rw [Polled.opened_zero] at hpoll
  exact hpoll

theorem drop_counts (hdiscard : ∀ b conn, CountsRight caller conn (p.discard b conn))
    (call : Call β) (conn : Connection δ κ) : CountsRight caller conn (p.drop call conn) := by
  cases call with
  | waiting => exact .refl conn
  | sent polls b => exact (hdiscard b conn).trans (.setAccess _ _)

end Protocol

variable {setup : Setup δ κ} {caller : Caller}

theorem Flushing.poll_counts (call : Call Flushing.Sent) (conn : Connection δ κ) :
    Counts setup caller 0 0 conn (Flushing.poll setup caller call conn).2 := by
  refine Protocol.poll_counts_none (fun conn => .flush setup _ conn) (fun sent conn => ?_) call conn
  simp only [Flushing.protocol, Flushing.finish, Flushing.verify]
  split
  · split
    · exact .refl conn
    · exact CountsRight.noted conn _ _ rfl (.refl conn)
  · exact .refl conn

theorem Adding.poll_counts {ρ : Type} (state : Adding) (conn : Connection δ κ) :
    Counts setup caller ((Operation.adding state : Operation ρ).accepts setup caller conn).length 0
      conn (state.poll setup caller conn).2 := by
  cases state with
  | flushing call => exact Flushing.poll_counts call conn
  | fresh c =>
    have hpush : Counts setup caller 1 0 conn (conn.push setup c).2 := .push setup c conn
    cases hcaller : caller.cancelReason? conn.contexts with
    | some reason =>
      simp only [poll, Operation.accepts, hcaller]
      exact .refl conn
    | none =>
      simp only [poll, Operation.accepts, hcaller]
      split <;> rename_i heq <;> rw [heq] at hpush
      · exact hpush.trans (Flushing.poll_counts .waiting _)
      · exact hpush

theorem Executing.poll_counts (c : Command) (call : Call Executing.Sent) (conn : Connection δ κ) :
    Counts setup caller 0 0 conn (Executing.poll setup caller c call conn).2 := by
  refine Protocol.poll_counts_none (fun conn => ?_) (fun _ conn => .refl conn) call conn
  show CountsRight caller conn (Executing.begin setup caller.mode c conn).2
  rw [Executing.begin_eq]
  exact ((CountsRight.single setup c conn).trans (.call (by decide) _ _ _)).trans (.ofPromise _ _ _)

/-- A round trip for a reader was counted. The driver is called, unless the caller was cancelled or
no handler accepts the command as it is now. -/
theorem Dispatch.run_counts {c : Command} {conn conn' : Connection δ κ}
    (h : CountsRight caller conn conn') (hcaller : caller.cancelReason? conn.contexts = none)
    (hselect : setup.Steady → ∃ handler, setup.chain.select c = .ok handler) :
    Counts setup caller 0 0 conn (run setup caller c conn'.trip).2 := by
  cases hcancel : caller.cancelReason? conn'.trip.contexts with
  | some reason =>
    simp only [run, hcancel]
    refine .trip h fun _ => ?_
    have hone : caller.cancelled conn'.contexts = 1 := Caller.cancelled_eq_one hcancel
    rw [Caller.cancelled_eq_zero hcaller, hone]
    exact Nat.one_pos
  | none =>
    cases hchoice : setup.chain.select c with
    | error why =>
      simp only [run, hcancel, hchoice]
      refine .trip h fun hsteady => ?_
      obtain ⟨handler, hok⟩ := hselect hsteady
      rw [hchoice] at hok
      cases hok
    | ok handler =>
      rw [run_eq hcancel hchoice]
      exact .of_right ((h.trans (.call (by decide) _ _ _)).trans (.afterCall _ _))

namespace Opening

theorem begin_counts {c : Command} {handler : Handler} {conn : Connection δ κ}
    (hcaller : caller.cancelReason? conn.contexts = none)
    (hselect : setup.chain.select c = .ok handler) :
    Counts setup caller 0 ((begin setup caller c conn).1.opened Outcome.opened) conn
      (begin setup caller c conn).2 := by
  have hrun : Counts setup caller 0 0 conn (Dispatch.run setup caller (setup.prepare c)
      (conn.beforeSingle setup c).2).2 :=
    Dispatch.run_counts (.single setup c conn) hcaller fun hsteady => hsteady c handler hselect
  rw [begin_eq]
  rcases hx : Dispatch.run setup caller (setup.prepare c) (conn.beforeSingle setup c).2 with
    ⟨_ | _ | _ | _, conn'⟩ <;> rw [hx] at hrun <;> exact hrun

omit [Cursor κ] in
theorem finish_counts (sent : Sent) (conn : Connection δ κ) :
    Counts setup caller 0 (finish sent conn).1.opened conn (finish sent conn).2 := by
  unfold finish
  split
  · exact .register _ conn
  · exact .refl conn
  · exact .refl conn
  · exact .refl conn

theorem poll_counts (c : Command) (call : Call Sent) (conn : Connection δ κ) :
    Counts setup caller 0 (opened setup caller c call conn) conn
      (poll setup caller c call conn).2 := by
  refine Protocol.poll_counts ?_ (fun conn hcaller hadmission => ?_) finish_counts call conn
  · rintro (_ | _ | _ | _) ho
    · cases ho
    · rfl
    · rfl
    · rfl
  · cases hselect : setup.chain.select c with
    | ok handler => exact begin_counts hcaller hselect
    | error why =>
      simp only [protocol, hselect] at hadmission
      cases hadmission

theorem drop_counts (c : Command) (call : Call Sent) (conn : Connection δ κ) :
    CountsRight caller conn (drop setup caller c call conn) :=
  Protocol.drop_counts (fun sent conn => .discard sent.place conn) call conn

end Opening

theorem Listing.poll_counts {α : Type} (c : Command) (decoder : RowDecoder α)
    (call : Call Opening.Sent) (conn : Connection δ κ) :
    Counts setup caller 0 (Opening.opened setup caller c call conn) conn
      (Listing.poll setup caller c decoder call conn).2 := by
  have hopening : Counts setup caller 0 (Opening.opened setup caller c call conn) conn
      (Opening.poll setup caller c call conn).2 := Opening.poll_counts c call conn
  rw [Listing.poll_eq]
  rcases hx : Opening.poll setup caller c call conn with ⟨outcome | call | message, conn'⟩ <;>
    rw [hx] at hopening
  · cases outcome with
    | ok h => exact hopening.before (.decode decoder h conn')
    | error | cancelled | panicked => exact hopening
  · exact hopening
  · exact hopening

/-! ### Executions and views -/

namespace Execution

theorem ask_counts (errand : Errand) (call : Call Opening.Sent) (conn : Connection δ κ) :
    Counts setup caller 0 (Opening.opened setup caller errand.command call conn) conn
      (ask setup caller errand call conn).2 := by
  have hopening : Counts setup caller 0 (Opening.opened setup caller errand.command call conn) conn
      (Opening.poll setup caller errand.command call conn).2 :=
    Opening.poll_counts errand.command call conn
  rw [ask_eq]
  rcases hx : Opening.poll setup caller errand.command call conn with
    ⟨outcome | call | message, conn'⟩ <;> rw [hx] at hopening
  · exact hopening.before (.complete errand outcome conn')
  · exact hopening
  · exact hopening

/-- The errands count one after the other. -/
theorem run_counts (errands : List Errand) (done : List ResultSet) (conn : Connection δ κ) :
    Counts setup caller 0 (opened setup caller errands conn) conn
      (run setup caller errands done conn).2 := by
  induction errands generalizing done conn with
  | nil => exact .refl conn
  | cons errand rest ih =>
    have hask : Counts setup caller 0 _ conn (ask setup caller errand .waiting conn).2 :=
      ask_counts errand .waiting conn
    rw [run_cons, opened]
    rcases hx : ask setup caller errand .waiting conn with ⟨(stop | sets) | call | message, conn'⟩ <;>
      rw [hx] at hask
    · exact hask
    · exact hask.trans (ih _ conn')
    · exact hask
    · exact hask

theorem resume_counts (e : Execution) (conn : Connection δ κ) :
    Counts setup caller 0 (e.openedOn setup caller conn) conn (e.resume setup caller conn).2 := by
  obtain ⟨errand, call, rest, done⟩ := e
  have hask : Counts setup caller 0 _ conn (ask setup caller errand call conn).2 :=
    ask_counts errand call conn
  rw [resume_eq, openedOn]
  dsimp only
  rcases hx : ask setup caller errand call conn with ⟨(stop | sets) | call | message, conn'⟩ <;>
    rw [hx] at hask
  · exact hask
  · exact hask.trans (run_counts rest _ conn')
  · exact hask
  · exact hask

end Execution

namespace Viewing

omit [Cursor κ] in
theorem proceed_counts (batch index : Nat) {n : Nat} {conn : Connection δ κ}
    {x : Polled Execution (Except Stop (List ResultSet)) × Connection δ κ}
    (h : Counts setup caller 0 n conn x.2) :
    Counts setup caller 0 n conn (proceed batch index x).2 := by
  obtain ⟨r | e | message, conn'⟩ := x
  · rcases r with (reason | why) | sets <;> exact h.before (.defer _ _)
  · exact h
  · exact h.before (.defer _ _)

theorem poll_counts (batch index : Nat) (view : Viewing) (conn : Connection δ κ) :
    Counts setup caller 0 (view.opened setup caller batch conn) conn
      (view.poll setup caller batch index conn).2 := by
  unfold poll opened
  cases view.turn caller batch conn with
  | refused | lost | recalls | waits => exact .refl conn
  | starts b =>
    exact proceed_counts batch index (.after (.defer _ conn) (Execution.run_counts _ _ _))
  | resumes e => exact proceed_counts batch index (Execution.resume_counts e conn)

theorem drop_counts (batch : Nat) (view : Viewing) (conn : Connection δ κ) :
    CountsRight caller conn (view.drop setup caller batch conn) := by
  cases view with
  | fresh | awaiting => exact .refl conn
  | running e => exact (Opening.drop_counts _ _ conn).trans (.defer _ _)

end Viewing

/-! ### All operations -/

namespace Operation

variable {ρ : Type}

/-- Only what goes to the driver directly is not counted. -/
theorem poll_counts {operation : Operation ρ} (hdirect : operation.isDirect = false)
    (conn : Connection δ κ) :
    Counts setup caller (operation.accepts setup caller conn).length
      (operation.opened setup caller conn) conn (operation.poll setup caller conn).2 := by
  cases operation with
  | adding state => exact Adding.poll_counts state conn
  | flushing call => exact Flushing.poll_counts call conn
  | executing c call => exact Executing.poll_counts c call conn
  | opening c call => exact Opening.poll_counts c call conn
  | listing c decoder call => exact Listing.poll_counts c decoder call conn
  | viewing batch index project view => exact Viewing.poll_counts batch index view conn
  | dispatching state => cases hdirect

theorem drop_counts (operation : Operation ρ) (conn : Connection δ κ) :
    CountsRight caller conn (operation.drop setup caller conn) := by
  have hflushing (call : Call Flushing.Sent) :
      CountsRight caller conn (Flushing.drop setup caller call conn) :=
    Protocol.drop_counts (fun _ conn => .refl conn) call conn
  cases operation with
  | adding state =>
    cases state with
    | fresh c => exact .refl conn
    | flushing call => exact hflushing call
  | flushing call => exact hflushing call
  | executing c call => exact Protocol.drop_counts (fun _ conn => .refl conn) call conn
  | opening c call => exact Opening.drop_counts c call conn
  | listing c decoder call => exact Opening.drop_counts c call conn
  | viewing batch index project view => exact Viewing.drop_counts batch view conn
  | dispatching state =>
    cases state with
    | fresh c => exact .refl conn
    | sent polls place => exact .discard place conn

end Operation

end OneConnection
