import OneConnection.Proofs.Rules
import OneConnection.Proofs.World

/-!
# Facts that endure

Operations change a connection in small steps of few kinds. A fact that bears each kind bears every
operation. Only additions to the pending batch and changes of deferred batches stand apart.
-/

namespace OneConnection

variable {δ κ : Type}

/-- A fact of a connection that bears entries in the history, other than calls. -/
def Noted (I : Connection δ κ → Prop) : Prop :=
  ∀ conn event, event.call? = none → I conn → I (conn.record event)

/-- A fact that bears the small steps between two calls. -/
structure Quiet (I : Connection δ κ → Prop) : Prop where
  access : ∀ conn access, I conn → I (conn.setAccess access)
  hold : ∀ conn registry readers contexts, I conn → I { conn with registry, readers, contexts }
  note : Noted I
  count : ∀ conn f, I conn → I (conn.count f)

/-- A fact that also bears calls. -/
structure Endures [Cursor κ] (setup : Setup δ κ) (I : Connection δ κ → Prop) : Prop
    extends Quiet I where
  call : ∀ conn kind mode cs database, kind ≠ .batch → I conn →
    I { conn.recordCall kind mode cs with database }
  flush : ∀ conn mode, I conn → I (Flushing.begin setup mode conn).2

/-! ## Small steps -/

namespace Noted

variable {I : Connection δ κ → Prop} {conn : Connection δ κ}

theorem recordAll (h : Noted I) (events : List Event) (hcall : ∀ e ∈ events, e.call? = none)
    (hI : I conn) : I (conn.recordAll events) := by
  induction events generalizing conn with
  | nil => simpa [Connection.recordAll] using hI
  | cons e rest ih =>
    have := ih (fun x hx => hcall x (List.mem_cons_of_mem _ hx))
      (h conn e (hcall e List.mem_cons_self) hI)
    simpa [Connection.recordAll, Connection.record] using this

theorem warnAll {α : Type} (h : Noted I) (f : α → Warning) (xs : List α) (hI : I conn) :
    I (conn.recordAll (xs.map fun x => .warned (f x))) := by
  apply h.recordAll
  · intro e he
    obtain ⟨x, -, rfl⟩ := List.mem_map.mp he
    rfl
  · exact hI

theorem logCommand (h : Noted I) (setup : Setup δ κ) (c : Command) (hI : I conn) :
    I (conn.logCommand setup c) := by
  unfold Connection.logCommand
  split
  · exact h _ _ rfl hI
  · exact hI

theorem logBatch (h : Noted I) (setup : Setup δ κ) (log : BatchLog) (hI : I conn) :
    I (conn.logBatch setup log) := by
  unfold Connection.logBatch
  split
  · exact h _ _ rfl hI
  · exact hI

end Noted

namespace Quiet

variable {I : Connection δ κ → Prop} {conn : Connection δ κ}

theorem fetch {α : Type} (h : Quiet I) (place : Nat)
    (f : Reader κ → Fetch (Reader κ) α) (hI : I conn) : I (conn.fetch place f).2 :=
  h.hold conn _ _ _ hI

theorem register (h : Quiet I) (place : Nat) (hI : I conn) : I (conn.register place).2 := by
  unfold Connection.register
  exact h.hold conn _ _ _ hI

variable [Cursor κ]

theorem checkReaders (h : Quiet I) (hI : I conn) : I conn.checkReaders.2 :=
  h.note.warnAll (fun (x : ReaderId × Error) => .bufferingFailed x.1 x.2) _ (h.hold conn _ _ _ hI)

theorem beforeSingle (h : Quiet I) (setup : Setup δ κ) (c : Command) (hI : I conn) :
    I (conn.beforeSingle setup c).2 := by
  have hl := h.note.logCommand setup (setup.prepare c) (h.checkReaders hI)
  exact h.count _ (fun s => { s with roundTrips := s.roundTrips + 1 }) hl

theorem closeReader (h : Quiet I) (reader : Handle) (hI : I conn) :
    I (conn.closeReader reader) := h.hold conn _ _ _ hI

theorem dropCursor (h : Quiet I) (place : Nat) (hI : I conn) : I (conn.dropCursor place) :=
  h.hold conn _ _ _ hI

theorem dropReader (h : Quiet I) (reader : Handle) (hI : I conn) :
    I (conn.dropReader reader) := by
  unfold Connection.dropReader
  split
  · exact hI
  · exact h.dropCursor _ hI

theorem use (h : Quiet I) (place : Nat) (way : Use) (hI : I conn) :
    I (conn.use place way) := by
  cases way <;> exact h.hold conn _ _ _ hI

theorem disposeReaders (h : Quiet I) (strict : Bool) (hI : I conn) :
    I (conn.disposeReaders strict).2 := by
  simp only [Connection.disposeReaders]
  split
  · exact h.note.warnAll id _ (h.hold conn _ _ _ hI)
  · exact h.hold conn _ _ _ hI

theorem read (h : Quiet I) (caller : Caller) (errand : Errand) (reader : Handle)
    (hI : I conn) : I (Execution.read caller errand reader conn).2 := by
  unfold Execution.read
  split
  · exact h.closeReader _ hI
  · exact h.closeReader _ (h.hold _ _ _ _ hI)

/-- A flush takes the pending batch. If there is something to send, it gets ready and calls. -/
theorem flush (h : Quiet I) (setup : Setup δ κ) (mode : Mode) (J : Connection δ κ → Prop)
    (hempty : conn.pending.isEmpty = true → J conn.takePending.2)
    (hcall : conn.pending.isEmpty = false → ∀ ready database, I ready →
      J { ready.recordCall .batch mode conn.pending.commands with database })
    (hI : I conn.takePending.2) : J (Flushing.begin setup mode conn).2 := by
  unfold Flushing.begin
  dsimp only
  split
  · exact hempty ‹_›
  · rename_i hfull
    have hlog := h.note.logBatch setup conn.pending.log (h.checkReaders hI)
    have hready := h.count _
      (fun s => { s with flushes := s.flushes + 1, roundTrips := s.roundTrips + 1 }) hlog
    have hJ := fun database => hcall (eq_false_of_ne_true hfull) _ database hready
    split <;> exact hJ _

end Quiet

namespace Endures

variable [Cursor κ] {setup : Setup δ κ} {I : Connection δ κ → Prop} {conn : Connection δ κ}

/-! ## Calls -/

theorem call_keeps {β ρ : Type} (h : Endures setup I) {p : Protocol δ κ β ρ}
    (hb : ∀ conn, I conn → I (p.begin conn).2) (hf : ∀ b conn, I conn → I (p.finish b conn).2)
    (caller : Caller) (call : Call β) (hI : I conn) : I (p.poll caller call conn).2 := by
  have hp : p.Leads I (fun _ => I) (fun _ => I) I :=
    { fails := fun _ _ hc _ => hc
      begins := by
        intro conn hc _
        have := hb _ (h.access conn .held hc)
        revert this
        rcases p.begin (conn.setAccess .held) with ⟨_ | _ | _, conn'⟩ <;> intro this
        · exact this
        · exact h.access _ _ this
        · exact h.access _ _ this
      finishes := fun b conn hc => h.access _ _ (hf b conn hc) }
  have hcall : Call.Holds I (fun _ => I) call conn := by cases call <;> exact hI
  refine Polled.ensures_const.mp (Polled.ensures_mono (fun _ _ h => h) ?_ (fun _ h => h)
    (Protocol.poll_ensures hp caller call conn hcall))
  intro t conn ht
  cases t <;> exact ht

theorem call_drop {β ρ : Type} (h : Endures setup I) {p : Protocol δ κ β ρ}
    (hd : ∀ b conn, I conn → I (p.discard b conn)) (call : Call β) (hI : I conn) :
    I (p.drop call conn) := by
  cases call with
  | waiting => exact hI
  | sent polls b => exact h.access _ _ (hd b conn hI)

theorem flushing (h : Endures setup I) (caller : Caller) (call : Call Flushing.Sent)
    (hI : I conn) : I (Flushing.poll setup caller call conn).2 := by
  refine h.call_keeps (fun conn hI => h.flush conn _ hI) ?_ caller call hI
  intro sent conn hI
  simp only [Flushing.protocol, Flushing.finish, Flushing.verify]
  split
  · split
    · exact hI
    · exact h.note _ _ rfl hI
  · exact hI

theorem flushing_drop (h : Endures setup I) (caller : Caller) (call : Call Flushing.Sent)
    (hI : I conn) : I (Flushing.drop setup caller call conn) :=
  h.call_drop (fun _ _ hI => hI) call hI

/-- An addition also has to bear that a command becomes pending. -/
theorem adding (h : Endures setup I) (hpush : ∀ c conn, I conn → I (conn.push setup c).2)
    (caller : Caller) (state : Adding) (hI : I conn) : I (state.poll setup caller conn).2 := by
  cases state with
  | flushing call => exact h.flushing caller call hI
  | fresh c =>
    have hp := hpush c conn hI
    simp only [Adding.poll]
    split
    · exact hI
    · split <;> rename_i heq <;> rw [heq] at hp
      · exact h.flushing caller .waiting hp
      · exact hp

theorem adding_drop (h : Endures setup I) (caller : Caller) (state : Adding) (hI : I conn) :
    I (state.drop setup caller conn) := by
  cases state with
  | fresh c => exact hI
  | flushing call => exact h.flushing_drop caller call hI

theorem executing (h : Endures setup I) (caller : Caller) (c : Command)
    (call : Call Executing.Sent) (hI : I conn) : I (Executing.poll setup caller c call conn).2 := by
  refine h.call_keeps ?_ (fun _ _ hI => hI) caller call hI
  intro conn hI
  have hcall := fun database => h.call _ .nonQuery caller.mode [setup.prepare c] database
    (by decide) (h.beforeSingle setup c hI)
  simp only [Executing.protocol, Executing.begin]
  split <;> exact hcall _

theorem executing_drop (h : Endures setup I) (caller : Caller) (c : Command)
    (call : Call Executing.Sent) (hI : I conn) : I (Executing.drop setup caller c call conn) :=
  h.call_drop (fun _ _ hI => hI) call hI

theorem dispatch (h : Endures setup I) (caller : Caller) (c : Command) (hI : I conn) :
    I (Dispatch.run setup caller c conn).2 := by
  unfold Dispatch.run
  split
  · exact hI
  · exact hI
  · rename_i handler _ _
    have hcall := fun database => h.call conn .reader (Dispatch.mode caller handler) [c] database
      (by decide) hI
    dsimp only
    split
    · simp only [Dispatch.keep]
      split
      · exact h.hold _ _ _ _ (hcall _)
      · exact hcall _
      · exact hcall _
      · exact hcall _
    · exact hcall _

theorem opening (h : Endures setup I) (caller : Caller) (c : Command) (call : Call Opening.Sent)
    (hI : I conn) : I (Opening.poll setup caller c call conn).2 := by
  refine h.call_keeps ?_ ?_ caller call hI
  · intro conn hI
    have hr := h.dispatch caller (conn.beforeSingle setup c).1 (h.beforeSingle setup c hI)
    simp only [Opening.protocol, Opening.begin]
    split <;> rename_i heq <;> rw [heq] at hr <;> exact hr
  · intro sent conn hI
    simp only [Opening.protocol, Opening.finish]
    split
    · exact h.count _ (fun s => { s with readersOpened := s.readersOpened + 1 }) (h.register _ hI)
    all_goals exact hI

theorem discard (h : Endures setup I) (place : Outcome Nat) (hI : I conn) :
    I (Dispatch.discard place conn) := by
  unfold Dispatch.discard
  split
  · exact h.dropCursor _ hI
  · exact hI

theorem opening_drop (h : Endures setup I) (caller : Caller) (c : Command)
    (call : Call Opening.Sent) (hI : I conn) : I (Opening.drop setup caller c call conn) :=
  h.call_drop (fun _ _ hI => h.discard _ hI) call hI

theorem listing {α : Type} (h : Endures setup I) (caller : Caller) (c : Command)
    (decoder : RowDecoder α) (call : Call Opening.Sent) (hI : I conn) :
    I (Listing.poll setup caller c decoder call conn).2 := by
  have ho := h.opening caller c call hI
  unfold Listing.poll
  split <;> rename_i heq <;> rw [heq] at ho
  · exact ho
  · exact ho
  · exact h.closeReader _ (h.fetch _ _ ho)
  all_goals exact ho

theorem dispatching (h : Endures setup I) (caller : Caller) (d : Dispatching) (hI : I conn) :
    I (d.poll setup caller conn).2 := by
  have hanswer : ∀ polls place (conn : Connection δ κ), I conn →
      I (Dispatching.answer polls place conn).2 := by
    intro polls place conn hI
    unfold Dispatching.answer
    split
    · exact hI
    · exact h.dropCursor _ (h.fetch _ _ hI)
    all_goals exact hI
  cases d with
  | sent polls place => exact hanswer polls place conn hI
  | fresh c =>
    have hr := h.dispatch caller c hI
    simp only [Dispatching.poll]
    split <;> rename_i heq <;> rw [heq] at hr
    · exact hanswer _ _ _ hr
    all_goals exact hr

theorem dispatching_drop (h : Endures setup I) (d : Dispatching) (hI : I conn) :
    I (d.drop conn) := by
  cases d with
  | fresh c => exact hI
  | sent polls place => exact h.discard place hI

/-! ## Executions -/

theorem complete (h : Endures setup I) (caller : Caller) (errand : Errand) (opened : Outcome Handle)
    (hI : I conn) : I (Execution.complete caller errand opened conn).2 := by
  cases opened with
  | ok reader => exact h.read caller errand reader hI
  | error | cancelled | panicked => exact hI

theorem ask (h : Endures setup I) (caller : Caller) (errand : Errand) (call : Call Opening.Sent)
    (hI : I conn) : I (Execution.ask setup caller errand call conn).2 := by
  have ho := h.opening caller errand.command call hI
  unfold Execution.ask
  split <;> rename_i heq <;> rw [heq] at ho
  · exact ho
  · exact ho
  · exact h.complete caller errand _ ho

theorem execution_leads (h : Endures setup I) (caller : Caller) :
    Execution.Leads setup caller (fun _ _ _ _ => I) (fun _ _ => I) (fun _ => I) I where
  begins _ _ _ _ hI := hI
  asks errand rest done call conn hI := by
    refine Polled.ensures_mono ?_ (fun _ _ h => h) (fun _ h => h)
      (Polled.ensures_const.mpr (h.ask caller errand call hI))
    intro sets conn hI
    cases sets <;> exact hI

theorem execution (h : Endures setup I) (caller : Caller) (errands : List Errand)
    (done : List ResultSet) (hI : I conn) :
    I (Execution.run setup caller errands done conn).2 := by
  refine Polled.ensures_const.mp (Polled.ensures_mono ?_ (fun _ _ h => h) (fun _ h => h)
    (Execution.run_ensures (h.execution_leads caller) errands done conn hI))
  intro r conn hr
  cases r <;> exact hr

theorem execution_resume (h : Endures setup I) (caller : Caller) (e : Execution) (hI : I conn) :
    I (e.resume setup caller conn).2 := by
  refine Polled.ensures_const.mp (Polled.ensures_mono ?_ (fun _ _ h => h) (fun _ h => h)
    (Execution.resume_ensures (h.execution_leads caller) e conn hI))
  intro r conn hr
  cases r <;> exact hr

theorem execution_drop (h : Endures setup I) (caller : Caller) (e : Execution) (hI : I conn) :
    I (e.drop setup caller conn) := h.opening_drop caller _ _ hI

/-! ## Views -/

/-- A view also has to bear that deferred batches change. -/
theorem viewing (h : Endures setup I) (hdefer : ∀ conn deferred, I conn → I { conn with deferred })
    (caller : Caller) (batch index : Nat) (view : Viewing) (hI : I conn) :
    I (view.poll setup caller batch index conn).2 := by
  have hproceed : ∀ x : Polled Execution (Except Stop (List ResultSet)) × Connection δ κ,
      I x.2 → I (Viewing.proceed batch index x).2 := by
    rintro ⟨r | e | message, conn⟩ hI
    · rcases r with (reason | why) | sets <;> exact hdefer _ _ hI
    · exact hI
    · exact hdefer _ _ hI
  unfold Viewing.poll
  cases view.turn caller batch conn with
  | refused | lost | recalls | waits => exact hI
  | starts b => exact hproceed _ (h.execution caller _ _ (hdefer _ _ hI))
  | resumes e => exact hproceed _ (h.execution_resume caller e hI)

theorem viewing_drop (h : Endures setup I)
    (hdefer : ∀ conn deferred, I conn → I { conn with deferred }) (caller : Caller) (batch : Nat)
    (view : Viewing) (hI : I conn) : I (view.drop setup caller batch conn) := by
  cases view with
  | fresh | awaiting => exact hI
  | running e => exact hdefer _ _ (h.execution_drop caller e hI)

/-! ## Operations -/

/-- An operation has to bear additions and changes of deferred batches besides. -/
theorem poll {ρ : Type} (h : Endures setup I) (hpush : ∀ c conn, I conn → I (conn.push setup c).2)
    (hdefer : ∀ conn deferred, I conn → I { conn with deferred }) (caller : Caller)
    (operation : Operation ρ) (hI : I conn) : I (operation.poll setup caller conn).2 := by
  cases operation with
  | adding state => exact h.adding hpush caller state hI
  | flushing call => exact h.flushing caller call hI
  | executing c call => exact h.executing caller c call hI
  | opening c call => exact h.opening caller c call hI
  | listing c decoder call => exact h.listing caller c decoder call hI
  | viewing batch index project view => exact h.viewing hdefer caller batch index view hI
  | dispatching state => exact h.dispatching caller state hI

theorem drop {ρ : Type} (h : Endures setup I)
    (hdefer : ∀ conn deferred, I conn → I { conn with deferred }) (caller : Caller)
    (operation : Operation ρ) (hI : I conn) : I (operation.drop setup caller conn) := by
  cases operation with
  | adding state => exact h.adding_drop caller state hI
  | flushing call => exact h.flushing_drop caller call hI
  | executing c call => exact h.executing_drop caller c call hI
  | opening c call => exact h.opening_drop caller c call hI
  | listing c decoder call => exact h.opening_drop caller c call hI
  | viewing batch index project view => exact h.viewing_drop hdefer caller batch view hI
  | dispatching state => exact h.dispatching_drop state hI

end Endures

end OneConnection
