import OneConnection.Proofs.Logging.Muting

/-!
# Logging changes nothing

Two runs of the same steps that differ in what is logged, and in who listens, tell their callers the
same and come to the same world, but for what was logged.
-/

namespace OneConnection

variable {δ κ ρ : Type}

/-! ## What steps tell -/

/-- What whoever takes a step is told. -/
inductive Told (ρ : Type)
  | nothing
  /-- The answer of an operation, that it has none yet, or that it crashed. -/
  | polled (x : Polled Unit (Outcome (Reply ρ)))
  | registered (batch index : Nat)
  | created (batch : Nat)
  /-- The index of a query in its batch, if the batch took it. -/
  | added (index : Option Nat)
  | row (x : Except Error (Option Row))
  /-- Whether a reader moved to another result set, or into memory. -/
  | moved (x : Except Error Bool)
  | counted (readers : Nat)
  | disposed (x : Except Error Unit)

namespace World

variable [Cursor κ]

def usesTell (place : Nat) (conn : Connection δ κ) : Use → Told ρ
  | .nextRow => .row (conn.fetch place Reader.nextRow).1
  | .nextResult => .moved (conn.fetch place Reader.nextResult).1
  | .buffer => .moved (conn.fetch place Reader.readIntoMemory).1
  | .close => .nothing

def actTells (setup : Setup δ κ) (w : World δ κ ρ) : Act → Told ρ
  | .register q => .registered (w.session.register q w.conn).1.1 (w.session.register q w.conn).1.2
  | .newBatch => .created w.conn.newBatch.1
  | .addQuery batch q => .added ((w.conn.addQuery batch q).map (·.1))
  | .use h way => if h ∈ w.held then usesTell h.place w.conn way else .nothing
  | .checkReaders => .counted w.conn.checkReaders.1
  | .closeAllReaders => .counted w.conn.closeAllReaders.1
  | .dispose => .disposed (w.conn.dispose setup).1
  | .close => .disposed (w.session.close setup w.conn).1
  | .cancel _ | .revive _ | .closeReader _ | .dropReader _ | .abandon => .nothing

def tells (setup : Setup δ κ) (w : World δ κ ρ) : Step ρ → Told ρ
  | .ask .. | .drop _ => .nothing
  | .poll n =>
    match w.task? n with
    | some t => .polled ((t.operation.poll setup t.caller w.conn).1.within fun _ => ())
    | none => .nothing
  | .act a => w.actTells setup a

/-- What the steps of a run tell, from the first to the last. -/
def told (setup : Setup δ κ) : World δ κ ρ → List (Step ρ) → List (Told ρ)
  | _, [] => []
  | w, s :: rest => w.tells setup s :: told setup (w.step setup s) rest

end World

/-! ## Muted runs -/

def Task.mute (t : Task ρ) : Task ρ := { t with operation := t.operation.mute }

namespace World

/-- The world as if nothing had been logged. -/
def mute (w : World δ κ ρ) : World δ κ ρ :=
  { w with conn := w.conn.mute, tasks := w.tasks.map (Option.map Task.mute) }

variable {w : World δ κ ρ}

theorem task?_mute (n : Nat) : w.mute.task? n = (w.task? n).map Task.mute := by
  unfold task? mute
  rw [List.getElem?_map]
  cases w.tasks[n]? with
  | none => rfl
  | some t => cases t <;> rfl

theorem start_mute (request : Request ρ) : request.start.mute = request.start := by
  cases request <;> rfl

variable [Cursor κ]

theorem actTells_mute (setup : Setup δ κ) (w : World δ κ ρ) (a : Act) :
    w.mute.actTells setup.mute a = w.actTells setup a := by
  have hstrict : setup.mute.settings.strictLeaks = setup.settings.strictLeaks := rfl
  cases a with
  | cancel | revive | newBatch | closeReader | dropReader | closeAllReaders | abandon => rfl
  | register q =>
    have h := Veil.log.register q w.session w.conn
    exact congrArg (fun r => Told.registered r.1.1 r.1.2) h
  | addQuery batch q =>
    have h := Veil.log.addQuery batch q w.conn
    refine (congrArg (fun r => Told.added (r.map Prod.fst)) h).trans ?_
    simp only [actTells, Option.map_map, Function.comp_def]
  | use h way => cases way <;> rfl
  | checkReaders => exact congrArg (fun r => Told.counted r.1) (Veil.log.checkReaders w.conn)
  | dispose | close =>
    exact congrArg (fun r => Told.disposed r.1) (Veil.log.dispose hstrict w.conn)

theorem tells_mute (setup : Setup δ κ) (w : World δ κ ρ) (s : Step ρ) :
    w.mute.tells setup.mute s = w.tells setup s := by
  cases s with
  | ask | drop => rfl
  | act a => exact actTells_mute setup w a
  | poll n =>
    simp only [tells, task?_mute]
    cases w.task? n with
    | none => rfl
    | some t =>
      have hpoll := t.operation.poll_mute setup t.caller w.conn
      dsimp only [Option.map_some]
      refine (congrArg (fun r => Told.polled (r.1.within fun _ => ())) hpoll).trans ?_
      rcases t.operation.poll setup t.caller w.conn with ⟨_ | _ | _, conn⟩ <;> rfl

omit [Cursor κ] in
theorem answer_mute (n : Nat) (caller : Caller) (w : World δ κ ρ)
    (x : Polled (Operation ρ) (Outcome (Reply ρ)) × Connection δ κ) :
    w.mute.answer n caller (x.1.within Operation.mute, x.2.mute) =
      (w.answer n caller x).mute := by
  obtain ⟨_ | _ | _, conn⟩ := x
  all_goals
    simp only [Polled.within, answer, mute, List.map_set]
    rfl

theorem step_mute (setup : Setup δ κ) (w : World δ κ ρ) (s : Step ρ) :
    w.mute.step setup.mute s = (w.step setup s).mute := by
  cases s with
  | ask caller request =>
    simp only [step, mute, List.map_append, List.map_cons, List.map_nil, Option.map_some, Task.mute,
      start_mute]
  | poll n =>
    simp only [step, task?_mute]
    cases w.task? n with
    | none => rfl
    | some t =>
      dsimp only [Option.map_some]
      rw [← answer_mute, ← Operation.poll_mute]
      rfl
  | drop n =>
    simp only [step, task?_mute]
    cases w.task? n with
    | none => rfl
    | some t =>
      have hdrop := t.operation.drop_mute setup t.caller w.conn
      simp only [Option.map_some, mute, List.map_set, Option.map_none, Task.mute, hdrop]
  | act a =>
    have hstrict : setup.mute.settings.strictLeaks = setup.settings.strictLeaks := rfl
    have hact := Veil.log.act hstrict w (w.tasks.map (Option.map Task.mute)) a
    have htasks : (w.act setup a).tasks = w.tasks := w.tasks_act a
    refine Eq.trans hact ?_
    rw [← htasks]
    rfl

theorem run_mute (setup : Setup δ κ) (w : World δ κ ρ) (steps : List (Step ρ)) :
    w.mute.run setup.mute steps = (w.run setup steps).mute := by
  induction steps generalizing w with
  | nil => rfl
  | cons s rest ih =>
    rw [run_cons, run_cons, step_mute]
    exact ih _

theorem told_mute (setup : Setup δ κ) (w : World δ κ ρ) (steps : List (Step ρ)) :
    w.mute.told setup.mute steps = w.told setup steps := by
  induction steps generalizing w with
  | nil => rfl
  | cons s rest ih =>
    unfold told
    rw [tells_mute, step_mute, ih]

omit [Cursor κ] in
theorem calls_mute (w : World δ κ ρ) : w.mute.calls = w.calls := by
  have hcalls : ∀ e : Event, (if (!e.isLogged) = true then e.call? else none) = e.call? := by
    intro e
    cases e <;> rfl
  simp only [calls, Connection.calls, mute, Connection.mute, List.filterMap_filter, hcalls]

/-- Whether statements are announced, how they are laid out and who listens makes no difference in
any run: everybody is told the same, the driver gets the same calls, and what they leave behind is
the same, but for the log. -/
theorem logging_changes_nothing (setup : Setup δ κ) (logSql formatSql : Bool)
    (verbosity : Verbosity) (database : δ) (steps : List (Step ρ)) :
    let other : Setup δ κ :=
      { setup with settings := { setup.settings with logSql, formatSql }, verbosity }
    let v := (create setup database : World δ κ ρ).run setup steps
    let w := (create other database : World δ κ ρ).run other steps
    (create other database : World δ κ ρ).told other steps =
      (create setup database : World δ κ ρ).told setup steps ∧
    w.mute = v.mute ∧ w.calls = v.calls ∧
    w.conn.pending.commands = v.conn.pending.commands ∧
    w.conn.pending.expectedRows = v.conn.pending.expectedRows ∧
    w.conn.pending.isChecked = v.conn.pending.isChecked ∧
    w.conn.stats = v.conn.stats ∧ w.conn.registry = v.conn.registry ∧
    w.conn.readers = v.conn.readers ∧ w.conn.deferred = v.conn.deferred := by
  intro other v w
  -- Both worlds are muted to the same one.
  have hsame : w.mute = v.mute := (run_mute other _ steps).symm.trans (run_mute setup _ steps)
  have hcalls : w.calls = v.calls := by
    rw [← calls_mute, hsame, calls_mute]
  have htold := (told_mute other (create other database) steps).symm.trans
    (told_mute setup (create setup database) steps)
  have hconn : w.conn.mute = v.conn.mute := congrArg World.conn hsame
  have hpending : w.conn.pending.mute = v.conn.pending.mute := congrArg Connection.pending hconn
  exact ⟨htold, hsame, hcalls, (congrArg PendingBatch.commands hpending :),
    (congrArg PendingBatch.expectedRows hpending :), (congrArg PendingBatch.isChecked hpending :),
    (congrArg Connection.stats hconn :), (congrArg Connection.registry hconn :),
    (congrArg Connection.readers hconn :), (congrArg Connection.deferred hconn :)⟩

end World

end OneConnection
