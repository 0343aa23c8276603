import OneConnection.Proofs.Veiling

/-!
# Two forms of one call

By which of its two forms the driver was called leaves a mark in the history and nowhere else. With
the marks erased, a driver that answers its asynchronous calls through the blocking ones makes no
difference between a task and a thread that waits.
-/

namespace OneConnection

variable {δ κ : Type}

/-- The event without the form of the call. -/
def Event.erase : Event → Event
  | .called call => .called { call with mode := .blocking }
  | other => other

/-- Hides the forms of the calls. -/
def Veil.forms : Veil where
  batch := id
  events := List.map Event.erase
  batch_empty := rfl
  commands_batch _ := rfl
  events_warned _ _ := List.map_append

/-- An asynchronous call of the driver is the blocking one. -/
structure Driver.KeepsDefaults (driver : Driver δ κ) : Prop where
  reader : driver.openReaderAsync = fun c d => (driver.openReader c d).map Attempt.toPromise id
  nonQuery : driver.executeAsync = fun c d => (driver.execute c d).map Attempt.toPromise id
  batch : driver.executeBatchAsync =
    fun cs d => (driver.executeBatch cs d).map Attempt.toPromise id

namespace Driver.KeepsDefaults

variable {driver : Driver δ κ}

theorem read_eq (h : driver.KeepsDefaults) (mode : Mode) (c : Command) (d : δ) :
    driver.read mode c d = driver.read .blocking c d := by
  cases mode with
  | blocking => rfl
  | async => exact congrFun (congrFun h.reader c) d

theorem nonQuery_eq (h : driver.KeepsDefaults) (mode : Mode) (c : Command) (d : δ) :
    driver.nonQuery mode c d = driver.nonQuery .blocking c d := by
  cases mode with
  | blocking => rfl
  | async => exact congrFun (congrFun h.nonQuery c) d

theorem batch_eq (h : driver.KeepsDefaults) (mode : Mode) (cs : List Command) (d : δ) :
    driver.batch mode cs d = driver.batch .blocking cs d := by
  cases mode with
  | blocking => rfl
  | async => exact congrFun (congrFun h.batch cs) d

end Driver.KeepsDefaults

/-! ## Small steps -/

namespace Connection

/-- The connection without the forms of its calls. -/
def erase (conn : Connection δ κ) : Connection δ κ :=
  { conn with history := conn.history.map Event.erase }

variable {conn : Connection δ κ}

theorem erase_record (event : Event) :
    (conn.record event).erase = conn.erase.record event.erase := by
  simp [record, erase]

theorem erase_logCommand (setup : Setup δ κ) (c : Command) :
    (conn.logCommand setup c).erase = conn.erase.logCommand setup c := by
  unfold logCommand
  split
  · exact erase_record _
  · rfl

theorem erase_logBatch (setup : Setup δ κ) (log : BatchLog) :
    (conn.logBatch setup log).erase = conn.erase.logBatch setup log := by
  unfold logBatch
  split
  · exact erase_record _
  · rfl

variable [Cursor κ]

theorem erase_recordCall (kind : CallKind) (mode : Mode) (cs : List Command) :
    (conn.recordCall kind mode cs).erase = conn.erase.recordCall kind .blocking cs :=
  erase_record _

theorem checkReaders_erase :
    conn.erase.checkReaders = (conn.checkReaders.1, conn.checkReaders.2.erase) :=
  Veil.forms.checkReaders conn

theorem beforeSingle_erase (setup : Setup δ κ) (c : Command) :
    conn.erase.beforeSingle setup c =
      ((conn.beforeSingle setup c).1, (conn.beforeSingle setup c).2.erase) := by
  unfold beforeSingle
  rw [checkReaders_erase]
  dsimp only
  rw [← erase_logCommand]
  rfl

end Connection

/-! ## Contexts -/

/-- What was cancelled is cancelled still. -/
def Contexts.Grows (cs cs' : Contexts) : Prop := ∀ x, cs'.reason? x = none → cs.reason? x = none

namespace Contexts.Grows

theorem refl (cs : Contexts) : cs.Grows cs := fun _ h => h

theorem trans {cs cs' cs'' : Contexts} (h : cs.Grows cs') (h' : cs'.Grows cs'') : cs.Grows cs'' :=
  fun x hx => h x (h' x hx)

theorem cancel (cs : Contexts) (request : CancelRequest) : cs.Grows (cs.cancel request) := by
  intro x
  unfold Contexts.cancel
  split
  · rw [reason?_set]
    split
    · exact nofun
    · exact id
  · exact id
  · rw [reason?_set]
    split
    · exact nofun
    · exact id

theorem cancelAll (cs : Contexts) (requests : List CancelRequest) :
    cs.Grows (cs.cancelAll requests) := by
  induction requests generalizing cs with
  | nil => exact refl cs
  | cons request rest ih => exact (cancel cs request).trans (ih _)

end Contexts.Grows

namespace Connection

theorem contexts_logCommand (setup : Setup δ κ) (c : Command) (conn : Connection δ κ) :
    (conn.logCommand setup c).contexts = conn.contexts := by
  unfold logCommand
  split <;> rfl

theorem contexts_logBatch (setup : Setup δ κ) (log : BatchLog) (conn : Connection δ κ) :
    (conn.logBatch setup log).contexts = conn.contexts := by
  unfold logBatch
  split <;> rfl

variable [Cursor κ]

theorem checkReaders_grows (conn : Connection δ κ) :
    conn.contexts.Grows conn.checkReaders.2.contexts := .cancelAll _ _

theorem beforeSingle_grows (setup : Setup δ κ) (c : Command) (conn : Connection δ κ) :
    conn.contexts.Grows (conn.beforeSingle setup c).2.contexts := by
  have hlog := contexts_logCommand setup (setup.prepare c) conn.checkReaders.2
  have hready : (conn.beforeSingle setup c).2.contexts = conn.checkReaders.2.contexts := hlog
  rw [hready]
  exact conn.checkReaders_grows

end Connection

/-! ## Agreement -/

/-- A task of `x` got from `conn` to `task`, and a thread got to the same without the marks, unless
`x` was cancelled on the way. -/
structure Matches {α : Type} (x : Context) (conn : Connection δ κ)
    (task blocking : α × Connection δ κ) : Prop where
  grows : conn.contexts.Grows task.2.contexts
  same : task.2.contexts.reason? x = none → blocking = (task.1, task.2.erase)

namespace Matches

variable {α β : Type} {x : Context} {conn : Connection δ κ} {a b : α × Connection δ κ}

/-- What holds without a look at the caller. -/
theorem of_eq (hgrows : conn.contexts.Grows a.2.contexts) (h : b = (a.1, a.2.erase)) :
    Matches x conn a b :=
  ⟨hgrows, fun _ => h⟩

theorem pure (v : α) (conn : Connection δ κ) : Matches x conn (v, conn) (v, conn.erase) :=
  of_eq (.refl _) rfl

theorem of_grows {conn' : Connection δ κ} (hgrows : conn.contexts.Grows conn'.contexts)
    (h : Matches x conn' a b) : Matches x conn a b :=
  ⟨hgrows.trans h.grows, h.same⟩

/-- A task that is cancelled may do less. -/
theorem refused {reason : CancelReason} (h : conn.contexts.reason? x = some reason) (v : α)
    (b : α × Connection δ κ) : Matches x conn (v, conn) b where
  grows := .refl _
  same hx := by
    rw [h] at hx
    cases hx

theorem bind (h : Matches x conn a b) {f g : α × Connection δ κ → β × Connection δ κ}
    (hfg : ∀ v conn', Matches x conn' (f (v, conn')) (g (v, conn'.erase))) :
    Matches x conn (f a) (g b) := by
  have hf := hfg a.1 a.2
  refine ⟨h.grows.trans hf.grows, ?_⟩
  intro hx
  rw [h.same (hf.grows x hx)]
  exact hf.same hx

theorem map (f : α → β) (h : Matches x conn a b) : Matches x conn (f a.1, a.2) (f b.1, b.2) :=
  h.bind (f := fun r => (f r.1, r.2)) (g := fun r => (f r.1, r.2)) fun v => pure (f v)

theorem within {α β τ υ : Type} {a b : Polled τ α × Connection δ κ} (f : α → β) (g : τ → υ)
    (h : Matches x conn a b) :
    Matches x conn ((a.1.map f).within g, a.2) ((b.1.map f).within g, b.2) :=
  h.map fun p => (p.map f).within g

end Matches

end OneConnection
