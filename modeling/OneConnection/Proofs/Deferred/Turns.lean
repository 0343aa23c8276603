import OneConnection.Proofs.Acts

/-!
# Turns of views

What operations and acts do to the deferred batches. A poll changes a batch only if it works on an
execution of it, and acts only add batches and queries.
-/

namespace OneConnection

variable {δ κ ρ : Type} [Cursor κ] {setup : Setup δ κ}

/-! ## Operations that leave the batches alone -/

omit [Cursor κ] in
theorem quiet_deferred (d : List DeferredBatch) :
    Quiet fun conn : Connection δ κ => conn.deferred = d where
  access _ _ h := h
  hold _ _ _ _ h := h
  note _ _ _ h := h
  count _ _ h := h

theorem endures_deferred (setup : Setup δ κ) (d : List DeferredBatch) :
    Endures setup fun conn => conn.deferred = d where
  toQuiet := quiet_deferred d
  call _ _ _ _ _ _ h := h
  flush _ mode h :=
    (quiet_deferred d).flush setup mode (·.deferred = d) (fun _ => h) (fun _ _ _ h => h) h

namespace Viewing

/-! ## Work -/

def isRunning : Viewing → Bool
  | .running _ => true
  | _ => false

/-- What the execution comes to that a poll works on, if it works on one. -/
def work (setup : Setup δ κ) (caller : Caller) (batch : Nat) (view : Viewing)
    (conn : Connection δ κ) :
    Option (Polled Execution (Except Stop (List ResultSet)) × Connection δ κ) :=
  match view.turn caller batch conn with
  | .starts b =>
    some (Execution.run setup caller (b.errands setup.driver.capabilities.multipleQueries) []
      (conn.updateBatch batch .start))
  | .resumes e => some (e.resume setup caller conn)
  | _ => none

variable {caller : Caller} {batch index : Nat} {view : Viewing} {conn : Connection δ κ}

theorem poll_of_work {x : Polled Execution (Except Stop (List ResultSet)) × Connection δ κ}
    (h : view.work setup caller batch conn = some x) :
    view.poll setup caller batch index conn = proceed batch index x := by
  unfold work at h
  unfold poll
  cases ht : view.turn caller batch conn <;> rw [ht] at h
  case starts b =>
    cases Option.some.inj h
    rfl
  case resumes e =>
    cases Option.some.inj h
    rfl
  all_goals cases h

/-- A poll that works on no execution changes nothing and leaves nothing to run. -/
theorem poll_of_idle (index : Nat) (h : view.work setup caller batch conn = none) :
    (view.poll setup caller batch index conn).2 = conn ∧
      (view.poll setup caller batch index conn).1.waits isRunning = false := by
  unfold work at h
  unfold poll
  cases ht : view.turn caller batch conn <;> rw [ht] at h
  case starts b => cases h
  case resumes e => cases h
  all_goals exact ⟨rfl, rfl⟩

theorem isRunning_of_idle (h : view.work setup caller batch conn = none) :
    view.isRunning = false := by
  cases view with
  | running e => cases h
  | fresh | awaiting => rfl

omit [Cursor κ] in
theorem waits_proceed (x : Polled Execution (Except Stop (List ResultSet)) × Connection δ κ) :
    (proceed batch index x).1.waits isRunning = x.1.waits fun _ => true := by
  obtain ⟨_ | _ | _, conn⟩ := x <;> rfl

omit [Cursor κ] in
theorem turn_of_consult {b : DeferredBatch} (h : consult batch conn = .starts b) :
    conn.batch? batch = some b ∧ b.progress = .idle := by
  unfold consult at h
  split at h
  · cases h
  · split at h
    · cases h
    · cases h
    · cases h
      exact ⟨‹_›, ‹_›⟩

omit [Cursor κ] in
/-- A view starts an execution only if nobody runs the batch and it has no result. -/
theorem turn_starts {b : DeferredBatch} (h : view.turn caller batch conn = .starts b) :
    conn.batch? batch = some b ∧ b.progress = .idle ∧ view.isRunning = false := by
  cases view with
  | running e => cases h
  | awaiting =>
    obtain ⟨hb, hi⟩ := turn_of_consult h
    exact ⟨hb, hi, rfl⟩
  | fresh =>
    simp only [turn] at h
    split at h
    · cases h
    · obtain ⟨hb, hi⟩ := turn_of_consult h
      exact ⟨hb, hi, rfl⟩

omit [Cursor κ] in
theorem turn_resumes {e : Execution} (h : view.turn caller batch conn = .resumes e) :
    view = .running e := by
  have hc : consult batch conn ≠ .resumes e := by
    unfold consult
    split
    · nofun
    · split <;> nofun
  cases view with
  | running e' =>
    cases h
    rfl
  | awaiting => exact absurd h hc
  | fresh =>
    simp only [turn] at h
    split at h
    · cases h
    · exact absurd h hc

omit [Cursor κ] in
theorem consult_of_settled {b : DeferredBatch} {result : Settled}
    (hb : conn.batch? batch = some b) (hp : b.progress = .settled result) :
    consult batch conn = .recalls result := by
  unfold consult
  rw [hb]
  simp only [hp]

theorem idle_of_settled (setup : Setup δ κ) (caller : Caller) {b : DeferredBatch}
    {result : Settled} (hb : conn.batch? batch = some b) (hp : b.progress = .settled result)
    (hv : view.isRunning = false) : view.work setup caller batch conn = none := by
  have hc := consult_of_settled hb hp
  cases view with
  | running e => cases hv
  | awaiting => simp only [work, turn, hc]
  | fresh =>
    simp only [work, turn]
    cases caller.cancelReason? conn.contexts <;> simp only [hc]

theorem poll_of_settled {b : DeferredBatch} {result : Settled}
    (hb : conn.batch? batch = some b) (hp : b.progress = .settled result)
    (hv : view.isRunning = false) (hc : caller.cancelReason? conn.contexts = none) :
    view.poll setup caller batch index conn = (.ready (.ofExcept (result.rowsOf index)), conn) := by
  have ht : view.turn caller batch conn = .recalls result := by
    cases view with
    | running e => cases hv
    | awaiting => exact consult_of_settled hb hp
    | fresh =>
      simp only [turn, hc]
      exact consult_of_settled hb hp
  unfold poll
  rw [ht]

end Viewing

/-! ## What becomes of a batch -/

def DeferredBatch.after (b : DeferredBatch) :
    Polled Execution (Except Stop (List ResultSet)) → DeferredBatch
  | .waiting _ => b
  | .crashed _ => b.setProgress .idle
  | .ready (.error (.cancelled _)) => b.setProgress .idle
  | .ready (.error (.failed why)) => b.setProgress (.settled (.error why))
  | .ready (.ok sets) => b.setProgress (.settled (.ok sets))

namespace Connection

omit [Cursor κ] in
theorem batch?_updateBatch (batch k : Nat) (f : DeferredBatch → DeferredBatch)
    (conn : Connection δ κ) :
    (conn.updateBatch batch f).batch? k =
      if batch = k then (conn.batch? k).map f else conn.batch? k := by
  unfold updateBatch batch?
  rw [List.getElem?_modify]
  split <;> simp

omit [Cursor κ] in
theorem batch?_newBatch (k : Nat) (conn : Connection δ κ) :
    conn.newBatch.2.batch? k =
      if k = conn.deferred.length then some {} else conn.batch? k := by
  unfold newBatch batch?
  rcases Nat.lt_trichotomy k conn.deferred.length with h | rfl | h
  · rw [List.getElem?_append_left h, if_neg (Nat.ne_of_lt h)]
  · rw [List.getElem?_concat_length, if_pos rfl]
  · rw [if_neg (Nat.ne_of_gt h), List.getElem?_eq_none (Nat.le_of_lt h), List.getElem?_eq_none]
    rw [List.length_append]
    exact h

omit [Cursor κ] in
theorem batch?_congr {conn conn' : Connection δ κ} (h : conn'.deferred = conn.deferred) (k : Nat) :
    conn'.batch? k = conn.batch? k := by
  unfold batch?
  rw [h]

/-- How far a batch has come. One that is not there has not begun. -/
def progress (conn : Connection δ κ) (batch : Nat) : Progress :=
  (conn.batch? batch).elim .idle (·.progress)

omit [Cursor κ] in
theorem progress_of_batch? {conn : Connection δ κ} {batch : Nat} {b : DeferredBatch}
    (hb : conn.batch? batch = some b) : conn.progress batch = b.progress := by
  rw [progress, hb]
  rfl

omit [Cursor κ] in
theorem progress_congr {conn conn' : Connection δ κ} {batch : Nat}
    (h : conn'.batch? batch = conn.batch? batch) : conn'.progress batch = conn.progress batch := by
  rw [progress, progress, h]

end Connection

namespace Viewing

variable {caller : Caller} {batch index : Nat} {view : Viewing} {conn : Connection δ κ}

omit [Cursor κ] in
theorem proceed_deferred (x : Polled Execution (Except Stop (List ResultSet)) × Connection δ κ) :
    (proceed batch index x).2.deferred = x.2.deferred.modify batch (·.after x.1) := by
  obtain ⟨r | e | message, conn⟩ := x
  · rcases r with (reason | why) | sets <;> rfl
  · exact (List.modify_id _ _).symm
  · rfl

omit [Cursor κ] in
theorem proceed_eq (batch index : Nat)
    (x : Polled Execution (Except Stop (List ResultSet)) × Connection δ κ) :
    ∃ deferred, (proceed batch index x).2 = { x.2 with deferred } := by
  obtain ⟨r | e | message, conn⟩ := x
  · rcases r with (reason | why) | sets <;> exact ⟨_, rfl⟩
  · exact ⟨_, rfl⟩
  · exact ⟨_, rfl⟩

omit [Cursor κ] in
theorem batch?_proceed (batch index : Nat)
    (x : Polled Execution (Except Stop (List ResultSet)) × Connection δ κ) :
    (proceed batch index x).2.batch? batch = (x.2.batch? batch).map (·.after x.1) := by
  unfold Connection.batch?
  rw [proceed_deferred]
  exact List.getElem?_modify_eq ..

omit [Cursor κ] in
theorem waiting?_proceed (x : Polled Execution (Except Stop (List ResultSet)) × Connection δ κ) :
    (proceed batch index x).1.waiting? = x.1.waiting?.map running := by
  obtain ⟨_ | _ | _, conn⟩ := x <;> rfl

/-- The batch of a view, and no other, is sealed when the view starts and keeps what its execution
comes to. -/
theorem work_deferred {x : Polled Execution (Except Stop (List ResultSet)) × Connection δ κ}
    (h : view.work setup caller batch conn = some x) :
    (∃ b, view.turn caller batch conn = .starts b ∧
      x.2.deferred = conn.deferred.modify batch .start) ∨
    ∃ e, view = .running e ∧ x.2.deferred = conn.deferred := by
  unfold work at h
  cases ht : view.turn caller batch conn <;> rw [ht] at h
  case starts b =>
    cases Option.some.inj h
    exact .inl ⟨b, rfl, (endures_deferred setup _).execution caller _ _ rfl⟩
  case resumes e =>
    cases Option.some.inj h
    exact .inr ⟨e, turn_resumes ht, (endures_deferred setup _).execution_resume caller e rfl⟩
  all_goals cases h

/-- The batch of a view is the one that the view starts or runs. -/
theorem work_batch? {x : Polled Execution (Except Stop (List ResultSet)) × Connection δ κ}
    (h : view.work setup caller batch conn = some x) :
    (∃ b, view.turn caller batch conn = .starts b ∧ x.2.batch? batch = some b.start) ∨
    ∃ e, view = .running e ∧ x.2.batch? batch = conn.batch? batch := by
  rcases work_deferred h with ⟨b, hturn, hx⟩ | ⟨e, rfl, hx⟩
  · refine .inl ⟨b, hturn, ?_⟩
    rw [Connection.batch?, hx, List.getElem?_modify_eq]
    exact congrArg _ (turn_starts hturn).1
  · exact .inr ⟨e, rfl, Connection.batch?_congr hx batch⟩

theorem drop_deferred :
    (view.drop setup caller batch conn).deferred =
      match view with
      | .running _ => conn.deferred.modify batch (.setProgress .idle)
      | _ => conn.deferred := by
  cases view with
  | running e =>
    have := (endures_deferred setup conn.deferred).execution_drop caller e rfl
    exact congrArg (List.modify · batch _) this
  | fresh | awaiting => rfl

/-- Going away is like a crash for the batch. -/
theorem drop_batch? (setup : Setup δ κ) (caller : Caller) (e : Execution) {b : DeferredBatch}
    (hb : conn.batch? batch = some b) :
    ((running e).drop setup caller batch conn).batch? batch = some (b.after (.crashed "")) := by
  rw [Connection.batch?, drop_deferred, List.getElem?_modify_eq]
  exact congrArg _ hb

theorem poll_elsewhere {k : Nat} (hk : batch ≠ k) :
    (view.poll setup caller batch index conn).2.batch? k = conn.batch? k := by
  cases hw : view.work setup caller batch conn with
  | none => rw [(poll_of_idle index hw).1]
  | some x =>
    rw [poll_of_work hw]
    unfold Connection.batch?
    rw [proceed_deferred, List.getElem?_modify_ne _ _ hk]
    rcases work_deferred hw with ⟨b, -, hx⟩ | ⟨e, -, hx⟩ <;> rw [hx]
    rw [List.getElem?_modify_ne _ _ hk]

theorem drop_elsewhere {k : Nat} (hk : batch ≠ k) :
    (view.drop setup caller batch conn).batch? k = conn.batch? k := by
  unfold Connection.batch?
  rw [drop_deferred]
  split
  · rw [List.getElem?_modify_ne _ _ hk]
  · rfl

end Viewing

namespace Operation

variable {caller : Caller} {batch : Nat} {operation : Operation ρ} {conn : Connection δ κ}

def views (batch : Nat) : Operation ρ → Bool
  | .viewing b _ _ _ => b = batch
  | _ => false

def runs (batch : Nat) : Operation ρ → Bool
  | .viewing b _ _ view => b = batch && view.isRunning
  | _ => false

@[simp] theorem runs_running (index : Nat) (project : ResultSet → Except Error ρ) (e : Execution) :
    runs batch (.viewing batch index project (.running e)) = true := by
  simp [runs, Viewing.isRunning]

@[simp] theorem runs_start (request : Request ρ) : request.start.runs batch = false := by
  cases request <;> simp [Request.start, runs, Viewing.isRunning]

theorem runs_of_not_views (h : operation.views batch = false) : operation.runs batch = false := by
  cases operation with
  | viewing b i project view =>
    have hb : decide (b = batch) = false := h
    simp only [runs, hb, Bool.false_and]
  | _ => rfl

theorem waits_runs (h : operation.views batch = false) :
    (operation.poll setup caller conn).1.waits (runs batch) = false := by
  cases operation with
  | viewing b i project view =>
    have hr : ∀ v, runs batch (.viewing b i project v) = false := fun v => runs_of_not_views h
    simp only [poll, Polled.waits_within, Polled.waits_map, hr, Polled.waits_false]
  | _ => simp only [poll, Polled.waits_within, Polled.waits_map, runs, Polled.waits_false]

/-- Only a view of a batch changes the batch. -/
theorem poll_elsewhere (h : operation.views batch = false) :
    (operation.poll setup caller conn).2.batch? batch = conn.batch? batch := by
  have hk := endures_deferred setup conn.deferred
  cases operation with
  | viewing b i project view => exact Viewing.poll_elsewhere (of_decide_eq_false h)
  | adding state => exact Connection.batch?_congr (hk.adding (fun _ _ h => h) caller state rfl) _
  | flushing call => exact Connection.batch?_congr (hk.flushing caller call rfl) _
  | executing c call => exact Connection.batch?_congr (hk.executing caller c call rfl) _
  | opening c call => exact Connection.batch?_congr (hk.opening caller c call rfl) _
  | listing c decoder call => exact Connection.batch?_congr (hk.listing caller c decoder call rfl) _
  | dispatching state => exact Connection.batch?_congr (hk.dispatching caller state rfl) _

theorem runs_eq_true (h : operation.runs batch = true) :
    ∃ index project e, operation = .viewing batch index project (.running e) := by
  cases operation with
  | viewing b index project view =>
    obtain ⟨hb, hv⟩ := Bool.and_eq_true_iff.mp h
    obtain rfl := of_decide_eq_true hb
    cases view with
    | running e => exact ⟨index, project, e, rfl⟩
    | fresh | awaiting => cases hv
  | _ => cases h

/-- Only the view that runs a batch changes it by going away. -/
theorem drop_elsewhere (h : operation.runs batch = false) :
    (operation.drop setup caller conn).batch? batch = conn.batch? batch := by
  have hk := endures_deferred setup conn.deferred
  cases operation with
  | viewing b i project view =>
    rcases Bool.and_eq_false_iff.mp h with hb | hv
    · exact Viewing.drop_elsewhere (of_decide_eq_false hb)
    · cases view with
      | running e => cases hv
      | fresh | awaiting => rfl
  | adding state => exact Connection.batch?_congr (hk.adding_drop caller state rfl) _
  | flushing call => exact Connection.batch?_congr (hk.flushing_drop caller call rfl) _
  | executing c call => exact Connection.batch?_congr (hk.executing_drop caller c call rfl) _
  | opening c call => exact Connection.batch?_congr (hk.opening_drop caller c call rfl) _
  | listing c decoder call => exact Connection.batch?_congr (hk.opening_drop caller c call rfl) _
  | dispatching state => exact Connection.batch?_congr (hk.dispatching_drop state rfl) _

end Operation

/-! ## What views do to batches -/

/-- The same queries. The batch may be sealed now, and may have got somewhere else. -/
structure DeferredBatch.Advances (b b' : DeferredBatch) : Prop where
  queries : b'.queries = b.queries
  agrees : b'.agrees = b.agrees
  region : b'.region = b.region
  isSealed : b.isSealed = true → b'.isSealed = true

namespace DeferredBatch.Advances

theorem refl (b : DeferredBatch) : b.Advances b := ⟨rfl, rfl, rfl, id⟩

theorem start (b : DeferredBatch) : b.Advances b.start := ⟨rfl, rfl, rfl, fun _ => rfl⟩

theorem after (b : DeferredBatch) (x : Polled Execution (Except Stop (List ResultSet))) :
    b.Advances (b.after x) := by
  rcases x with ((_ | _) | _) | _ | _ <;> exact ⟨rfl, rfl, rfl, id⟩

theorem trans {b b' b'' : DeferredBatch} (h : b.Advances b') (h' : b'.Advances b'') :
    b.Advances b'' where
  queries := h'.queries.trans h.queries
  agrees := h'.agrees.trans h.agrees
  region := h'.region.trans h.region
  isSealed hs := h'.isSealed (h.isSealed hs)

end DeferredBatch.Advances

theorem DeferredBatch.advances_of_eq {b b' : Option DeferredBatch} (h : b' = b) :
    Option.Rel Advances b b' := by
  subst b'
  cases b with
  | none => exact .none
  | some b => exact .some (.refl b)

open DeferredBatch

theorem Viewing.poll_advances (setup : Setup δ κ) (caller : Caller) (k index : Nat)
    (view : Viewing) (conn : Connection δ κ) :
    Option.Rel Advances (conn.batch? k) ((view.poll setup caller k index conn).2.batch? k) := by
  cases hw : view.work setup caller k conn with
  | none => exact advances_of_eq (by rw [(poll_of_idle index hw).1])
  | some x =>
    rw [poll_of_work hw, batch?_proceed]
    rcases work_batch? hw with ⟨b, hturn, hx⟩ | ⟨e, -, hx⟩
    · rw [hx, (turn_starts hturn).1]
      exact .some (.trans (.start b) (.after b.start x.1))
    · rw [hx]
      cases conn.batch? k with
      | none => exact .none
      | some b => exact .some (.after b x.1)

theorem Viewing.drop_advances (setup : Setup δ κ) (caller : Caller) (k : Nat) (view : Viewing)
    (conn : Connection δ κ) :
    Option.Rel Advances (conn.batch? k) ((view.drop setup caller k conn).batch? k) := by
  unfold Connection.batch?
  rw [drop_deferred]
  split
  · rw [List.getElem?_modify_eq]
    cases conn.deferred[k]? with
    | none => exact .none
    | some b => exact .some ⟨rfl, rfl, rfl, id⟩
  · exact advances_of_eq rfl

/-- Whatever is no act does no more to a batch than its views do. -/
theorem World.step_advances (setup : Setup δ κ) (w : World δ κ ρ) {s : Step ρ}
    (hs : ∀ a, s ≠ .act a) (k : Nat) :
    Option.Rel Advances (w.conn.batch? k) ((w.step setup s).conn.batch? k) := by
  cases s with
  | ask caller request => exact advances_of_eq rfl
  | act a => exact absurd rfl (hs a)
  | poll n =>
    cases ht : w.task? n with
    | none => exact advances_of_eq (by simp only [step, ht])
    | some t =>
      obtain ⟨caller, operation⟩ := t
      rw [step_poll ht, conn_answer]
      cases hv : operation.views k with
      | false => exact advances_of_eq (Operation.poll_elsewhere hv)
      | true =>
        cases operation with
        | viewing batch index project view =>
          obtain rfl : batch = k := of_decide_eq_true hv
          exact Viewing.poll_advances setup caller batch index view w.conn
        | _ => cases hv
  | drop n =>
    cases ht : w.task? n with
    | none => exact advances_of_eq (by simp only [step, ht])
    | some t =>
      obtain ⟨caller, operation⟩ := t
      rw [step_drop ht]
      cases hr : operation.runs k with
      | false => exact advances_of_eq (Operation.drop_elsewhere hr)
      | true =>
        obtain ⟨index, project, e, rfl⟩ := Operation.runs_eq_true hr
        exact Viewing.drop_advances setup caller k (.running e) w.conn

/-! ## Acts -/

/-- A batch that has got more queries, if any. One that has started gets none. -/
structure DeferredBatch.Grows (b b' : DeferredBatch) : Prop where
  progress : b'.progress = b.progress
  isSealed : b'.isSealed = b.isSealed
  queries : b.queries <+: b'.queries
  fixed : b.isSealed = true → b'.queries = b.queries

theorem DeferredBatch.Grows.refl (b : DeferredBatch) : b.Grows b :=
  ⟨rfl, rfl, List.prefix_rfl, fun _ => rfl⟩

theorem DeferredBatch.grows_append (q : Query) {b : DeferredBatch} (h : b.isSealed = false) :
    b.Grows (b.append q) := by
  refine ⟨rfl, rfl, List.prefix_append _ _, ?_⟩
  intro hs
  rw [h] at hs
  cases hs

/-- Every batch is still there, perhaps with more queries, and what is new has not started. -/
structure Grown (conn conn' : Connection δ κ) : Prop where
  old : ∀ k b, conn.batch? k = some b → ∃ b', conn'.batch? k = some b' ∧ b.Grows b'
  new : ∀ k b', conn.batch? k = none → conn'.batch? k = some b' →
    b'.progress = .idle ∧ b'.isSealed = false

namespace Grown

variable {conn conn' conn'' : Connection δ κ}

omit [Cursor κ]

theorem of_deferred_eq (h : conn'.deferred = conn.deferred) : Grown conn conn' where
  old k b hb := ⟨b, by rw [Connection.batch?_congr h, hb], .refl b⟩
  new k b' hn hb := by
    rw [Connection.batch?_congr h, hn] at hb
    cases hb

theorem newBatch (conn : Connection δ κ) : Grown conn conn.newBatch.2 where
  old k b hb := by
    have hk : k ≠ conn.deferred.length := by
      rintro rfl
      exact absurd (List.getElem?_eq_some_iff.mp hb).1 (Nat.lt_irrefl _)
    exact ⟨b, by rw [Connection.batch?_newBatch, if_neg hk, hb], .refl b⟩
  new k b' hn hb := by
    rw [Connection.batch?_newBatch, hn] at hb
    split at hb <;> cases hb
    exact ⟨rfl, rfl⟩

theorem append {batch : Nat} {b : DeferredBatch} (hb : conn.batch? batch = some b)
    (hs : b.isSealed = false) (q : Query) :
    Grown conn (conn.updateBatch batch fun _ => b.append q) where
  old k b₀ hk := by
    rw [Connection.batch?_updateBatch]
    split
    · subst k
      rw [hb] at hk
      cases hk
      exact ⟨b.append q, by rw [hb, Option.map_some], DeferredBatch.grows_append q hs⟩
    · exact ⟨b₀, hk, .refl b₀⟩
  new k b' hn hb' := by
    rw [Connection.batch?_updateBatch, hn] at hb'
    split at hb' <;> cases hb'

theorem trans (h : Grown conn conn') (h' : Grown conn' conn'') : Grown conn conn'' where
  old k b hb := by
    obtain ⟨b', hb', g⟩ := h.old k b hb
    obtain ⟨b'', hb'', g'⟩ := h'.old k b' hb'
    refine ⟨b'', hb'', g'.progress.trans g.progress, g'.isSealed.trans g.isSealed,
      g.queries.trans g'.queries, ?_⟩
    intro hs
    exact (g'.fixed (g.isSealed.trans hs)).trans (g.fixed hs)
  new k b'' hn hb'' := by
    cases hb' : conn'.batch? k with
    | none => exact h'.new k b'' hb' hb''
    | some b' =>
      obtain ⟨hp, hs⟩ := h.new k b' hn hb'
      obtain ⟨c, hc, g⟩ := h'.old k b' hb'
      rw [hb''] at hc
      cases hc
      exact ⟨g.progress.trans hp, g.isSealed.trans hs⟩

theorem progress_eq (h : Grown conn conn') (k : Nat) : conn'.progress k = conn.progress k := by
  cases hb : conn.batch? k with
  | some b =>
    obtain ⟨b', hb', g⟩ := h.old k b hb
    rw [Connection.progress_of_batch? hb', Connection.progress_of_batch? hb, g.progress]
  | none =>
    unfold Connection.progress
    rw [hb]
    cases hb' : conn'.batch? k with
    | none => rfl
    | some b' => exact (h.new k b' hb hb').1

theorem register (q : Query) (s : Session) (conn : Connection δ κ) :
    Grown conn (s.register q conn).2.2 := by
  cases hs : s.current? conn with
  | none =>
    have hb : conn.newBatch.2.batch? conn.newBatch.1 = some {} := by
      rw [Connection.batch?_newBatch]
      exact if_pos rfl
    rw [Session.register_fresh q hs]
    exact (newBatch conn).trans (append hb rfl q)
  | some batch =>
    obtain ⟨b, hb, hopen⟩ := Session.batch?_of_current? hs
    rw [Session.register_open q (Option.filter_eq_some_iff.mp hs).1 hb hopen]
    exact append hb hopen q

theorem addQuery {batch : Nat} {q : Query} {x : Nat × Connection δ κ}
    (h : conn.addQuery batch q = some x) : Grown conn x.2 := by
  obtain ⟨b, hb, hs, rfl⟩ := Connection.addQuery_eq_some h
  exact append hb hs q

end Grown

theorem World.deferred_act (setup : Setup δ κ) (w : World δ κ ρ) {a : Act}
    (h : a.defers = false) : (w.act setup a).conn.deferred = w.conn.deferred := by
  apply (quiet_deferred w.conn.deferred).act
  · intro hd
    rw [h] at hd
    cases hd
  · split
    · exact Connection.deferred_discardPending
    · rfl

/-- Acts add batches and queries, and do nothing else to the batches. -/
theorem World.act_grown (setup : Setup δ κ) (w : World δ κ ρ) (a : Act) :
    Grown w.conn (w.act setup a).conn := by
  cases hd : a.defers with
  | false => exact Grown.of_deferred_eq (deferred_act setup w hd)
  | true =>
    cases a with
    | register q => exact Grown.register q w.session w.conn
    | newBatch => exact Grown.newBatch w.conn
    | addQuery batch q =>
      simp only [World.act]
      split
      · exact Grown.addQuery ‹_›
      · exact Grown.of_deferred_eq rfl
    | _ => cases hd

end OneConnection
