import OneConnection.Proofs.Deferred.Serving
import OneConnection.Proofs.Readers.Stopping

/-!
# Hearing from a batch

What a poll of a view tells its caller once the last execution of its batch has got a cursor: the
result that the batch keeps, unless the driver or the view that runs the batch is waited for.
-/

namespace OneConnection

variable {δ κ ρ : Type} [Cursor κ] {setup : Setup δ κ}

namespace Viewing

variable {caller : Caller} {k : Nat} {view : Viewing} {conn : Connection δ κ}

/-- A view that does not work on its batch is cancelled, finds the result, or waits for the view
that does. -/
theorem poll_idle_cases (index : Nat) (hw : view.work setup caller k conn = none)
    {b : DeferredBatch} (hb : conn.batch? k = some b) :
    (∃ reason, caller.cancelReason? conn.contexts = some reason ∧
      (view.poll setup caller k index conn).1 = .ready (.cancelled reason)) ∨
    (∃ result, b.progress = .settled result ∧
      (view.poll setup caller k index conn).1 = .ready (.ofExcept (result.rowsOf index))) ∨
    (b.progress = .executing ∧ (view.poll setup caller k index conn).1 = .waiting .awaiting) := by
  have hidle := isRunning_of_idle hw
  have hturn : (∃ reason, caller.cancelReason? conn.contexts = some reason ∧
      view.turn caller k conn = .refused reason) ∨ view.turn caller k conn = consult k conn := by
    cases view with
    | running e => cases hidle
    | awaiting => exact .inr rfl
    | fresh =>
      simp only [turn]
      cases hc : caller.cancelReason? conn.contexts with
      | some reason => exact .inl ⟨reason, rfl, rfl⟩
      | none => exact .inr rfl
  unfold poll
  rcases hturn with ⟨reason, hc, hturn⟩ | hturn
  · exact .inl ⟨reason, hc, by rw [hturn]⟩
  · cases hp : b.progress with
    | settled result => exact .inr (.inl ⟨result, rfl, by rw [hturn, consult_of_settled hb hp]⟩)
    | executing =>
      have hconsult : consult k conn = .waits := by simp only [consult, hb, hp]
      exact .inr (.inr ⟨rfl, by rw [hturn, hconsult]⟩)
    | idle =>
      have hconsult : consult k conn = .starts b := by simp only [consult, hb, hp]
      unfold work at hw
      rw [hturn, hconsult] at hw
      cases hw

end Viewing

/-- How many more polls the driver needs for the errand that the view waits for. -/
def Viewing.pollsLeft? : Viewing → Option Nat
  | .running ⟨_, .sent polls _, _, _⟩ => some polls
  | _ => none

/-! ## The last cursor on record -/

namespace Execution

variable {caller : Caller} {errands : List Errand} {past opened : List (Opened κ)} {c : Command}
  {cursor : κ} {stop : Stop} {contexts : Contexts} {conn : Connection δ κ}

theorem Halted.cancelled {reason : CancelReason}
    (h : Halted setup caller errands (.cancelled reason) contexts opened) :
    Stalled setup errands opened ∨ caller.cancelReason? contexts = some reason := by
  cases h with
  | stalled h => exact .inl h
  | unread _ _ hunread =>
    obtain ⟨r, contexts₀, -, hread, rfl⟩ := hunread
    exact .inr (Reading.cancelled_of_sets hread)

/-- All that is on record is delivered, and another errand comes next. -/
inductive GoesOn (setup : Setup δ κ) (errands : List Errand) (opened : List (Opened κ)) : Prop
  | intro {done rest : List Errand} {errand : Errand} {sets : List ResultSet} :
      errands = done ++ errand :: rest → Delivered setup done opened sets →
        GoesOn setup errands opened

theorem Stalled.goesOn (past : List (Opened κ))
    (h : Stalled setup errands (past ++ [⟨c, some cursor⟩])) :
    GoesOn setup errands (past ++ [⟨c, some cursor⟩]) := by
  obtain ⟨herrands, hdelivered, heq | heq⟩ := h
  · subst heq
    exact .intro herrands hdelivered
  · cases (List.append_inj' heq rfl).2

theorem Halted.unread_or_goesOn (past : List (Opened κ))
    (h : Halted setup caller errands stop contexts (past ++ [⟨c, some cursor⟩])) :
    GoesOn setup errands (past ++ [⟨c, some cursor⟩]) ∨
      ∃ errand, errands[past.length]? = some errand ∧
        Unread caller errand cursor stop contexts := by
  generalize hopened : past ++ [(⟨c, some cursor⟩ : Opened κ)] = opened at h
  cases h with
  | stalled h =>
    subst hopened
    exact .inl h.goesOn
  | unread herrands hdelivered hunread =>
    obtain ⟨rfl, heq⟩ := List.append_inj' hopened rfl
    cases heq
    refine .inr ⟨_, ?_, hunread⟩
    rw [herrands, hdelivered.length_eq, List.getElem?_append_right (Nat.le_refl _), Nat.sub_self]
    rfl

theorem Waits.pollsLeft?_or_goesOn {e : Execution} (past : List (Opened κ))
    (h : Waits setup conn (past ++ [⟨c, some cursor⟩]) errands e.errand e.rest e.done e.call conn) :
    GoesOn setup errands (past ++ [⟨c, some cursor⟩]) ∨
      ∃ polls, (Viewing.running e).pollsLeft? = some polls := by
  obtain ⟨errand, call, rest, done⟩ := e
  obtain ⟨done', past', herrands, hdelivered, hcall⟩ := h
  cases call with
  | sent polls sent => exact .inr ⟨polls, rfl⟩
  | waiting =>
    obtain rfl := Recorded.self_eq hcall
    exact .inl (.intro herrands hdelivered)

/-- Behind a single errand there is no other one. -/
theorem GoesOn.not_single {errand : Errand}
    (h : GoesOn setup [errand] (past ++ [⟨c, some cursor⟩])) : False := by
  obtain ⟨herrands, hdelivered⟩ := h
  have hone := congrArg List.length herrands
  have hlength := hdelivered.length_eq
  simp only [List.length_append, List.length_cons, List.length_nil] at hone hlength
  omega

end Execution

namespace Served

variable {k n : Nat} {w : World δ κ ρ} {executions earlier : List (List (Opened κ))}
  {opened : List (Opened κ)} {b : DeferredBatch}

theorem batch?_isSome (h : Served setup k w (opened :: earlier)) :
    ∃ b, w.conn.batch? k = some b := by
  have hstarted := h.started
  cases hb : w.conn.batch? k with
  | none => simp [hb] at hstarted
  | some b => exact ⟨b, rfl⟩

/-- A view that is polled gives what the batch keeps, waits for another view or in its own
execution, or was cancelled. -/
theorem poll_cases {t : Tally} {caller : Caller} {index : Nat}
    {project : ResultSet → Except Error ρ} {view : Viewing}
    (ht : w.task? n = some ⟨caller, .viewing k index project view⟩)
    (ha : Accounted k w t) (h : Served setup k w executions)
    (hnote : w.noteExecutions setup k (.poll n) executions = opened :: earlier)
    (hb : (w.step setup (.poll n)).conn.batch? k = some b)
    (hgoes : ¬ Execution.Stalled setup (setup.errandsOf b) opened) :
    let polled := ((Operation.viewing k index project view).poll setup caller w.conn).1
    (∃ result, b.progress = .settled result ∧ polled = .ready (result.reply index project)) ∨
      (b.progress = .executing ∧ polled = .waiting (.viewing k index project .awaiting)) ∨
      (b.progress = .executing ∧ ∃ e x, polled = .waiting (.viewing k index project (.running e)) ∧
        view.work setup caller k w.conn = some x ∧ x.1 = .waiting e ∧
        Execution.Waits setup x.2 opened (setup.errandsOf b) e.errand e.rest e.done e.call x.2) ∨
      ∃ reason, polled = .ready (.cancelled reason) ∧
        caller.cancelReason? (w.step setup (.poll n)).conn.contexts = some reason := by
  intro polled
  have hready : ∀ o, (view.poll setup caller k index w.conn).1 = .ready o →
      polled = .ready (o.andThen fun rows => (project rows).map .projected) := by
    intro o hpoll
    simp only [polled, Operation.poll, hpoll]
    rfl
  have hreply : ∀ result : Settled, (view.poll setup caller k index w.conn).1 =
      .ready (.ofExcept (result.rowsOf index)) → polled = .ready (result.reply index project) := by
    intro result hpoll
    rw [hready _ hpoll, Settled.andThen_rowsOf]
  have hwait : ∀ view', (view.poll setup caller k index w.conn).1 = .waiting view' →
      polled = .waiting (.viewing k index project view') := by
    intro view' hpoll
    simp only [polled, Operation.poll, hpoll]
    rfl
  -- A view that works on its batch leaves it as its own answer says. Any other one only looks.
  cases hw : view.work setup caller k w.conn with
  | none =>
    have hconn : (w.step setup (.poll n)).conn = w.conn := by
      rw [World.step_poll ht, World.conn_answer]
      exact (Viewing.poll_of_idle index hw).1
    rw [hconn] at hb ⊢
    rcases Viewing.poll_idle_cases index hw hb with
      ⟨reason, hcancelled, hpoll⟩ | ⟨result, hp, hpoll⟩ | ⟨hp, hpoll⟩
    · exact .inr (.inr (.inr ⟨reason, hready _ hpoll, hcancelled⟩))
    · exact .inl ⟨result, hp, hreply result hpoll⟩
    · exact .inr (.inl ⟨hp, hwait .awaiting hpoll⟩)
  | some x =>
    obtain ⟨b₀, opened', earlier', hsealed, hexec, hbatch, heq, -, -, hserves, hcrash⟩ :=
      h.work_serves ht hw ha
    rw [hnote] at heq
    cases heq
    rw [hb] at hbatch
    cases hbatch
    have herrands : setup.errandsOf (b₀.after x.1) = setup.errandsOf b₀ :=
      setup.errandsOf_congr ((DeferredBatch.Ages.after b₀ x.1).fixed hsealed).2
    have hpoll : (view.poll setup caller k index w.conn).1 = (Viewing.proceed k index x).1 :=
      congrArg Prod.fst (Viewing.poll_of_work hw)
    have hcontexts : (w.step setup (.poll n)).conn.contexts = x.2.contexts := by
      obtain ⟨deferred, hproceed⟩ := Viewing.proceed_eq k index x
      rw [step_of_work ht hw, hproceed]
    rw [herrands] at hgoes ⊢
    rw [hcontexts]
    obtain ⟨((reason | why) | sets) | e | message, conn⟩ := x
    · rcases Execution.Halted.cancelled hserves with hstalled | hcancelled
      · exact absurd hstalled hgoes
      · exact .inr (.inr (.inr ⟨reason, hready _ hpoll, hcancelled⟩))
    · exact .inl ⟨.error why, rfl, hreply _ hpoll⟩
    · exact .inl ⟨.ok sets, rfl, hreply _ hpoll⟩
    · exact .inr (.inr (.inl ⟨hexec, e, _, hwait _ hpoll, rfl, rfl, hserves⟩))
    · exact absurd (hcrash message rfl) hgoes

/-- What a batch keeps after a poll, it keeps for good. -/
theorem recalls_later {t : Tally} (ha : Accounted k w t) (hb : w.conn.batch? k = some b)
    {result : Settled} (hp : b.progress = .settled result) (later : List (Step ρ)) :
    Recalls setup k result (w.run setup later) := by
  have hunrun := ha.running
  rw [Connection.progress_of_batch? hb, hp] at hunrun
  have hkept : Kept k result w := ⟨⟨b, hb, hp⟩, hunrun⟩
  exact (World.run_induction (fun _ s _ h => h.step s) hkept).recalls

/-- The accounts of a batch before and after the last poll of a run. -/
theorem run_poll (setup : Setup δ κ) (database : δ) {steps : List (Step ρ)}
    (hsteps : ∀ caller c, .ask caller (.dispatch c) ∉ steps)
    (hrun : (World.create setup database).executions setup (steps ++ [.poll n]) k =
      opened :: earlier) :
    let w : World δ κ ρ := (World.create setup database).run setup steps
    ∃ t executions, Accounted k w t ∧ Served setup k w executions ∧
      w.noteExecutions setup k (.poll n) executions = opened :: earlier ∧
      Accounted k (w.step setup (.poll n)) (t.note setup k w (.poll n)) ∧
      Served setup k (w.step setup (.poll n)) (opened :: earlier) := by
  intro w
  have ha : Accounted k w _ := World.account_induction (fun _ _ s _ h => h.step setup s)
    (Accounted.create (ρ := ρ) setup database k)
  have hnext : Served setup k ((World.create setup database).run setup (steps ++ [.poll n]))
      ((World.create setup database).executions setup (steps ++ [.poll n]) k) :=
    Served.run setup database k (by simpa using hsteps)
  rw [World.run_append, hrun] at hnext
  rw [World.executions, World.account_concat] at hrun
  exact ⟨_, _, ha, Served.run setup database k hsteps, hrun, ha.step setup _, hnext⟩

end Served

end OneConnection
