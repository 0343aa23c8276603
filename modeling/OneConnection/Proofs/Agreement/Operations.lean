import OneConnection.Proofs.Agreement.Erasing
import OneConnection.Proofs.Rules

/-!
# Operations in two forms

One poll of an operation, asked for by a task that is not cancelled or by a thread that waits: the
same answer, and the same connection but for the form of the calls. There is one lemma for each
function that knows its caller.
-/

namespace OneConnection

variable {δ κ : Type} {x : Context} {setup : Setup δ κ}

/-! ## Calls -/

namespace Protocol

variable {β ρ : Type} {p q : Protocol δ κ β ρ}

theorem answer_matches
    (hfinish : ∀ b conn, Matches x conn (p.finish b conn) (q.finish b conn.erase))
    (polls : Nat) (b : β) (conn : Connection δ κ) :
    Matches x conn (p.answer polls b conn) (q.answer polls b conn.erase) := by
  cases polls with
  | succ n => exact .pure _ conn
  | zero =>
    have hfinish := hfinish b conn
    exact ⟨hfinish.grows, fun hx => by simp only [answer, hfinish.same hx]; rfl⟩

theorem poll_matches (hadmission : q.admission = p.admission)
    (hbegin : ∀ conn, Matches x conn (p.begin conn) (q.begin conn.erase))
    (hfinish : ∀ b conn, Matches x conn (p.finish b conn) (q.finish b conn.erase))
    (call : Call β) (conn : Connection δ κ) :
    Matches x conn (p.poll (.task x) call conn) (q.poll .blocking call conn.erase) := by
  cases call with
  | sent polls b => exact answer_matches hfinish polls b conn
  | waiting =>
    cases hcaller : conn.contexts.reason? x with
    | some reason =>
      -- The thread goes on here, but then nothing is said about it.
      have hrefused : p.poll (.task x) .waiting conn = (.ready (.cancelled reason), conn) := by
        simp only [poll, Caller.cancelReason?, hcaller]
      rw [hrefused]
      exact .refused hcaller _ _
    | none =>
      have haccess : conn.erase.access = conn.access := rfl
      simp only [poll, Caller.cancelReason?, hcaller, hadmission, haccess]
      split
      · rename_i heq
        cases heq
      · exact .pure _ conn
      · exact .pure _ conn
      · exact .pure _ conn
      · rw [start_eq, start_eq]
        have hheld : conn.contexts.Grows (conn.setAccess .held).contexts := .refl _
        refine ((hbegin _).of_grows hheld).bind (f := p.afterBegin) (g := q.afterBegin) ?_
        rintro (⟨polls, b⟩ | outcome | message) conn'
        · exact answer_matches hfinish polls b conn'
        · exact .of_eq (.refl _) rfl
        · exact .of_eq (.refl _) rfl

end Protocol

namespace Begun

variable {α β ρ : Type}

theorem ofPromise_matches (f : Outcome α → β) {conn : Connection δ κ} (conn' : Connection δ κ)
    (hgrows : conn.contexts.Grows conn'.contexts) (answer : Promise α × δ) :
    Matches x conn (ofPromise (ρ := ρ) f conn' answer) (ofPromise f conn'.erase answer) := by
  obtain ⟨_ | _, database⟩ := answer
  · exact .of_eq hgrows rfl
  · exact .of_eq hgrows rfl

end Begun

variable [Cursor κ]

/-! ## Flushing and executing -/

namespace Flushing

theorem ready_erase (setup : Setup δ κ) (conn : Connection δ κ) :
    ready setup conn.erase = (ready setup conn).erase := by
  have htaken : conn.erase.takePending = (conn.pending, conn.takePending.2.erase) := rfl
  unfold ready
  rw [htaken, Connection.checkReaders_erase, ← Connection.erase_logBatch]
  rfl

theorem ready_grows (setup : Setup δ κ) (conn : Connection δ κ) :
    conn.contexts.Grows (ready setup conn).contexts := by
  have hlog := Connection.contexts_logBatch setup conn.pending.log conn.takePending.2.checkReaders.2
  have hready : (ready setup conn).contexts = conn.takePending.2.checkReaders.2.contexts := hlog
  rw [hready]
  exact conn.takePending.2.checkReaders_grows

theorem begin_matches (h : setup.driver.KeepsDefaults) (conn : Connection δ κ) :
    Matches x conn (begin setup .async conn) (begin setup .blocking conn.erase) := by
  have hpending : conn.erase.pending = conn.pending := rfl
  rw [begin_eq, begin_eq, ready_erase, hpending, h.batch_eq .async,
    ← Connection.erase_recordCall .batch .async]
  split
  · exact .of_eq (.refl _) rfl
  · have hgrows := ready_grows setup conn
    exact Begun.ofPromise_matches _ ((ready setup conn).recordCall _ _ _) hgrows _

omit [Cursor κ] in
theorem finish_matches (sent : Sent) (conn : Connection δ κ) :
    Matches x conn (finish sent conn) (finish sent conn.erase) := by
  unfold finish verify
  split
  · split
    · exact .pure _ conn
    · refine .of_eq (.refl _) ?_
      dsimp only [Connection.warn]
      rw [Connection.erase_record]
      rfl
  · exact .pure _ conn

theorem poll_matches (h : setup.driver.KeepsDefaults) (call : Call Sent) (conn : Connection δ κ) :
    Matches x conn (poll setup (.task x) call conn) (poll setup .blocking call conn.erase) :=
  Protocol.poll_matches (p := protocol setup .async) (q := protocol setup .blocking) rfl
    (begin_matches h) finish_matches call conn

end Flushing

namespace Adding

theorem flush_matches (h : setup.driver.KeepsDefaults) (call : Call Flushing.Sent)
    (conn : Connection δ κ) :
    Matches x conn (flush setup (.task x) call conn) (flush setup .blocking call conn.erase) :=
  (Flushing.poll_matches h call conn).within (Outcome.map fun _ => ()) flushing

theorem poll_matches (h : setup.driver.KeepsDefaults) (state : Adding) (conn : Connection δ κ) :
    Matches x conn (state.poll setup (.task x) conn) (state.poll setup .blocking conn.erase) := by
  cases state with
  | flushing call => exact flush_matches h call conn
  | fresh c =>
    have hpush : conn.erase.push setup c = ((conn.push setup c).1, (conn.push setup c).2.erase) :=
      rfl
    have hgrows : conn.contexts.Grows (conn.push setup c).2.contexts := .refl _
    cases hcaller : conn.contexts.reason? x with
    | some reason =>
      simp only [poll, Caller.cancelReason?, hcaller]
      exact .refused hcaller _ _
    | none =>
      simp only [poll, Caller.cancelReason?, hcaller, hpush]
      generalize conn.push setup c = pushed at hgrows
      obtain ⟨_ | _, conn'⟩ := pushed
      · exact .of_eq hgrows rfl
      · exact (flush_matches h .waiting conn').of_grows hgrows

end Adding

namespace Executing

theorem begin_matches (h : setup.driver.KeepsDefaults) (c : Command) (conn : Connection δ κ) :
    Matches x conn (begin setup .async c conn) (begin setup .blocking c conn.erase) := by
  rw [begin_eq, begin_eq, Connection.beforeSingle_erase, h.nonQuery_eq .async,
    ← Connection.erase_recordCall .nonQuery .async]
  have hgrows := conn.beforeSingle_grows setup c
  exact Begun.ofPromise_matches _ ((conn.beforeSingle setup c).2.recordCall _ _ _) hgrows _

theorem poll_matches (h : setup.driver.KeepsDefaults) (c : Command) (call : Call Sent)
    (conn : Connection δ κ) :
    Matches x conn (poll setup (.task x) c call conn) (poll setup .blocking c call conn.erase) :=
  Protocol.poll_matches (p := protocol setup .async c) (q := protocol setup .blocking c) rfl
    (begin_matches h c) (fun _ conn => .pure _ conn) call conn

end Executing

/-! ## Readers -/

namespace Dispatch

omit [Cursor κ] in
theorem afterCall_matches {conn : Connection δ κ} (conn' : Connection δ κ)
    (hgrows : conn.contexts.Grows conn'.contexts) (answer : Promise κ × δ) :
    Matches x conn (afterCall conn' answer) (afterCall conn'.erase answer) := by
  obtain ⟨⟨_, outcome⟩ | _, database⟩ := answer
  · cases outcome <;> exact .of_eq hgrows rfl
  · exact .of_eq hgrows rfl

theorem run_matches (h : setup.driver.KeepsDefaults) (c : Command) (conn : Connection δ κ) :
    Matches x conn (run setup (.task x) c conn) (run setup .blocking c conn.erase) := by
  cases hcaller : conn.contexts.reason? x with
  | some reason =>
    simp only [run, Caller.cancelReason?, hcaller]
    exact .refused hcaller _ _
  | none =>
    cases hselect : setup.chain.select c with
    | error why =>
      simp only [run, Caller.cancelReason?, hcaller, hselect]
      exact .pure _ conn
    | ok handler =>
      have htask : (Caller.task x).cancelReason? conn.contexts = none := hcaller
      have hthread : Caller.blocking.cancelReason? conn.erase.contexts = none := rfl
      rw [run_eq htask hselect, run_eq hthread hselect, h.read_eq (mode (.task x) handler)]
      have hcall := afterCall_matches (x := x)
        (conn.recordCall .reader (mode (.task x) handler) [c]) (.refl conn.contexts)
        (setup.driver.read .blocking c conn.database)
      rw [Connection.erase_recordCall] at hcall
      exact hcall

end Dispatch

namespace Dispatching

theorem answer_matches (polls : Nat) (place : Outcome Nat) (conn : Connection δ κ) :
    Matches x conn (answer polls place conn) (answer polls place conn.erase) := by
  unfold answer
  split
  · exact .pure _ conn
  · exact .of_eq (.cancelAll _ _) rfl
  · exact .pure _ conn
  · exact .pure _ conn
  · exact .pure _ conn

/-- What a command that goes to the driver directly makes of the dispatch. -/
def afterDispatch : Dispatch.Result × Connection δ κ →
    Polled Dispatching (Outcome (Option Row)) × Connection δ κ
  | (.sent polls place, conn) => answer polls place conn
  | (.cancelled reason, conn) => (.ready (.cancelled reason), conn)
  | (.rejected why, conn) => (.ready (.error why), conn)
  | (.crashed message, conn) => (.crashed message, conn)

theorem poll_fresh (setup : Setup δ κ) (caller : Caller) (c : Command) (conn : Connection δ κ) :
    (fresh c).poll setup caller conn = afterDispatch (Dispatch.run setup caller c conn) := by
  rcases hrun : Dispatch.run setup caller c conn with ⟨_ | _ | _ | _, _⟩
  all_goals simp only [poll, hrun, afterDispatch]

theorem poll_matches (h : setup.driver.KeepsDefaults) (d : Dispatching) (conn : Connection δ κ) :
    Matches x conn (d.poll setup (.task x) conn) (d.poll setup .blocking conn.erase) := by
  cases d with
  | sent polls place => exact answer_matches polls place conn
  | fresh c =>
    rw [poll_fresh, poll_fresh]
    refine (Dispatch.run_matches h c conn).bind (f := afterDispatch) (g := afterDispatch) ?_
    rintro (⟨polls, place⟩ | reason | why | message) conn'
    · exact answer_matches polls place conn'
    · exact .pure _ conn'
    · exact .pure _ conn'
    · exact .pure _ conn'

end Dispatching

namespace Opening

/-- What an opening makes of the dispatch. -/
def afterDispatch (c : Command) :
    Dispatch.Result × Connection δ κ → Begun Sent Handle × Connection δ κ
  | (.sent polls place, conn) => (.sent polls ⟨c, place⟩, conn)
  | (.crashed message, conn) => (.crashed message, conn)
  | (.cancelled reason, conn) => (.settled (.cancelled reason), conn)
  | (.rejected why, conn) => (.settled (.error (c.blame why)), conn)

theorem begin_eq (setup : Setup δ κ) (caller : Caller) (c : Command) (conn : Connection δ κ) :
    begin setup caller c conn = afterDispatch (setup.prepare c)
      (Dispatch.run setup caller (setup.prepare c) (conn.beforeSingle setup c).2) := by
  have hready : conn.beforeSingle setup c = (setup.prepare c, (conn.beforeSingle setup c).2) := rfl
  unfold begin
  rw [hready]
  rcases hrun : Dispatch.run setup caller (setup.prepare c) (conn.beforeSingle setup c).2 with
    ⟨_ | _ | _ | _, _⟩
  all_goals simp only [hrun, afterDispatch]

theorem begin_matches (h : setup.driver.KeepsDefaults) (c : Command) (conn : Connection δ κ) :
    Matches x conn (begin setup (.task x) c conn) (begin setup .blocking c conn.erase) := by
  rw [begin_eq, begin_eq, Connection.beforeSingle_erase]
  have hrun := (Dispatch.run_matches (x := x) h (setup.prepare c) _).of_grows
    (conn.beforeSingle_grows setup c)
  refine hrun.bind (f := afterDispatch (setup.prepare c)) (g := afterDispatch (setup.prepare c)) ?_
  rintro (⟨polls, place⟩ | reason | why | message) conn' <;> exact .pure _ conn'

omit [Cursor κ] in
theorem finish_matches (sent : Sent) (conn : Connection δ κ) :
    Matches x conn (finish sent conn) (finish sent conn.erase) := by
  unfold finish
  split
  · exact .of_eq (.refl _) rfl
  · exact .pure _ conn
  · exact .pure _ conn
  · exact .pure _ conn

theorem poll_matches (h : setup.driver.KeepsDefaults) (c : Command) (call : Call Sent)
    (conn : Connection δ κ) :
    Matches x conn (poll setup (.task x) c call conn) (poll setup .blocking c call conn.erase) :=
  Protocol.poll_matches (p := protocol setup (.task x) c) (q := protocol setup .blocking c) rfl
    (begin_matches h c) finish_matches call conn

end Opening

namespace Listing

variable {α : Type}

/-- What a listing makes of the opening of its reader. -/
def afterOpening (decoder : RowDecoder α) :
    Polled (Call Opening.Sent) (Outcome Handle) × Connection δ κ →
      Polled (Call Opening.Sent) (Outcome (List α)) × Connection δ κ
  | (.waiting call, conn) => (.waiting call, conn)
  | (.crashed message, conn) => (.crashed message, conn)
  | (.ready (.ok h), conn) =>
    (.ready (.ofExcept (decode decoder h conn).1), (decode decoder h conn).2)
  | (.ready (.error why), conn) => (.ready (.error why), conn)
  | (.ready (.cancelled reason), conn) => (.ready (.cancelled reason), conn)
  | (.ready (.panicked message), conn) => (.ready (.panicked message), conn)

theorem poll_eq (setup : Setup δ κ) (caller : Caller) (c : Command) (decoder : RowDecoder α)
    (call : Call Opening.Sent) (conn : Connection δ κ) :
    poll setup caller c decoder call conn =
      afterOpening decoder (Opening.poll setup caller c call conn) := by
  unfold poll afterOpening
  split <;> simp_all

theorem poll_matches (h : setup.driver.KeepsDefaults) (c : Command) (decoder : RowDecoder α)
    (call : Call Opening.Sent) (conn : Connection δ κ) :
    Matches x conn (poll setup (.task x) c decoder call conn)
      (poll setup .blocking c decoder call conn.erase) := by
  rw [poll_eq, poll_eq]
  refine (Opening.poll_matches h c call conn).bind (f := afterOpening decoder)
    (g := afterOpening decoder) ?_
  rintro (outcome | call | message) conn'
  · cases outcome with
    | ok handle => exact .of_eq (.cancelAll _ _) rfl
    | error | cancelled | panicked => exact .pure _ conn'
  · exact .pure _ conn'
  · exact .pure _ conn'

end Listing

/-! ## Executions -/

/-- A task of `x` read the same as a thread that waits, unless `x` was cancelled on the way. -/
structure Reading.Agrees {α : Type} (x : Context) (contexts : Contexts)
    (task blocking : Reading κ α) : Prop where
  grows : contexts.Grows task.contexts
  same : task.contexts.reason? x = none → blocking = task

namespace Reading

variable {α β : Type} {contexts : Contexts} {a b : Reading κ α}

namespace Agrees

omit [Cursor κ] in
theorem of_grows (hgrows : contexts.Grows a.contexts) : Agrees x contexts a a :=
  ⟨hgrows, fun _ => rfl⟩

omit [Cursor κ] in
theorem after {contexts' : Contexts} (h : Agrees x contexts' a b)
    (hgrows : contexts.Grows contexts') : Agrees x contexts a b :=
  ⟨hgrows.trans h.grows, h.same⟩

omit [Cursor κ] in
theorem andThen {f g : α → κ → Contexts → Reading κ β} (h : Agrees x contexts a b)
    (hfg : ∀ v cursor contexts, Agrees x contexts (f v cursor contexts) (g v cursor contexts)) :
    Agrees x contexts (a.andThen f) (b.andThen g) := by
  have hgrows : a.contexts.Grows (a.andThen f).contexts := by
    unfold Reading.andThen
    split
    · exact (hfg ..).grows
    · exact .refl _
  refine ⟨h.grows.trans hgrows, fun hx => ?_⟩
  rw [h.same (hgrows x hx)]
  unfold Reading.andThen at hx ⊢
  split at hx
  · exact (hfg ..).same hx
  · rfl

omit [Cursor κ] in
theorem map (f : α → β) (h : Agrees x contexts a b) : Agrees x contexts (a.map f) (b.map f) :=
  ⟨h.grows, fun hx => congrArg (Reading.map f) (h.same hx)⟩

end Agrees

theorem set_agrees (x : Context) (c : Command) (cursor : κ) (contexts : Contexts) :
    Agrees x contexts (set (.task x) c cursor contexts) (set .blocking c cursor contexts) := by
  -- A thread never looks at the contexts, so it takes the branch of a task that goes on.
  fun_induction set (.task x) c cursor contexts with
  | case1 cursor contexts reason hcaller =>
    have hcancelled : contexts.reason? x = some reason := hcaller
    refine ⟨.refl _, fun hx => ?_⟩
    rw [hcancelled] at hx
    cases hx
  | case2 cursor contexts hcaller next later why hnext =>
    have hset : set .blocking c cursor contexts =
        ⟨.error (.failed (c.blame why)), next.cursor, later⟩ := by
      rw [set.eq_def .blocking]
      simp only [Caller.cancelReason?]
      split <;> simp_all [next, later]
    rw [hset]
    exact .of_grows (.cancelAll _ _)
  | case3 cursor contexts hcaller next later hnext =>
    have hset : set .blocking c cursor contexts = ⟨.ok [], next.cursor, later⟩ := by
      rw [set.eq_def .blocking]
      simp only [Caller.cancelReason?]
      split <;> simp_all [next, later]
    rw [hset]
    exact .of_grows (.cancelAll _ _)
  | case4 cursor contexts hcaller next later row hnext ih =>
    have hset : set .blocking c cursor contexts =
        (set .blocking c next.cursor later).map (row :: ·) := by
      rw [set.eq_def .blocking]
      simp only [Caller.cancelReason?]
      split <;> simp_all [next, later]
    rw [hset]
    exact (ih.map _).after (.cancelAll _ _)

theorem advance_agrees (x : Context) (c : Command) (wanted got : Nat) (cursor : κ)
    (contexts : Contexts) :
    Agrees x contexts (advance c wanted got cursor contexts)
      (advance c wanted got cursor contexts) := by
  refine .of_grows ?_
  unfold advance
  dsimp only
  split <;> exact .cancelAll _ _

theorem others_agrees (x : Context) (c : Command) (wanted got todo : Nat) (cursor : κ)
    (contexts : Contexts) :
    Agrees x contexts (others (.task x) c wanted got todo cursor contexts)
      (others .blocking c wanted got todo cursor contexts) := by
  induction todo generalizing got cursor contexts with
  | zero => exact .of_grows (.refl _)
  | succ n ih =>
    refine (advance_agrees x c wanted got cursor contexts).andThen fun _ cursor contexts => ?_
    refine (set_agrees x c cursor contexts).andThen fun rows cursor contexts => ?_
    exact (ih (got + 1) cursor contexts).map _

theorem sets_agrees (x : Context) (c : Command) (wanted : Nat) (cursor : κ)
    (contexts : Contexts) :
    Agrees x contexts (sets (.task x) c wanted cursor contexts)
      (sets .blocking c wanted cursor contexts) := by
  cases wanted with
  | zero => exact .of_grows (.refl _)
  | succ n =>
    unfold sets
    refine (set_agrees x c cursor contexts).andThen fun rows cursor contexts => ?_
    exact (others_agrees x c (n + 1) 1 n cursor contexts).map _

end Reading

namespace Execution

theorem read_matches (errand : Errand) (reader : Handle) (conn : Connection δ κ) :
    Matches x conn (read (.task x) errand reader conn)
      (read .blocking errand reader conn.erase) := by
  have hreaders : conn.erase.readers = conn.readers := rfl
  have hcontexts : conn.erase.contexts = conn.contexts := rfl
  unfold read
  rw [hreaders, hcontexts]
  cases conn.readers.get? reader.place with
  | none => exact .of_eq (.refl _) rfl
  | some r =>
    have hsets := Reading.sets_agrees x errand.command errand.sets r conn.contexts
    exact ⟨hsets.grows, fun hx => by dsimp only; rw [hsets.same hx]; rfl⟩

theorem complete_matches (errand : Errand) (opened : Outcome Handle) (conn : Connection δ κ) :
    Matches x conn (complete (.task x) errand opened conn)
      (complete .blocking errand opened conn.erase) := by
  cases opened with
  | ok reader => exact read_matches errand reader conn
  | error | cancelled | panicked => exact .pure _ conn

theorem ask_matches (h : setup.driver.KeepsDefaults) (errand : Errand) (call : Call Opening.Sent)
    (conn : Connection δ κ) :
    Matches x conn (ask setup (.task x) errand call conn)
      (ask setup .blocking errand call conn.erase) := by
  rw [ask_eq, ask_eq]
  refine (Opening.poll_matches h errand.command call conn).bind
    (f := afterOpening (.task x) errand) (g := afterOpening .blocking errand) ?_
  rintro (opened | call | message) conn'
  · exact (complete_matches errand opened conn').map Polled.ready
  · exact .pure _ conn'
  · exact .pure _ conn'

theorem afterErrand_matches (errand : Errand) (rest : List Errand)
    (hrest : ∀ done conn, Matches x conn (run setup (.task x) rest done conn)
      (run setup .blocking rest done conn.erase)) (done : List ResultSet)
    {conn : Connection δ κ}
    {a b : Polled (Call Opening.Sent) (Except Stop (List ResultSet)) × Connection δ κ}
    (h : Matches x conn a b) :
    Matches x conn (afterErrand setup (.task x) errand rest done a)
      (afterErrand setup .blocking errand rest done b) := by
  refine h.bind ?_
  rintro ((stop | sets) | call | message) conn'
  · exact .pure _ conn'
  · exact hrest (done ++ sets) conn'
  · exact .pure _ conn'
  · exact .pure _ conn'

theorem run_matches (h : setup.driver.KeepsDefaults) (errands : List Errand)
    (done : List ResultSet) (conn : Connection δ κ) :
    Matches x conn (run setup (.task x) errands done conn)
      (run setup .blocking errands done conn.erase) := by
  induction errands generalizing done conn with
  | nil => exact .pure _ conn
  | cons errand rest ih =>
    rw [run_cons, run_cons]
    exact afterErrand_matches errand rest ih done (ask_matches h errand .waiting conn)

theorem resume_matches (h : setup.driver.KeepsDefaults) (e : Execution) (conn : Connection δ κ) :
    Matches x conn (e.resume setup (.task x) conn) (e.resume setup .blocking conn.erase) := by
  obtain ⟨errand, call, rest, done⟩ := e
  rw [resume_eq, resume_eq]
  exact afterErrand_matches errand rest (run_matches h rest) done (ask_matches h errand call conn)

end Execution

/-! ## Views -/

namespace Viewing

omit [Cursor κ] in
theorem proceed_matches (batch index : Nat) {conn : Connection δ κ}
    {a b : Polled Execution (Except Stop (List ResultSet)) × Connection δ κ}
    (h : Matches x conn a b) : Matches x conn (proceed batch index a) (proceed batch index b) := by
  refine h.bind ?_
  rintro (((reason | why) | sets) | e | message) conn'
  all_goals exact .of_eq (.refl _) rfl

theorem start_matches (h : setup.driver.KeepsDefaults) (batch index : Nat) (b : DeferredBatch)
    (conn : Connection δ κ) :
    Matches x conn (start setup (.task x) batch index b conn)
      (start setup .blocking batch index b conn.erase) := by
  have hstarted : conn.contexts.Grows (conn.updateBatch batch .start).contexts := .refl _
  have hrun := (Execution.run_matches (x := x) h
    (b.errands setup.driver.capabilities.multipleQueries) [] _).of_grows hstarted
  exact proceed_matches batch index hrun

omit [Cursor κ] in
/-- A task and a thread have the same turn, unless the task is cancelled. -/
theorem turn_or (x : Context) (batch : Nat) (view : Viewing) (conn : Connection δ κ) :
    (∃ reason, view.turn (.task x) batch conn = .refused reason ∧
      conn.contexts.reason? x = some reason) ∨
    view.turn .blocking batch conn.erase = view.turn (.task x) batch conn := by
  cases view with
  | awaiting | running => exact .inr rfl
  | fresh =>
    cases hcaller : conn.contexts.reason? x with
    | some reason => exact .inl ⟨reason, by simp only [turn, Caller.cancelReason?, hcaller], rfl⟩
    | none =>
      right
      simp only [turn, Caller.cancelReason?, hcaller]
      rfl

theorem poll_matches (h : setup.driver.KeepsDefaults) (batch index : Nat) (view : Viewing)
    (conn : Connection δ κ) :
    Matches x conn (view.poll setup (.task x) batch index conn)
      (view.poll setup .blocking batch index conn.erase) := by
  unfold poll
  rcases turn_or x batch view conn with ⟨reason, hturn, hcaller⟩ | hturn
  · rw [hturn]
    exact .refused hcaller _ _
  · rw [hturn]
    cases view.turn (.task x) batch conn with
    | refused | lost | recalls | waits => exact .pure _ conn
    | starts b => exact start_matches h batch index b conn
    | resumes e => exact proceed_matches batch index (Execution.resume_matches h e conn)

end Viewing

namespace Operation

variable {ρ : Type}

theorem poll_matches (h : setup.driver.KeepsDefaults) (operation : Operation ρ)
    (conn : Connection δ κ) :
    Matches x conn (operation.poll setup (.task x) conn)
      (operation.poll setup .blocking conn.erase) := by
  cases operation with
  | adding state => exact (state.poll_matches h conn).within _ _
  | flushing call => exact (Flushing.poll_matches h call conn).within _ _
  | executing c call => exact (Executing.poll_matches h c call conn).within _ _
  | opening c call => exact (Opening.poll_matches h c call conn).within _ _
  | listing c decoder call => exact (Listing.poll_matches h c decoder call conn).within _ _
  | viewing batch index project state =>
    exact (state.poll_matches h batch index conn).within _ _
  | dispatching state => exact (state.poll_matches h conn).within _ _

end Operation

end OneConnection
