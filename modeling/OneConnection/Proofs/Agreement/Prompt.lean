import OneConnection.Proofs.Agreement.Operations
import OneConnection.Proofs.Deferred.Turns

/-!
# Prompt answers

A thread that waits for a driver that does not crash has its answer after one poll, if nobody else
is at work. The answer is a result or an error, and afterwards nobody is at work again.
-/

namespace OneConnection

variable {δ κ : Type} {setup : Setup δ κ}

/-- No blocking call crashes. -/
structure Driver.NeverCrashes (driver : Driver δ κ) : Prop where
  reader : ∀ c d, ∃ result, (driver.openReader c d).1 = .returned result
  nonQuery : ∀ c d, ∃ result, (driver.execute c d).1 = .returned result
  batch : ∀ cs d, ∃ result, (driver.executeBatch cs d).1 = .returned result

namespace Driver.NeverCrashes

variable {driver : Driver δ κ}

theorem toPromise {α : Type} {x : Attempt α × δ} (h : ∃ result, x.1 = .returned result) :
    ∃ result, x.map Attempt.toPromise id = (.after 0 (.ofExcept result), x.2) := by
  obtain ⟨result, hresult⟩ := h
  refine ⟨result, ?_⟩
  rw [Prod.map, hresult]
  rfl

theorem read_prompt (h : driver.NeverCrashes) (c : Command) (d : δ) :
    ∃ result d', driver.read .blocking c d = (.after 0 (.ofExcept result), d') :=
  (toPromise (h.reader c d)).imp fun _ hresult => ⟨_, hresult⟩

theorem nonQuery_prompt (h : driver.NeverCrashes) (c : Command) (d : δ) :
    ∃ result d', driver.nonQuery .blocking c d = (.after 0 (.ofExcept result), d') :=
  (toPromise (h.nonQuery c d)).imp fun _ hresult => ⟨_, hresult⟩

theorem batch_prompt (h : driver.NeverCrashes) (cs : List Command) (d : δ) :
    ∃ result d', driver.batch .blocking cs d = (.after 0 (.ofExcept result), d') :=
  (toPromise (h.batch cs d)).imp fun _ hresult => ⟨_, hresult⟩

end Driver.NeverCrashes

theorem Outcome.map_ofExcept {α β : Type} (f : α → β) (r : Except Error α) :
    (ofExcept r).map f = ofExcept (r.map f) := by
  cases r <;> rfl

/-- The poll gives a result or an error, and `I` holds then. -/
def Polled.Answers {τ α σ : Type} (I : σ → Prop) (x : Polled τ (Outcome α) × σ) : Prop :=
  ∃ r, x.1 = .ready (.ofExcept r) ∧ I x.2

namespace Polled.Answers

variable {τ υ α β σ : Type} {I : σ → Prop} {x : Polled τ (Outcome α) × σ}

theorem within {f : Outcome α → Outcome β} (hf : ∀ r, ∃ r', f (.ofExcept r) = .ofExcept r')
    (g : τ → υ) (h : Answers I x) : Answers I ((x.1.map f).within g, x.2) := by
  obtain ⟨r, hr, hI⟩ := h
  obtain ⟨r', hr'⟩ := hf r
  refine ⟨r', ?_, hI⟩
  rw [hr, Polled.map, hr']
  rfl

theorem map (f : α → β) (g : τ → υ) (h : Answers I x) :
    Answers I ((x.1.map (Outcome.map f)).within g, x.2) :=
  h.within (fun r => ⟨r.map f, Outcome.map_ofExcept f r⟩) g

end Polled.Answers

/-! ## Calls -/

/-- A call that has its answer from the driver at once, and makes a result or an error of it. -/
def Protocol.Prompt {β ρ : Type} (p : Protocol δ κ β ρ) : Prop :=
  ∀ conn, (∃ r, (p.begin conn).1 = .settled (.ofExcept r)) ∨
    ∃ b, (p.begin conn).1 = .sent 0 b ∧ ∃ r, (p.finish b (p.begin conn).2).1 = .ofExcept r

theorem Protocol.Prompt.poll {β ρ : Type} {p : Protocol δ κ β ρ} (h : p.Prompt)
    {conn : Connection δ κ} (hfree : conn.access = .free) :
    Polled.Answers (·.access = .free) (p.poll .blocking .waiting conn) := by
  cases hadmission : p.admission with
  | error why =>
    simp only [Protocol.poll, Caller.cancelReason?, hadmission]
    exact ⟨.error why, rfl, hfree⟩
  | ok =>
    simp only [Protocol.poll, Caller.cancelReason?, hadmission, hfree, start_eq]
    have hbegin := h (conn.setAccess .held)
    generalize p.begin (conn.setAccess .held) = begun at hbegin ⊢
    obtain ⟨begun, conn'⟩ := begun
    rcases hbegin with ⟨r, rfl⟩ | ⟨b, rfl, r, hfinish⟩
    · exact ⟨r, rfl, rfl⟩
    · exact ⟨r, congrArg Polled.ready hfinish, rfl⟩

variable [Cursor κ]

namespace Flushing

omit [Cursor κ] in
theorem finish_prompt (batch : PendingBatch) (result : Except Error RowCount)
    (conn : Connection δ κ) : ∃ r, (finish ⟨batch, .ofExcept result⟩ conn).1 = .ofExcept r := by
  cases result with
  | error why => exact ⟨.error (batch.blame why), rfl⟩
  | ok rows =>
    simp only [finish, Outcome.ofExcept, verify]
    split
    · exact ⟨.ok rows, rfl⟩
    · exact ⟨.error _, rfl⟩

theorem prompt (h : setup.driver.NeverCrashes) : (protocol setup .blocking).Prompt := by
  intro conn
  simp only [protocol, begin_eq]
  split
  · exact .inl ⟨.ok 0, rfl⟩
  · obtain ⟨result, d, hbatch⟩ := h.batch_prompt conn.pending.commands (ready setup conn).database
    rw [hbatch]
    exact .inr ⟨_, rfl, finish_prompt conn.pending result _⟩

theorem poll_prompt (h : setup.driver.NeverCrashes) {conn : Connection δ κ}
    (hfree : conn.access = .free) :
    Polled.Answers (·.access = .free) (poll setup .blocking .waiting conn) :=
  (prompt h).poll hfree

end Flushing

theorem Adding.poll_prompt (h : setup.driver.NeverCrashes) (c : Command) {conn : Connection δ κ}
    (hfree : conn.access = .free) :
    Polled.Answers (·.access = .free) ((fresh c).poll setup .blocking conn) := by
  simp only [poll, Caller.cancelReason?]
  have hpushed : (conn.push setup c).2.access = .free := hfree
  generalize conn.push setup c = pushed at hpushed
  obtain ⟨_ | _, conn'⟩ := pushed
  · exact ⟨.ok (), rfl, hpushed⟩
  · exact (Flushing.poll_prompt h hpushed).map (fun _ => ()) flushing

theorem Executing.poll_prompt (h : setup.driver.NeverCrashes) (c : Command)
    {conn : Connection δ κ} (hfree : conn.access = .free) :
    Polled.Answers (·.access = .free) (poll setup .blocking c .waiting conn) := by
  have hprompt : (protocol setup .blocking c).Prompt := by
    intro conn
    simp only [protocol, begin_eq]
    obtain ⟨result, d, hrows⟩ :=
      h.nonQuery_prompt (setup.prepare c) (conn.beforeSingle setup c).2.database
    rw [hrows]
    cases result with
    | error why => exact .inr ⟨_, rfl, .error ((setup.prepare c).blame why), rfl⟩
    | ok rows => exact .inr ⟨_, rfl, _, rfl⟩
  exact hprompt.poll hfree

/-! ## Readers -/

/-- A thread is refused by the chain, or the driver's answer is there. -/
theorem Dispatch.run_prompt (h : setup.driver.NeverCrashes) (c : Command) (conn : Connection δ κ) :
    (∃ why, run setup .blocking c conn = (.rejected why, conn)) ∨
    ∃ place conn', run setup .blocking c conn = (.sent 0 (.ofExcept place), conn') ∧
      conn'.access = conn.access := by
  cases hselect : setup.chain.select c with
  | error why => exact .inl ⟨why, by simp only [run, Caller.cancelReason?, hselect]⟩
  | ok handler =>
    right
    rw [run_eq (by rfl) hselect]
    obtain ⟨result, d, hread⟩ := h.read_prompt c conn.database
    have hread' : setup.driver.read (mode .blocking handler) c conn.database = _ := hread
    rw [hread']
    cases result with
    | error why => exact ⟨.error why, _, rfl, rfl⟩
    | ok cursor => exact ⟨.ok _, _, rfl, rfl⟩

theorem Dispatching.poll_prompt (h : setup.driver.NeverCrashes) (c : Command)
    {conn : Connection δ κ} (hfree : conn.access = .free) :
    Polled.Answers (·.access = .free) ((fresh c).poll setup .blocking conn) := by
  rw [poll_fresh]
  rcases Dispatch.run_prompt h c conn with ⟨why, hrun⟩ | ⟨place, conn', hrun, haccess⟩
  · rw [hrun]
    exact ⟨.error why, rfl, hfree⟩
  · rw [hrun]
    cases place with
    | error why => exact ⟨.error why, rfl, haccess.trans hfree⟩
    | ok place => exact ⟨_, rfl, haccess.trans hfree⟩

theorem Opening.poll_prompt (h : setup.driver.NeverCrashes) (c : Command)
    {conn : Connection δ κ} (hfree : conn.access = .free) :
    Polled.Answers (·.access = .free) (poll setup .blocking c .waiting conn) := by
  have hprompt : (protocol setup .blocking c).Prompt := by
    intro conn
    simp only [protocol, begin_eq]
    rcases Dispatch.run_prompt h (setup.prepare c) (conn.beforeSingle setup c).2 with
      ⟨why, hrun⟩ | ⟨place, conn', hrun, -⟩
    · rw [hrun]
      exact .inl ⟨.error _, rfl⟩
    · rw [hrun]
      cases place with
      | error why => exact .inr ⟨_, rfl, .error _, rfl⟩
      | ok place => exact .inr ⟨_, rfl, .ok _, rfl⟩
  exact hprompt.poll hfree

theorem Listing.poll_prompt {α : Type} (h : setup.driver.NeverCrashes) (c : Command)
    (decoder : RowDecoder α) {conn : Connection δ κ} (hfree : conn.access = .free) :
    Polled.Answers (·.access = .free) (poll setup .blocking c decoder .waiting conn) := by
  rw [poll_eq]
  obtain ⟨r, hr, haccess⟩ := Opening.poll_prompt h c hfree
  generalize Opening.poll setup .blocking c .waiting conn = opened at hr haccess
  obtain ⟨_, conn'⟩ := opened
  cases hr
  cases r with
  | error why => exact ⟨.error why, rfl, haccess⟩
  | ok handle => exact ⟨_, rfl, haccess⟩

/-! ## Executions -/

namespace Reading

variable {α β : Type}

/-- The reading ended with a result or an error, and not because its caller was cancelled. -/
def Ends (x : Reading κ α) : Prop := ∃ r : Except Error α, x.result = r.mapError .failed

omit [Cursor κ] in
theorem Ends.andThen {x : Reading κ α} {f : α → κ → Contexts → Reading κ β} (h : x.Ends)
    (hf : ∀ v cursor contexts, (f v cursor contexts).Ends) : (x.andThen f).Ends := by
  obtain ⟨r, hr⟩ := h
  unfold Reading.andThen
  rw [hr]
  cases r with
  | error why => exact ⟨.error why, rfl⟩
  | ok v => exact hf ..

omit [Cursor κ] in
theorem Ends.map {x : Reading κ α} (f : α → β) (h : x.Ends) : (x.map f).Ends := by
  obtain ⟨r, hr⟩ := h
  refine ⟨r.map f, ?_⟩
  rw [Reading.map, hr]
  cases r <;> rfl

theorem set_ends (c : Command) (cursor : κ) (contexts : Contexts) :
    (set .blocking c cursor contexts).Ends := by
  fun_induction set .blocking c cursor contexts with
  | case1 cursor contexts reason hcaller => cases hcaller
  | case2 => exact ⟨.error _, rfl⟩
  | case3 => exact ⟨.ok [], rfl⟩
  | case4 cursor contexts hcaller next later row hnext ih => exact ih.map _

theorem advance_ends (c : Command) (wanted got : Nat) (cursor : κ) (contexts : Contexts) :
    (advance c wanted got cursor contexts).Ends := by
  unfold advance
  dsimp only
  split
  · exact ⟨.error _, rfl⟩
  · exact ⟨.ok (), rfl⟩
  · exact ⟨.error _, rfl⟩

theorem others_ends (c : Command) (wanted got todo : Nat) (cursor : κ) (contexts : Contexts) :
    (others .blocking c wanted got todo cursor contexts).Ends := by
  induction todo generalizing got cursor contexts with
  | zero => exact ⟨.ok [], rfl⟩
  | succ n ih =>
    refine (advance_ends c wanted got cursor contexts).andThen fun _ cursor contexts => ?_
    exact (set_ends c cursor contexts).andThen fun rows cursor contexts =>
      (ih (got + 1) cursor contexts).map _

theorem sets_ends (c : Command) (wanted : Nat) (cursor : κ) (contexts : Contexts) :
    (sets .blocking c wanted cursor contexts).Ends := by
  unfold sets
  split
  · exact ⟨.ok [], rfl⟩
  · exact (set_ends c cursor contexts).andThen fun rows cursor contexts =>
      (others_ends c _ 1 _ cursor contexts).map _

end Reading

namespace Execution

theorem read_prompt (errand : Errand) (reader : Handle) (conn : Connection δ κ) :
    (∃ r : Settled, (read .blocking errand reader conn).1 = r.mapError .failed) ∧
      (read .blocking errand reader conn).2.access = conn.access := by
  unfold read
  split
  · exact ⟨⟨.error _, rfl⟩, rfl⟩
  · exact ⟨Reading.sets_ends .., rfl⟩

theorem ask_prompt (h : setup.driver.NeverCrashes) (errand : Errand) {conn : Connection δ κ}
    (hfree : conn.access = .free) :
    ∃ (r : Settled) (conn' : Connection δ κ), ask setup .blocking errand .waiting conn =
      (.ready (r.mapError .failed), conn') ∧ conn'.access = .free := by
  rw [ask_eq]
  obtain ⟨r, hr, haccess⟩ := Opening.poll_prompt h errand.command hfree
  generalize Opening.poll setup .blocking errand.command .waiting conn = opened at hr haccess
  obtain ⟨_, conn'⟩ := opened
  cases hr
  cases r with
  | error why => exact ⟨.error why, conn', rfl, haccess⟩
  | ok reader =>
    obtain ⟨⟨r, hr⟩, hread⟩ := read_prompt errand reader conn'
    refine ⟨r, _, ?_, hread.trans haccess⟩
    rw [← hr]
    rfl

theorem run_prompt (h : setup.driver.NeverCrashes) (errands : List Errand)
    (done : List ResultSet) {conn : Connection δ κ} (hfree : conn.access = .free) :
    ∃ (r : Settled) (conn' : Connection δ κ), run setup .blocking errands done conn =
      (.ready (r.mapError .failed), conn') ∧ conn'.access = .free := by
  induction errands generalizing done conn with
  | nil => exact ⟨.ok done, conn, rfl, hfree⟩
  | cons errand rest ih =>
    obtain ⟨r, conn', hask, haccess⟩ := ask_prompt h errand hfree
    rw [run_cons, hask]
    cases r with
    | error why => exact ⟨.error why, conn', rfl, haccess⟩
    | ok sets => exact ih (done ++ sets) haccess

end Execution

/-! ## Operations -/

/-- Nobody is at work: no call is on its way, and no view runs a batch. -/
structure Connection.Idle (conn : Connection δ κ) : Prop where
  free : conn.access = .free
  settled : ∀ k b, conn.batch? k = some b → b.progress ≠ .executing

namespace Viewing

theorem start_prompt (h : setup.driver.NeverCrashes) (batch index : Nat) (b : DeferredBatch)
    {conn : Connection δ κ} (hconn : conn.Idle) :
    Polled.Answers Connection.Idle (start setup .blocking batch index b conn) := by
  have hfree : (conn.updateBatch batch .start).access = .free := hconn.free
  obtain ⟨r, conn', hrun, haccess⟩ := Execution.run_prompt h
    (b.errands setup.driver.capabilities.multipleQueries) [] hfree
  have hdeferred : conn'.deferred = (conn.updateBatch batch .start).deferred := by
    have hkept := (endures_deferred setup (conn.updateBatch batch .start).deferred).execution
      .blocking (b.errands setup.driver.capabilities.multipleQueries) [] rfl
    rw [hrun] at hkept
    exact hkept
  -- The run leaves the batches alone, so only this one is not as it was.
  have hidle : ∀ result : Settled,
      (conn'.updateBatch batch (.setProgress (.settled result))).Idle := by
    refine fun result => ⟨haccess, fun k b' hb' => ?_⟩
    rw [Connection.batch?_updateBatch, Connection.batch?_congr hdeferred,
      Connection.batch?_updateBatch] at hb'
    split at hb'
    · obtain ⟨b₁, -, rfl⟩ := Option.map_eq_some_iff.mp hb'
      exact nofun
    · exact hconn.settled k b' hb'
  unfold start
  dsimp only
  rw [hrun]
  cases r with
  | error why => exact ⟨_, rfl, hidle (.error why)⟩
  | ok sets => exact ⟨_, rfl, hidle (.ok sets)⟩

theorem poll_prompt (h : setup.driver.NeverCrashes) (batch index : Nat) {conn : Connection δ κ}
    (hconn : conn.Idle) :
    Polled.Answers Connection.Idle (fresh.poll setup .blocking batch index conn) := by
  unfold poll
  simp only [turn, Caller.cancelReason?, consult]
  cases hb : conn.batch? batch with
  | none => exact ⟨.error _, rfl, hconn⟩
  | some b =>
    cases hprogress : b.progress with
    | executing => exact absurd hprogress (hconn.settled batch b hb)
    | settled result => simp only [hprogress]; exact ⟨_, rfl, hconn⟩
    | idle => simp only [hprogress]; exact start_prompt h batch index b hconn

end Viewing

omit [Cursor κ] in
theorem Polled.Answers.idle {τ α : Type} {x : Polled τ (Outcome α) × Connection δ κ}
    {conn : Connection δ κ} (h : Answers (·.access = .free) x)
    (hdeferred : x.2.deferred = conn.deferred) (hconn : conn.Idle) :
    Answers Connection.Idle x := by
  obtain ⟨r, hr, haccess⟩ := h
  refine ⟨r, hr, haccess, fun k b hb => ?_⟩
  rw [Connection.batch?_congr hdeferred] at hb
  exact hconn.settled k b hb

/-- One poll is enough for a thread. -/
theorem Operation.poll_prompt {ρ : Type} (h : setup.driver.NeverCrashes) (request : Request ρ)
    {conn : Connection δ κ} (hconn : conn.Idle) :
    Polled.Answers Connection.Idle (request.start.poll setup .blocking conn) := by
  have hdeferred := endures_deferred setup conn.deferred
  cases request with
  | add c =>
    have hanswers := (Adding.poll_prompt h c hconn.free).idle
      (hdeferred.adding (fun _ _ hd => hd) .blocking (.fresh c) rfl) hconn
    exact hanswers.map _ adding
  | flush =>
    have hanswers := (Flushing.poll_prompt h hconn.free).idle
      (hdeferred.flushing .blocking .waiting rfl) hconn
    exact hanswers.map _ flushing
  | execute c =>
    have hanswers := (Executing.poll_prompt h c hconn.free).idle
      (hdeferred.executing .blocking c .waiting rfl) hconn
    exact hanswers.map _ (executing c)
  | read c =>
    have hanswers := (Opening.poll_prompt h c hconn.free).idle
      (hdeferred.opening .blocking c .waiting rfl) hconn
    exact hanswers.map _ (opening c)
  | list c decoder =>
    have hanswers := (Listing.poll_prompt h c decoder hconn.free).idle
      (hdeferred.listing .blocking c decoder .waiting rfl) hconn
    exact hanswers.map _ (listing c decoder)
  | view batch index project =>
    refine (Viewing.poll_prompt h batch index hconn).within (fun r => ?_)
      (viewing batch index project)
    cases r with
    | error why => exact ⟨.error why, rfl⟩
    | ok rows => exact ⟨_, rfl⟩
  | dispatch c =>
    have hanswers := (Dispatching.poll_prompt h c hconn.free).idle
      (hdeferred.dispatching .blocking (.fresh c) rfl) hconn
    exact hanswers.map _ dispatching

end OneConnection
