import OneConnection.Proofs.Batches.Verification
import OneConnection.Proofs.Deferred.Delivery
import OneConnection.Proofs.Flights

/-!
# Failures of calls

What an operation tells its caller when the driver answers one of its calls with an error: this
error, with the command of the call.
-/

namespace OneConnection

variable {δ κ ρ : Type}

/-! ## Calls of the driver -/

namespace Driver

/-- After some polls, the answer to a call is an error. A batch is one command for this. -/
inductive Raises (driver : Driver δ κ) (d : δ) : DriverCall → Command → Nat → Error → Prop
  | read {mode : Mode} {c : Command} {openBefore polls : Nat} {why : Error} :
      (driver.read mode c d).1 = .after polls (.error why) →
        Raises driver d ⟨.reader, mode, [c], openBefore⟩ c polls why
  | execute {mode : Mode} {c : Command} {openBefore polls : Nat} {why : Error} :
      (driver.nonQuery mode c d).1 = .after polls (.error why) →
        Raises driver d ⟨.nonQuery, mode, [c], openBefore⟩ c polls why
  | batch {mode : Mode} {cs : List Command} {openBefore polls : Nat} {why : Error} :
      (driver.batch mode cs d).1 = .after polls (.error why) →
        Raises driver d ⟨.batch, mode, cs, openBefore⟩ (Command.combine cs) polls why

/-- The driver's state after some calls. -/
def left (driver : Driver δ κ) (d : δ) (calls : List DriverCall) : δ :=
  (driver.replay calls ([], d)).2

/-- The driver raises an error in one of some calls. -/
inductive RaisesIn (driver : Driver δ κ) (d : δ) (calls : List DriverCall) (c : Command)
    (polls : Nat) (why : Error) : Prop
  | intro {earlier later : List DriverCall} {call : DriverCall} :
      calls = earlier ++ call :: later → driver.Raises (driver.left d earlier) call c polls why →
        RaisesIn driver d calls c polls why

variable {driver : Driver δ κ} {d : δ} {calls later : List DriverCall} {call : DriverCall}
  {c : Command} {polls : Nat} {why : Error}

theorem serve_snd (driver : Driver δ κ) (xs ys : List (Opened κ)) (d : δ) (call : DriverCall) :
    (driver.serve (xs, d) call).2 = (driver.serve (ys, d) call).2 := by
  unfold serve
  split <;> rfl

theorem replay_snd (driver : Driver δ κ) (xs : List (Opened κ)) (d : δ)
    (calls : List DriverCall) : (driver.replay calls (xs, d)).2 = driver.left d calls := by
  unfold left
  induction calls generalizing xs d with
  | nil => rfl
  | cons call rest ih =>
    have hstep : ∀ ys, driver.replay (call :: rest) (ys, d) =
        driver.replay rest ((driver.serve (ys, d) call).1, (driver.serve ([], d) call).2) := by
      intro ys
      rw [serve_snd driver [] ys]
      rfl
    rw [hstep, hstep, ih, ih (driver.serve ([], d) call).1]

theorem left_append (driver : Driver δ κ) (d : δ) (calls later : List DriverCall) :
    driver.left d (calls ++ later) = driver.left (driver.left d calls) later := by
  have happend : driver.replay (calls ++ later) ([], d) =
      driver.replay later (driver.replay calls ([], d)) := List.foldl_append
  rw [left, happend]
  exact driver.replay_snd _ _ _

theorem not_raisesIn_nil : ¬ driver.RaisesIn d [] c polls why := by
  rintro ⟨hcalls, -⟩
  simp at hcalls

theorem RaisesIn.single (h : driver.RaisesIn d [call] c polls why) :
    driver.Raises d call c polls why := by
  obtain ⟨hcalls, hraises⟩ := h
  rename_i earlier later call'
  cases earlier with
  | nil =>
    cases hcalls
    exact hraises
  | cons => simp at hcalls

theorem RaisesIn.append (h : driver.RaisesIn d (calls ++ later) c polls why) :
    driver.RaisesIn d calls c polls why ∨
      driver.RaisesIn (driver.left d calls) later c polls why := by
  obtain ⟨hcalls, hraises⟩ := h
  rcases List.append_eq_append_iff.mp hcalls with ⟨before, rfl, hlater⟩ | ⟨after, rfl, hafter⟩
  · rw [left_append] at hraises
    exact .inr ⟨hlater, hraises⟩
  · cases after with
    | nil =>
      rw [List.nil_append] at hafter
      rw [List.append_nil]
      have hraises' : driver.Raises (driver.left (driver.left d _) []) _ c polls why := hraises
      exact .inr ⟨(List.nil_append _).trans hafter.symm, hraises'⟩
    | cons first rest =>
      cases hafter
      exact .inl ⟨rfl, hraises⟩

end Driver

/-! ## Trails -/

/-- Since `conn`, the driver was called like this and in no other way. -/
structure Trail (setup : Setup δ κ) (conn : Connection δ κ) (called : List DriverCall)
    (conn' : Connection δ κ) : Prop where
  calls : conn'.calls = conn.calls ++ called
  database : conn'.database = setup.driver.left conn.database called

variable {setup : Setup δ κ} {conn conn' conn'' ready : Connection δ κ}
  {calls later : List DriverCall}

theorem Trail.refl (setup : Setup δ κ) (conn : Connection δ κ) : Trail setup conn [] conn where
  calls := (List.append_nil _).symm
  database := rfl

theorem Trail.append (h : Trail setup conn calls conn') (h' : Trail setup conn' later conn'') :
    Trail setup conn (calls ++ later) conn'' where
  calls := by rw [h'.calls, h.calls, List.append_assoc]
  database := by rw [h'.database, h.database, Driver.left_append]

theorem quiet_trail (setup : Setup δ κ) (conn : Connection δ κ) (calls : List DriverCall) :
    Quiet (Trail setup conn calls) where
  access _ _ h := ⟨h.calls, h.database⟩
  hold _ _ _ _ h := ⟨h.calls, h.database⟩
  note _ _ he h := ⟨(Connection.calls_record he).trans h.calls, h.database⟩
  count _ _ h := ⟨h.calls, h.database⟩

theorem Trail.call [Cursor κ] (h : Trail setup conn [] ready) (kind : CallKind) (mode : Mode)
    (cs : List Command) {database : δ}
    (hdatabase : database = setup.driver.left conn.database
      [⟨kind, mode, cs, ready.readers.openCursors⟩]) :
    Trail setup conn [⟨kind, mode, cs, ready.readers.openCursors⟩]
      { ready.recordCall kind mode cs with database } where
  calls := by
    have hready := h.calls
    rw [List.append_nil] at hready
    rw [← hready]
    exact List.filterMap_append
  database := hdatabase

/-- Since `conn`, a poll has called the driver, and an error that the driver raised is what the poll
comes to. -/
def Explained {τ α : Type} (setup : Setup δ κ) (conn : Connection δ κ)
    (R : Command → Nat → Error → Polled τ α → Prop) (x : Polled τ α × Connection δ κ) : Prop :=
  ∃ calls, Trail setup conn calls x.2 ∧ ∀ c polls why,
    setup.driver.RaisesIn conn.database calls c polls why → R c polls why x.1

theorem Explained.of_quiet {τ α : Type} {R : Command → Nat → Error → Polled τ α → Prop}
    {x : Polled τ α × Connection δ κ} (h : Trail setup conn [] x.2) : Explained setup conn R x :=
  ⟨[], h, fun _ _ _ hraises => absurd hraises Driver.not_raisesIn_nil⟩

/-! ## Protocols -/

namespace Protocol

variable {β α : Type} {p : Protocol δ κ β α}

/-- The call was answered with an error, and is over or waits for this answer. -/
inductive Refused (p : Protocol δ κ β α) (c : Command) :
    Nat → Error → Polled (Call β) (Outcome α) → Prop
  | ready {why : Error} : Refused p c 0 why (.ready (.error (c.blame why)))
  | sent {polls : Nat} {why : Error} {b : β} :
      (∀ conn, (p.finish b conn).1 = .error (c.blame why)) →
        Refused p c (polls + 1) why (.waiting (.sent polls b))

/-- Calls of this protocol name their command in the errors of the driver. -/
structure Blames (setup : Setup δ κ) (p : Protocol δ κ β α) : Prop where
  begins : ∀ conn, ∃ calls, Trail setup conn calls (p.begin conn).2 ∧ ∀ c polls why,
    setup.driver.RaisesIn conn.database calls c polls why →
      ∃ b, (p.begin conn).1 = .sent polls b ∧ ∀ conn, (p.finish b conn).1 = .error (c.blame why)
  finishes : ∀ b conn, Trail setup conn [] (p.finish b conn).2

theorem answer_trail (h : p.Blames setup) (polls : Nat) (b : β)
    (htrail : Trail setup conn calls conn') :
    Trail setup conn calls (p.answer polls b conn').2 := by
  cases polls with
  | zero =>
    have hfinish := htrail.append (h.finishes b conn')
    rw [List.append_nil] at hfinish
    exact (quiet_trail setup conn calls).access _ .free hfinish
  | succ n => exact htrail

theorem answer_refused {c : Command} {why : Error} {b : β}
    (hfinish : ∀ conn, (p.finish b conn).1 = .error (c.blame why)) (polls : Nat)
    (conn : Connection δ κ) : p.Refused c polls why (p.answer polls b conn).1 := by
  cases polls with
  | zero =>
    have hanswer : (p.answer 0 b conn).1 = .ready (.error (c.blame why)) :=
      congrArg Polled.ready (hfinish conn)
    rw [hanswer]
    exact .ready
  | succ n => exact .sent hfinish

theorem poll_explained (h : p.Blames setup) (caller : Caller) (call : Call β)
    (conn : Connection δ κ) : Explained setup conn p.Refused (p.poll caller call conn) := by
  have hrefl := Trail.refl setup conn
  cases call with
  | sent polls b => exact .of_quiet (answer_trail h polls b hrefl)
  | waiting =>
    simp only [poll]
    split
    · exact .of_quiet hrefl
    · exact .of_quiet hrefl
    · exact .of_quiet hrefl
    · exact .of_quiet hrefl
    · obtain ⟨calls, htrail, hraises⟩ := h.begins (conn.setAccess .held)
      have htrail' : Trail setup conn calls (p.begin (conn.setAccess .held)).2 :=
        ⟨htrail.calls, htrail.database⟩
      have hq := quiet_trail setup conn calls
      rw [start_eq]
      refine ⟨calls, ?_, ?_⟩
      · generalize p.begin (conn.setAccess .held) = begun at htrail'
        obtain ⟨⟨polls, b⟩ | outcome | message, conn'⟩ := begun
        · exact answer_trail h polls b htrail'
        · exact hq.access _ .free htrail'
        · exact hq.access _ .broken htrail'
      · intro c polls why hraised
        obtain ⟨b, hbegin, hfinish⟩ := hraises c polls why hraised
        have hafter : ∀ x : Begun β α × Connection δ κ, x.1 = .sent polls b →
            p.afterBegin x = p.answer polls b x.2 := by
          rintro ⟨_, conn'⟩ rfl
          rfl
        rw [hafter _ hbegin]
        exact answer_refused hfinish polls _

end Protocol

/-- What a call makes of its beginning, once it is ready and the driver has given this answer. -/
theorem Begun.ofPromise_blames [Cursor κ] {α β α' : Type} {p : Protocol δ κ β α'}
    {f : Outcome α → β} {kind : CallKind} {mode : Mode} {cs : List Command}
    {answer : Promise α × δ} (hready : Trail setup conn [] ready)
    (hdatabase : answer.2 = setup.driver.left conn.database
      [⟨kind, mode, cs, ready.readers.openCursors⟩])
    (hraises : ∀ c polls why, setup.driver.Raises conn.database
      ⟨kind, mode, cs, ready.readers.openCursors⟩ c polls why →
        answer.1 = .after polls (.error why) ∧
          ∀ conn, (p.finish (f (.error why)) conn).1 = .error (c.blame why))
    {begun : Begun β α' × Connection δ κ}
    (hbegun : begun = Begun.ofPromise f (ready.recordCall kind mode cs) answer) :
    ∃ calls, Trail setup conn calls begun.2 ∧ ∀ c polls why,
      setup.driver.RaisesIn conn.database calls c polls why →
        ∃ b, begun.1 = .sent polls b ∧ ∀ conn, (p.finish b conn).1 = .error (c.blame why) := by
  subst hbegun
  refine ⟨[⟨kind, mode, cs, ready.readers.openCursors⟩], ?_, ?_⟩
  · have htrail := hready.call kind mode cs hdatabase
    obtain ⟨_ | _, database⟩ := answer <;> exact htrail
  · intro c polls why hraised
    obtain ⟨hanswer, hfinish⟩ := hraises c polls why hraised.single
    obtain ⟨promise, database⟩ := answer
    cases hanswer
    exact ⟨_, rfl, hfinish⟩

variable [Cursor κ]

theorem Flushing.blames (setup : Setup δ κ) (mode : Mode) : (protocol setup mode).Blames setup where
  begins conn := by
    have htaken : Trail setup conn [] conn.takePending.2 := ⟨(List.append_nil _).symm, rfl⟩
    have hq := quiet_trail setup conn []
    have hready : Trail setup conn [] (ready setup conn) :=
      hq.count _ _ (hq.note.logBatch setup conn.pending.log (hq.checkReaders htaken))
    simp only [protocol, begin_eq, ready_database]
    split
    · exact ⟨[], htaken, fun _ _ _ h => absurd h Driver.not_raisesIn_nil⟩
    · refine Begun.ofPromise_blames (p := protocol setup mode) hready rfl ?_ rfl
      intro c polls why hraises
      cases hraises with
      | batch hanswer => exact ⟨hanswer, fun _ => rfl⟩
  finishes sent conn := by
    have hrefl := Trail.refl setup conn
    simp only [protocol, finish, verify]
    split
    · split
      · exact hrefl
      · exact (quiet_trail setup conn []).note _ _ rfl hrefl
    · exact hrefl

theorem Executing.blames (setup : Setup δ κ) (mode : Mode) (c : Command) :
    (protocol setup mode c).Blames setup where
  begins conn := by
    have hready := (quiet_trail setup conn []).beforeSingle setup c (.refl setup conn)
    simp only [protocol, begin_eq, Connection.beforeSingle_database]
    refine Begun.ofPromise_blames (p := protocol setup mode c) hready rfl ?_ rfl
    intro c' polls why hraises
    cases hraises with
    | execute hanswer => exact ⟨hanswer, fun _ => rfl⟩
  finishes sent conn := .refl setup conn

theorem Trail.afterCall (h : Trail setup conn [] ready) (mode : Mode) (c : Command)
    {answer : Promise κ × δ}
    (hanswer : answer = setup.driver.read mode c conn.database) :
    Trail setup conn [⟨.reader, mode, [c], ready.readers.openCursors⟩]
      (Dispatch.afterCall (ready.recordCall .reader mode [c]) answer).2 := by
  have hdatabase : answer.2 = setup.driver.left conn.database
      [⟨.reader, mode, [c], ready.readers.openCursors⟩] := congrArg Prod.snd hanswer
  have htrail := h.call .reader mode [c] hdatabase
  obtain ⟨⟨polls, _ | _ | _ | _⟩ | message, database⟩ := answer
  · exact (quiet_trail setup conn _).hold _ _ _ _ htrail
  all_goals exact htrail

/-- Only the handler's call is made, and its error is what comes back. -/
theorem Dispatch.run_trail (hready : Trail setup conn [] ready) (caller : Caller) (c : Command) :
    ∃ calls, Trail setup conn calls (run setup caller c ready).2 ∧ ∀ c' polls why,
      setup.driver.RaisesIn conn.database calls c' polls why →
        c' = c ∧ (run setup caller c ready).1 = .sent polls (.error why) := by
  have hnone : Trail setup conn [] ready ∧ ∀ c' polls why,
      setup.driver.RaisesIn conn.database [] c' polls why →
        c' = c ∧ (run setup caller c ready).1 = .sent polls (.error why) :=
    ⟨hready, fun _ _ _ h => absurd h Driver.not_raisesIn_nil⟩
  cases hcaller : caller.cancelReason? ready.contexts with
  | some reason =>
    have hrun : (run setup caller c ready).2 = ready := by simp only [run, hcaller]
    rw [hrun]
    exact ⟨[], hnone⟩
  | none =>
    cases hselect : setup.chain.select c with
    | error why =>
      have hrun : (run setup caller c ready).2 = ready := by simp only [run, hcaller, hselect]
      rw [hrun]
      exact ⟨[], hnone⟩
    | ok handler =>
      have hdatabase : ready.database = conn.database := hready.database
      rw [run_eq hcaller hselect, hdatabase]
      refine ⟨_, hready.afterCall _ c rfl, ?_⟩
      intro c' polls why hraised
      cases hraised.single with
      | read hanswer =>
        refine ⟨rfl, ?_⟩
        generalize setup.driver.read (mode caller handler) c conn.database = answer at hanswer
        obtain ⟨promise, database⟩ := answer
        cases hanswer
        rfl

theorem Opening.blames (setup : Setup δ κ) (caller : Caller) (c : Command) :
    (protocol setup caller c).Blames setup where
  begins conn := by
    have hready := (quiet_trail setup conn []).beforeSingle setup c (.refl setup conn)
    obtain ⟨calls, htrail, hraises⟩ := Dispatch.run_trail hready caller (setup.prepare c)
    have hpair : conn.beforeSingle setup c = (setup.prepare c, (conn.beforeSingle setup c).2) := rfl
    refine ⟨calls, ?_⟩
    simp only [protocol, begin]
    rw [hpair]
    dsimp only
    generalize Dispatch.run setup caller (setup.prepare c) (conn.beforeSingle setup c).2 =
      result at *
    obtain ⟨⟨polls, place⟩ | reason | why | message, conn'⟩ := result
    · refine ⟨htrail, fun c' polls' why hraised => ?_⟩
      obtain ⟨rfl, hsent⟩ := hraises c' polls' why hraised
      cases hsent
      exact ⟨_, rfl, fun _ => rfl⟩
    all_goals
      refine ⟨htrail, fun c' polls' why' hraised => ?_⟩
      cases (hraises c' polls' why' hraised).2
  finishes sent conn := by
    have hrefl := Trail.refl setup conn
    have hq := quiet_trail setup conn []
    simp only [protocol, finish]
    split
    · exact hq.count _ (fun s => { s with readersOpened := s.readersOpened + 1 })
        (hq.register _ hrefl)
    all_goals exact hrefl

/-! ## Executions -/

namespace Execution

variable {caller : Caller}

/-- The call of an errand was answered with an error, and the execution has failed or waits for this
answer. -/
inductive Refused (setup : Setup δ κ) (caller : Caller) (c : Command) :
    Nat → Error → Polled Execution (Except Stop (List ResultSet)) → Prop
  | ready {why : Error} : Refused setup caller c 0 why (.ready (.error (.failed (c.blame why))))
  | sent {polls : Nat} {why : Error} {errand : Errand} {b : Opening.Sent} {rest : List Errand}
      {done : List ResultSet} :
      (∀ conn, ((Opening.protocol setup caller errand.command).finish b conn).1 =
        .error (c.blame why)) →
        Refused setup caller c (polls + 1) why (.waiting ⟨errand, .sent polls b, rest, done⟩)

/-- The opening of an errand makes all its calls, and its failure is that of the execution. -/
theorem afterErrand_explained (errand : Errand) (rest : List Errand) (done : List ResultSet)
    {x : Polled (Call Opening.Sent) (Outcome Handle) × Connection δ κ}
    (hrest : ∀ done conn, Explained setup conn (Refused setup caller)
      (run setup caller rest done conn))
    (hx : Explained setup conn (Opening.protocol setup caller errand.command).Refused x) :
    Explained setup conn (Refused setup caller)
      (afterErrand setup caller errand rest done (afterOpening caller errand x)) := by
  obtain ⟨calls, htrail, hraises⟩ := hx
  have hkeep : ∀ {y : Polled Execution (Except Stop (List ResultSet)) × Connection δ κ},
      Trail setup conn calls y.2 →
      (∀ c polls why, (Opening.protocol setup caller errand.command).Refused c polls why x.1 →
        Refused setup caller c polls why y.1) → Explained setup conn (Refused setup caller) y :=
    fun htrail' hrefused => ⟨calls, htrail', fun c polls why h =>
      hrefused c polls why (hraises c polls why h)⟩
  obtain ⟨(h | why | reason | message) | call | message, conn'⟩ := x
  · -- The reader is there, so nothing was raised. The other errands may call again.
    have hnone : ∀ c polls why, ¬ setup.driver.RaisesIn conn.database calls c polls why := by
      intro c polls why h
      cases hraises c polls why h
    have hread := (quiet_trail setup conn calls).read caller errand h htrail
    simp only [afterOpening, complete] at hread ⊢
    generalize read caller errand h conn' = reading at hread
    obtain ⟨stop | sets, conn₁⟩ := reading
    · exact hkeep hread fun _ _ _ h => by cases h
    · obtain ⟨later, htrail', hraises'⟩ := hrest (done ++ sets) conn₁
      refine ⟨calls ++ later, hread.append htrail', fun c polls why h => ?_⟩
      rcases h.append with h | h
      · exact absurd h (hnone c polls why)
      · rw [← hread.database] at h
        exact hraises' c polls why h
  · refine hkeep htrail fun c polls why' h => ?_
    cases h
    exact .ready
  · exact hkeep htrail fun _ _ _ h => by cases h
  · exact hkeep htrail fun _ _ _ h => by cases h
  · refine hkeep htrail fun c polls why h => ?_
    cases h with
    | sent hfinish => exact .sent hfinish
  · exact hkeep htrail fun _ _ _ h => by cases h

theorem run_explained (setup : Setup δ κ) (caller : Caller) (errands : List Errand)
    (done : List ResultSet) (conn : Connection δ κ) :
    Explained setup conn (Refused setup caller) (run setup caller errands done conn) := by
  induction errands generalizing done conn with
  | nil => exact .of_quiet (.refl setup conn)
  | cons errand rest ih =>
    rw [run_cons, ask_eq]
    exact afterErrand_explained errand rest done ih
      (Protocol.poll_explained (Opening.blames setup caller errand.command) caller .waiting conn)

theorem resume_explained (setup : Setup δ κ) (caller : Caller) (e : Execution)
    (conn : Connection δ κ) :
    Explained setup conn (Refused setup caller) (e.resume setup caller conn) := by
  obtain ⟨errand, call, rest, done⟩ := e
  rw [resume_eq, ask_eq]
  exact afterErrand_explained errand rest done (run_explained setup caller rest)
    (Protocol.poll_explained (Opening.blames setup caller errand.command) caller call conn)

end Execution

/-! ## Operations -/

namespace Protocol

/-- An operation around a call waits as long as the call, and tells the error of the call. -/
structure Wraps {β α : Type} (p : Protocol δ κ β α) (setup : Setup δ κ) (caller : Caller)
    (wrap : Call β → Operation ρ) (tell : Error → Error) : Prop where
  waits : ∀ call call' conn, (p.poll caller call conn).1 = .waiting call' →
    ((wrap call).poll setup caller conn).1 = .waiting (wrap call')
  fails : ∀ call conn why, (p.poll caller call conn).1 = .ready (.error why) →
    ((wrap call).poll setup caller conn).1 = .ready (.error (tell why))

variable {β α : Type} {p : Protocol δ κ β α} {caller : Caller} {wrap : Call β → Operation ρ}
  {tell : Error → Error} {c : Command} {why : Error}

theorem Wraps.of_map {f : Outcome α → Outcome (Reply ρ)} (hf : ∀ why, f (.error why) = .error why)
    (hpoll : ∀ call conn, ((wrap call).poll setup caller conn).1 =
      ((p.poll caller call conn).1.map f).within wrap) : p.Wraps setup caller wrap id where
  waits call call' conn h := by
    rw [hpoll, h]
    rfl
  fails call conn why h := by
    rw [hpoll, h]
    exact congrArg Polled.ready (hf why)

theorem Wraps.due_sent (h : p.Wraps setup caller wrap tell) {b : β}
    (hfinish : ∀ conn, (p.finish b conn).1 = .error why) (polls : Nat) (conn : Connection δ κ) :
    Polled.Due setup caller (.error (tell why)) polls
      ((wrap (.sent polls b)).poll setup caller conn).1 := by
  induction polls generalizing conn with
  | zero =>
    rw [h.fails (.sent 0 b) conn why (congrArg Polled.ready (hfinish conn))]
    exact .ready
  | succ n ih =>
    rw [h.waits (.sent (n + 1) b) (.sent n b) conn rfl]
    exact .waiting ih

theorem Wraps.due (h : p.Wraps setup caller wrap tell) {call : Call β} {polls : Nat}
    (hrefused : p.Refused c polls why (p.poll caller call conn).1) :
    Polled.Due setup caller (.error (tell (c.blame why))) polls
      ((wrap call).poll setup caller conn).1 := by
  generalize hpolled : (p.poll caller call conn).1 = polled at hrefused
  cases hrefused with
  | ready =>
    rw [h.fails call conn _ hpolled]
    exact .ready
  | sent hfinish =>
    rw [h.waits call _ conn hpolled]
    exact .waiting (h.due_sent hfinish _)

end Protocol

namespace Operation

variable {caller : Caller}

/-- The caller hears, after the polls that the driver needs, of the error with its command. -/
def Told (setup : Setup δ κ) (caller : Caller) (c : Command) (polls : Nat) (why : Error)
    (polled : Polled (Operation ρ) (Outcome (Reply ρ))) : Prop :=
  ∃ e, e.root = (c.blame why).root ∧ Polled.Due setup caller (.error e) polls polled

theorem explained_of_wraps {β α : Type} {p : Protocol δ κ β α} {wrap : Call β → Operation ρ}
    {tell : Error → Error} (hp : p.Blames setup) (h : p.Wraps setup caller wrap tell)
    (htell : ∀ why, (tell why).root = why.root) {call : Call β}
    {x : Polled (Operation ρ) (Outcome (Reply ρ)) × Connection δ κ}
    (hx : x.1 = ((wrap call).poll setup caller conn).1)
    (hquiet : ∀ calls, Trail setup conn calls (p.poll caller call conn).2 →
      Trail setup conn calls x.2) : Explained setup conn (Told setup caller) x := by
  obtain ⟨calls, htrail, hraises⟩ := Protocol.poll_explained hp caller call conn
  refine ⟨calls, hquiet calls htrail, fun c polls why hraised => ?_⟩
  rw [hx]
  exact ⟨_, htell _, h.due (hraises c polls why hraised)⟩

theorem wraps_listing (setup : Setup δ κ) (caller : Caller) (c : Command) (decoder : RowDecoder ρ) :
    (Opening.protocol setup caller c).Wraps setup caller (listing c decoder) id where
  waits call call' conn h := by
    simp only [poll, Listing.poll, Opening.poll]
    split <;> rename_i heq <;> rw [heq] at h <;> cases h
    rfl
  fails call conn why h := by
    simp only [poll, Listing.poll, Opening.poll]
    split <;> rename_i heq <;> rw [heq] at h <;> cases h
    rfl

theorem poll_running (setup : Setup δ κ) (caller : Caller) (k i : Nat)
    (project : ResultSet → Except Error ρ) (errand : Errand) (call : Call Opening.Sent)
    (rest : List Errand) (done : List ResultSet) (conn : Connection δ κ) :
    ((viewing k i project (.running ⟨errand, call, rest, done⟩)).poll setup caller conn).1 =
      ((Viewing.proceed k i (Execution.afterErrand setup caller errand rest done
        (Execution.afterOpening caller errand
          (Opening.poll setup caller errand.command call conn)))).1.map
            fun o => o.andThen fun rows => (project rows).map .projected).within
              (viewing k i project) := by
  rw [← Execution.ask_eq, ← Execution.resume_eq]
  rfl

theorem wraps_viewing (setup : Setup δ κ) (caller : Caller) (k i : Nat)
    (project : ResultSet → Except Error ρ) (errand : Errand) (rest : List Errand)
    (done : List ResultSet) :
    (Opening.protocol setup caller errand.command).Wraps setup caller
      (fun call => viewing k i project (.running ⟨errand, call, rest, done⟩)) .shared where
  waits call call' conn h := by
    rw [poll_running, Opening.poll]
    generalize (Opening.protocol setup caller errand.command).poll caller call conn = x at h
    obtain ⟨_, conn'⟩ := x
    cases h
    rfl
  fails call conn why h := by
    rw [poll_running, Opening.poll]
    generalize (Opening.protocol setup caller errand.command).poll caller call conn = x at h
    obtain ⟨_, conn'⟩ := x
    cases h
    rfl

/-- What an execution is refused, its view tells. -/
theorem told_of_refused {k i : Nat} {project : ResultSet → Except Error ρ} {c : Command}
    {polls : Nat} {why : Error}
    {x : Polled Execution (Except Stop (List ResultSet)) × Connection δ κ}
    (h : Execution.Refused setup caller c polls why x.1) :
    Told setup caller c polls why (((Viewing.proceed k i x).1.map fun o =>
      o.andThen fun rows => (project rows).map .projected).within (viewing k i project)) := by
  obtain ⟨polled, conn⟩ := x
  cases h with
  | ready => exact ⟨.shared (c.blame why), rfl, .ready⟩
  | sent hfinish =>
    exact ⟨.shared (c.blame why), rfl,
      .waiting ((wraps_viewing setup caller k i project _ _ _).due_sent hfinish _)⟩

theorem view_explained {k i : Nat} {project : ResultSet → Except Error ρ}
    {x : Polled Execution (Except Stop (List ResultSet)) × Connection δ κ}
    (h : Explained setup conn (Execution.Refused setup caller) x) :
    Explained setup conn (Told setup caller) (((Viewing.proceed k i x).1.map fun o =>
      o.andThen fun rows => (project rows).map .projected).within (viewing k i project),
        (Viewing.proceed k i x).2) := by
  obtain ⟨calls, htrail, hraises⟩ := h
  obtain ⟨deferred, hproceed⟩ := Viewing.proceed_eq k i x
  refine ⟨calls, ?_, fun c polls why hraised => told_of_refused (hraises c polls why hraised)⟩
  rw [hproceed]
  exact ⟨htrail.calls, htrail.database⟩

theorem adding_explained (setup : Setup δ κ) (caller : Caller) (call : Call Flushing.Sent)
    (conn : Connection δ κ) : Explained setup conn (Told setup caller)
      ((adding (ρ := ρ) (.flushing call)).poll setup caller conn) :=
  have hwraps : (Flushing.protocol setup caller.mode).Wraps setup caller
      (fun call => adding (ρ := ρ) (.flushing call)) id :=
    .of_map (f := Outcome.map fun _ => .done) (fun _ => rfl) (poll_filled setup caller)
  explained_of_wraps (Flushing.blames setup caller.mode) hwraps (fun _ => rfl) rfl fun _ h => h

/-- Whatever the driver raises in a call of an operation, the caller hears of it. -/
theorem poll_explained (setup : Setup δ κ) (caller : Caller) {operation : Operation ρ}
    (hdirect : operation.isDirect = false) (conn : Connection δ κ) :
    Explained setup conn (Told setup caller) (operation.poll setup caller conn) := by
  have hrefl := Trail.refl setup conn
  cases operation with
  | flushing call =>
    exact explained_of_wraps (Flushing.blames setup caller.mode)
      (.of_map (f := Outcome.map .rows) (fun _ => rfl) fun _ _ => rfl) (fun _ => rfl) rfl
        fun _ h => h
  | executing c call =>
    exact explained_of_wraps (Executing.blames setup caller.mode c)
      (.of_map (f := Outcome.map .rows) (fun _ => rfl) fun _ _ => rfl) (fun _ => rfl) rfl
        fun _ h => h
  | opening c call =>
    exact explained_of_wraps (Opening.blames setup caller c)
      (.of_map (f := Outcome.map .reader) (fun _ => rfl) fun _ _ => rfl) (fun _ => rfl) rfl
        fun _ h => h
  | listing c decoder call =>
    refine explained_of_wraps (Opening.blames setup caller c)
      (wraps_listing setup caller c decoder) (fun _ => rfl) rfl fun calls htrail => ?_
    have hq := quiet_trail setup conn calls
    simp only [poll, Listing.poll, Opening.poll]
    split <;> rename_i heq <;> rw [heq] at htrail
    -- Reading the rows and closing the reader call nobody.
    case h_3 => exact hq.closeReader _ (hq.fetch _ _ htrail)
    all_goals exact htrail
  | adding state =>
    cases state with
    | flushing call => exact adding_explained setup caller call conn
    | fresh c =>
      have hpush : Trail setup conn [] (conn.push setup c).2 := ⟨(List.append_nil _).symm, rfl⟩
      cases hcaller : caller.cancelReason? conn.contexts with
      | some reason =>
        simp only [poll, Adding.poll, hcaller]
        exact .of_quiet hrefl
      | none =>
        by_cases hfull : setup.settings.batchSize ≤ conn.pending.commands.length + 1
        · rw [poll_fill setup c hcaller hfull]
          obtain ⟨calls, htrail, hraises⟩ :=
            adding_explained (ρ := ρ) setup caller .waiting (conn.push setup c).2
          exact ⟨calls, hpush.append htrail, hraises⟩
        · have hroom : conn.push setup c = (false, (conn.push setup c).2) :=
            Prod.ext (by simpa [Connection.push, PendingBatch.size] using hfull) rfl
          simp only [poll, Adding.poll, hcaller]
          rw [hroom]
          exact .of_quiet hpush
  | viewing k i project view =>
    simp only [poll, Viewing.poll]
    split
    case h_5 b hturn =>
      obtain ⟨calls, htrail, hraises⟩ := Execution.run_explained setup caller
        (b.errands setup.driver.capabilities.multipleQueries) [] (conn.updateBatch k .start)
      exact view_explained ⟨calls, ⟨htrail.calls, htrail.database⟩, hraises⟩
    case h_6 e hturn => exact view_explained (Execution.resume_explained setup caller e conn)
    all_goals exact .of_quiet hrefl
  | dispatching state => cases hdirect

end Operation

end OneConnection
