import OneConnection.Proofs.Deferred.Willing

/-!
# Refusing commands

A command that no handler accepts is refused before the driver is called. An execution of errands
comes to the first one that is refused and ends there, with the error of the refusal.
-/

namespace OneConnection

variable {δ κ : Type} {setup : Setup δ κ} {c : Command} {why : Error}

/-! ## Refusals -/

/-- An error of the chain says itself what it is about. -/
theorem Chain.blame_of_select {chain : Chain} (h : chain.select c = .error why) (c' : Command) :
    c'.blame why = why := by
  unfold select at h
  split at h
  · cases h
    rfl
  · split at h <;> cases h
    rfl

namespace Setup

/-- The error with which a command is refused, as it is or as it would be sent. -/
def refusal? (setup : Setup δ κ) (c : Command) : Option Error :=
  match setup.chain.select c, setup.chain.select (setup.prepare c) with
  | .error why, _ => some why
  | .ok _, .error why => some why
  | .ok _, .ok _ => none

theorem refusal?_eq_none : setup.refusal? c = none ↔
    (∃ handler, setup.chain.select c = .ok handler) ∧
      ∃ handler, setup.chain.select (setup.prepare c) = .ok handler := by
  unfold refusal?
  split <;> simp_all

theorem refusal?_eq_some : setup.refusal? c = some why ↔
    setup.chain.select c = .error why ∨
      (∃ handler, setup.chain.select c = .ok handler) ∧
        setup.chain.select (setup.prepare c) = .error why := by
  unfold refusal?
  split <;> simp_all

/-- The first errand that is refused stands behind `n` others, which ask for one result set each. -/
inductive Refuses (setup : Setup δ κ) : List Errand → Nat → Error → Prop
  | now {errand : Errand} {rest : List Errand} {why : Error} :
      setup.refusal? errand.command = some why → Refuses setup (errand :: rest) 0 why
  | later {errand : Errand} {rest : List Errand} {n : Nat} {why : Error} :
      setup.refusal? errand.command = none → errand.sets = 1 → Refuses setup rest n why →
        Refuses setup (errand :: rest) (n + 1) why

theorem Refuses.drop {errands rest : List Errand} {n : Nat}
    (h : setup.Refuses (errands ++ rest) n why) (hn : errands.length ≤ n) :
    setup.Refuses rest (n - errands.length) why := by
  induction errands generalizing n with
  | nil => exact h
  | cons errand errands ih =>
    cases h with
    | now => cases hn
    | later _ _ hrest =>
      rw [List.length_cons, Nat.succ_sub_succ]
      exact ih hrest (Nat.le_of_succ_le_succ hn)

end Setup

variable [Cursor κ]

/-! ## Openings -/

/-- It ends with this error, unless the caller is cancelled. -/
def Outcome.Declines {α : Type} (caller : Caller) (why : Error) (contexts : Contexts)
    (o : Outcome α) : Prop :=
  o = .error why ∨ ∃ reason, o = .cancelled reason ∧ caller.cancelReason? contexts = some reason

namespace Opening

variable {caller : Caller} {conn : Connection δ κ}

theorem admission_eq_error : (protocol setup caller c).admission = .error why ↔
    setup.chain.select c = .error why := by
  simp only [protocol]
  cases setup.chain.select c <;> simp [Except.map]

theorem admission_eq_ok : (protocol setup caller c).admission = .ok () ↔
    ∃ handler, setup.chain.select c = .ok handler := by
  simp only [protocol]
  cases setup.chain.select c <;> simp [Except.map]

/-- The connection is left as it was found, up to the small steps before a call. -/
theorem poll_refused {I : Connection δ κ → Prop} (hI : Quiet I) (caller : Caller)
    (hrefused : setup.refusal? c = some why) (h : I conn) (hbroken : conn.access ≠ .broken) :
    Polled.Ensures
      (fun o conn => I conn ∧ conn.access ≠ .broken ∧ o.Declines caller why conn.contexts)
      (fun call conn => call = .waiting ∧ I conn ∧ conn.access ≠ .broken) (fun _ => False)
      (poll setup caller c .waiting conn) := by
  have hfirst := (protocol setup caller c).firstPoll caller conn
  unfold poll
  generalize (protocol setup caller c).poll caller .waiting conn = x at hfirst ⊢
  cases hfirst with
  | cancelled hcancelled => exact ⟨h, hbroken, .inr ⟨_, rfl, hcancelled⟩⟩
  | unfit hadmission =>
    have hselect := Setup.refusal?_eq_some.mpr (.inl (admission_eq_error.mp hadmission))
    cases hrefused.symm.trans hselect
    exact ⟨h, hbroken, .inl rfl⟩
  | broken haccess => exact absurd haccess hbroken
  | queued => exact ⟨rfl, h, hbroken⟩
  | begun hadmission =>
    -- The command has passed as it is, so it is refused as it would be sent.
    obtain ⟨handler, hselect⟩ := admission_eq_ok.mp hadmission
    have hprepared : setup.chain.select (setup.prepare c) = .error why := by
      rcases Setup.refusal?_eq_some.mp hrefused with hunfit | ⟨-, hprepared⟩
      · cases hselect.symm.trans hunfit
      · exact hprepared
    have hready := hI.beforeSingle setup c (hI.access conn .held h)
    show Polled.Ensures _ _ _
      (Protocol.afterBegin _ (begin setup caller c (conn.setAccess .held)))
    rw [begin_eq]
    generalize ((conn.setAccess .held).beforeSingle setup c).2 = ready at hready
    cases hcancelled : caller.cancelReason? ready.contexts with
    | some reason =>
      simp only [Dispatch.run, hcancelled]
      exact ⟨hI.access _ .free hready, Access.free_ne_broken, .inr ⟨reason, rfl, hcancelled⟩⟩
    | none =>
      simp only [Dispatch.run, hcancelled, hprepared]
      refine ⟨hI.access _ .free hready, Access.free_ne_broken, .inl ?_⟩
      exact congrArg Outcome.error (Chain.blame_of_select hprepared _)

/-- What a poll for a command that is not refused comes to. -/
def Goes (caller : Caller) :
    Polled (Call Sent) (Outcome Handle) × Connection δ κ → Prop :=
  Polled.Ensures (fun o conn => conn.access ≠ .broken ∧ o.Reaches caller (fun _ _ => True) conn)
    (fun _ conn => conn.access ≠ .broken) fun _ => False

theorem goes_answer (setup : Setup δ κ) (c : Command) (polls place : Nat) (command : Command)
    (hbroken : conn.access ≠ .broken) :
    Goes caller ((protocol setup caller c).answer polls ⟨command, .ok place⟩ conn) := by
  cases polls with
  | zero => exact ⟨Access.free_ne_broken, .inr ⟨_, rfl, trivial⟩⟩
  | succ n => exact hbroken

/-- A willing driver opens a reader for every command that is not refused. -/
theorem goes_poll (hwilling : setup.driver.Willing) (caller : Caller)
    (htaken : setup.refusal? c = none) (hbroken : conn.access ≠ .broken) {call : Call Sent}
    (hcall : ∀ polls sent, call = .sent polls sent → ∃ place, sent.place = .ok place) :
    Goes caller (poll setup caller c call conn) := by
  obtain ⟨⟨handler, hselect⟩, handler', hprepared⟩ := Setup.refusal?_eq_none.mp htaken
  cases call with
  | sent polls sent =>
    obtain ⟨command, place⟩ := sent
    obtain ⟨place, rfl⟩ := hcall polls _ rfl
    exact goes_answer setup c polls place command hbroken
  | waiting =>
    have hfirst := (protocol setup caller c).firstPoll caller conn
    unfold poll
    generalize (protocol setup caller c).poll caller .waiting conn = x at hfirst ⊢
    cases hfirst with
    | cancelled hcancelled => exact ⟨hbroken, .inl ⟨_, rfl, hcancelled⟩⟩
    | unfit hadmission => cases hselect.symm.trans (admission_eq_error.mp hadmission)
    | broken haccess => exact absurd haccess hbroken
    | queued => exact hbroken
    | begun =>
      show Goes caller (Protocol.afterBegin _ (begin setup caller c (conn.setAccess .held)))
      rw [begin_eq]
      have hheld := Connection.beforeSingle_access setup c (conn.setAccess .held)
      generalize ((conn.setAccess .held).beforeSingle setup c).2 = ready at hheld
      cases hcancelled : caller.cancelReason? ready.contexts with
      | some reason =>
        simp only [Dispatch.run, hcancelled]
        exact ⟨Access.free_ne_broken, .inl ⟨reason, rfl, hcancelled⟩⟩
      | none =>
        obtain ⟨polls, cursor, d', hread, -⟩ := hwilling.read (Dispatch.mode caller handler')
          (setup.prepare c) ready.database
        rw [Dispatch.run_eq_sent hcancelled hprepared hread]
        refine goes_answer setup c polls _ _ ?_
        show ready.access ≠ .broken
        rw [hheld]
        exact Access.held_ne_broken

end Opening

/-! ## Executions -/

def Stop.Declines (caller : Caller) (why : Error) (contexts : Contexts) (stop : Stop) : Prop :=
  stop = .failed why ∨
    ∃ reason, stop = .cancelled reason ∧ caller.cancelReason? contexts = some reason

namespace Execution

variable {conn₀ conn : Connection δ κ} {before opened : List (Opened κ)} {caller : Caller} {n : Nat}

theorem access_complete (caller : Caller) (errand : Errand) (o : Outcome Handle)
    (conn : Connection δ κ) :
    (complete caller errand o conn).2.access = conn.access := by
  cases o with
  | ok h => exact access_read caller errand h conn
  | error | cancelled | panicked => rfl

/-- `n` commands will be on record when the errand comes that is refused. It is not sent itself. -/
def Nears (setup : Setup δ κ) (conn₀ : Connection δ κ) (before : List (Opened κ)) (why : Error)
    (n : Nat) (errand : Errand) (rest : List Errand) (call : Call Opening.Sent)
    (conn : Connection δ κ) : Prop :=
  ∃ past m, setup.Refuses (errand :: rest) m why ∧ past.length + m = n ∧ conn.access ≠ .broken ∧
    call.Holds (Recorded setup conn₀ before past) (fun sent conn => 0 < m ∧
      Asked setup conn₀ before past (setup.prepare errand.command) sent.place conn) conn

def Approaches (setup : Setup δ κ) (conn₀ : Connection δ κ) (before : List (Opened κ)) (why : Error)
    (n : Nat) (rest : List Errand) (conn : Connection δ κ) : Prop :=
  ∃ past m, setup.Refuses rest m why ∧ past.length + m = n ∧ conn.access ≠ .broken ∧
    Recorded setup conn₀ before past conn

/-- The execution stopped at the errand that is refused, or before it with its caller. -/
def Declined (setup : Setup δ κ) (conn₀ : Connection δ κ) (before : List (Opened κ)) (why : Error)
    (n : Nat) (caller : Caller) (stop : Stop) (conn : Connection δ κ) : Prop :=
  conn.access ≠ .broken ∧ stop.Declines caller why conn.contexts ∧
    ∃ opened, Recorded setup conn₀ before opened conn ∧ opened.length ≤ n

section

variable {errand : Errand} {rest : List Errand} {past : List (Opened κ)}

/-- Nothing is sent for an errand that is refused. -/
theorem ask_refused (hrefused : setup.refusal? errand.command = some why)
    (hbroken : conn.access ≠ .broken) (hrec : Recorded setup conn₀ before past conn) :
    Polled.Ensures
      (fun sets conn => ∃ stop, sets = .error stop ∧
        Declined setup conn₀ before why past.length caller stop conn)
      (Nears setup conn₀ before why past.length errand rest) (fun _ => False)
      (ask setup caller errand .waiting conn) := by
  have hpoll := Opening.poll_refused (quiet_recorded setup conn₀ before past) caller
    hrefused hrec hbroken
  rw [ask_eq]
  generalize Opening.poll setup caller errand.command .waiting conn = x at hpoll ⊢
  obtain ⟨o | call | message, conn'⟩ := x
  · obtain ⟨hrec, hbroken, rfl | ⟨reason, rfl, hcancelled⟩⟩ := hpoll
    · exact ⟨_, rfl, hbroken, .inl rfl, past, hrec, Nat.le_refl _⟩
    · exact ⟨_, rfl, hbroken, .inr ⟨reason, rfl, hcancelled⟩, past, hrec, Nat.le_refl _⟩
  · obtain ⟨rfl, hrec, hbroken⟩ := hpoll
    exact ⟨past, 0, .now hrefused, rfl, hbroken, hrec⟩
  · exact hpoll

/-- Reading for an errand before the one that is refused stops only with the caller. -/
theorem read_taken {m : Nat} {h : Handle} (hwilling : setup.driver.Willing)
    (hbefore : Steadfast before) (hsets : errand.sets = 1) (hrest : setup.Refuses rest m why)
    (hbroken : conn.access ≠ .broken)
    (hopens : Answered setup conn₀ before past (setup.prepare errand.command) (.ok h) conn) :
    match (read caller errand h conn).1 with
    | .ok _ => Approaches setup conn₀ before why (past.length + (m + 1)) rest
        (read caller errand h conn).2
    | .error stop => Declined setup conn₀ before why (past.length + (m + 1)) caller stop
        (read caller errand h conn).2 := by
  obtain ⟨cursor, r, hrec, hr, hstarts⟩ := hopens
  have hread := (quiet_recorded setup conn₀ before _).read caller errand h hrec
  have hsame : (read caller errand h conn).2.access ≠ .broken := by
    rw [access_read]
    exact hbroken
  split <;> rename_i hresult
  · refine ⟨_, m, hrest, ?_, hsame, hread⟩
    rw [List.length_append, List.length_singleton]
    omega
  · obtain ⟨_, hcursor, hsturdy⟩ := hrec.steadfast hwilling hbefore _
      (List.mem_append_right past (List.mem_singleton_self _))
    cases hcursor
    have hstops := (read_stops caller errand hr hstarts hresult).cancelled hsets hsturdy
    refine ⟨hsame, .inr hstops, _, hread, ?_⟩
    rw [List.length_append, List.length_singleton]
    omega

/-- Before the errand that is refused, only the caller can stop an execution. -/
theorem ask_taken {m : Nat} {call : Call Opening.Sent} (hwilling : setup.driver.Willing)
    (hbefore : Steadfast before) (htaken : setup.refusal? errand.command = none)
    (hsets : errand.sets = 1) (hrest : setup.Refuses rest m why) (hbroken : conn.access ≠ .broken)
    (hcall : call.Holds (Recorded setup conn₀ before past)
      (fun sent => Asked setup conn₀ before past (setup.prepare errand.command) sent.place) conn) :
    Polled.Ensures
      (fun sets conn => match sets with
        | .ok _ => Approaches setup conn₀ before why (past.length + (m + 1)) rest conn
        | .error stop => Declined setup conn₀ before why (past.length + (m + 1)) caller stop conn)
      (Nears setup conn₀ before why (past.length + (m + 1)) errand rest) (fun _ => False)
      (ask setup caller errand call conn) := by
  have hplaced : ∀ polls sent, call = .sent polls sent → ∃ place, sent.place = .ok place := by
    rintro polls sent rfl
    exact Asked.placed hcall hwilling hbefore
  have hgoes := Opening.goes_poll hwilling caller htaken hbroken hplaced
  have hopens := Protocol.poll_ensures (opening_leads setup conn₀ before past caller errand.command)
    caller call conn hcall
  rw [ask_eq]
  unfold Opening.poll at hgoes ⊢
  generalize (Opening.protocol setup caller errand.command).poll caller call conn = x at *
  obtain ⟨o | call' | message, conn'⟩ := x
  · obtain ⟨hbroken, ⟨reason, rfl, hcancelled⟩ | ⟨h, rfl, -⟩⟩ := hgoes
    · obtain ⟨opened, hrec, rfl | rfl⟩ := hopens
      · exact ⟨hbroken, .inr ⟨reason, rfl, hcancelled⟩, _, hrec, Nat.le_add_right _ _⟩
      · refine ⟨hbroken, .inr ⟨reason, rfl, hcancelled⟩, _, hrec, ?_⟩
        rw [List.length_append]
        exact Nat.add_le_add_left (Nat.succ_le_succ (Nat.zero_le m)) _
    · exact read_taken hwilling hbefore hsets hrest hbroken hopens
  · refine ⟨past, m + 1, .later htaken hsets hrest, rfl, hgoes, ?_⟩
    cases call' with
    | waiting => exact hopens
    | sent polls sent => exact ⟨Nat.succ_pos m, hopens⟩
  · exact hgoes

end

theorem refused_leads (hwilling : setup.driver.Willing) (hbefore : Steadfast before)
    (conn₀ : Connection δ κ) (why : Error) (n : Nat) (caller : Caller) :
    Leads setup caller (fun errand rest _ => Nears setup conn₀ before why n errand rest)
      (fun rest _ => Approaches setup conn₀ before why n rest)
      (Declined setup conn₀ before why n caller) (fun _ => False) where
  begins errand rest done conn := by
    rintro ⟨past, m, hrefuses, hlength, hbroken, hrec⟩
    exact ⟨past, m, hrefuses, hlength, hbroken, hrec⟩
  asks errand rest done call conn := by
    rintro ⟨past, m, hrefuses, rfl, hbroken, hcall⟩
    cases hrefuses with
    | now hrefused =>
      cases call with
      | sent => exact absurd hcall.1 (Nat.lt_irrefl 0)
      | waiting =>
        refine Polled.ensures_mono ?_ (fun _ _ h => h) (fun _ h => h)
          (ask_refused hrefused hbroken hcall)
        rintro _ conn ⟨stop, rfl, hdeclined⟩
        exact hdeclined
    | later htaken hsets hrest =>
      refine ask_taken hwilling hbefore htaken hsets hrest hbroken ?_
      cases call with
      | waiting => exact hcall
      | sent polls sent => exact hcall.2

/-- A step of an execution on its way to the errand that is refused: the execution waits, or it
stopped at this errand, or with its caller. -/
def Stays (setup : Setup δ κ) (conn₀ : Connection δ κ) (before : List (Opened κ)) (why : Error)
    (n : Nat) (caller : Caller)
    (x : Polled Execution (Except Stop (List ResultSet)) × Connection δ κ) : Prop :=
  (∃ opened, Recorded setup conn₀ before opened x.2 ∧ opened.length ≤ n) ∧
    ((∃ e, x.1 = .waiting e) ∨
      ∃ stop, x.1 = .ready (.error stop) ∧ stop.Declines caller why x.2.contexts)

omit [Cursor κ] in
theorem stays_of_ensures {x : Polled Execution (Except Stop (List ResultSet)) × Connection δ κ}
    (h : Polled.Ensures
      (Ends (fun rest _ => Approaches setup conn₀ before why n rest)
        (Declined setup conn₀ before why n caller))
      (fun e => Nears setup conn₀ before why n e.errand e.rest e.call) (fun _ => False) x) :
    Stays setup conn₀ before why n caller x := by
  obtain ⟨(stop | sets) | e | message, conn⟩ := x
  · obtain ⟨-, hdeclines, hrec⟩ := h
    exact ⟨hrec, .inr ⟨stop, rfl, hdeclines⟩⟩
  · obtain ⟨past, m, hrefuses, -⟩ := h
    cases hrefuses
  · obtain ⟨past, m, -, rfl, -, hcall⟩ := h
    refine ⟨?_, .inl ⟨e, rfl⟩⟩
    obtain ⟨errand, _ | ⟨polls, sent⟩, rest, done⟩ := e
    · exact ⟨past, hcall, Nat.le_add_right _ _⟩
    · obtain ⟨hpos, cursor?, hrec, -⟩ := hcall
      refine ⟨_, hrec, ?_⟩
      rw [List.length_append, List.length_singleton]
      exact Nat.add_le_add_left hpos _
  · exact h.elim

theorem run_stays (hwilling : setup.driver.Willing) {errands : List Errand}
    (hrefuses : setup.Refuses errands n why) (hbroken : conn.access ≠ .broken) (caller : Caller)
    (done : List ResultSet) :
    Stays setup conn [] why n caller (run setup caller errands done conn) := by
  apply stays_of_ensures
  apply run_ensures (refused_leads hwilling .nil conn why n caller)
  exact ⟨[], n, hrefuses, Nat.zero_add n, hbroken, .refl [] conn⟩

/-- An execution that has sent no more than what comes before the refused errand stays there. -/
theorem resume_stays (hwilling : setup.driver.Willing) {errands : List Errand} {e : Execution}
    (hrefuses : setup.Refuses errands n why) (hbefore : Steadfast before)
    (hshort : before.length ≤ n) (hbroken : conn.access ≠ .broken) (caller : Caller)
    (hwaits : Waits setup conn before errands e.errand e.rest e.done e.call conn) :
    Stays setup conn before why n caller (e.resume setup caller conn) := by
  apply stays_of_ensures
  apply resume_ensures (refused_leads hwilling hbefore conn why n caller)
  obtain ⟨errand, call, rest, done⟩ := e
  obtain ⟨done', past, rfl, hdelivered, hcall⟩ := hwaits
  have hlength := hdelivered.length_eq
  cases call with
  | waiting =>
    obtain rfl := Recorded.self_eq hcall
    exact ⟨past, _, hrefuses.drop (by omega), by omega, hbroken, hcall⟩
  | sent polls sent =>
    obtain ⟨cursor?, hrec, hplace⟩ := hcall
    obtain rfl := hrec.self_eq
    rw [List.length_append, List.length_singleton] at hshort
    exact ⟨past, _, hrefuses.drop (by omega), by omega, hbroken, by omega, cursor?, hrec, hplace⟩

end Execution

namespace Viewing

variable {caller : Caller} {k n : Nat} {view : Viewing} {conn : Connection δ κ}
  {x : Polled Execution (Except Stop (List ResultSet)) × Connection δ κ}

theorem start_stays {b : DeferredBatch} (hwilling : setup.driver.Willing)
    (hw : view.work setup caller k conn = some x) (ht : view.turn caller k conn = .starts b)
    (hrefuses : setup.Refuses (b.errands setup.driver.capabilities.multipleQueries) n why)
    (hbroken : conn.access ≠ .broken) : Execution.Stays setup conn [] why n caller x := by
  simp only [work, ht, Option.some.injEq] at hw
  subst hw
  have hstarted : (conn.updateBatch k .start).access ≠ .broken := hbroken
  exact Execution.run_stays hwilling hrefuses hstarted caller []

theorem resume_stays {e : Execution} {errands : List Errand} {before : List (Opened κ)}
    (hwilling : setup.driver.Willing) (hw : (running e).work setup caller k conn = some x)
    (hwaits : Execution.Waits setup conn before errands e.errand e.rest e.done e.call conn)
    (hrefuses : setup.Refuses errands n why) (hbefore : Steadfast before)
    (hshort : before.length ≤ n) (hbroken : conn.access ≠ .broken) :
    Execution.Stays setup conn before why n caller x := by
  cases Option.some.inj hw
  exact Execution.resume_stays hwilling hrefuses hbefore hshort hbroken caller hwaits

omit [Cursor κ] in
theorem settle_declines {stop : Stop} (k index : Nat)
    (h : stop.Declines caller why conn.contexts) :
    (settle k index (.error stop) conn).1.Declines caller (.shared why)
      (settle k index (.error stop) conn).2.contexts := by
  rcases h with rfl | ⟨reason, rfl, hcancelled⟩
  · exact .inl rfl
  · exact .inr ⟨reason, rfl, hcancelled⟩

end Viewing

theorem Outcome.Declines.andThen {α β : Type} {caller : Caller} {contexts : Contexts}
    {o : Outcome α} (f : α → Except Error β) (h : o.Declines caller why contexts) :
    (o.andThen f).Declines caller why contexts := by
  rcases h with rfl | ⟨reason, rfl, hcancelled⟩
  · exact .inl rfl
  · exact .inr ⟨reason, rfl, hcancelled⟩

/-! ## Executions that end -/

/-- What every poll ensures of the answer, the last one does. -/
theorem Polled.ComesTo.ensures {τ α σ : Type} {poll : τ → σ → Polled τ α × σ}
    {R : α → σ → Prop} {W : τ → σ → Prop} {C : σ → Prop} {x : Polled τ α × σ} {a : α} {s : σ}
    (hpoll : ∀ t s, W t s → Polled.Ensures R W C (poll t s)) (h : Polled.ComesTo poll x a s)
    (hx : Polled.Ensures R W C x) : R a s := by
  induction h with
  | ready => exact hx
  | waiting _ ih => exact ih (hpoll _ _ hx)

section

variable {conn : Connection δ κ} {caller : Caller}

omit [Cursor κ] in
/-- A call that finds the connection free and does not crash gives it back in the end. -/
theorem Protocol.comesTo {β α : Type} {p : Protocol δ κ β α} (hfree : conn.access = .free)
    (hcrash : ∀ message, (p.poll caller .waiting conn).1 ≠ .crashed message) :
    ∃ o conn', Polled.ComesTo (p.poll caller) (p.poll caller .waiting conn) o conn' ∧
      conn'.access = .free := by
  have hfirst := p.firstPoll caller conn
  generalize p.poll caller .waiting conn = x at hcrash hfirst ⊢
  cases hfirst with
  | cancelled => exact ⟨_, conn, .ready, hfree⟩
  | unfit => exact ⟨_, conn, .ready, hfree⟩
  | broken haccess => cases hfree.symm.trans haccess
  | queued haccess => cases hfree.symm.trans haccess
  | begun =>
    generalize p.begin (conn.setAccess .held) = x at hcrash ⊢
    obtain ⟨⟨polls, b⟩ | outcome | message, conn'⟩ := x
    · exact ⟨_, _, p.answer_comesTo caller polls b conn', rfl⟩
    · exact ⟨outcome, _, .ready, rfl⟩
    · exact absurd rfl (hcrash message)

theorem Opening.comesTo_of_willing (hwilling : setup.driver.Willing) (caller : Caller) (c : Command)
    (hfree : conn.access = .free) :
    ∃ o conn', Polled.ComesTo (Opening.poll setup caller c)
      (Opening.poll setup caller c .waiting conn) o conn' ∧ conn'.access = .free := by
  have hbroken : conn.access ≠ .broken := by
    rw [hfree]
    exact Access.free_ne_broken
  refine Protocol.comesTo hfree fun message hcrashed => ?_
  have hnever : Polled.Ensures (fun _ _ => True) (fun _ _ => True) (fun _ => False)
      (Opening.poll setup caller c .waiting conn) := by
    cases hrefusal : setup.refusal? c with
    | none =>
      exact Polled.ensures_mono (fun _ _ _ => trivial) (fun _ _ _ => trivial) (fun _ h => h)
        (Opening.goes_poll hwilling caller hrefusal hbroken nofun)
    | some why =>
      exact Polled.ensures_mono (fun _ _ _ => trivial) (fun _ _ _ => trivial) (fun _ h => h)
        (Opening.poll_refused (quiet_recorded setup conn [] []) caller hrefusal (.refl [] conn)
          hbroken)
  unfold Opening.poll at hnever
  generalize (Opening.protocol setup caller c).poll caller .waiting conn = x at hcrashed hnever
  obtain ⟨_ | _ | _, conn'⟩ := x
  · cases hcrashed
  · cases hcrashed
  · exact hnever

theorem Execution.comesTo_of_willing (hwilling : setup.driver.Willing) (caller : Caller)
    (errands : List Errand) (done : List ResultSet) (hfree : conn.access = .free) :
    ∃ result conn', Polled.ComesTo (Execution.resume setup caller)
      (Execution.run setup caller errands done conn) result conn' := by
  induction errands generalizing conn done with
  | nil => exact ⟨.ok done, conn, .ready⟩
  | cons errand rest ih =>
    obtain ⟨o, conn₁, hopening, hfree₁⟩ :=
      Opening.comesTo_of_willing hwilling caller errand.command hfree
    have hask : Polled.ComesTo (ask setup caller errand) (ask setup caller errand .waiting conn)
        (complete caller errand o conn₁).1 (complete caller errand o conn₁).2 := by
      rw [ask_eq]
      exact hopening.through id (fun _ _ => rfl) (ask_eq setup caller errand) .ready
    generalize hcomplete : complete caller errand o conn₁ = x at hask
    have hgoes : ∀ {result conn'}, Polled.ComesTo (resume setup caller)
          (afterErrand setup caller errand rest done (.ready x.1, x.2)) result conn' →
        Polled.ComesTo (resume setup caller) (run setup caller (errand :: rest) done conn) result
          conn' := by
      intro result conn' hend
      rw [run_cons]
      exact hask.through (⟨errand, ·, rest, done⟩) (fun _ _ => rfl)
        (resume_eq setup caller errand rest done) hend
    obtain ⟨stop | sets, conn₂⟩ := x
    · exact ⟨_, _, hgoes .ready⟩
    · have hfree₂ : conn₂.access = .free := by
        have hsame := access_complete caller errand o conn₁
        rw [hcomplete] at hsame
        exact hsame.trans hfree₁
      obtain ⟨result, conn', hcomes⟩ := ih (done ++ sets) hfree₂
      exact ⟨result, conn', hgoes hcomes⟩

/-- Run alone, an execution comes to the errand that is refused, unless its caller is cancelled. -/
theorem Execution.comesTo_declined (hwilling : setup.driver.Willing) (caller : Caller)
    {errands : List Errand} {n : Nat} (hrefuses : setup.Refuses errands n why)
    (hfree : conn.access = .free) :
    ∃ stop conn', Polled.ComesTo (Execution.resume setup caller)
        (Execution.run setup caller errands [] conn) (.error stop) conn' ∧
      stop.Declines caller why conn'.contexts := by
  have hbroken : conn.access ≠ .broken := by
    rw [hfree]
    exact Access.free_ne_broken
  have hleads := refused_leads hwilling .nil conn why n caller
  obtain ⟨result, conn', hcomes⟩ := comesTo_of_willing hwilling caller errands [] hfree
  have hends := hcomes.ensures (resume_ensures hleads) (run_ensures hleads errands [] conn
    ⟨[], n, hrefuses, Nat.zero_add n, hbroken, .refl [] conn⟩)
  cases result with
  | error stop => exact ⟨stop, conn', hcomes, hends.2.1⟩
  | ok sets =>
    obtain ⟨past, m, hnone, -⟩ := hends
    cases hnone

end

end OneConnection
