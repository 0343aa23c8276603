import OneConnection.Proofs.Failures.Calls
import OneConnection.Proofs.Failures.Fetches
import OneConnection.Proofs.Failures.Sharing
import OneConnection.Proofs.Replies

/-!
# Naming the command of a failure

What the driver raises, in a call or in a fetch, reaches the caller with the command that it was
raised for. The rows of a list are the exception: their failures come as the driver raised them.
-/

namespace OneConnection

variable {δ κ ρ : Type}

/-! ## Errors -/

/-- The error comes down to the failure, which names the command unless it came with its own SQL. -/
def Error.Names (e : Error) (c : Command) (raised : QueryError) : Prop :=
  ∃ told, e.root = .query told ∧ told.Tells raised ∧
    (raised.sql = none → told.sql = some c.sql ∧ told.params = c.params)

theorem Error.names_of_blame {e : Error} {c : Command} {raised : QueryError}
    (h : e.root = (c.blame (.query raised)).root) : e.Names c raised := by
  obtain ⟨told, hblame, htells, hnamed⟩ := withSql_query raised c.sql c.params
  have hroot : (c.blame (.query raised)).root = .query told := congrArg root hblame
  exact ⟨told, h.trans hroot, htells, hnamed⟩

theorem Error.Names.sql {e : Error} {c : Command} {raised : QueryError} (h : e.Names c raised)
    (hnone : raised.sql = none) : e.sql = some c.sql := by
  obtain ⟨told, hroot, -, hnamed⟩ := h
  rw [Error.sql, hroot]
  exact (hnamed hnone).1

variable [Cursor κ] {setup : Setup δ κ}

/-! ## Lists -/

/-- A list tells the error of the fetch as it is. -/
theorem Listing.poll_stumbled {α : Type} {caller : Caller} {c : Command} {decoder : RowDecoder α}
    {call : Call Opening.Sent} {conn opened : Connection δ κ} {h : Handle} {r : Reader κ}
    {why : Error} (hopen : Opening.poll setup caller c call conn = (.ready (.ok h), opened))
    (hr : opened.readers.get? h.place = some r)
    (hstumbles : Cursor.Stumbles decoder.decode r why) :
    (poll setup caller c decoder call conn).1 = .ready (.error why) := by
  have hfetch : (opened.readers.fetch h.place (Cursor.collect decoder.decode)).result =
      .error why := by
    simp only [Readers.fetch, hr]
    exact hstumbles.result_collect
  simp only [poll, hopen, decode, Connection.fetch]
  rw [hfetch]
  rfl

namespace World

/-- After a poll of a task in a run, let the driver have raised a failure in a call that the poll
made. The task hears of it, with the command of the call, once it was polled often enough.

For a view, let the last execution of the batch have got a cursor that breaks while the result sets
of its errand are read. Unless its caller is cancelled, the view then waits for the driver, or for
the view that does, or it gives the failure with the command of the errand, as every view does from
then on.

The failure of a row of a list is told too, with the SQL that it came with if it came with any. -/
theorem failures_named (setup : Setup δ κ) (database : δ) (steps : List (Step ρ)) {n : Nat}
    {caller : Caller} {operation : Operation ρ}
    (ht : ((create setup database).run setup steps).task? n = some ⟨caller, operation⟩) :
    let w : World δ κ ρ := (create setup database).run setup steps
    let after := w.step setup (.poll n)
    let polled := (operation.poll setup caller w.conn).1
    (operation.isDirect = false → ∀ earlier call others c polls raised,
      after.calls = w.calls ++ (earlier ++ call :: others) →
      setup.driver.Raises (setup.driver.left w.conn.database earlier) call c polls
        (.query raised) →
      ∃ e : Error, e.Names c raised ∧ ∀ later, Step.drop n ∉ later →
        w.heard setup n (.poll n :: later) =
          if later.countP (·.polls n) < polls then [] else [.error e]) ∧
    (∀ k index project view, operation = .viewing k index project view →
      (∀ caller c, .ask caller (.dispatch c) ∉ steps) → ∀ past c cursor earlier,
      (create setup database).executions setup (steps ++ [.poll n]) k =
        (past ++ [⟨c, some cursor⟩]) :: earlier →
      ∃ b errand, after.conn.batch? k = some b ∧
        (setup.errandsOf b)[past.length]? = some errand ∧ c = setup.prepare errand.command ∧
        ∀ raised, Cursor.Breaks cursor errand.sets (.query raised) →
          (∃ e : Error, e.Names c raised ∧ b.progress = .settled (.error e) ∧
            polled = .ready (.error (.shared e)) ∧
            ∀ later, Recalls setup k (.error e) (after.run setup later)) ∨
          (b.progress = .executing ∧ ∃ view', polled = .waiting (.viewing k index project view') ∧
            (view' = .awaiting ∨ ∃ polls, view'.pollsLeft? = some polls)) ∨
          ∃ reason, polled = .ready (.cancelled reason) ∧
            caller.cancelReason? after.conn.contexts = some reason) ∧
    (∀ c decoder call, operation = .listing c decoder call → ∀ h opened r raised,
      Opening.poll setup caller c call w.conn = (.ready (.ok h), opened) →
      opened.readers.get? h.place = some r →
      Cursor.Stumbles decoder.decode r (.query raised) →
      ∃ told : QueryError, polled = .ready (.error (.query told)) ∧ told.Tells raised) := by
  intro w after polled
  refine ⟨?_, ?_, ?_⟩
  · intro hdirect earlier call others c polls raised hcalls hraises
    obtain ⟨calls, htrail, htold⟩ := Operation.poll_explained setup caller hdirect w.conn
    have hafter : after.calls = w.calls ++ calls := by
      rw [show after = _ from step_poll ht, World.calls, conn_answer]
      exact htrail.calls
    obtain rfl := List.append_cancel_left (hafter.symm.trans hcalls)
    obtain ⟨e, hroot, hdue⟩ := htold c polls (.query raised) ⟨rfl, hraises⟩
    exact ⟨e, Error.names_of_blame hroot, fun _ hkept => heard_poll ht hdue hkept⟩
  · rintro k index project view rfl hsteps past c cursor earlier hrun
    obtain ⟨t, executions, ha, hserved, hnote, ha', hserved'⟩ :=
      Served.run_poll setup database hsteps hrun
    obtain ⟨b, hb⟩ := hserved'.batch?_isSome
    obtain ⟨errand, herrand, rfl⟩ := hserved'.errand_of_last hb
    refine ⟨b, errand, hb, herrand, rfl, fun raised hbreaks => ?_⟩
    -- An execution goes on to its next errand only with all result sets of this one.
    have hlast : ¬ Execution.GoesOn setup (setup.errandsOf b)
        (past ++ [⟨setup.prepare errand.command, some cursor⟩]) :=
      fun hgoes => hgoes.not_breaks herrand hbreaks
    rcases hserved.poll_cases ht ha hnote hb (fun h => hlast (h.goesOn past)) with
      ⟨result, hp, hpolled⟩ | ⟨hp, hpolled⟩ | ⟨hp, e, x, hpolled, -, -, hwaits⟩ | hcancelled
    · obtain rfl := hserved'.settled_failed hb herrand hbreaks hp
      exact .inl ⟨_, Error.names_of_blame rfl, hp, hpolled, Served.recalls_later ha' hb hp⟩
    · exact .inr (.inl ⟨hp, .awaiting, hpolled, .inl rfl⟩)
    · exact .inr (.inl ⟨hp, .running e, hpolled,
        .inr ((hwaits.pollsLeft?_or_goesOn past).resolve_left hlast)⟩)
    · exact .inr (.inr hcancelled)
  · rintro c decoder call rfl h opened r raised hopen hr hstumbles
    refine ⟨raised, ?_, .refl raised⟩
    have hpoll := Listing.poll_stumbled hopen hr hstumbles
    simp only [polled, Operation.poll, hpoll]
    rfl

end World

/-! ## A lost connection -/

/-- A cursor whose fetches fail behind these rows. -/
structure Brittle where
  rows : ResultSet

def Brittle.lost : QueryError :=
  { failure := .disconnected, sql := none, params := [], message := "gone", source := some "gone" }

instance : Cursor Brittle where
  nextRow b :=
    match b.rows with
    | row :: rows => { result := .ok (some row), cursor := ⟨rows⟩ }
    | [] => { result := .error (.query Brittle.lost), cursor := b }
  nextResult b := { result := .ok false, cursor := b }
  close := id
  isClosed _ := false
  remaining b := b.rows.length
  remaining_nextRow_le b := by
    split <;> simp_all
  remaining_nextRow_lt b row h := by
    split at h <;> simp_all
  remaining_nextResult_lt b h := by cases h

def Reader.plain? : Reader κ → Option κ
  | .plain cursor => some cursor
  | .hybrid _ => none

omit [Cursor κ] in
theorem Reader.plain?_eq_some {r : Reader κ} {cursor : κ} :
    r.plain? = some cursor ↔ r = .plain cursor := by
  cases r <;> simp [plain?]

/-- A driver whose connection is lost once a reader was opened and some of its rows were read. -/
def Setup.brittle (rows : ResultSet) : Setup Unit Brittle where
  driver :=
    { capabilities := {}
      openReader := fun _ d => (.returned (.ok ⟨rows⟩), d)
      execute := fun _ d => (.returned (.error (.query Brittle.lost)), d)
      executeBatch := fun _ d => (.returned (.error (.query Brittle.lost)), d) }
  settings := {}
  chain := .standard {}
  verbosity := .off

/-- A flush, a view and a list, each of which loses the connection. -/
theorem failures_named_lost :
    let setup := Setup.brittle []
    let select : Command := { sql := "select 1" }
    let decoder : RowDecoder Nat := ⟨"Nat", fun _ => .ok 0⟩
    let steps : List (Step Nat) :=
      [.ask .blocking (.add { sql := "insert" }), .poll 0, .ask .blocking .flush,
       .act (.register { command := select }), .ask .blocking (.view 0 0 fun _ => .ok 0),
       .ask .blocking (.list select decoder)]
    let w := (World.create setup ()).run setup steps
    (∃ e : Error, e.sql = some "insert" ∧ w.heard setup 1 [.poll 1] = [.error e]) ∧
    (∃ e : Error, e.sql = some "select 1" ∧
      ∀ later, Recalls setup 0 (.error e) ((w.step setup (.poll 2)).run setup later)) ∧
    ∃ told : QueryError, told.Tells Brittle.lost ∧
      w.heard setup 3 [.poll 3] = [.error (.query told)] := by
  intro setup select decoder steps w
  have hflush : w.task? 1 = some ⟨.blocking, .flushing .waiting⟩ := rfl
  have hview : w.task? 2 = some ⟨.blocking, .viewing 0 0 (fun _ => .ok 0) .fresh⟩ := rfl
  have hlist : w.task? 3 = some ⟨.blocking, .listing select decoder .waiting⟩ := rfl
  refine ⟨?_, ?_, ?_⟩
  · obtain ⟨e, hnames, hheard⟩ := (World.failures_named setup () steps hflush).1 rfl []
      ⟨.batch, .blocking, [{ sql := "insert" }], 0⟩ [] _ 0 Brittle.lost rfl (.batch rfl)
    have hsql : (Command.combine [{ sql := "insert" }]).sql = "insert" := by decide +kernel
    exact ⟨e, by rw [hnames.sql rfl, hsql], hheard [] List.not_mem_nil⟩
  · obtain ⟨opened, hrun, hopened⟩ := List.map_eq_singleton_iff.mp
      (show ((World.create setup ()).executions setup (steps ++ [.poll 2]) 0).map
        (·.map fun o => (o.command.sql, o.cursor.map fun c => c.rows.length)) =
          [[("select 1", some 0)]] by decide +kernel)
    obtain ⟨⟨c, cursor⟩, rfl, hcursor⟩ := List.map_eq_singleton_iff.mp hopened
    obtain ⟨hsql, hrows⟩ := Prod.mk.inj hcursor
    obtain ⟨⟨rows⟩, rfl, hlength⟩ := Option.map_eq_some_iff.mp hrows
    obtain rfl := List.length_eq_zero_iff.mp hlength
    obtain ⟨b, errand, hb, herrand, -, hfailed⟩ :=
      (World.failures_named setup () steps hview).2.1 0 0 _ _ rfl (by simp [steps]) [] _ _ [] hrun
    have hsets : ((w.step setup (.poll 2)).conn.batch? 0).map
        (fun b => (setup.errandsOf b).map Errand.sets) = some [1] := by decide +kernel
    rw [hb, Option.map_some, Option.some.injEq, List.map_eq_singleton_iff] at hsets
    obtain ⟨errand', herrands, hone⟩ := hsets
    rw [herrands] at herrand
    cases herrand
    rcases hfailed Brittle.lost (hone ▸ .row (.now rfl)) with
      ⟨e, hnames, -, -, hrecalls⟩ | ⟨-, view, hwaits, -⟩ | ⟨reason, -, hcancelled⟩
    · exact ⟨e, (hnames.sql rfl).trans (congrArg some hsql), hrecalls⟩
    · have hready : ((Operation.viewing 0 0 (fun _ => .ok 0) .fresh).poll setup .blocking
          w.conn).1.waits (fun _ => true) = false := by decide +kernel
      rw [hwaits] at hready
      cases hready
    · cases hcancelled
  · have hhandle : (Opening.poll setup .blocking select .waiting w.conn).1.answer?.bind
        Outcome.value? = some ⟨⟨1⟩, 0⟩ := by decide +kernel
    have hreader : ((Opening.poll setup .blocking select .waiting w.conn).2.readers.get? 0).bind
        (fun r => r.plain?.map fun c => c.rows.length) = some 0 := by decide +kernel
    obtain ⟨o, ho, hvalue⟩ := Option.bind_eq_some_iff.mp hhandle
    obtain ⟨r, hr, hplain⟩ := Option.bind_eq_some_iff.mp hreader
    obtain ⟨⟨rows⟩, hplain, hlength⟩ := Option.map_eq_some_iff.mp hplain
    obtain rfl := List.length_eq_zero_iff.mp hlength
    rw [Outcome.value?_eq_some.mp hvalue, Polled.answer?_eq_some] at ho
    rw [Reader.plain?_eq_some.mp hplain] at hr
    obtain ⟨told, hpolled, htells⟩ := (World.failures_named setup () steps hlist).2.2 select decoder
      .waiting rfl ⟨⟨1⟩, 0⟩ _ (.plain ⟨[]⟩) Brittle.lost (Prod.ext ho rfl) hr (.now rfl)
    exact ⟨told, htells, World.heard_of_ready hlist hpolled⟩

/-- The second fetch of a list loses the connection, and the error does not say in which command. -/
theorem list_failure_unnamed :
    let rows : ResultSet := [⟨["v"], [.bigInt 1]⟩]
    let setup := Setup.brittle rows
    let select : Command := { sql := "select v from t" }
    let decoder := RowDecoder.firstColumn Int64
    let steps : List (Step Int64) := [.ask .blocking (.list select decoder)]
    let w := (World.create setup ()).run setup steps
    (w.step setup (.poll 0)).calls.map (·.commands.map Command.sql) = [[select.sql]] ∧
      (∀ mode c, setup.driver.read mode c () = (.after 0 (.ok ⟨rows⟩), ())) ∧
      Cursor.Stumbles decoder.decode (⟨rows⟩ : Brittle) (.query Brittle.lost) ∧
      Brittle.lost.sql = none ∧
      ∃ e : Error, w.heard setup 0 [.poll 0] = [.error e] ∧ ¬ e.Names select Brittle.lost := by
  intro rows setup select decoder steps w
  refine ⟨by decide +kernel, ?_, .later rfl rfl (.now rfl), rfl, ?_⟩
  · intro mode c
    cases mode <;> rfl
  · have hheard : (w.heard setup 0 [.poll 0]).map (fun o => o.error?.map Error.sql) =
        [some none] := by decide +kernel
    obtain ⟨o, ho, hsql⟩ := List.map_eq_singleton_iff.mp hheard
    obtain ⟨e, he, hsql⟩ := Option.map_eq_some_iff.mp hsql
    rw [Outcome.error?_eq_some.mp he] at ho
    refine ⟨e, ho, fun hnames => ?_⟩
    rw [hnames.sql rfl] at hsql
    cases hsql

end OneConnection
