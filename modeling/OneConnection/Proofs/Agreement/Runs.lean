import OneConnection.Proofs.Acts
import OneConnection.Proofs.Agreement.Prompt

/-!
# Whole runs in two forms

Callers who do one thing after the other get the same from a connection, whether they are tasks or
threads.
-/

namespace OneConnection

variable {δ κ ρ : Type} {setup : Setup δ κ} {x : Context}

/-! ## Acts -/

namespace World

/-- The world without the forms of its driver calls. -/
def erase (w : World δ κ ρ) : World δ κ ρ := { w with conn := w.conn.erase }

variable [Cursor κ] {w : World δ κ ρ}

theorem act_erase (setup : Setup δ κ) (w : World δ κ ρ) (a : Act) :
    w.erase.act setup a = (w.act setup a).erase := by
  have hstrict : setup.settings.strictLeaks = setup.settings.strictLeaks := rfl
  have hact := Veil.forms.act hstrict w w.tasks a
  have htasks : (w.act setup a).tasks = w.tasks := w.tasks_act a
  refine Eq.trans hact ?_
  rw [← htasks]
  rfl

theorem idle_act (setup : Setup δ κ) (a : Act) (h : w.conn.Idle) : (w.act setup a).conn.Idle := by
  refine ⟨(rests_act setup w a).access.trans h.free, fun k b' hb' => ?_⟩
  have hgrown := act_grown setup w a
  cases hb : w.conn.batch? k with
  | none =>
    rw [(hgrown.new k b' hb hb').1]
    exact nofun
  | some b =>
    obtain ⟨b₁, hb₁, hgrows⟩ := hgrown.old k b hb
    rw [hb'] at hb₁
    cases hb₁
    rw [hgrows.progress]
    exact h.settled k b hb

end World

/-! ## Demands -/

/-- What callers ask for who do one thing after the other. -/
inductive Demand (ρ : Type)
  | ask (request : Request ρ)
  | act (a : Act)

namespace World

variable [Cursor κ] {w : World δ κ ρ}

/-- Does what is asked for. An operation is polled once. -/
def serve (setup : Setup δ κ) (caller : Caller) (w : World δ κ ρ) : Demand ρ → World δ κ ρ
  | .ask request => (w.step setup (.ask caller request)).step setup (.poll w.tasks.length)
  | .act a => w.step setup (.act a)

def serveAll (setup : Setup δ κ) (caller : Caller) (w : World δ κ ρ) (demands : List (Demand ρ)) :
    World δ κ ρ :=
  demands.foldl (serve setup caller) w

/-- What the polls give, from the first to the last. -/
def replies (setup : Setup δ κ) (caller : Caller) :
    World δ κ ρ → List (Demand ρ) → List (Polled (Operation ρ) (Outcome (Reply ρ)))
  | _, [] => []
  | w, .ask request :: rest =>
    (request.start.poll setup caller w.conn).1 ::
      replies setup caller (w.serve setup caller (.ask request)) rest
  | w, .act a :: rest => replies setup caller (w.serve setup caller (.act a)) rest

theorem serve_ask (caller : Caller) (request : Request ρ) :
    w.serve setup caller (.ask request) =
      (w.step setup (.ask caller request)).answer w.tasks.length caller
        (request.start.poll setup caller w.conn) := by
  have htask : (w.step setup (.ask caller request)).task? w.tasks.length =
      some ⟨caller, request.start⟩ := by
    rw [task?_ask, if_pos rfl]
  exact step_poll htask

/-- An operation that is ready at once leaves nothing behind but what it did. -/
theorem serve_ready {caller : Caller} {request : Request ρ} {outcome : Outcome (Reply ρ)}
    {conn : Connection δ κ}
    (h : request.start.poll setup caller w.conn = (.ready outcome, conn)) :
    w.serve setup caller (.ask request) =
      { w with conn, tasks := w.tasks ++ [none], held := w.held ++ outcome.handle?.toList } := by
  rw [serve_ask, h]
  simp [answer, step]

theorem serve_ask_agrees (hdefaults : setup.driver.KeepsDefaults)
    (hcalm : setup.driver.NeverCrashes) (request : Request ρ) (hidle : w.conn.Idle)
    (hcancel : (w.serve setup (.task x) (.ask request)).conn.contexts.reason? x = none) :
    ∃ r : Except Error (Reply ρ),
      (request.start.poll setup (.task x) w.conn).1 = .ready (.ofExcept r) ∧
      (request.start.poll setup .blocking w.erase.conn).1 = .ready (.ofExcept r) ∧
      w.erase.serve setup .blocking (.ask request) =
        (w.serve setup (.task x) (.ask request)).erase ∧
      (w.serve setup (.task x) (.ask request)).conn.Idle := by
  rw [serve_ask, conn_answer] at hcancel
  have hsame := (Operation.poll_matches hdefaults request.start w.conn).same hcancel
  have herased : w.conn.erase.Idle := ⟨hidle.free, hidle.settled⟩
  obtain ⟨r, hr, hidle'⟩ := Operation.poll_prompt hcalm request herased
  generalize hpoll : request.start.poll setup (.task x) w.conn = polled at hsame
  obtain ⟨_, conn⟩ := polled
  rw [hsame] at hr hidle'
  cases hr
  refine ⟨r, rfl, congrArg Prod.fst hsame, ?_, ?_⟩
  · have hpoll' : request.start.poll setup .blocking w.erase.conn = _ := hsame
    rw [serve_ready hpoll, serve_ready hpoll']
    rfl
  · rw [serve_ready hpoll]
    exact ⟨hidle'.free, hidle'.settled⟩

theorem replies_agree (hdefaults : setup.driver.KeepsDefaults)
    (hcalm : setup.driver.NeverCrashes) (demands : List (Demand ρ)) (hidle : w.conn.Idle)
    (hcancel : ∀ n,
      (w.serveAll setup (.task x) (demands.take n)).conn.contexts.reason? x = none) :
    ∃ results : List (Except Error (Reply ρ)),
      w.replies setup (.task x) demands = results.map (fun r => .ready (.ofExcept r)) ∧
      w.erase.replies setup .blocking demands = results.map (fun r => .ready (.ofExcept r)) ∧
      w.erase.serveAll setup .blocking demands =
        (w.serveAll setup (.task x) demands).erase := by
  -- Between two demands nobody is at work, and the worlds differ in the forms alone.
  induction demands generalizing w with
  | nil => exact ⟨[], rfl, rfl, rfl⟩
  | cons d rest ih =>
    have hlater := fun n => hcancel (n + 1)
    cases d with
    | act a =>
      have hserve : w.erase.serve setup .blocking (.act a) = (w.act setup a).erase :=
        act_erase setup w a
      obtain ⟨results, htask, hthread, hrun⟩ := ih (idle_act setup a hidle) hlater
      rw [← hserve] at hthread hrun
      exact ⟨results, htask, hthread, hrun⟩
    | ask request =>
      obtain ⟨r, hr, hr', hserve, hidle'⟩ :=
        serve_ask_agrees hdefaults hcalm request hidle (hcancel 1)
      obtain ⟨results, htask, hthread, hrun⟩ := ih hidle' hlater
      rw [← hserve] at hthread hrun
      refine ⟨r :: results, ?_, ?_, hrun⟩
      · rw [replies, hr, htask]
        rfl
      · rw [replies, hr', hthread]
        rfl

/-- With a driver that keeps its default asynchronous calls and does not crash, callers who do one
thing after the other have the same answers as threads that wait and as tasks of a context that is
never cancelled. What comes of it differs in nothing but the form of the driver calls. -/
theorem forms_agree (setup : Setup δ κ) (database : δ) (x : Context) (demands : List (Demand ρ))
    (hdefaults : setup.driver.KeepsDefaults) (hcalm : setup.driver.NeverCrashes)
    (hcancel : ∀ n, ((create setup database).serveAll setup (.task x) (demands.take n)
      ).conn.contexts.reason? x = none) :
    let start : World δ κ ρ := create setup database
    ∃ results : List (Except Error (Reply ρ)),
      start.replies setup (.task x) demands = results.map (fun r => .ready (.ofExcept r)) ∧
      start.replies setup .blocking demands = results.map (fun r => .ready (.ofExcept r)) ∧
      start.serveAll setup .blocking demands = (start.serveAll setup (.task x) demands).erase :=
  replies_agree hdefaults hcalm demands ⟨rfl, nofun⟩ hcancel

end World

/-- A driver in memory with one row for every query, which changes nothing. -/
def Setup.oneRow : Setup Unit Buffered where
  driver :=
    { capabilities := {}
      openReader := fun _ d => (.returned (.ok { sets := [[{ columns := [], values := [] }]] }), d)
      execute := fun _ d => (.returned (.ok 0), d)
      executeBatch := fun _ d => (.returned (.ok 0), d) }
  settings := {}
  chain := .standard {}
  verbosity := .off

/-- A query is registered and a command added, the query is read, and the batch is flushed. -/
theorem forms_agree_mixed :
    let x : Context := ⟨"task"⟩
    let demands : List (Demand Nat) :=
      [.act (.register { command := { sql := "select 1" } }),
       .ask (.add { sql := "insert" }),
       .ask (.view 0 0 fun rows => .ok rows.length),
       .ask .flush]
    let start : World Unit Buffered Nat := World.create Setup.oneRow ()
    (∀ n, (start.serveAll Setup.oneRow (.task x) (demands.take n)).conn.contexts.reason? x = none) ∧
    ∃ results : List (Except Error (Reply Nat)),
      start.replies Setup.oneRow (.task x) demands =
        results.map (fun r => .ready (.ofExcept r)) ∧
      start.replies Setup.oneRow .blocking demands =
        results.map (fun r => .ready (.ofExcept r)) ∧
      start.serveAll Setup.oneRow .blocking demands =
        (start.serveAll Setup.oneRow (.task x) demands).erase := by
  intro x demands start
  have hcancel : ∀ n,
      (start.serveAll Setup.oneRow (.task x) (demands.take n)).conn.contexts.reason? x = none
    | 0 => rfl
    | 1 => rfl
    | 2 => rfl
    | 3 => by decide +kernel
    | n + 4 => by
      have hall : demands.take (n + 4) = demands := List.take_of_length_le (by simp [demands])
      rw [hall]
      decide +kernel
  refine ⟨hcancel, World.forms_agree Setup.oneRow () x demands ⟨rfl, rfl, rfl⟩ ?_ hcancel⟩
  exact ⟨fun _ _ => ⟨_, rfl⟩, fun _ _ => ⟨_, rfl⟩, fun _ _ => ⟨_, rfl⟩⟩

end OneConnection
