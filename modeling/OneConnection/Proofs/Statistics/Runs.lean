import OneConnection.Proofs.Discipline.Runs
import OneConnection.Proofs.Statistics.Operations

/-!
# Statistics of runs

What the statistics say at every point of a run, against an account that is kept from outside. Flushes,
commands and readers are counted exactly. Round trips are calls that reached the driver, and besides
those calls that were given up because their caller was cancelled just before.
-/

namespace OneConnection

variable {δ κ ρ : Type} [Cursor κ]

/-! ## The account -/

namespace World

/-- The readers that a step hands out. -/
def opened (setup : Setup δ κ) (w : World δ κ ρ) : Step ρ → Nat
  | .poll n =>
    match w.task? n with
    | some t => t.operation.opened setup t.caller w.conn
    | none => 0
  | _ => 0

/-- One if the step is a poll whose caller is not cancelled before it and is cancelled after it. -/
def cut (setup : Setup δ κ) (w : World δ κ ρ) : Step ρ → Nat
  | .poll n =>
    match w.task? n with
    | some t => t.caller.cancelled (w.step setup (.poll n)).conn.contexts -
        t.caller.cancelled w.conn.contexts
    | none => 0
  | _ => 0

end World

structure Totals where
  /-- The commands that came to the pending batch. -/
  accepted : Nat := 0
  /-- The readers that were handed out. -/
  opened : Nat := 0
  /-- The polls that cancelled their own caller. -/
  cut : Nat := 0

def Totals.note (setup : Setup δ κ) (w : World δ κ ρ) (s : Step ρ) (t : Totals) : Totals where
  accepted := t.accepted + (w.accepts setup s).length
  opened := t.opened + w.opened setup s
  cut := t.cut + w.cut setup s

/-! ## Runs -/

structure Counted (setup : Setup δ κ) (w : World δ κ ρ) (t : Totals) : Prop where
  batched : w.conn.standing.batched = t.accepted
  opened : w.conn.standing.opened = t.opened
  flushes : w.conn.standing.flushes = 0
  behind : 0 ≤ w.conn.standing.trips
  ahead : setup.Steady → w.conn.standing.trips ≤ t.cut

namespace Counted

variable {setup : Setup δ κ} {w : World δ κ ρ} {t : Totals}

theorem poll (h : Counted setup w t) {n : Nat} {task : Task ρ} (ht : w.task? n = some task)
    (hdirect : task.operation.isDirect = false) :
    Counted setup (w.step setup (.poll n)) (t.note setup w (.poll n)) := by
  have hcounts : Counts setup task.caller _ _ w.conn
      (task.operation.poll setup task.caller w.conn).2 := Operation.poll_counts hdirect w.conn
  have hconn : (w.step setup (.poll n)).conn =
      (task.operation.poll setup task.caller w.conn).2 := by
    rw [World.step_poll ht, World.conn_answer]
  refine ⟨?_, ?_, ?_, ?_, fun hsteady => ?_⟩ <;> rw [hconn]
  · rw [hcounts.batched, h.batched]
    simp only [Totals.note, World.accepts, ht]
  · rw [hcounts.opened, h.opened]
    simp only [Totals.note, World.opened, ht]
  · exact hcounts.flushes.trans h.flushes
  · exact Int.le_trans h.behind hcounts.behind
  · have hahead := hcounts.ahead hsteady
    have hbefore := h.ahead hsteady
    simp only [Totals.note, World.cut, ht, hconn]
    omega

/-- Nobody accepts a command, hands out a reader or cancels its own caller in a step that is not the
poll of an operation. -/
theorem of_standing (h : Counted setup w t) {s : Step ρ} (haccepts : w.accepts setup s = [])
    (hopened : w.opened setup s = 0) (hcut : w.cut setup s = 0)
    (hstanding : (w.step setup s).conn.standing = w.conn.standing) :
    Counted setup (w.step setup s) (t.note setup w s) := by
  have hnote : t.note setup w s = t := by
    simp only [Totals.note, haccepts, hopened, hcut, List.length_nil, Nat.add_zero]
  rw [hnote]
  refine ⟨?_, ?_, ?_, ?_, fun hsteady => ?_⟩ <;> rw [hstanding]
  · exact h.batched
  · exact h.opened
  · exact h.flushes
  · exact h.behind
  · exact h.ahead hsteady

theorem step (h : Counted setup w t) (s : Step ρ)
    (hdirect : ∀ n task, w.task? n = some task → task.operation.isDirect = false) :
    Counted setup (w.step setup s) (t.note setup w s) := by
  cases s with
  | ask caller request => exact h.of_standing rfl rfl rfl rfl
  | poll n =>
    cases ht : w.task? n with
    | some task => exact h.poll ht (hdirect n task ht)
    | none =>
      have haccepts : w.accepts setup (.poll n) = [] := by simp only [World.accepts, ht]
      have hopened : w.opened setup (.poll n) = 0 := by simp only [World.opened, ht]
      have hcut : w.cut setup (.poll n) = 0 := by simp only [World.cut, ht]
      refine h.of_standing haccepts hopened hcut ?_
      simp only [World.step, ht]
  | drop n =>
    refine h.of_standing rfl rfl rfl ?_
    cases ht : w.task? n with
    | some task =>
      have hright : CountsRight task.caller w.conn
          (task.operation.drop setup task.caller w.conn) := Operation.drop_counts _ w.conn
      rw [World.step_drop ht]
      exact hright.standing
    | none => simp only [World.step, ht]
  | act a =>
    exact h.of_standing rfl rfl rfl
      (Connection.standing_congr (World.rests_act setup w a).stats (World.calls_act setup w a))

end Counted

/-- Flushes are the batch calls, batched commands those that were accepted, and opened readers those
that were handed out. Every call is a round trip. A round trip without a call belongs to a poll that
cancelled its own caller, as long as commands are accepted with their time limit. Only requests that
go past the connection, directly to the driver, are left out. -/
theorem World.statistics_count (setup : Setup δ κ) (database : δ) (steps : List (Step ρ))
    (hsteps : ∀ caller c, .ask caller (.dispatch c) ∉ steps) :
    let start : World δ κ ρ := .create setup database
    let w := start.run setup steps
    let t := World.account setup (Totals.note setup) start steps {}
    w.conn.stats.flushes = w.calls.countP (·.kind = .batch) ∧
    w.conn.stats.commandsBatched = t.accepted ∧
    w.conn.stats.readersOpened = t.opened ∧
    w.calls.length ≤ w.conn.stats.roundTrips ∧
    (setup.Steady → w.conn.stats.roundTrips ≤ w.calls.length + t.cut) := by
  intro start w t
  have h : Disciplined false w ∧ Counted setup w t := by
    have hstart : Counted setup start {} :=
      ⟨rfl, rfl, rfl, Int.le_refl _, fun _ => Int.le_refl _⟩
    have hcreate : Disciplined false start := Disciplined.create setup database nofun
    refine World.account_induction (P := fun w t => Disciplined false w ∧ Counted setup w t) ?_
      ⟨hcreate, hstart⟩
    rintro w t s hs ⟨hd, hc⟩
    have hask : ∀ caller c, s ≠ .ask caller (.dispatch c) := by
      rintro caller c rfl
      exact hsteps caller c hs
    exact ⟨hd.step (by nofun) hask, hc.step s hd.indirect⟩
  obtain ⟨-, hc⟩ := h
  refine ⟨?_, hc.batched, hc.opened, ?_, fun hsteady => ?_⟩
  · have hbatches : w.conn.batches.length = w.calls.countP (·.kind = .batch) := by
      rw [List.countP_eq_length_filter]
      exact List.length_map _
    have hflushes : (w.conn.stats.flushes : Int) - w.conn.batches.length = 0 := hc.flushes
    omega
  · have hbehind : (0 : Int) ≤ w.conn.stats.roundTrips - w.calls.length := hc.behind
    omega
  · have hahead : (w.conn.stats.roundTrips : Int) - w.calls.length ≤ t.cut := hc.ahead hsteady
    omega

/-! ## A reader that cancels -/

/-- A cursor without rows that cancels a context whenever it is read. -/
structure Meddling where
  closed : Bool := false

def Meddling.victim : Context := ⟨"x"⟩

instance : Cursor Meddling where
  nextRow c :=
    { result := .ok none, cursor := c, cancels := [{ context := Meddling.victim }] }
  nextResult c := { result := .ok false, cursor := c }
  close _ := ⟨true⟩
  isClosed := Meddling.closed
  remaining _ := 0
  remaining_nextRow_le _ := Nat.le_refl _
  remaining_nextRow_lt _ _ h := by cases h
  remaining_nextResult_lt _ h := by cases h

/-- A driver with such cursors that keeps only one open. -/
def Setup.meddling : Setup Unit Meddling where
  driver :=
    { capabilities := { multipleOpenReaders := false }
      openReader := fun _ d => (.returned (.ok {}), d)
      execute := fun _ d => (.returned (.ok 1), d)
      executeBatch := fun _ d => (.returned (.ok 1), d) }
  settings := {}
  chain := .standard { multipleOpenReaders := false }
  verbosity := .off

/-- A thread opens a reader, and then a task wants one. -/
def World.twoReaders : List (Step Nat) :=
  [.ask .blocking (.read { sql := "select 1" }), .poll 0,
   .ask (.task Meddling.victim) (.read { sql := "select 2" }), .poll 1]

theorem statistics_count_cut :
    let start : World Unit Meddling Nat := .create Setup.meddling ()
    let w := start.run Setup.meddling World.twoReaders
    let t := World.account Setup.meddling (Totals.note Setup.meddling) start World.twoReaders {}
    w.conn.stats.readersOpened = t.opened ∧ w.calls.length ≤ w.conn.stats.roundTrips ∧
      w.conn.stats.roundTrips ≤ w.calls.length + t.cut := by
  obtain ⟨-, -, hopened, hbehind, hahead⟩ :=
    World.statistics_count Setup.meddling () World.twoReaders (by simp [World.twoReaders])
  exact ⟨hopened, hbehind, hahead (Setup.steady_of_fallback rfl)⟩

/-- The first reader is moved into memory for the second command, which cancels the task. The driver
is not called again, and yet two round trips are counted. -/
theorem cancelled_reader_counted :
    let start : World Unit Meddling Nat := .create Setup.meddling ()
    let w := start.run Setup.meddling World.twoReaders
    w.conn.stats.roundTrips = 2 ∧ w.calls.length = 1 := by
  decide +kernel

end OneConnection
