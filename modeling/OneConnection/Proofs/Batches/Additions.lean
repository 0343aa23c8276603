import OneConnection.Proofs.Batches.Verification
import OneConnection.Proofs.Conservation

/-!
# Additions

An addition puts its command into the pending batch once or not at all, and its first poll decides
that. A caller who is cancelled later, while the full batch waits for the connection, has added it.
-/

namespace OneConnection

variable {δ κ ρ : Type} [Cursor κ] {setup : Setup δ κ}

/-! ## Polls -/

namespace Adding

def isPast : Adding → Bool
  | .fresh _ => false
  | .flushing _ => true

theorem flush_past (setup : Setup δ κ) (caller : Caller) (call : Call Flushing.Sent)
    (conn : Connection δ κ) : (flush setup caller call conn).1.waiting?.all isPast = true := by
  simp only [flush, Prod.map_fst, Polled.waiting?_within, Polled.waiting?_map, Option.all_map]
  cases (Flushing.poll setup caller call conn).1.waiting? <;> rfl

/-- An addition that still waits after a poll has nothing left to add. -/
theorem poll_past (setup : Setup δ κ) (caller : Caller) (state : Adding) (conn : Connection δ κ) :
    (state.poll setup caller conn).1.waiting?.all isPast = true := by
  cases state with
  | flushing call => exact flush_past setup caller call conn
  | fresh c =>
    simp only [poll]
    split
    · rfl
    · split
      · exact flush_past setup caller .waiting _
      · rfl

end Adding

namespace Operation

variable {caller : Caller} {conn : Connection δ κ}

/-- The operation is an addition that has nothing left to add. -/
def isPast : Operation ρ → Bool
  | .adding state => state.isPast
  | _ => false

omit [Cursor κ] in
theorem accepts_past {operation : Operation ρ} (h : operation.isPast = true) :
    operation.accepts setup caller conn = [] := by
  unfold accepts
  split
  · cases h
  · rfl

theorem poll_past (setup : Setup δ κ) (caller : Caller) (state : Adding) (conn : Connection δ κ) :
    ((adding (ρ := ρ) state).poll setup caller conn).1.waiting?.all isPast = true := by
  simp only [poll, Polled.waiting?_within, Polled.waiting?_map, Option.all_map]
  exact state.poll_past setup caller conn

theorem poll_refused (setup : Setup δ κ) (c : Command) {reason : CancelReason}
    (hcaller : caller.cancelReason? conn.contexts = some reason) :
    (adding (ρ := ρ) (.fresh c)).poll setup caller conn = (.ready (.cancelled reason), conn) := by
  simp only [poll, Adding.poll, hcaller]
  rfl

theorem poll_room (c : Command) (hcaller : caller.cancelReason? conn.contexts = none)
    (hroom : conn.pending.size + 1 < setup.settings.batchSize) :
    ((adding (ρ := ρ) (.fresh c)).poll setup caller conn).1 = .ready (.ok .done) := by
  have hpush : conn.push setup c = (false, (conn.push setup c).2) := by
    refine Prod.ext ?_ rfl
    simpa [Connection.push] using hroom
  simp only [poll, Adding.poll, hcaller]
  rw [hpush]
  rfl

end Operation

namespace World

variable {w : World δ κ ρ} {n : Nat}

/-- What the polls of one task put into the pending batch along a run. -/
def acceptedFor (setup : Setup δ κ) (n : Nat) : World δ κ ρ → List (Step ρ) → List Command
  | _, [] => []
  | w, s :: rest =>
    (if s.polls n then w.accepts setup s else []) ++ acceptedFor setup n (w.step setup s) rest

/-- The task is over, or has nothing left to add. -/
def Past (n : Nat) (w : World δ κ ρ) : Prop :=
  ∃ t, w.tasks[n]? = some t ∧ t.all (·.operation.isPast) = true

theorem Past.after_poll {caller : Caller} {state : Adding}
    (h : w.task? n = some ⟨caller, .adding state⟩) : (w.step setup (.poll n)).Past n := by
  refine ⟨_, tasks_poll setup h, ?_⟩
  have hpast := Operation.poll_past (ρ := ρ) setup caller state w.conn
  rw [Option.all_map]
  exact hpast

theorem Past.step (s : Step ρ) (h : w.Past n) : (w.step setup s).Past n := by
  obtain ⟨t, ht, hpast⟩ := h
  rcases tasks_step_or ht s with hsame | hgone | ⟨rfl, hsome⟩
  · exact ⟨t, hsame, hpast⟩
  · exact ⟨none, hgone, rfl⟩
  · obtain ⟨⟨caller, operation⟩, rfl⟩ := Option.isSome_iff_exists.mp hsome
    have htask : w.task? n = some ⟨caller, operation⟩ := task?_eq_some.mpr ht
    cases operation with
    | adding state => exact .after_poll htask
    | _ => cases hpast

theorem Past.acceptedFor {steps : List (Step ρ)} (h : w.Past n) :
    w.acceptedFor setup n steps = [] := by
  induction steps generalizing w with
  | nil => rfl
  | cons s rest ih =>
    have hnone : (if s.polls n then w.accepts setup s else []) = [] := by
      split
      · rename_i hs
        cases s with
        | poll m =>
          obtain rfl : m = n := by simpa [Step.polls] using hs
          obtain ⟨t, ht, hpast⟩ := h
          cases t with
          | none => simp [accepts, task?, ht]
          | some t => simp [accepts, task?, ht, Operation.accepts_past hpast]
        | _ => cases hs
      · rfl
    rw [World.acceptedFor, hnone, ih (h.step s)]
    rfl

/-- In every run, the first poll of an addition decides whether its command becomes pending. A
caller who is cancelled by then has added nothing and changed nothing. Otherwise the command is
added once, however the addition ends; and unless it fills the batch, it ends well at once. -/
theorem additions_decided_at_once (setup : Setup δ κ) (database : δ)
    (before later : List (Step ρ)) {caller : Caller} {c : Command} :
    let w : World δ κ ρ := (create setup database).run setup before
    let accepted := w.acceptedFor setup n (.poll n :: later)
    let heard := w.heard setup n (.poll n :: later)
    w.task? n = some ⟨caller, .adding (.fresh c)⟩ →
    match caller.cancelReason? w.conn.contexts with
    | some reason =>
      accepted = [] ∧ heard = [.cancelled reason] ∧ (w.step setup (.poll n)).conn = w.conn
    | none =>
      accepted = [setup.prepare c] ∧
      (w.conn.pending.size + 1 < setup.settings.batchSize → heard = [.ok .done]) := by
  intro w accepted heard htask
  have hrest : (w.step setup (.poll n)).acceptedFor setup n later = [] :=
    (Past.after_poll htask).acceptedFor
  have haccepted : accepted = w.accepts setup (.poll n) := by
    simp [accepted, acceptedFor, Step.polls, hrest]
  rw [haccepted]
  simp only [accepts, htask, Operation.accepts]
  cases hcaller : caller.cancelReason? w.conn.contexts with
  | some reason =>
    have hpoll := Operation.poll_refused (ρ := ρ) setup c hcaller
    refine ⟨rfl, heard_of_ready htask (congrArg Prod.fst hpoll), ?_⟩
    rw [step_poll htask, conn_answer, hpoll]
  | none =>
    refine ⟨rfl, fun hroom => ?_⟩
    exact heard_of_ready htask (Operation.poll_room c hcaller hroom)

end World

/-- A driver in memory under settings that send every addition at once. -/
def Setup.hasty : Setup Unit Buffered := { Setup.slow with settings := { batchSize := 1 } }

/-- An addition is cancelled while it waits for the connection, and yet it has added its command. -/
theorem additions_decided_at_once_waiting :
    let x : Caller := .task ⟨"x"⟩
    let y : Context := ⟨"y"⟩
    let c : Command := { sql := "insert" }
    let before : List (Step Nat) :=
      [.ask x (.execute { sql := "update" }), .poll 0, .ask (.task y) (.add c)]
    let w : World Unit Buffered Nat := (World.create Setup.hasty ()).run Setup.hasty before
    let later : List (Step Nat) := [.act (.cancel ⟨y, none⟩), .poll 1]
    w.acceptedFor Setup.hasty 1 (.poll 1 :: later) = [Setup.hasty.prepare c] := by
  intro x y c before w later
  have htask : w.task? 1 = some ⟨.task y, .adding (.fresh c)⟩ := by cbv
  have hcaller : (Caller.task y).cancelReason? w.conn.contexts = none := by cbv
  have h := World.additions_decided_at_once Setup.hasty () before later htask
  simp only [w, hcaller] at h
  exact h.1

/-- A command is sent although its addition was cancelled before the driver was called. -/
theorem cancelled_addition_sent :
    let x : Caller := .task ⟨"x"⟩
    let y : Context := ⟨"y"⟩
    let c : Command := { sql := "insert" }
    let steps : List (Step Nat) :=
      [.ask x (.execute { sql := "update" }), .poll 0, .ask (.task y) (.add c), .poll 1,
       .act (.cancel ⟨y, none⟩), .poll 1, .poll 0, .ask .blocking .flush, .poll 2]
    let start : World Unit Buffered Nat := World.create Setup.hasty ()
    start.heard Setup.hasty 1 steps = [.cancelled (.user "cancelled")] ∧
    (start.run Setup.hasty steps).conn.batches = [[Setup.hasty.prepare c]] := by
  intro x y c steps start
  refine ⟨?_, ?_⟩
  · cbv
  · cbv

end OneConnection
