import OneConnection.Proofs.Acts

/-!
# Veils

Some of what a connection records decides nothing: the forms of its calls, and what it has logged.
Acts do with a connection that hides such records what they do with any other.
-/

namespace OneConnection

variable {δ κ ρ : Type}

/-- A way to look past some records of a connection. Warnings and pending commands stay in sight. -/
structure Veil where
  batch : PendingBatch → PendingBatch
  events : List Event → List Event
  batch_empty : batch {} = {}
  commands_batch : ∀ b, (batch b).commands = b.commands
  events_warned : ∀ history w, events (history ++ [.warned w]) = events history ++ [.warned w]

namespace Veil

def hide (v : Veil) (conn : Connection δ κ) : Connection δ κ :=
  { conn with pending := v.batch conn.pending, history := v.events conn.history }

variable (v : Veil)

theorem warn (w : Warning) (conn : Connection δ κ) :
    (v.hide conn).warn w = v.hide (conn.warn w) := by
  simp only [Connection.warn, Connection.record, hide, v.events_warned]

theorem events_warnedAll (history : List Event) (ws : List Warning) :
    v.events (history ++ ws.map .warned) = v.events history ++ ws.map .warned := by
  induction ws generalizing history with
  | nil => simp
  | cons w ws ih =>
    have hfirst := ih (history ++ [.warned w])
    rw [v.events_warned] at hfirst
    simpa using hfirst

theorem warnAll (ws : List Warning) (conn : Connection δ κ) :
    (v.hide conn).recordAll (ws.map .warned) = v.hide (conn.recordAll (ws.map .warned)) := by
  simp only [Connection.recordAll, hide, v.events_warnedAll]

theorem register (q : Query) (s : Session) (conn : Connection δ κ) :
    s.register q (v.hide conn) =
      ((s.register q conn).1, (s.register q conn).2.1, v.hide (s.register q conn).2.2) := by
  cases hc : s.current? conn with
  | none =>
    have hc' : s.current? (v.hide conn) = none := hc
    rw [Session.register_fresh q hc, Session.register_fresh q hc']
    rfl
  | some k =>
    obtain ⟨b, hb, hopen⟩ := Session.batch?_of_current? hc
    have hb' : (v.hide conn).batch? k = some b := hb
    have hs := (Option.filter_eq_some_iff.mp hc).1
    rw [Session.register_open q hs hb hopen, Session.register_open q hs hb' hopen]
    rfl

theorem addQuery (batch : Nat) (q : Query) (conn : Connection δ κ) :
    (v.hide conn).addQuery batch q =
      (conn.addQuery batch q).map fun r => (r.1, v.hide r.2) := by
  have hbatch : (v.hide conn).batch? batch = conn.batch? batch := rfl
  unfold Connection.addQuery
  rw [hbatch]
  cases conn.batch? batch with
  | none => rfl
  | some b =>
    cases hadd : b.add q with
    | none => simp [hadd]
    | some r => simp [hadd]; rfl

theorem discardPending (conn : Connection δ κ) :
    (v.hide conn).discardPending = v.hide conn.discardPending := by
  have htaken : (v.hide conn).takePending =
      (v.batch conn.pending, v.hide conn.takePending.2) := by
    simp only [Connection.takePending, hide, v.batch_empty]
  have hempty : (v.batch conn.pending).isEmpty = conn.pending.isEmpty :=
    congrArg List.isEmpty (v.commands_batch _)
  have hsize : (v.batch conn.pending).size = conn.pending.size :=
    congrArg List.length (v.commands_batch _)
  unfold Connection.discardPending
  rw [htaken]
  dsimp only [Connection.takePending]
  rw [hempty, hsize]
  split
  · rfl
  · exact v.warn _ _

variable [Cursor κ]

theorem checkReaders (conn : Connection δ κ) :
    (v.hide conn).checkReaders = (conn.checkReaders.1, v.hide conn.checkReaders.2) := by
  have hwarnings : ∀ failures : List (ReaderId × Error),
      failures.map (fun x => Event.warned (.bufferingFailed x.1 x.2)) =
        (failures.map fun x => Warning.bufferingFailed x.1 x.2).map .warned := by
    simp
  unfold Connection.checkReaders
  dsimp only
  rw [hwarnings, hwarnings, ← v.warnAll]
  rfl

theorem use (place : Nat) (way : Use) (conn : Connection δ κ) :
    (v.hide conn).use place way = v.hide (conn.use place way) := by
  cases way <;> rfl

theorem dropReader (h : Handle) (conn : Connection δ κ) :
    (v.hide conn).dropReader h = v.hide (conn.dropReader h) := by
  have htracked : (v.hide conn).registry = conn.registry := rfl
  unfold Connection.dropReader
  rw [htracked]
  split <;> rfl

theorem disposeReaders (strict : Bool) (conn : Connection δ κ) :
    (v.hide conn).disposeReaders strict =
      ((conn.disposeReaders strict).1, v.hide (conn.disposeReaders strict).2) := by
  have hclosed : (v.hide conn).closeAllReaders =
      (conn.closeAllReaders.1, v.hide conn.closeAllReaders.2) := rfl
  unfold Connection.disposeReaders
  rw [hclosed]
  dsimp only
  cases Registry.leak strict conn.closeAllReaders.1 with
  | error why => rfl
  | ok warnings => exact congrArg (Prod.mk _) (v.warnAll warnings _)

variable {setup setup' : Setup δ κ} (hstrict : setup'.settings.strictLeaks = setup.settings.strictLeaks)
include hstrict

theorem dispose (conn : Connection δ κ) :
    (v.hide conn).dispose setup' = ((conn.dispose setup).1, v.hide (conn.dispose setup).2) := by
  unfold Connection.dispose
  rw [hstrict, v.discardPending, v.disposeReaders]

theorem abandon (s : Session) (conn : Connection δ κ) :
    s.abandon setup' (v.hide conn) = v.hide (s.abandon setup conn) := by
  unfold Session.abandon
  rw [v.dispose hstrict]
  rcases conn.dispose setup with ⟨why | _, conn'⟩
  · exact v.warn _ conn'
  · rfl

/-- An act looks neither at hidden records nor at the operations that are under way. -/
theorem act (w : World δ κ ρ) (tasks : List (Option (Task ρ))) (a : Act) :
    { w with conn := v.hide w.conn, tasks : World δ κ ρ }.act setup' a =
      { w.act setup a with conn := v.hide (w.act setup a).conn, tasks } := by
  cases a with
  | cancel | revive | newBatch | closeAllReaders => rfl
  | register q => simp only [World.act, v.register]
  | addQuery batch q =>
    simp only [World.act, v.addQuery]
    cases w.conn.addQuery batch q <;> rfl
  | use h way =>
    simp only [World.act, v.use]
    by_cases hheld : h ∈ w.held <;> simp only [hheld, if_true, if_false]
  | closeReader h =>
    have hclosed : (v.hide w.conn).closeReader h = v.hide (w.conn.closeReader h) := rfl
    simp only [World.act, hclosed]
    by_cases hheld : h ∈ w.held <;> simp only [hheld, if_true, if_false]
  | dropReader h =>
    simp only [World.act, v.dropReader]
    by_cases hheld : h ∈ w.held <;> simp only [hheld, if_true, if_false]
  | checkReaders => simp only [World.act, v.checkReaders]
  | dispose => simp only [World.act, v.dispose hstrict]
  | close => simp only [World.act, Session.close, v.dispose hstrict]
  | abandon => simp only [World.act, v.abandon hstrict]

end Veil

end OneConnection
