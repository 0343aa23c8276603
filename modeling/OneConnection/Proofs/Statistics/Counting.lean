import OneConnection.Proofs.Agreement.Operations
import OneConnection.Proofs.Conservation

/-!
# Counting

How far the statistics of a connection are from what they count, and the steps of an operation that
leave them as far. A flush, an execution and everything between two calls are such steps. A command
that opens a reader is one too, if it comes to its call.
-/

namespace OneConnection

variable {δ κ : Type}

/-- Commands that some handler accepts are accepted with their time limit too. -/
def Setup.Steady (setup : Setup δ κ) : Prop :=
  ∀ c handler, setup.chain.select c = .ok handler →
    ∃ handler', setup.chain.select (setup.prepare c) = .ok handler'

/-- A fallback accepts whatever has a statement, whatever its time limit. -/
theorem Setup.steady_of_fallback {setup : Setup δ κ} (h : setup.chain.hasFallback = true) :
    setup.Steady := by
  intro c handler hselect
  have hwell : (setup.prepare c).isWellFormed = c.isWellFormed := rfl
  obtain ⟨last, hmem, hlast⟩ := List.any_eq_true.mp h
  unfold Chain.select at hselect ⊢
  rw [hwell]
  split at hselect
  · cases hselect
  · rename_i hformed
    rw [if_neg hformed]
    cases hfind : setup.chain.handlers.find? (·.accepts (setup.prepare c)) with
    | some handler' => exact ⟨handler', rfl⟩
    | none =>
      have hrefused := List.find?_eq_none.mp hfind last hmem
      cases last with
      | native => cases hlast
      | fallback => exact absurd rfl hrefused

/-- One if the caller is cancelled. -/
def Caller.cancelled (caller : Caller) (contexts : Contexts) : Nat :=
  (caller.cancelReason? contexts).isSome.toNat

namespace Caller

variable {caller : Caller} {contexts contexts' : Contexts}

theorem cancelled_le_one : caller.cancelled contexts ≤ 1 := Bool.toNat_le _

theorem cancelled_eq_zero (h : caller.cancelReason? contexts = none) :
    caller.cancelled contexts = 0 := by
  rw [cancelled, h]
  rfl

theorem cancelled_eq_one {reason : CancelReason} (h : caller.cancelReason? contexts = some reason) :
    caller.cancelled contexts = 1 := by
  rw [cancelled, h]
  rfl

theorem cancelled_le (h : contexts.Grows contexts') :
    caller.cancelled contexts ≤ caller.cancelled contexts' := by
  cases caller with
  | blocking => exact Nat.le_refl _
  | task x =>
    cases hx : contexts'.reason? x with
    | none =>
      have hnone : (Caller.task x).cancelReason? contexts = none := h x hx
      rw [cancelled_eq_zero hnone]
      exact Nat.zero_le _
    | some reason =>
      have hsome : (Caller.task x).cancelReason? contexts' = some reason := hx
      rw [cancelled_eq_one hsome]
      exact cancelled_le_one

end Caller

/-! ## How the counters stand -/

/-- Two counters as they are, and by how much the two others are above what they count. -/
@[ext]
structure Standing where
  batched : Nat
  opened : Nat
  flushes : Int
  trips : Int

namespace Connection

def standing (conn : Connection δ κ) : Standing where
  batched := conn.stats.commandsBatched
  opened := conn.stats.readersOpened
  flushes := conn.stats.flushes - conn.batches.length
  trips := conn.stats.roundTrips - conn.calls.length

/-- A round trip is counted. -/
def trip (conn : Connection δ κ) : Connection δ κ :=
  conn.count fun s => { s with roundTrips := s.roundTrips + 1 }

variable {conn conn' : Connection δ κ}

theorem standing_congr (hstats : conn'.stats = conn.stats) (hcalls : conn'.calls = conn.calls) :
    conn'.standing = conn.standing := by
  unfold standing
  rw [hstats, hcalls, batches_congr hcalls]

theorem standing_trip :
    conn.trip.standing = { conn.standing with trips := conn.standing.trips + 1 } := by
  ext
  · rfl
  · rfl
  · rfl
  · show ((conn.stats.roundTrips + 1 : Nat) : Int) - conn.calls.length =
      conn.stats.roundTrips - conn.calls.length + 1
    omega

variable [Cursor κ]

theorem length_calls_recordCall (kind : CallKind) (mode : Mode) (cs : List Command) :
    (conn.recordCall kind mode cs).calls.length = conn.calls.length + 1 := by
  unfold calls recordCall record
  rw [List.filterMap_append, List.length_append]
  rfl

/-- A call for a single command makes up for its round trip. -/
theorem standing_call {kind : CallKind} (hkind : kind ≠ .batch) (mode : Mode) (cs : List Command) :
    (conn.trip.recordCall kind mode cs).standing = conn.standing := by
  have hbatches : (conn.trip.recordCall kind mode cs).batches = conn.batches := by
    rw [batches_recordCall, if_neg hkind, List.append_nil]
    rfl
  have hcalls : (conn.trip.recordCall kind mode cs).calls.length = conn.trip.calls.length + 1 :=
    length_calls_recordCall kind mode cs
  ext
  · rfl
  · rfl
  · exact congrArg (fun bs : List (List Command) => (conn.stats.flushes : Int) - bs.length) hbatches
  · show ((conn.stats.roundTrips + 1 : Nat) : Int) -
      (conn.trip.recordCall kind mode cs).calls.length = conn.stats.roundTrips - conn.calls.length
    rw [hcalls]
    show ((conn.stats.roundTrips + 1 : Nat) : Int) - ((conn.calls.length + 1 : Nat) : Int) = _
    omega

/-- A call for a batch makes up for its round trip and for its flush. -/
theorem standing_flush (mode : Mode) (cs : List Command) :
    ((conn.count fun s =>
        { s with flushes := s.flushes + 1, roundTrips := s.roundTrips + 1 }).recordCall
      .batch mode cs).standing = conn.standing := by
  generalize hready : (conn.count fun s =>
    { s with flushes := s.flushes + 1, roundTrips := s.roundTrips + 1 }) = ready
  have hbatches : (ready.recordCall .batch mode cs).batches = conn.batches ++ [cs] := by
    rw [batches_recordCall, if_pos rfl, ← hready]
    rfl
  have hcalls : (ready.recordCall .batch mode cs).calls.length = conn.calls.length + 1 := by
    rw [length_calls_recordCall, ← hready]
    rfl
  have hstats : (ready.recordCall .batch mode cs).stats =
      { conn.stats with
        flushes := conn.stats.flushes + 1, roundTrips := conn.stats.roundTrips + 1 } := by
    rw [← hready]
    rfl
  ext
  · simp only [standing, hstats]
  · simp only [standing, hstats]
  · simp only [standing, hstats, hbatches, List.length_append, List.length_singleton]
    omega
  · simp only [standing, hstats, hcalls]
    omega

end Connection

/-! ## Steps that count right -/

/-- The counters stand as before, and a caller that was cancelled still is. -/
structure CountsRight (caller : Caller) (conn conn' : Connection δ κ) : Prop where
  standing : conn'.standing = conn.standing
  cancelled : caller.cancelled conn.contexts ≤ caller.cancelled conn'.contexts

namespace CountsRight

variable {caller : Caller} {conn conn' conn'' : Connection δ κ}

theorem refl (conn : Connection δ κ) : CountsRight caller conn conn :=
  ⟨rfl, Nat.le_refl _⟩

theorem trans (h : CountsRight caller conn conn') (h' : CountsRight caller conn' conn'') :
    CountsRight caller conn conn'' :=
  ⟨h'.standing.trans h.standing, Nat.le_trans h.cancelled h'.cancelled⟩

theorem noted (conn : Connection δ κ) : Noted (CountsRight caller conn) := by
  intro conn' event he h
  have hsame : (conn'.record event).standing = conn'.standing :=
    Connection.standing_congr rfl (Connection.calls_record he)
  exact ⟨hsame.trans h.standing, h.cancelled⟩

/-- Readers change and contexts are cancelled, and nothing else happens. -/
theorem hold (conn : Connection δ κ) (readers : Readers κ) {contexts : Contexts}
    (h : conn.contexts.Grows contexts) : CountsRight caller conn { conn with readers, contexts } :=
  ⟨rfl, Caller.cancelled_le h⟩

theorem setAccess (access : Access) (conn : Connection δ κ) :
    CountsRight caller conn (conn.setAccess access) := ⟨rfl, Nat.le_refl _⟩

theorem defer (deferred : List DeferredBatch) (conn : Connection δ κ) :
    CountsRight caller conn { conn with deferred } := ⟨rfl, Nat.le_refl _⟩

theorem ofPromise {α β ρ : Type} (f : Outcome α → β) (conn : Connection δ κ)
    (answer : Promise α × δ) : CountsRight caller conn (Begun.ofPromise (ρ := ρ) f conn answer).2 := by
  obtain ⟨_ | _, database⟩ := answer <;> exact ⟨rfl, Nat.le_refl _⟩

variable [Cursor κ]

theorem checkReaders (conn : Connection δ κ) : CountsRight caller conn conn.checkReaders.2 :=
  (noted conn).warnAll (fun (x : ReaderId × Error) => .bufferingFailed x.1 x.2) _
    (hold conn _ (.cancelAll _ _))

theorem closeReader (h : Handle) (conn : Connection δ κ) :
    CountsRight caller conn (conn.closeReader h) := ⟨rfl, Nat.le_refl _⟩

theorem decode {α : Type} (decoder : RowDecoder α) (h : Handle) (conn : Connection δ κ) :
    CountsRight caller conn (Listing.decode decoder h conn).2 := by
  have hfetch : CountsRight caller conn (conn.fetch h.place (Cursor.collect decoder.decode)).2 :=
    hold conn _ (.cancelAll _ _)
  exact hfetch.trans (closeReader h _)

theorem read (errand : Errand) (h : Handle) (conn : Connection δ κ) :
    CountsRight caller conn (Execution.read caller errand h conn).2 := by
  unfold Execution.read
  split
  · exact closeReader h conn
  · rename_i reader _
    refine ⟨rfl, ?_⟩
    cases caller with
    | blocking => exact Nat.le_refl _
    | task x =>
      exact Caller.cancelled_le
        (Reading.sets_agrees x errand.command errand.sets reader conn.contexts).grows

theorem complete (errand : Errand) (opened : Outcome Handle) (conn : Connection δ κ) :
    CountsRight caller conn (Execution.complete caller errand opened conn).2 := by
  cases opened with
  | ok h => exact read errand h conn
  | error | cancelled | panicked => exact refl conn

theorem discard (place : Outcome Nat) (conn : Connection δ κ) :
    CountsRight caller conn (Dispatch.discard place conn) := by
  cases place with
  | ok place => exact ⟨rfl, Nat.le_refl _⟩
  | error | cancelled | panicked => exact refl conn

omit [Cursor κ] in
theorem afterCall (conn : Connection δ κ) (answer : Promise κ × δ) :
    CountsRight caller conn (Dispatch.afterCall conn answer).2 := by
  obtain ⟨⟨_, outcome⟩ | _, database⟩ := answer
  · cases outcome <;> exact ⟨rfl, Nat.le_refl _⟩
  · exact ⟨rfl, Nat.le_refl _⟩

/-- A round trip was counted, and then the driver called for a single command. -/
theorem call {kind : CallKind} (hkind : kind ≠ .batch) (mode : Mode) (cs : List Command)
    (conn : Connection δ κ) : CountsRight caller conn (conn.trip.recordCall kind mode cs) :=
  ⟨Connection.standing_call hkind mode cs, Nat.le_refl _⟩

/-- What happens before a single command, up to the counting of its round trip. -/
theorem single (setup : Setup δ κ) (c : Command) (conn : Connection δ κ) :
    CountsRight caller conn (conn.checkReaders.2.logCommand setup (setup.prepare c)) :=
  (noted conn).logCommand setup (setup.prepare c) (checkReaders conn)

theorem flush (setup : Setup δ κ) (mode : Mode) (conn : Connection δ κ) :
    CountsRight caller conn (Flushing.begin setup mode conn).2 := by
  rw [Flushing.begin_eq]
  split
  · exact ⟨rfl, Nat.le_refl _⟩
  · have htake : CountsRight caller conn conn.takePending.2 := ⟨rfl, Nat.le_refl _⟩
    have hready : CountsRight caller conn
        (conn.takePending.2.checkReaders.2.logBatch setup conn.pending.log) :=
      (noted conn).logBatch setup conn.pending.log (htake.trans (checkReaders _))
    have hcall : CountsRight caller conn
        ((Flushing.ready setup conn).recordCall .batch mode conn.pending.commands) := by
      refine ⟨?_, hready.cancelled⟩
      rw [Flushing.ready, Connection.standing_flush, hready.standing]
    exact hcall.trans (ofPromise _ _ _)

end CountsRight

end OneConnection
