import OneConnection.Proofs.Endurance

/-!
# Acts

No act calls the driver, and a fact that bears the small steps between two calls bears acts. Only
disposal takes commands out of the pending batch, and only three acts change deferred batches.
-/

namespace OneConnection

variable {δ κ ρ : Type}

def Act.disposes : Act → Bool
  | .dispose | .close | .abandon => true
  | _ => false

def Act.defers : Act → Bool
  | .register _ | .newBatch | .addQuery _ _ => true
  | _ => false

namespace Connection

variable {conn : Connection δ κ}

theorem addQuery_eq_some {batch : Nat} {q : Query} {x : Nat × Connection δ κ}
    (h : conn.addQuery batch q = some x) :
    ∃ b, conn.batch? batch = some b ∧ b.isSealed = false ∧
      x = (b.size, conn.updateBatch batch fun _ => b.append q) := by
  unfold addQuery at h
  cases hb : conn.batch? batch with
  | none => simp [hb] at h
  | some b =>
    cases hs : b.isSealed with
    | true => simp [hb, DeferredBatch.add, hs] at h
    | false =>
      refine ⟨b, rfl, hs, ?_⟩
      simpa [hb, DeferredBatch.add, hs] using h.symm

theorem addQuery_of_open {batch : Nat} {b : DeferredBatch} (q : Query)
    (hb : conn.batch? batch = some b) (hopen : b.isSealed = false) :
    conn.addQuery batch q = some (b.size, conn.updateBatch batch fun _ => b.append q) := by
  simp [addQuery, hb, DeferredBatch.add, hopen]

theorem deferred_discardPending : conn.discardPending.deferred = conn.deferred := by
  simp only [discardPending]
  split <;> rfl

theorem pending_discardPending : conn.discardPending.pending = {} := by
  simp only [discardPending]
  split <;> rfl

theorem calls_record {event : Event} (he : event.call? = none) :
    (conn.record event).calls = conn.calls := by
  unfold calls record
  rw [List.filterMap_append, List.filterMap_cons, he, List.filterMap_nil, List.append_nil]

theorem calls_discardPending : conn.discardPending.calls = conn.calls := by
  simp only [discardPending]
  split
  · rfl
  · exact calls_record rfl

end Connection

namespace Session

variable {s : Session} {conn : Connection δ κ} {k : Nat} {b : DeferredBatch}

/-- The batch that takes the next query has not started. -/
theorem batch?_of_current? (h : s.current? conn = some k) :
    ∃ b, conn.batch? k = some b ∧ b.isSealed = false := by
  have ⟨_, hopen⟩ := Option.filter_eq_some_iff.mp h
  cases hb : conn.batch? k with
  | none => simp [hb] at hopen
  | some b => exact ⟨b, rfl, by simpa [hb] using hopen⟩

theorem register_open (q : Query) (hs : s.latest = some k) (hb : conn.batch? k = some b)
    (hopen : b.isSealed = false) :
    s.register q conn =
      ((k, b.size), ⟨some k⟩, conn.updateBatch k fun _ => b.append q) := by
  have hcurrent : s.current? conn = some k := by simp [current?, hs, hb, hopen]
  simp only [register, hcurrent, Option.bind_some, offer, Connection.addQuery_of_open q hb hopen,
    Option.map_some]

theorem register_fresh (q : Query) (h : s.current? conn = none) :
    s.register q conn = ((conn.deferred.length, 0), ⟨some conn.deferred.length⟩,
      conn.newBatch.2.updateBatch conn.deferred.length fun _ => DeferredBatch.append q {}) := by
  simp only [register, h, Option.bind_none, offer_newBatch, Option.get_some]
  rfl

/-- A registration changes nothing but the deferred batches. -/
theorem register_deferred (q : Query) (s : Session) (conn : Connection δ κ) :
    ∃ deferred, (s.register q conn).2.2 = { conn with deferred } := by
  cases hc : s.current? conn with
  | none => exact ⟨_, congrArg (·.2.2) (register_fresh q hc)⟩
  | some k =>
    obtain ⟨b, hb, hopen⟩ := batch?_of_current? hc
    exact ⟨_, congrArg (·.2.2) (register_open q (Option.filter_eq_some_iff.mp hc).1 hb hopen)⟩

end Session

variable [Cursor κ] {setup : Setup δ κ} {w : World δ κ ρ}

/-- An act that disposes begins with that, and only acts on deferred batches change them. -/
theorem Quiet.act {I : Connection δ κ → Prop} (h : Quiet I) {a : Act}
    (hdefer : a.defers = true → ∀ conn deferred, I conn → I { conn with deferred })
    (hI : I (if a.disposes then w.conn.discardPending else w.conn)) :
    I (w.act setup a).conn := by
  cases a with
  | cancel | revive => exact h.hold _ _ _ _ hI
  | register q =>
    obtain ⟨deferred, heq⟩ := w.session.register_deferred q w.conn
    show I (w.session.register q w.conn).2.2
    rw [heq]
    exact hdefer rfl _ _ hI
  | newBatch => exact hdefer rfl _ _ hI
  | addQuery batch q =>
    simp only [World.act]
    split
    · rename_i hadd
      obtain ⟨b, -, -, hx⟩ := Connection.addQuery_eq_some hadd
      cases hx
      exact hdefer rfl _ _ hI
    · exact hI
  | use x way =>
    simp only [World.act]
    split
    · exact h.use _ _ hI
    · exact hI
  | closeReader x =>
    simp only [World.act]
    split
    · exact h.closeReader _ hI
    · exact hI
  | dropReader x =>
    simp only [World.act]
    split
    · exact h.dropReader _ hI
    · exact hI
  | checkReaders => exact h.checkReaders hI
  | closeAllReaders => exact h.hold _ _ _ _ hI
  | dispose | close => exact h.disposeReaders _ hI
  | abandon =>
    have hdiscard : I w.conn.discardPending := hI
    have hdispose := h.disposeReaders setup.settings.strictLeaks hdiscard
    simp only [World.act, Session.abandon, Connection.dispose]
    split <;> rename_i heq <;> rw [heq] at hdispose
    · exact hdispose
    · exact h.note _ _ rfl hdispose

/-! ## Steps -/

namespace Endures

variable {I : Connection δ κ → Prop}

/-- A fact that bears additions, changes of deferred batches and the disposal of the pending batch
besides bears every step. -/
theorem step (h : Endures setup I) (hpush : ∀ c conn, I conn → I (conn.push setup c).2)
    (hdefer : ∀ conn deferred, I conn → I { conn with deferred })
    (hdiscard : ∀ conn, I conn → I conn.discardPending) (s : Step ρ) (hI : I w.conn) :
    I (w.step setup s).conn := by
  cases s with
  | ask caller request => exact hI
  | poll n =>
    simp only [World.step]
    split
    · rw [World.conn_answer]
      exact h.poll hpush hdefer _ _ hI
    · exact hI
  | drop n =>
    simp only [World.step]
    split
    · exact h.drop hdefer _ _ hI
    · exact hI
  | act a =>
    apply h.act (fun _ => hdefer)
    split
    · exact hdiscard _ hI
    · exact hI

theorem run (h : Endures setup I) (hpush : ∀ c conn, I conn → I (conn.push setup c).2)
    (hdefer : ∀ conn deferred, I conn → I { conn with deferred })
    (hdiscard : ∀ conn, I conn → I conn.discardPending) (steps : List (Step ρ)) (hI : I w.conn) :
    I (w.run setup steps).conn :=
  World.run_induction (P := fun w => I w.conn) (fun _ s _ => h.step hpush hdefer hdiscard s) hI

end Endures

/-- What no act touches: the driver's side, who may call, what is counted, and the numbers that readers
get. -/
structure Rests (conn conn' : Connection δ κ) : Prop where
  database : conn'.database = conn.database
  access : conn'.access = conn.access
  stats : conn'.stats = conn.stats
  issued : conn'.registry.issued = conn.registry.issued

namespace World

theorem calls_act (setup : Setup δ κ) (w : World δ κ ρ) (a : Act) :
    (w.act setup a).calls = w.calls := by
  have h : Quiet fun conn : Connection δ κ => conn.calls = w.calls :=
    { access := fun _ _ h => h
      hold := fun _ _ _ _ h => h
      note := fun _ _ he h => (Connection.calls_record he).trans h
      count := fun _ _ h => h }
  apply h.act (fun _ _ _ h => h)
  split
  · exact Connection.calls_discardPending
  · rfl

theorem pending_act (setup : Setup δ κ) (w : World δ κ ρ) (a : Act) :
    (w.act setup a).conn.pending = if a.disposes then {} else w.conn.pending := by
  have h : Quiet fun conn : Connection δ κ =>
      conn.pending = if a.disposes then {} else w.conn.pending :=
    { access := fun _ _ h => h
      hold := fun _ _ _ _ h => h
      note := fun _ _ _ h => h
      count := fun _ _ h => h }
  apply h.act (fun _ _ _ h => h)
  split
  · exact Connection.pending_discardPending
  · rfl

theorem rests_act (setup : Setup δ κ) (w : World δ κ ρ) (a : Act) :
    Rests w.conn (w.act setup a).conn := by
  have hdispose : Rests w.conn (w.conn.dispose setup).2 := by
    simp only [Connection.dispose, Connection.discardPending]
    split <;> (simp only [Connection.disposeReaders]; split <;> exact ⟨rfl, rfl, rfl, rfl⟩)
  cases a with
  | cancel | revive | newBatch | checkReaders | closeAllReaders => exact ⟨rfl, rfl, rfl, rfl⟩
  | register q =>
    obtain ⟨deferred, heq⟩ := w.session.register_deferred q w.conn
    show Rests w.conn (w.session.register q w.conn).2.2
    rw [heq]
    exact ⟨rfl, rfl, rfl, rfl⟩
  | addQuery batch q =>
    simp only [act]
    split
    · obtain ⟨b, -, -, hx⟩ := Connection.addQuery_eq_some ‹_›
      cases hx
      exact ⟨rfl, rfl, rfl, rfl⟩
    · exact ⟨rfl, rfl, rfl, rfl⟩
  | use h way =>
    simp only [act]
    split
    · cases way <;> exact ⟨rfl, rfl, rfl, rfl⟩
    · exact ⟨rfl, rfl, rfl, rfl⟩
  | closeReader h =>
    simp only [act]
    split <;> exact ⟨rfl, rfl, rfl, rfl⟩
  | dropReader h =>
    simp only [act]
    split
    · unfold Connection.dropReader
      split <;> exact ⟨rfl, rfl, rfl, rfl⟩
    · exact ⟨rfl, rfl, rfl, rfl⟩
  | dispose | close => exact hdispose
  | abandon =>
    simp only [act, Session.abandon]
    split <;> rename_i heq <;> rw [heq] at hdispose <;>
      exact ⟨hdispose.database, hdispose.access, hdispose.stats, hdispose.issued⟩

end World

end OneConnection
