import OneConnection.Operation

/-!
# Rules for polls

What holds before an operation is polled is carried over to its answer, to the operation that still
waits, or to what a crash leaves behind. There is one rule for calls and one for executions.
-/

namespace OneConnection

variable {δ κ : Type}

/-- What holds after a poll: of the answer, of the operation that waits, or of what a crash
leaves. -/
def Polled.Ensures {τ α σ : Type} (ready : α → σ → Prop) (waiting : τ → σ → Prop)
    (crashed : σ → Prop) : Polled τ α × σ → Prop
  | (.ready a, s) => ready a s
  | (.waiting t, s) => waiting t s
  | (.crashed _, s) => crashed s

theorem Polled.ensures_mono {τ α σ : Type} {R R' : α → σ → Prop} {W W' : τ → σ → Prop}
    {C C' : σ → Prop} (hR : ∀ a s, R a s → R' a s) (hW : ∀ t s, W t s → W' t s)
    (hC : ∀ s, C s → C' s) {x : Polled τ α × σ} (h : Ensures R W C x) : Ensures R' W' C' x := by
  obtain ⟨_ | _ | _, s⟩ := x
  · exact hR _ s h
  · exact hW _ s h
  · exact hC s h

theorem Polled.ensures_const {τ α σ : Type} {I : σ → Prop} {x : Polled τ α × σ} :
    Ensures (fun _ => I) (fun _ => I) I x ↔ I x.2 := by
  obtain ⟨_ | _ | _, s⟩ := x <;> exact Iff.rfl

theorem Polled.ensures_within {τ υ α β σ : Type} {R : α → σ → Prop} {R' : β → σ → Prop}
    {W : τ → σ → Prop} {W' : υ → σ → Prop} {C : σ → Prop} {f : α → β} {g : τ → υ}
    (hR : ∀ a s, R a s → R' (f a) s) (hW : ∀ t s, W t s → W' (g t) s) {x : Polled τ α × σ}
    (h : Ensures R W C x) : Ensures R' W' C ((x.1.map f).within g, x.2) := by
  obtain ⟨_ | _ | _, s⟩ := x
  · exact hR _ s h
  · exact hW _ s h
  · exact h

/-! ## Calls -/

/-- What holds while a call waits, and while the driver works on it. -/
def Call.Holds {β : Type} (W : Connection δ κ → Prop) (S : β → Connection δ κ → Prop) :
    Call β → Connection δ κ → Prop
  | .waiting, conn => W conn
  | .sent _ b, conn => S b conn

def Begun.Ensures {β ρ : Type} (S : β → Connection δ κ → Prop)
    (D : Outcome ρ → Connection δ κ → Prop) (C : Connection δ κ → Prop) :
    Begun β ρ × Connection δ κ → Prop
  | (.sent _ b, conn) => S b conn
  | (.settled o, conn) => D o (conn.setAccess .free)
  | (.crashed _, conn) => C (conn.setAccess .broken)

namespace Protocol

variable {β ρ : Type}

/-- A protocol leads from what holds while a call waits (`W`) or is sent (`S`) to what holds when
it is done (`D`) or has crashed (`C`). -/
structure Leads (p : Protocol δ κ β ρ) (W : Connection δ κ → Prop) (S : β → Connection δ κ → Prop)
    (D : Outcome ρ → Connection δ κ → Prop) (C : Connection δ κ → Prop) : Prop where
  fails : ∀ o conn, W conn → o.isFailure → D o conn
  begins : ∀ conn, W conn → conn.access = .free →
    (Begun.Ensures S D C (p.begin (conn.setAccess .held)))
  finishes : ∀ b conn, S b conn → D (p.finish b conn).1 ((p.finish b conn).2.setAccess .free)

variable {p : Protocol δ κ β ρ} {W : Connection δ κ → Prop} {S : β → Connection δ κ → Prop}
  {D : Outcome ρ → Connection δ κ → Prop} {C : Connection δ κ → Prop}

theorem answer_ensures (h : p.Leads W S D C) (polls : Nat) (b : β) (conn : Connection δ κ)
    (hs : S b conn) : Polled.Ensures D (Call.Holds W S) C (p.answer polls b conn) := by
  cases polls with
  | zero => exact h.finishes b conn hs
  | succ n => exact hs

theorem poll_ensures (h : p.Leads W S D C) (caller : Caller) (call : Call β)
    (conn : Connection δ κ) (hc : call.Holds W S conn) :
    Polled.Ensures D (Call.Holds W S) C (p.poll caller call conn) := by
  cases call with
  | sent polls b => exact answer_ensures h polls b conn hc
  | waiting =>
    simp only [poll]
    split
    · exact h.fails _ conn hc rfl
    · exact h.fails _ conn hc rfl
    · exact h.fails _ conn hc rfl
    · exact hc
    · rename_i hfree
      have hb := h.begins conn hc hfree
      unfold start
      split <;> rename_i heq <;> rw [heq] at hb
      · exact hb
      · exact hb
      · exact answer_ensures h _ _ _ hb

/-- What a call makes of its beginning. -/
def afterBegin (p : Protocol δ κ β ρ) :
    Begun β ρ × Connection δ κ → Polled (Call β) (Outcome ρ) × Connection δ κ
  | (.settled outcome, conn) => (.ready outcome, conn.setAccess .free)
  | (.crashed message, conn) => (.crashed message, conn.setAccess .broken)
  | (.sent polls b, conn) => p.answer polls b conn

theorem start_eq (p : Protocol δ κ β ρ) (conn : Connection δ κ) :
    p.start conn = p.afterBegin (p.begin (conn.setAccess .held)) := by
  unfold start afterBegin
  split <;> simp_all

/-- What a call comes to that has not begun yet, and why. -/
inductive FirstPoll (p : Protocol δ κ β ρ) (caller : Caller) (conn : Connection δ κ) :
    Polled (Call β) (Outcome ρ) × Connection δ κ → Prop
  | cancelled {reason : CancelReason} : caller.cancelReason? conn.contexts = some reason →
      FirstPoll p caller conn (.ready (.cancelled reason), conn)
  | unfit {why : Error} : p.admission = .error why →
      FirstPoll p caller conn (.ready (.error why), conn)
  | broken : conn.access = .broken → FirstPoll p caller conn (.ready (.error brokenError), conn)
  | queued : conn.access = .held → FirstPoll p caller conn (.waiting .waiting, conn)
  | begun : p.admission = .ok () →
      FirstPoll p caller conn (p.afterBegin (p.begin (conn.setAccess .held)))

theorem firstPoll (p : Protocol δ κ β ρ) (caller : Caller) (conn : Connection δ κ) :
    p.FirstPoll caller conn (p.poll caller .waiting conn) := by
  simp only [poll]
  split
  · exact .cancelled ‹_›
  · exact .unfit ‹_›
  · exact .broken ‹_›
  · exact .queued ‹_›
  · rw [start_eq]
    exact .begun ‹_›

end Protocol

/-! ## Flushing and executing -/

/-- The driver was called, and this is what it gave. -/
def Begun.ofPromise {α β ρ : Type} (f : Outcome α → β) (conn : Connection δ κ) :
    Promise α × δ → Begun β ρ × Connection δ κ
  | (.after polls outcome, database) => (.sent polls (f outcome), { conn with database })
  | (.crashed message, database) => (.crashed message, { conn with database })

namespace Flushing

variable [Cursor κ]

/-- The connection once it is ready for a flush. -/
def ready (setup : Setup δ κ) (conn : Connection δ κ) : Connection δ κ :=
  (conn.takePending.2.checkReaders.2.logBatch setup conn.pending.log).count fun s =>
    { s with flushes := s.flushes + 1, roundTrips := s.roundTrips + 1 }

theorem begin_eq (setup : Setup δ κ) (mode : Mode) (conn : Connection δ κ) :
    begin setup mode conn =
      if conn.pending.isEmpty then (.settled (.ok 0), conn.takePending.2)
      else Begun.ofPromise (⟨conn.pending, ·⟩)
        ((ready setup conn).recordCall .batch mode conn.pending.commands)
        (setup.driver.batch mode conn.pending.commands (ready setup conn).database) := by
  unfold begin
  dsimp only [Connection.takePending]
  split
  · rfl
  · split <;> rename_i heq <;> exact (congrArg (Begun.ofPromise _ _) heq).symm

theorem ready_database (setup : Setup δ κ) (conn : Connection δ κ) :
    (ready setup conn).database = conn.database := by
  unfold ready Connection.logBatch
  split <;> rfl

end Flushing

theorem Executing.begin_eq [Cursor κ] (setup : Setup δ κ) (mode : Mode) (c : Command)
    (conn : Connection δ κ) :
    begin setup mode c conn = Begun.ofPromise (⟨setup.prepare c, ·⟩)
      ((conn.beforeSingle setup c).2.recordCall .nonQuery mode [setup.prepare c])
      (setup.driver.nonQuery mode (setup.prepare c) (conn.beforeSingle setup c).2.database) := by
  have hready : conn.beforeSingle setup c = (setup.prepare c, (conn.beforeSingle setup c).2) := rfl
  unfold begin
  rw [hready]
  dsimp only
  split <;> rename_i heq <;> exact (congrArg (Begun.ofPromise _ _) heq).symm

theorem Connection.beforeSingle_database [Cursor κ] (setup : Setup δ κ) (c : Command)
    (conn : Connection δ κ) : (conn.beforeSingle setup c).2.database = conn.database := by
  unfold beforeSingle logCommand
  dsimp only
  split <;> rfl

/-! ## Dispatch -/

namespace Dispatch

variable [Cursor κ] {setup : Setup δ κ}

/-- The driver was called for a reader, and this is what it gave. -/
def afterCall (conn : Connection δ κ) : Promise κ × δ → Result × Connection δ κ
  | (.after polls outcome, database) =>
    (.sent polls (keep outcome { conn with database }).1, (keep outcome { conn with database }).2)
  | (.crashed message, database) => (.crashed message, { conn with database })

theorem run_eq {caller : Caller} {c : Command} {conn : Connection δ κ} {handler : Handler}
    (hcaller : caller.cancelReason? conn.contexts = none)
    (hselect : setup.chain.select c = .ok handler) :
    run setup caller c conn = afterCall (conn.recordCall .reader (mode caller handler) [c])
      (setup.driver.read (mode caller handler) c conn.database) := by
  unfold run
  rw [hcaller, hselect]
  dsimp only
  split <;> rename_i heq <;> exact (congrArg (afterCall _) heq).symm

end Dispatch

/-! ## Executions -/

namespace Execution

variable [Cursor κ] {setup : Setup δ κ} {caller : Caller}

/-- `P` holds while an errand waits, with the errands behind it and the result sets before it; `J`
holds between two errands; `E` holds when an execution stops early. -/
structure Leads (setup : Setup δ κ) (caller : Caller)
    (P : Errand → List Errand → List ResultSet → Call Opening.Sent → Connection δ κ → Prop)
    (J : List Errand → List ResultSet → Connection δ κ → Prop)
    (E : Stop → Connection δ κ → Prop) (C : Connection δ κ → Prop) : Prop where
  begins : ∀ errand rest done conn, J (errand :: rest) done conn →
    P errand rest done .waiting conn
  asks : ∀ errand rest done call conn, P errand rest done call conn →
    (Polled.Ensures
      (fun sets conn => match sets with
        | .ok sets => J rest (done ++ sets) conn
        | .error stop => E stop conn)
      (P errand rest done) C (ask setup caller errand call conn))

def Ends (J : List Errand → List ResultSet → Connection δ κ → Prop)
    (E : Stop → Connection δ κ → Prop) : Except Stop (List ResultSet) → Connection δ κ → Prop
  | .ok sets, conn => J [] sets conn
  | .error stop, conn => E stop conn

variable {P : Errand → List Errand → List ResultSet → Call Opening.Sent → Connection δ κ → Prop}
  {J : List Errand → List ResultSet → Connection δ κ → Prop} {E : Stop → Connection δ κ → Prop}
  {C : Connection δ κ → Prop}

theorem run_ensures (h : Leads setup caller P J E C) (errands : List Errand)
    (done : List ResultSet) (conn : Connection δ κ) (hJ : J errands done conn) :
    Polled.Ensures (Ends J E) (fun e => P e.errand e.rest e.done e.call) C
      (run setup caller errands done conn) := by
  induction errands generalizing done conn with
  | nil => exact hJ
  | cons errand rest ih =>
    have ha := h.asks errand rest done .waiting conn (h.begins errand rest done conn hJ)
    unfold run
    split <;> rename_i heq <;> rw [heq] at ha
    · exact ha
    · exact ha
    · exact ha
    · exact ih _ _ ha

theorem resume_ensures (h : Leads setup caller P J E C) (e : Execution) (conn : Connection δ κ)
    (hP : P e.errand e.rest e.done e.call conn) :
    Polled.Ensures (Ends J E) (fun e => P e.errand e.rest e.done e.call) C
      (e.resume setup caller conn) := by
  have ha := h.asks e.errand e.rest e.done e.call conn hP
  unfold resume
  split <;> rename_i heq <;> rw [heq] at ha
  · exact ha
  · exact ha
  · exact ha
  · exact run_ensures h _ _ _ ha

/-! ## Errand by errand -/

/-- What an errand makes of the opening of its reader. -/
def afterOpening (caller : Caller) (errand : Errand) :
    Polled (Call Opening.Sent) (Outcome Handle) × Connection δ κ →
      Polled (Call Opening.Sent) (Except Stop (List ResultSet)) × Connection δ κ
  | (.waiting call, conn) => (.waiting call, conn)
  | (.crashed message, conn) => (.crashed message, conn)
  | (.ready opened, conn) =>
    (.ready (complete caller errand opened conn).1, (complete caller errand opened conn).2)

theorem ask_eq (setup : Setup δ κ) (caller : Caller) (errand : Errand) (call : Call Opening.Sent)
    (conn : Connection δ κ) : ask setup caller errand call conn =
      afterOpening caller errand (Opening.poll setup caller errand.command call conn) := by
  unfold ask afterOpening
  split <;> simp_all

/-- What an execution makes of an errand: it stops with it, or goes on with the others. -/
def afterErrand (setup : Setup δ κ) (caller : Caller) (errand : Errand) (rest : List Errand)
    (done : List ResultSet) :
    Polled (Call Opening.Sent) (Except Stop (List ResultSet)) × Connection δ κ →
      Polled Execution (Except Stop (List ResultSet)) × Connection δ κ
  | (.waiting call, conn) => (.waiting ⟨errand, call, rest, done⟩, conn)
  | (.crashed message, conn) => (.crashed message, conn)
  | (.ready (.error stop), conn) => (.ready (.error stop), conn)
  | (.ready (.ok sets), conn) => run setup caller rest (done ++ sets) conn

theorem run_cons (setup : Setup δ κ) (caller : Caller) (errand : Errand) (rest : List Errand)
    (done : List ResultSet) (conn : Connection δ κ) :
    run setup caller (errand :: rest) done conn =
      afterErrand setup caller errand rest done (ask setup caller errand .waiting conn) := by
  rcases hask : ask setup caller errand .waiting conn with ⟨(stop | sets) | call | message, conn'⟩
  all_goals simp only [run, hask, afterErrand]

theorem resume_eq (setup : Setup δ κ) (caller : Caller) (errand : Errand) (rest : List Errand)
    (done : List ResultSet) (call : Call Opening.Sent) (conn : Connection δ κ) :
    resume setup caller ⟨errand, call, rest, done⟩ conn =
      afterErrand setup caller errand rest done (ask setup caller errand call conn) := by
  unfold resume afterErrand
  split <;> simp_all

end Execution

end OneConnection
