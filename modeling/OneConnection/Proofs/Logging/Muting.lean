import OneConnection.Proofs.Rules
import OneConnection.Proofs.Veiling

/-!
# Muted connections

What is logged leaves a mark in the history and in the pending batch, and nowhere else. Every
operation does with a connection that has no such marks, and where nothing is logged, what it does
with any other. There is one lemma for each function that knows the settings or adds to the history.
-/

namespace OneConnection

variable {δ κ : Type}

/-! ## Connections -/

def Event.isLogged : Event → Bool
  | .logged .. => true
  | _ => false

/-- The setup if nobody logs or listens. -/
def Setup.mute (setup : Setup δ κ) : Setup δ κ :=
  { setup with
    settings := { setup.settings with logSql := false, formatSql := false }
    verbosity := .off }

def PendingBatch.mute (b : PendingBatch) : PendingBatch := { b with log := {} }

namespace Connection

/-- The connection as if nothing had been logged. -/
def mute (conn : Connection δ κ) : Connection δ κ :=
  { conn with
    pending := conn.pending.mute
    history := conn.history.filter (!·.isLogged) }

end Connection

/-- Hides what was logged. -/
def Veil.log : Veil where
  batch := PendingBatch.mute
  events := List.filter (!·.isLogged)
  batch_empty := rfl
  commands_batch _ := rfl
  events_warned history w := List.filter_append history [.warned w]

namespace Connection

variable {conn : Connection δ κ}

theorem mute_record {event : Event} (h : event.isLogged = false) :
    (conn.record event).mute = conn.mute.record event := by
  simp [record, mute, h]

theorem mute_logText (setup : Setup δ κ) (text : String) :
    (conn.logText setup text).mute = conn.mute := by
  simp [logText, record, mute, Event.isLogged]

theorem mute_logCommand (setup : Setup δ κ) (c : Command) :
    (conn.logCommand setup c).mute = conn.mute.logCommand setup.mute c := by
  unfold logCommand
  rw [if_neg (show ¬ setup.mute.logs = true from Bool.false_ne_true)]
  split
  · exact mute_logText setup _
  · rfl

theorem mute_logBatch (setup : Setup δ κ) (log : BatchLog) :
    (conn.logBatch setup log).mute = conn.mute.logBatch setup.mute {} := by
  have hsilent : conn.mute.logBatch setup.mute {} = conn.mute := rfl
  rw [hsilent]
  unfold logBatch
  split
  · exact mute_logText setup _
  · rfl

theorem push_mute (setup : Setup δ κ) (c : Command) (conn : Connection δ κ) :
    conn.mute.push setup.mute c = ((conn.push setup c).1, (conn.push setup c).2.mute) := rfl

variable [Cursor κ]

theorem mute_recordCall (conn : Connection δ κ) (kind : CallKind) (mode : Mode)
    (cs : List Command) :
    (conn.recordCall kind mode cs).mute = conn.mute.recordCall kind mode cs :=
  mute_record rfl

theorem checkReaders_mute (conn : Connection δ κ) :
    conn.mute.checkReaders = (conn.checkReaders.1, conn.checkReaders.2.mute) :=
  Veil.log.checkReaders conn

theorem beforeSingle_mute (setup : Setup δ κ) (c : Command) (conn : Connection δ κ) :
    conn.mute.beforeSingle setup.mute c =
      ((conn.beforeSingle setup c).1, (conn.beforeSingle setup c).2.mute) := by
  have hprepare : setup.mute.prepare c = setup.prepare c := rfl
  unfold beforeSingle
  rw [checkReaders_mute, hprepare]
  dsimp only
  rw [← mute_logCommand]
  rfl

end Connection

/-! ## Calls -/

def Call.map {β γ : Type} (f : β → γ) : Call β → Call γ
  | .waiting => .waiting
  | .sent polls b => .sent polls (f b)

@[simp] theorem Call.map_id {β : Type} (call : Call β) : call.map id = call := by
  cases call <;> rfl

@[simp] theorem Call.map_id_fun {β : Type} : Call.map (id : β → β) = id := by
  funext call
  exact call.map_id

def Begun.map {β γ ρ : Type} (f : β → γ) : Begun β ρ → Begun γ ρ
  | .sent polls b => .sent polls (f b)
  | .settled outcome => .settled outcome
  | .crashed message => .crashed message

@[simp] theorem Polled.within_id {τ α : Type} (x : Polled τ α) : x.within id = x := by
  cases x <;> rfl

theorem Begun.ofPromise_mute {α β γ ρ : Type} (m : β → γ) (f : Outcome α → β)
    (conn : Connection δ κ) (answer : Promise α × δ) :
    ofPromise (ρ := ρ) (fun o => m (f o)) conn.mute answer =
      ((ofPromise (ρ := ρ) f conn answer).1.map m, (ofPromise (ρ := ρ) f conn answer).2.mute) := by
  obtain ⟨_ | _, database⟩ := answer <;> rfl

namespace Protocol

variable {β γ ρ : Type} {p : Protocol δ κ β ρ} {q : Protocol δ κ γ ρ} {m : β → γ}

/-- `q` does with a mute connection what `p` does with any. `m` mutes what a call remembers. -/
structure Mutes (m : β → γ) (p : Protocol δ κ β ρ) (q : Protocol δ κ γ ρ) : Prop where
  admission : q.admission = p.admission
  begins : ∀ conn, q.begin conn.mute = ((p.begin conn).1.map m, (p.begin conn).2.mute)
  finishes : ∀ b conn, q.finish (m b) conn.mute = ((p.finish b conn).1, (p.finish b conn).2.mute)
  discards : ∀ b conn, q.discard (m b) conn.mute = (p.discard b conn).mute

namespace Mutes

theorem answer (h : Mutes m p q) (polls : Nat) (b : β) (conn : Connection δ κ) :
    q.answer polls (m b) conn.mute =
      ((p.answer polls b conn).1.within (Call.map m), (p.answer polls b conn).2.mute) := by
  cases polls with
  | succ n => rfl
  | zero =>
    simp only [Protocol.answer, h.finishes]
    rfl

theorem poll (h : Mutes m p q) (caller : Caller) (call : Call β) (conn : Connection δ κ) :
    q.poll caller (call.map m) conn.mute =
      ((p.poll caller call conn).1.within (Call.map m), (p.poll caller call conn).2.mute) := by
  cases call with
  | sent polls b => exact h.answer polls b conn
  | waiting =>
    have haccess : conn.mute.access = conn.access := rfl
    have hcontexts : conn.mute.contexts = conn.contexts := rfl
    simp only [Call.map, Protocol.poll, haccess, hcontexts, h.admission]
    split
    · rfl
    · rfl
    · rfl
    · rfl
    · have hheld : conn.mute.setAccess .held = (conn.setAccess .held).mute := rfl
      rw [start_eq, start_eq, hheld, h.begins]
      rcases p.begin (conn.setAccess .held) with ⟨⟨polls, b⟩ | outcome | message, conn'⟩
      · exact h.answer polls b conn'
      · rfl
      · rfl

theorem drop (h : Mutes m p q) (call : Call β) (conn : Connection δ κ) :
    q.drop (call.map m) conn.mute = (p.drop call conn).mute := by
  cases call with
  | waiting => rfl
  | sent polls b =>
    simp only [Call.map, Protocol.drop, h.discards]
    rfl

/-! What a call remembers may hold nothing that was logged. -/

variable {p q : Protocol δ κ β ρ}

theorem poll_same (h : Mutes id p q) (caller : Caller) (call : Call β) (conn : Connection δ κ) :
    q.poll caller call conn.mute = ((p.poll caller call conn).1, (p.poll caller call conn).2.mute) := by
  simpa using h.poll caller call conn

theorem drop_same (h : Mutes id p q) (call : Call β) (conn : Connection δ κ) :
    q.drop call conn.mute = (p.drop call conn).mute := by
  simpa using h.drop call conn

end Mutes

end Protocol

variable [Cursor κ]

/-! ## Flushing and executing -/

namespace Flushing

def Sent.mute (sent : Sent) : Sent := { sent with batch := sent.batch.mute }

theorem ready_mute (setup : Setup δ κ) (conn : Connection δ κ) :
    ready setup.mute conn.mute = (ready setup conn).mute := by
  have htaken : conn.mute.takePending.2 = conn.takePending.2.mute := rfl
  have hlog : conn.mute.pending.log = {} := rfl
  unfold ready
  rw [htaken, hlog, Connection.checkReaders_mute, ← Connection.mute_logBatch]
  rfl

theorem begin_mute (setup : Setup δ κ) (mode : Mode) (conn : Connection δ κ) :
    begin setup.mute mode conn.mute =
      ((begin setup mode conn).1.map Sent.mute, (begin setup mode conn).2.mute) := by
  have hempty : conn.mute.pending.isEmpty = conn.pending.isEmpty := rfl
  rw [begin_eq, begin_eq, hempty, ready_mute]
  split
  · rfl
  · have hcall := (ready setup conn).mute_recordCall .batch mode conn.pending.commands
    rw [← Begun.ofPromise_mute, hcall]
    rfl

omit [Cursor κ] in
theorem finish_mute (sent : Sent) (conn : Connection δ κ) :
    finish sent.mute conn.mute = ((finish sent conn).1, (finish sent conn).2.mute) := by
  obtain ⟨batch, rows⟩ := sent
  cases rows with
  | error | cancelled | panicked => rfl
  | ok rows =>
    have hcheck : batch.mute.check rows = batch.check rows := rfl
    simp only [finish, Sent.mute, verify, hcheck]
    split
    · rfl
    · rw [Connection.warn, Connection.warn, Connection.mute_record rfl]
      rfl

theorem mutes (setup : Setup δ κ) (mode : Mode) :
    Protocol.Mutes Sent.mute (protocol setup mode) (protocol setup.mute mode) where
  admission := rfl
  begins := begin_mute setup mode
  finishes := finish_mute
  discards _ _ := rfl

theorem poll_mute (setup : Setup δ κ) (caller : Caller) (call : Call Sent)
    (conn : Connection δ κ) :
    poll setup.mute caller (call.map Sent.mute) conn.mute =
      ((poll setup caller call conn).1.within (Call.map Sent.mute),
        (poll setup caller call conn).2.mute) :=
  (mutes setup caller.mode).poll caller call conn

theorem drop_mute (setup : Setup δ κ) (caller : Caller) (call : Call Sent)
    (conn : Connection δ κ) :
    drop setup.mute caller (call.map Sent.mute) conn.mute = (drop setup caller call conn).mute :=
  (mutes setup caller.mode).drop call conn

end Flushing

namespace Adding

def mute : Adding → Adding
  | .fresh c => .fresh c
  | .flushing call => .flushing (call.map Flushing.Sent.mute)

theorem flush_mute (setup : Setup δ κ) (caller : Caller) (call : Call Flushing.Sent)
    (conn : Connection δ κ) :
    flush setup.mute caller (call.map Flushing.Sent.mute) conn.mute =
      ((flush setup caller call conn).1.within mute, (flush setup caller call conn).2.mute) := by
  unfold flush
  rw [Flushing.poll_mute]
  rcases Flushing.poll setup caller call conn with ⟨_ | _ | _, conn'⟩ <;> rfl

theorem poll_mute (setup : Setup δ κ) (caller : Caller) (state : Adding)
    (conn : Connection δ κ) :
    state.mute.poll setup.mute caller conn.mute =
      ((state.poll setup caller conn).1.within mute, (state.poll setup caller conn).2.mute) := by
  cases state with
  | flushing call => exact flush_mute setup caller call conn
  | fresh c =>
    have hcontexts : conn.mute.contexts = conn.contexts := rfl
    simp only [mute, poll, hcontexts, Connection.push_mute]
    split
    · rfl
    · rcases conn.push setup c with ⟨_ | _, conn'⟩
      · rfl
      · exact flush_mute setup caller .waiting conn'

theorem drop_mute (setup : Setup δ κ) (caller : Caller) (state : Adding) (conn : Connection δ κ) :
    state.mute.drop setup.mute caller conn.mute = (state.drop setup caller conn).mute := by
  cases state with
  | fresh c => rfl
  | flushing call => exact Flushing.drop_mute setup caller call conn

end Adding

namespace Executing

theorem begin_mute (setup : Setup δ κ) (mode : Mode) (c : Command) (conn : Connection δ κ) :
    begin setup.mute mode c conn.mute =
      ((begin setup mode c conn).1.map id, (begin setup mode c conn).2.mute) := by
  have hprepare : setup.mute.prepare c = setup.prepare c := rfl
  have hcall := (conn.beforeSingle setup c).2.mute_recordCall .nonQuery mode [setup.prepare c]
  rw [begin_eq, begin_eq, Connection.beforeSingle_mute, hprepare, ← Begun.ofPromise_mute, hcall]
  rfl

theorem mutes (setup : Setup δ κ) (mode : Mode) (c : Command) :
    Protocol.Mutes id (protocol setup mode c) (protocol setup.mute mode c) where
  admission := rfl
  begins := begin_mute setup mode c
  finishes _ _ := rfl
  discards _ _ := rfl

theorem poll_mute (setup : Setup δ κ) (caller : Caller) (c : Command) (call : Call Sent)
    (conn : Connection δ κ) :
    poll setup.mute caller c call conn.mute =
      ((poll setup caller c call conn).1, (poll setup caller c call conn).2.mute) :=
  (mutes setup caller.mode c).poll_same caller call conn

theorem drop_mute (setup : Setup δ κ) (caller : Caller) (c : Command) (call : Call Sent)
    (conn : Connection δ κ) :
    drop setup.mute caller c call conn.mute = (drop setup caller c call conn).mute :=
  (mutes setup caller.mode c).drop_same call conn

end Executing

/-! ## Readers -/

namespace Dispatch

omit [Cursor κ] in
theorem afterCall_mute (conn : Connection δ κ) (answer : Promise κ × δ) :
    afterCall conn.mute answer = ((afterCall conn answer).1, (afterCall conn answer).2.mute) := by
  obtain ⟨⟨_, outcome⟩ | _, database⟩ := answer
  · cases outcome <;> rfl
  · rfl

theorem run_mute (setup : Setup δ κ) (caller : Caller) (c : Command) (conn : Connection δ κ) :
    run setup.mute caller c conn.mute =
      ((run setup caller c conn).1, (run setup caller c conn).2.mute) := by
  have hcontexts : conn.mute.contexts = conn.contexts := rfl
  have hchain : setup.mute.chain = setup.chain := rfl
  cases hcaller : caller.cancelReason? conn.contexts with
  | some reason => simp only [run, hcontexts, hcaller]
  | none =>
    cases hselect : setup.chain.select c with
    | error why => simp only [run, hcontexts, hchain, hcaller, hselect]
    | ok handler =>
      have hmuted : run setup.mute caller c conn.mute =
          afterCall (conn.mute.recordCall .reader (mode caller handler) [c])
            (setup.driver.read (mode caller handler) c conn.database) := run_eq hcaller hselect
      rw [hmuted, run_eq hcaller hselect, ← Connection.mute_recordCall]
      exact afterCall_mute _ _

theorem discard_mute (place : Outcome Nat) (conn : Connection δ κ) :
    discard place conn.mute = (discard place conn).mute := by
  cases place <;> rfl

end Dispatch

namespace Dispatching

theorem answer_mute (polls : Nat) (place : Outcome Nat) (conn : Connection δ κ) :
    answer polls place conn.mute =
      ((answer polls place conn).1, (answer polls place conn).2.mute) := by
  cases polls with
  | succ n => rfl
  | zero => cases place <;> rfl

theorem poll_mute (setup : Setup δ κ) (caller : Caller) (state : Dispatching)
    (conn : Connection δ κ) :
    state.poll setup.mute caller conn.mute =
      ((state.poll setup caller conn).1, (state.poll setup caller conn).2.mute) := by
  cases state with
  | sent polls place => exact answer_mute polls place conn
  | fresh c =>
    simp only [poll, Dispatch.run_mute]
    rcases Dispatch.run setup caller c conn with ⟨_ | _ | _ | _, conn'⟩
    · exact answer_mute _ _ conn'
    · rfl
    · rfl
    · rfl

theorem drop_mute (state : Dispatching) (conn : Connection δ κ) :
    state.drop conn.mute = (state.drop conn).mute := by
  cases state with
  | fresh c => rfl
  | sent polls place => exact Dispatch.discard_mute place conn

end Dispatching

namespace Opening

theorem begin_mute (setup : Setup δ κ) (caller : Caller) (c : Command) (conn : Connection δ κ) :
    begin setup.mute caller c conn.mute =
      ((begin setup caller c conn).1.map id, (begin setup caller c conn).2.mute) := by
  simp only [begin, Connection.beforeSingle_mute, Dispatch.run_mute]
  rcases Dispatch.run setup caller (conn.beforeSingle setup c).1 (conn.beforeSingle setup c).2 with
    ⟨_ | _ | _ | _, conn'⟩ <;> rfl

omit [Cursor κ] in
theorem finish_mute (sent : Sent) (conn : Connection δ κ) :
    finish sent conn.mute = ((finish sent conn).1, (finish sent conn).2.mute) := by
  obtain ⟨c, place⟩ := sent
  cases place <;> rfl

theorem mutes (setup : Setup δ κ) (caller : Caller) (c : Command) :
    Protocol.Mutes id (protocol setup caller c) (protocol setup.mute caller c) where
  admission := rfl
  begins := begin_mute setup caller c
  finishes := finish_mute
  discards sent conn := Dispatch.discard_mute sent.place conn

theorem poll_mute (setup : Setup δ κ) (caller : Caller) (c : Command) (call : Call Sent)
    (conn : Connection δ κ) :
    poll setup.mute caller c call conn.mute =
      ((poll setup caller c call conn).1, (poll setup caller c call conn).2.mute) :=
  (mutes setup caller c).poll_same caller call conn

theorem drop_mute (setup : Setup δ κ) (caller : Caller) (c : Command) (call : Call Sent)
    (conn : Connection δ κ) :
    drop setup.mute caller c call conn.mute = (drop setup caller c call conn).mute :=
  (mutes setup caller c).drop_same call conn

end Opening

theorem Listing.poll_mute {α : Type} (setup : Setup δ κ) (caller : Caller) (c : Command)
    (decoder : RowDecoder α) (call : Call Opening.Sent) (conn : Connection δ κ) :
    poll setup.mute caller c decoder call conn.mute =
      ((poll setup caller c decoder call conn).1,
        (poll setup caller c decoder call conn).2.mute) := by
  simp only [poll, Opening.poll_mute]
  rcases Opening.poll setup caller c call conn with ⟨opened | _ | _, conn'⟩
  · cases opened <;> rfl
  · rfl
  · rfl

/-! ## Deferred batches -/

namespace Execution

theorem complete_mute (caller : Caller) (errand : Errand) (opened : Outcome Handle)
    (conn : Connection δ κ) :
    complete caller errand opened conn.mute =
      ((complete caller errand opened conn).1, (complete caller errand opened conn).2.mute) := by
  cases opened with
  | error | cancelled | panicked => rfl
  | ok h =>
    have hreaders : conn.mute.readers = conn.readers := rfl
    simp only [complete, read, hreaders]
    split <;> rfl

theorem ask_mute (setup : Setup δ κ) (caller : Caller) (errand : Errand)
    (call : Call Opening.Sent) (conn : Connection δ κ) :
    ask setup.mute caller errand call conn.mute =
      ((ask setup caller errand call conn).1, (ask setup caller errand call conn).2.mute) := by
  rw [ask_eq, ask_eq, Opening.poll_mute]
  rcases Opening.poll setup caller errand.command call conn with ⟨opened | _ | _, conn'⟩
  · simp only [afterOpening, complete_mute]
  · rfl
  · rfl

theorem afterErrand_mute (setup : Setup δ κ) (caller : Caller) (errand : Errand)
    (rest : List Errand) (done : List ResultSet)
    (hrest : ∀ done (conn : Connection δ κ), run setup.mute caller rest done conn.mute =
      ((run setup caller rest done conn).1, (run setup caller rest done conn).2.mute))
    (x : Polled (Call Opening.Sent) (Except Stop (List ResultSet)) × Connection δ κ) :
    afterErrand setup.mute caller errand rest done (x.1, x.2.mute) =
      ((afterErrand setup caller errand rest done x).1,
        (afterErrand setup caller errand rest done x).2.mute) := by
  obtain ⟨(_ | sets) | _ | _, conn⟩ := x
  · rfl
  · exact hrest (done ++ sets) conn
  · rfl
  · rfl

theorem run_mute (setup : Setup δ κ) (caller : Caller) (errands : List Errand)
    (done : List ResultSet) (conn : Connection δ κ) :
    run setup.mute caller errands done conn.mute =
      ((run setup caller errands done conn).1, (run setup caller errands done conn).2.mute) := by
  induction errands generalizing done conn with
  | nil => rfl
  | cons errand rest ih =>
    rw [run_cons, run_cons, ask_mute]
    exact afterErrand_mute setup caller errand rest done ih _

theorem resume_mute (setup : Setup δ κ) (caller : Caller) (e : Execution)
    (conn : Connection δ κ) :
    e.resume setup.mute caller conn.mute =
      ((e.resume setup caller conn).1, (e.resume setup caller conn).2.mute) := by
  obtain ⟨errand, call, rest, done⟩ := e
  rw [resume_eq, resume_eq, ask_mute]
  exact afterErrand_mute setup caller errand rest done (run_mute setup caller rest) _

end Execution

namespace Viewing

omit [Cursor κ] in
theorem proceed_mute (batch index : Nat)
    (x : Polled Execution (Except Stop (List ResultSet)) × Connection δ κ) :
    proceed batch index (x.1, x.2.mute) =
      ((proceed batch index x).1, (proceed batch index x).2.mute) := by
  obtain ⟨((_ | _) | _) | _ | _, conn⟩ := x <;> rfl

omit [Cursor κ] in
theorem turn_mute (caller : Caller) (batch : Nat) (view : Viewing) (conn : Connection δ κ) :
    view.turn caller batch conn.mute = view.turn caller batch conn := by
  cases view <;> rfl

theorem poll_mute (setup : Setup δ κ) (caller : Caller) (batch index : Nat) (view : Viewing)
    (conn : Connection δ κ) :
    view.poll setup.mute caller batch index conn.mute =
      ((view.poll setup caller batch index conn).1,
        (view.poll setup caller batch index conn).2.mute) := by
  simp only [poll, turn_mute]
  split
  · rfl
  · rfl
  · rfl
  · rfl
  · rename_i b _
    have hstart : conn.mute.updateBatch batch .start = (conn.updateBatch batch .start).mute := rfl
    unfold start
    rw [hstart, ← proceed_mute]
    exact congrArg (proceed batch index) (Execution.run_mute setup caller _ [] _)
  · rename_i e _
    rw [← proceed_mute, Execution.resume_mute]

theorem drop_mute (setup : Setup δ κ) (caller : Caller) (batch : Nat) (view : Viewing)
    (conn : Connection δ κ) :
    view.drop setup.mute caller batch conn.mute = (view.drop setup caller batch conn).mute := by
  cases view with
  | fresh | awaiting => rfl
  | running e =>
    simp only [drop, Execution.drop, Opening.drop_mute]
    rfl

end Viewing

/-! ## Operations -/

namespace Operation

variable {ρ : Type}

/-- Only a flush remembers what was logged. -/
def mute : Operation ρ → Operation ρ
  | .adding state => .adding state.mute
  | .flushing call => .flushing (call.map Flushing.Sent.mute)
  | other => other

omit [Cursor κ] in
theorem within_mute {τ α β : Type} {g : τ → Operation ρ} (hg : ∀ t, (g t).mute = g t) (f : α → β)
    (x : Polled τ α) : ((x.map f).within g).within mute = (x.map f).within g := by
  cases x with
  | waiting t => exact congrArg Polled.waiting (hg t)
  | ready | crashed => rfl

theorem poll_mute (setup : Setup δ κ) (caller : Caller) (operation : Operation ρ)
    (conn : Connection δ κ) :
    operation.mute.poll setup.mute caller conn.mute =
      ((operation.poll setup caller conn).1.within mute,
        (operation.poll setup caller conn).2.mute) := by
  cases operation with
  | adding state =>
    simp only [mute, poll, Adding.poll_mute]
    rcases state.poll setup caller conn with ⟨_ | _ | _, conn'⟩ <;> rfl
  | flushing call =>
    simp only [mute, poll, Flushing.poll_mute]
    rcases Flushing.poll setup caller call conn with ⟨_ | _ | _, conn'⟩ <;> rfl
  | executing c call =>
    simp only [mute, poll, Executing.poll_mute]
    rw [within_mute fun _ => rfl]
  | opening c call =>
    simp only [mute, poll, Opening.poll_mute]
    rw [within_mute fun _ => rfl]
  | listing c decoder call =>
    simp only [mute, poll, Listing.poll_mute]
    rw [within_mute fun _ => rfl]
  | viewing batch index project state =>
    simp only [mute, poll, Viewing.poll_mute]
    rw [within_mute fun _ => rfl]
  | dispatching state =>
    simp only [mute, poll, Dispatching.poll_mute]
    rw [within_mute fun _ => rfl]

theorem drop_mute (setup : Setup δ κ) (caller : Caller) (operation : Operation ρ)
    (conn : Connection δ κ) :
    operation.mute.drop setup.mute caller conn.mute =
      (operation.drop setup caller conn).mute := by
  cases operation with
  | adding state => exact state.drop_mute setup caller conn
  | flushing call => exact Flushing.drop_mute setup caller call conn
  | executing c call => exact Executing.drop_mute setup caller c call conn
  | opening c call | listing c _ call => exact Opening.drop_mute setup caller c call conn
  | viewing batch index project state => exact state.drop_mute setup caller batch conn
  | dispatching state => exact state.drop_mute conn

end Operation

end OneConnection
