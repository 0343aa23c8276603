import OneConnection.Proofs.Batches.Verification
import OneConnection.Proofs.Conservation
import OneConnection.Proofs.Deferred.RoundTrips

/-!
# Batches part by part

Callers who add commands and flush one after the other find the connection free each time. A full
batch is sent with the addition that fills it, whatever became of the batches before.
-/

namespace OneConnection

variable {δ κ ρ : Type}

/-! ## Requests about the pending batch -/

/-- What a driver's answer means for commands that were sent together. -/
def Command.judge (cs : List Command) (rows : Outcome RowCount) : Outcome RowCount :=
  (rows.mapError (combine cs).blame).andThen (verdict cs)

/-- The `k`th part, counted from zero, of a list that is cut every `b` commands. -/
def Command.part (b k : Nat) (cs : List Command) : List Command := (cs.drop (k * b)).take b

namespace Request

def batches : Request ρ → Bool
  | .add _ | .flush => true
  | _ => false

/-- The batch as a request leaves it or sends it. -/
def gathers (setup : Setup δ κ) (pending : List Command) : Request ρ → List Command
  | .add c => pending ++ [setup.prepare c]
  | _ => pending

/-- Whether a request sends what it gathers. -/
def sends (setup : Setup δ κ) (pending : List Command) : Request ρ → Bool
  | .add _ => setup.settings.batchSize ≤ pending.length + 1
  | _ => !pending.isEmpty

def reply : Request ρ → RowCount → Reply ρ
  | .add _, _ => .done
  | _, rows => .rows rows

variable {setup : Setup δ κ} {request : Request ρ} {pending : List Command}

theorem length_gathers_of_kept (hsize : 1 ≤ setup.settings.batchSize)
    (hrequest : request.batches = true) (hkept : request.sends setup pending = false) :
    (request.gathers setup pending).length < setup.settings.batchSize := by
  cases request with
  | add c => simpa [sends, gathers] using hkept
  | flush =>
    have hnil : pending = [] := by simpa [sends] using hkept
    rw [hnil]
    exact hsize
  | _ => cases hrequest

theorem length_gathers_of_sent (hrequest : request.batches = true)
    (hroom : pending.length < setup.settings.batchSize)
    (hsent : request.sends setup pending = true) :
    1 ≤ (request.gathers setup pending).length ∧
      (request.gathers setup pending).length ≤ setup.settings.batchSize := by
  cases request with
  | add c => simpa [gathers] using hroom
  | flush =>
    have hfull : pending ≠ [] := by simpa [sends] using hsent
    exact ⟨List.length_pos_of_ne_nil hfull, hroom.le⟩
  | _ => cases hrequest

end Request

/-! ## Visits -/

/-- A request that was alone with the connection until it had its answer. -/
structure Visit (δ κ ρ : Type) where
  caller : Caller
  request : Request ρ
  outcome : Outcome (Reply ρ)
  before : Connection δ κ
  after : Connection δ κ

/-- What a visit about the pending batch does. -/
structure Visit.Right (setup : Setup δ κ) (t : Visit δ κ ρ) : Prop where
  access : t.after.access = .free
  tallied : t.after.pending.Tallied
  kept : t.request.sends setup t.before.pending.commands = false →
    t.after.batches = t.before.batches ∧
    t.after.pending.commands = t.request.gathers setup t.before.pending.commands ∧
    t.outcome = .ok (t.request.reply 0)
  sent : t.request.sends setup t.before.pending.commands = true →
    let cs := t.request.gathers setup t.before.pending.commands
    t.after.batches = t.before.batches ++ [cs] ∧ t.after.pending.commands = [] ∧
    ∃ polls rows, setup.driver.batch t.caller.mode cs t.before.database =
      (.after polls rows, t.after.database) ∧
      t.outcome = (Command.judge cs rows).map t.request.reply

variable [Cursor κ] {setup : Setup δ κ} {caller : Caller} {conn after : Connection δ κ}

/-- Requests of callers who are not cancelled, one after the other. -/
inductive Visits (setup : Setup δ κ) (start : Connection δ κ) :
    List (Visit δ κ ρ) → Connection δ κ → Prop
  | nil : Visits setup start [] start
  | next {visits : List (Visit δ κ ρ)} {t : Visit δ κ ρ} : Visits setup start visits t.before →
      t.caller.cancelReason? t.before.contexts = none →
      Polled.ComesTo (Operation.poll setup t.caller)
        (t.request.start.poll setup t.caller t.before) t.outcome t.after →
      Visits setup start (visits ++ [t]) t.after

omit [Cursor κ] in
/-- What asking again and again ends with is determined. -/
theorem Polled.ComesTo.unique {σ τ α : Type} {poll : τ → σ → Polled τ α × σ}
    {x : Polled τ α × σ} {a a' : α} {s s' : σ} (h : Polled.ComesTo poll x a s)
    (h' : Polled.ComesTo poll x a' s') : a = a' ∧ s = s' := by
  induction h with
  | ready =>
    cases h'
    exact ⟨rfl, rfl⟩
  | waiting _ ih =>
    cases h' with
    | waiting h' => exact ih h'

/-! ## Flushes -/

namespace Flushing

theorem batches_begin (setup : Setup δ κ) (mode : Mode) (conn : Connection δ κ) :
    (begin setup mode conn).2.batches = conn.batches ++
      if conn.pending.isEmpty then [] else [conn.pending.commands] := by
  refine (quiet_batches conn.batches {}).flush setup mode (·.batches = _) ?_ ?_ ⟨rfl, rfl⟩
  · intro hempty
    rw [hempty, if_pos rfl, List.append_nil]
    rfl
  · rintro hfull ready database ⟨hbatches, -⟩
    have hcall := ready.batches_recordCall .batch mode conn.pending.commands
    rw [hbatches, if_pos rfl] at hcall
    rw [hfull]
    exact hcall

omit [Cursor κ] in
theorem finish_fst {sent : Sent} (htallied : sent.batch.Tallied) (conn : Connection δ κ) :
    (finish sent conn).1 = Command.judge sent.batch.commands sent.rows := by
  obtain ⟨batch, rows | why | reason | message⟩ := sent
  · exact htallied.verify_fst rows conn
  all_goals rfl

omit [Cursor κ] in
theorem finish_keeps (sent : Sent) (conn : Connection δ κ) :
    (finish sent conn).2.batches = conn.batches ∧ (finish sent conn).2.pending = conn.pending ∧
      (finish sent conn).2.database = conn.database := by
  unfold finish verify
  split
  · split
    · exact ⟨rfl, rfl, rfl⟩
    · exact ⟨Connection.batches_congr (Connection.calls_record rfl), rfl, rfl⟩
  · exact ⟨rfl, rfl, rfl⟩

/-- How a flush begins: the batch is taken, and given to the driver unless it is empty. -/
inductive Begins (setup : Setup δ κ) (mode : Mode) (conn : Connection δ κ) :
    Begun Sent RowCount × Connection δ κ → Prop
  | nothing {conn' : Connection δ κ} : conn.pending.commands = [] → conn'.pending = {} →
      conn'.batches = conn.batches → Begins setup mode conn (.settled (.ok 0), conn')
  | sent {polls : Nat} {rows : Outcome RowCount} {conn' : Connection δ κ} :
      conn.pending.commands ≠ [] → conn'.pending = {} →
      conn'.batches = conn.batches ++ [conn.pending.commands] →
      setup.driver.batch mode conn.pending.commands conn.database =
        (.after polls rows, conn'.database) →
      Begins setup mode conn (.sent polls ⟨conn.pending, rows⟩, conn')
  | crashed {message : String} {conn' : Connection δ κ} :
      (setup.driver.batch mode conn.pending.commands conn.database).1 = .crashed message →
      Begins setup mode conn (.crashed message, conn')

theorem begins (setup : Setup δ κ) (mode : Mode) (conn : Connection δ κ) :
    Begins setup mode conn (begin setup mode conn) := by
  have hpending := pending_begin setup mode conn
  have hbatches := batches_begin setup mode conn
  have hbegin := begin_eq setup mode conn
  by_cases hempty : conn.pending.isEmpty
  · rw [if_pos hempty, List.append_nil] at hbatches
    rw [if_pos hempty] at hbegin
    rw [hbegin] at hpending hbatches ⊢
    exact .nothing (List.isEmpty_iff.mp hempty) hpending hbatches
  · have hfull : conn.pending.commands ≠ [] := fun hnil => hempty (List.isEmpty_iff.mpr hnil)
    rw [if_neg hempty] at hbatches
    rw [if_neg hempty, ready_database] at hbegin
    rcases hanswer : setup.driver.batch mode conn.pending.commands conn.database with
      ⟨⟨polls, rows⟩ | message, database⟩
    all_goals
      rw [hanswer] at hbegin
      rw [hbegin] at hpending hbatches ⊢
    · exact .sent hfull hpending hbatches hanswer
    · exact .crashed (congrArg Prod.fst hanswer)

/-- What a flush that finds the connection free has done when it comes to an end. -/
structure Ended (setup : Setup δ κ) (mode : Mode) (conn : Connection δ κ) (o : Outcome RowCount)
    (after : Connection δ κ) : Prop where
  access : after.access = .free
  pending : after.pending = {}
  nothing : conn.pending.commands = [] → after.batches = conn.batches ∧ o = .ok 0
  sent : conn.pending.commands ≠ [] →
    after.batches = conn.batches ++ [conn.pending.commands] ∧
    ∃ polls rows, setup.driver.batch mode conn.pending.commands conn.database =
      (.after polls rows, after.database) ∧ o = Command.judge conn.pending.commands rows

/-- A flush that finds the connection free comes to an end, unless the driver crashes. -/
theorem ended_or_crashed (htallied : conn.pending.Tallied)
    (hcaller : caller.cancelReason? conn.contexts = none) (hfree : conn.access = .free) :
    (∃ o after, Polled.ComesTo (poll setup caller) (poll setup caller .waiting conn) o after ∧
      Ended setup caller.mode conn o after) ∨
    ∃ message after, poll setup caller .waiting conn = (.crashed message, after) ∧
      (setup.driver.batch caller.mode conn.pending.commands conn.database).1 =
        .crashed message := by
  have hpoll : poll setup caller .waiting conn = (protocol setup caller.mode).afterBegin
      (begin setup caller.mode (conn.setAccess .held)) := Protocol.poll_free hcaller rfl hfree
  have hbegins := begins setup caller.mode (conn.setAccess .held)
  rw [hpoll]
  generalize begin setup caller.mode (conn.setAccess .held) = begun at hbegins
  cases hbegins with
  | nothing hnil hpending hbatches =>
    refine .inl ⟨_, _, .ready, rfl, hpending, fun _ => ⟨hbatches, rfl⟩, fun hfull => ?_⟩
    exact absurd hnil hfull
  | @sent polls rows conn' hfull hpending hbatches hanswer =>
    have hkeeps := finish_keeps ⟨conn.pending, rows⟩ conn'
    refine .inl ⟨_, _, (protocol setup caller.mode).answer_comesTo caller polls _ conn', rfl,
      hkeeps.2.1.trans hpending, fun hnil => absurd hnil hfull, fun _ => ⟨?_, polls, rows, ?_, ?_⟩⟩
    · exact hkeeps.1.trans hbatches
    · exact hanswer.trans (congrArg (Prod.mk _) hkeeps.2.2.symm)
    · exact finish_fst htallied conn'
  | crashed hanswer => exact .inr ⟨_, _, rfl, hanswer⟩

/-- An operation that has a flush to wait for waits as long. -/
theorem comesTo_within {wrap : Call Sent → Operation ρ} {f : RowCount → Reply ρ} {call : Call Sent}
    {o : Outcome RowCount}
    (hpoll : ∀ call conn, (wrap call).poll setup caller conn =
      (((poll setup caller call conn).1.map (Outcome.map f)).within wrap,
        (poll setup caller call conn).2))
    (h : Polled.ComesTo (poll setup caller) (poll setup caller call conn) o after) :
    Polled.ComesTo (Operation.poll setup caller) ((wrap call).poll setup caller conn) (o.map f)
      after := by
  rw [hpoll]
  exact h.through (f := fun x => ((x.1.map (Outcome.map f)).within wrap, x.2)) wrap
    (fun _ _ => rfl) hpoll .ready

end Flushing

/-! ## One visit -/

namespace Visit

/-- How a visit goes, or that the driver crashed on what it was given. -/
def Goes (setup : Setup δ κ) (caller : Caller) (request : Request ρ) (conn : Connection δ κ) :
    Prop :=
  (∃ outcome after, Polled.ComesTo (Operation.poll setup caller)
    (request.start.poll setup caller conn) outcome after ∧
    Right setup ⟨caller, request, outcome, conn, after⟩) ∨
  ∃ message after, request.start.poll setup caller conn = (.crashed message, after) ∧
    (setup.driver.batch caller.mode (request.gathers setup conn.pending.commands)
      conn.database).1 = .crashed message

omit [Cursor κ] in
/-- A visit that ends with a flush, which finds what the request gathers. -/
theorem Right.of_ended {request : Request ρ} {ready : Connection δ κ} {o : Outcome RowCount}
    (h : Flushing.Ended setup caller.mode ready o after)
    (hcommands : ready.pending.commands = request.gathers setup conn.pending.commands)
    (hbatches : ready.batches = conn.batches) (hdatabase : ready.database = conn.database)
    (hsends : request.sends setup conn.pending.commands = !ready.pending.commands.isEmpty) :
    Right setup ⟨caller, request, o.map request.reply, conn, after⟩ where
  access := h.access
  tallied := by
    rw [h.pending]
    exact .empty
  kept hkept := by
    have hnil : ready.pending.commands = [] := by simpa [hsends] using hkept
    obtain ⟨hsame, rfl⟩ := h.nothing hnil
    refine ⟨hsame.trans hbatches, ?_, rfl⟩
    rw [← hcommands, hnil, h.pending]
  sent hsent := by
    have hfull : ready.pending.commands ≠ [] := by simpa [hsends] using hsent
    obtain ⟨hadded, polls, rows, hanswer, rfl⟩ := h.sent hfull
    rw [hcommands] at hadded hanswer ⊢
    rw [hbatches] at hadded
    rw [hdatabase] at hanswer
    exact ⟨hadded, congrArg PendingBatch.commands h.pending, polls, rows, hanswer, rfl⟩

theorem flush_goes (htallied : conn.pending.Tallied)
    (hcaller : caller.cancelReason? conn.contexts = none) (hfree : conn.access = .free) :
    Goes (ρ := ρ) setup caller .flush conn := by
  have hflushing : ∀ call conn, (Operation.flushing (ρ := ρ) call).poll setup caller conn =
      (((Flushing.poll setup caller call conn).1.map (Outcome.map .rows)).within .flushing,
        (Flushing.poll setup caller call conn).2) := fun _ _ => rfl
  rcases Flushing.ended_or_crashed htallied hcaller hfree with
    ⟨o, after, hcomes, hended⟩ | ⟨message, after, hcrash, hcrashed⟩
  · exact .inl ⟨_, _, Flushing.comesTo_within hflushing hcomes, .of_ended hended rfl rfl rfl rfl⟩
  · refine .inr ⟨message, after, ?_, hcrashed⟩
    show (Operation.flushing .waiting).poll setup caller conn = _
    rw [hflushing, hcrash]
    rfl

theorem add_goes (c : Command) (htallied : conn.pending.Tallied)
    (hcaller : caller.cancelReason? conn.contexts = none) (hfree : conn.access = .free) :
    Goes (ρ := ρ) setup caller (.add c) conn := by
  have hfilled : ∀ call conn, (Operation.adding (ρ := ρ) (.flushing call)).poll setup caller conn =
      (((Flushing.poll setup caller call conn).1.map (Outcome.map fun _ => .done)).within
        fun call => .adding (.flushing call), (Flushing.poll setup caller call conn).2) :=
    fun call conn => Prod.ext (Operation.poll_filled setup caller call conn) rfl
  by_cases hfull : setup.settings.batchSize ≤ conn.pending.commands.length + 1
  · -- The flush inside the addition finds its command in the batch.
    have hpoll : (Request.add c).start.poll setup caller conn =
        (Operation.adding (ρ := ρ) (.flushing .waiting)).poll setup caller (conn.push setup c).2 :=
      Operation.poll_fill setup c hcaller hfull
    have hpushed : (conn.push setup c).2.pending.Tallied := htallied.push _ _
    rcases Flushing.ended_or_crashed hpushed hcaller hfree with
      ⟨o, after, hcomes, hended⟩ | ⟨message, after, hcrash, hcrashed⟩
    · have hadded : (conn.push setup c).2.pending.commands =
          conn.pending.commands ++ [setup.prepare c] := rfl
      have hsends : (Request.add (ρ := ρ) c).sends setup conn.pending.commands =
          !(conn.push setup c).2.pending.commands.isEmpty := by
        rw [hadded]
        simp [Request.sends, hfull]
      exact .inl ⟨_, _, hpoll ▸ Flushing.comesTo_within hfilled hcomes,
        .of_ended hended rfl rfl rfl hsends⟩
    · refine .inr ⟨message, after, ?_, hcrashed⟩
      rw [hpoll, hfilled, hcrash]
      rfl
  · have hpush : conn.push setup c = (false, (conn.push setup c).2) := by
      refine Prod.ext ?_ rfl
      simpa [Connection.push, PendingBatch.size] using hfull
    have hpoll : (Request.add c).start.poll setup caller conn =
        (.ready (.ok (.done (ρ := ρ))), (conn.push setup c).2) := by
      show (Operation.adding (.fresh c)).poll setup caller conn = _
      simp only [Operation.poll, Adding.poll, hcaller]
      rw [hpush]
      rfl
    refine .inl ⟨.ok .done, (conn.push setup c).2, hpoll ▸ .ready, ?_⟩
    exact
      { access := hfree
        tallied := htallied.push _ _
        kept := fun _ => ⟨rfl, rfl, rfl⟩
        sent := fun hsent => absurd (of_decide_eq_true hsent) hfull }

theorem goes {request : Request ρ} (hrequest : request.batches = true)
    (htallied : conn.pending.Tallied) (hcaller : caller.cancelReason? conn.contexts = none)
    (hfree : conn.access = .free) : Goes setup caller request conn := by
  cases request with
  | add c => exact add_goes c htallied hcaller hfree
  | flush => exact flush_goes htallied hcaller hfree
  | _ => cases hrequest

theorem right {t : Visit δ κ ρ} (hrequest : t.request.batches = true)
    (htallied : t.before.pending.Tallied)
    (hcaller : t.caller.cancelReason? t.before.contexts = none)
    (hfree : t.before.access = .free)
    (hcomes : Polled.ComesTo (Operation.poll setup t.caller)
      (t.request.start.poll setup t.caller t.before) t.outcome t.after) : Right setup t := by
  rcases goes hrequest htallied hcaller hfree with
    ⟨outcome, after, hcomes', hright⟩ | ⟨message, after, hpoll, -⟩
  · obtain ⟨rfl, rfl⟩ := hcomes'.unique hcomes
    exact hright
  · rw [hpoll] at hcomes
    cases hcomes

end Visit

/-! ## Visits one after the other -/

/-- A connection between two visits. -/
structure Connection.AtRest (setup : Setup δ κ) (conn : Connection δ κ) : Prop where
  access : conn.access = .free
  tallied : conn.pending.Tallied
  room : conn.pending.commands.length < setup.settings.batchSize

namespace Visit

omit [Cursor κ] in
theorem Right.atRest {t : Visit δ κ ρ} (h : t.Right setup) (hsize : 1 ≤ setup.settings.batchSize)
    (hrequest : t.request.batches = true) : t.after.AtRest setup := by
  refine ⟨h.access, h.tallied, ?_⟩
  cases hsends : t.request.sends setup t.before.pending.commands with
  | true =>
    rw [(h.sent hsends).2.1]
    exact hsize
  | false =>
    rw [(h.kept hsends).2.1]
    exact Request.length_gathers_of_kept hsize hrequest hsends

omit [Cursor κ] in
/-- What a visit sends fits into a batch. -/
theorem Right.sent_fits {t : Visit δ κ ρ} (h : t.Right setup)
    (hrequest : t.request.batches = true) (hrest : t.before.AtRest setup) :
    ∃ sent, t.after.batches = t.before.batches ++ sent ∧
      ∀ cs ∈ sent, 1 ≤ cs.length ∧ cs.length ≤ setup.settings.batchSize := by
  cases hsends : t.request.sends setup t.before.pending.commands with
  | true =>
    refine ⟨[t.request.gathers setup t.before.pending.commands], (h.sent hsends).1, ?_⟩
    rintro cs hcs
    rw [List.mem_singleton.mp hcs]
    exact Request.length_gathers_of_sent hrequest hrest.room hsends
  | false => exact ⟨[], by rw [(h.kept hsends).1, List.append_nil], nofun⟩

end Visit

namespace Visits

variable {start last : Connection δ κ} {visits : List (Visit δ κ ρ)}

/-- Between the visits the connection is free and the pending batch has room. -/
theorem atRest (h : Visits setup start visits last) (hsize : 1 ≤ setup.settings.batchSize)
    (hstart : start.AtRest setup) (hrequests : ∀ t ∈ visits, t.request.batches = true) :
    last.AtRest setup := by
  induction h with
  | nil => exact hstart
  | @next visits t _ hcaller hcomes ih =>
    have hrest := ih fun t ht => hrequests t (List.mem_append_left _ ht)
    have hrequest := hrequests t (List.mem_append_right _ (List.mem_singleton_self t))
    exact (Visit.right hrequest hrest.tallied hcaller hrest.access hcomes).atRest hsize hrequest

/-- No batch that visits send is empty, or more than full. -/
theorem sent_fits (h : Visits setup start visits last) (hsize : 1 ≤ setup.settings.batchSize)
    (hstart : start.AtRest setup) (hrequests : ∀ t ∈ visits, t.request.batches = true) :
    ∃ sent, last.batches = start.batches ++ sent ∧
      ∀ cs ∈ sent, 1 ≤ cs.length ∧ cs.length ≤ setup.settings.batchSize := by
  induction h with
  | nil => exact ⟨[], (List.append_nil _).symm, fun _ hcs => absurd hcs List.not_mem_nil⟩
  | @next visits t hvisits hcaller hcomes ih =>
    have hearlier : ∀ t ∈ visits, t.request.batches = true :=
      fun t ht => hrequests t (List.mem_append_left _ ht)
    have hrequest := hrequests t (List.mem_append_right _ (List.mem_singleton_self t))
    have hrest := hvisits.atRest hsize hstart hearlier
    have hright := Visit.right hrequest hrest.tallied hcaller hrest.access hcomes
    obtain ⟨sent, hsent, hfits⟩ := ih hearlier
    obtain ⟨later, hlater, hfits'⟩ := hright.sent_fits hrequest hrest
    refine ⟨sent ++ later, ?_, fun cs hcs => (List.mem_append.mp hcs).elim (hfits cs) (hfits' cs)⟩
    rw [hlater, hsent, List.append_assoc]

end Visits

/-! ## Parts -/

/-- Of the first `n` of the commands `sent`, the full parts are sent, after what was sent before,
and the rest is pending. -/
structure Connection.Parted (b : Nat) (before : List (List Command)) (sent : List Command) (n : Nat)
    (conn : Connection δ κ) : Prop where
  batches : conn.batches = before ++ (List.range (n / b)).map fun k => Command.part b k sent
  pending : conn.pending.commands = (sent.take n).drop (n / b * b)

/-- What becomes of the addition of the `n`th of the commands `sent`, counted from one. -/
def Visit.Parts (setup : Setup δ κ) (sent : List Command) (n : Nat) (t : Visit δ κ ρ) : Prop :=
  let b := setup.settings.batchSize
  if b ∣ n then
    let cs := Command.part b (n / b - 1) sent
    t.after.batches = t.before.batches ++ [cs] ∧
    ∃ polls rows, setup.driver.batch t.caller.mode cs t.before.database =
      (.after polls rows, t.after.database) ∧
      t.outcome = (Command.judge cs rows).map fun _ => .done
  else t.after.batches = t.before.batches ∧ t.outcome = .ok .done

theorem dvd_succ_iff {b n : Nat} (hb : 1 ≤ b) : b ∣ n + 1 ↔ b ≤ n % b + 1 := by
  have hsplit : n + 1 = b * (n / b) + (n % b + 1) := by
    rw [← Nat.add_assoc, Nat.div_add_mod]
  rw [hsplit, Nat.dvd_add_right (Nat.dvd_mul_right b _)]
  constructor
  · exact Nat.le_of_dvd (Nat.succ_pos _)
  · intro hle
    have hlt : n % b < b := Nat.mod_lt n hb
    rw [show n % b + 1 = b by omega]

namespace Connection.Parted

variable {b n : Nat} {before : List (List Command)} {sent : List Command} {c : Command}

omit [Cursor κ] in
/-- What an addition gathers reaches from the end of the last full part up to its command. -/
theorem gathers (h : conn.Parted b before sent n) (hc : sent[n]? = some (setup.prepare c)) :
    (Request.add (ρ := ρ) c).gathers setup conn.pending.commands =
      (sent.take (n + 1)).drop (n / b * b) := by
  have hn : n < sent.length := (List.getElem?_eq_some_iff.mp hc).1
  have hle : n / b * b ≤ (sent.take n).length := by
    rw [List.length_take_of_le hn.le]
    exact Nat.div_mul_le_self n b
  rw [List.take_add_one, hc, List.drop_append_of_le_length hle, ← h.pending]
  rfl

omit [Cursor κ] in
/-- The addition sends just when it ends a part. -/
theorem sends (h : conn.Parted setup.settings.batchSize before sent n)
    (hsize : 1 ≤ setup.settings.batchSize) (hn : n < sent.length) :
    (Request.add (ρ := ρ) c).sends setup conn.pending.commands =
      decide (setup.settings.batchSize ∣ n + 1) := by
  have hlength : conn.pending.commands.length = n % setup.settings.batchSize := by
    rw [h.pending, List.length_drop, List.length_take_of_le hn.le, Nat.mod_eq_sub_div_mul]
  simp only [Request.sends, hlength, dvd_succ_iff hsize]

end Connection.Parted

omit [Cursor κ] in
theorem Visit.Right.parts {t : Visit δ κ ρ} {before : List (List Command)} {sent : List Command}
    {c : Command} {n : Nat} (h : t.Right setup) (hsize : 1 ≤ setup.settings.batchSize)
    (hrequest : t.request = .add c) (hc : sent[n]? = some (setup.prepare c))
    (hparted : t.before.Parted setup.settings.batchSize before sent n) :
    t.after.Parted setup.settings.batchSize before sent (n + 1) ∧ t.Parts setup sent (n + 1) := by
  have hn : n < sent.length := (List.getElem?_eq_some_iff.mp hc).1
  have hgathers := hparted.gathers (ρ := ρ) hc
  have hsends := hparted.sends (ρ := ρ) (c := c) hsize hn
  rw [← hrequest] at hgathers hsends
  unfold Visit.Parts
  by_cases hdvd : setup.settings.batchSize ∣ n + 1
  · have hdiv := Nat.succ_div_of_dvd hdvd
    obtain ⟨hbatches, hpending, hanswer⟩ := h.sent (hsends.trans (decide_eq_true hdvd))
    -- The part ends with the command, so that it is what is gathered.
    have hpart : t.request.gathers setup t.before.pending.commands =
        Command.part setup.settings.batchSize (n / setup.settings.batchSize) sent := by
      have hend : n + 1 = n / setup.settings.batchSize * setup.settings.batchSize +
          setup.settings.batchSize := by
        rw [← Nat.add_one_mul, ← hdiv, Nat.div_mul_cancel hdvd]
      rw [hgathers, List.drop_take, hend, Nat.add_sub_cancel_left]
      rfl
    rw [hpart] at hbatches hanswer
    rw [if_pos hdvd, hdiv, Nat.add_sub_cancel]
    rw [hrequest] at hanswer
    refine ⟨⟨?_, ?_⟩, hbatches, hanswer⟩
    · rw [hbatches, hparted.batches, hdiv, List.range_succ, List.map_append, List.append_assoc]
      rfl
    · rw [hpending, Nat.div_mul_cancel hdvd, List.drop_eq_nil_of_le (List.length_take_le _ _)]
  · have hdiv := Nat.succ_div_of_not_dvd hdvd
    obtain ⟨hbatches, hpending, houtcome⟩ := h.kept (hsends.trans (decide_eq_false hdvd))
    rw [if_neg hdvd]
    rw [hrequest] at houtcome
    refine ⟨⟨?_, ?_⟩, hbatches, houtcome⟩
    · rw [hbatches, hparted.batches, hdiv]
    · rw [hpending, hgathers, hdiv]

theorem Visits.parts {start last : Connection δ κ} {visits : List (Visit δ κ ρ)}
    {sent : List Command} (h : Visits setup start visits last)
    (hsize : 1 ≤ setup.settings.batchSize) (hstart : start.AtRest setup)
    (hempty : start.pending.commands = []) (hrequests : ∀ t ∈ visits, t.request.batches = true)
    (hsent : ∀ (i : Nat) (t : Visit δ κ ρ), visits[i]? = some t →
      ∃ c, t.request = .add c ∧ sent[i]? = some (setup.prepare c)) :
    last.Parted setup.settings.batchSize start.batches sent visits.length ∧
      ∀ (i : Nat) (t : Visit δ κ ρ), visits[i]? = some t → t.Parts setup sent (i + 1) := by
  induction h with
  | nil =>
    refine ⟨⟨?_, ?_⟩, fun i t ht => by cases ht⟩
    · rw [List.length_nil, Nat.zero_div]
      exact (List.append_nil _).symm
    · rw [hempty, List.length_nil, List.take_zero, List.drop_nil]
  | @next visits t hvisits hcaller hcomes ih =>
    have hmem : ∀ t' ∈ visits, t'.request.batches = true :=
      fun t' ht' => hrequests t' (List.mem_append_left _ ht')
    have hfirst : ∀ (i : Nat) (t' : Visit δ κ ρ), visits[i]? = some t' →
        (visits ++ [t])[i]? = some t' := by
      intro i t' ht'
      rw [List.getElem?_append_left (List.getElem?_eq_some_iff.mp ht').1]
      exact ht'
    obtain ⟨hparted, hparts⟩ := ih hmem fun i t' ht' => hsent i t' (hfirst i t' ht')
    obtain ⟨c, hrequest, hc⟩ := hsent visits.length t List.getElem?_concat_length
    have hrest := hvisits.atRest hsize hstart hmem
    have hlast := hrequests t (List.mem_append_right _ (List.mem_singleton_self t))
    have hright := Visit.right hlast hrest.tallied hcaller hrest.access hcomes
    obtain ⟨hafter, hpart⟩ := hright.parts hsize hrequest hc hparted
    rw [List.length_append]
    refine ⟨hafter, ?_⟩
    intro i t' ht'
    rcases Nat.lt_trichotomy i visits.length with hi | rfl | hi
    · rw [List.getElem?_append_left hi] at ht'
      exact hparts i t' ht'
    · rw [List.getElem?_concat_length] at ht'
      cases ht'
      exact hpart
    · rw [List.getElem?_eq_none (by simpa using hi)] at ht'
      cases ht'

/-- From any point of a run at which the connection is free and the pending batch has room, callers
who are not cancelled add commands and flush one after the other, whatever the driver answers. No
batch is sent empty or more than full, and the pending batch has room after the visits. If the
driver always returns, the next visit comes to an end as well. If the batch was empty and nobody
flushes, the full parts of what was added are sent, each with the addition that ends it, and the
rest is pending. Only additions that end a part can fail, and they do if the driver fails or counts
the wrong number of rows. -/
theorem World.additions_partition (setup : Setup δ κ) (hsize : 1 ≤ setup.settings.batchSize)
    (database : δ) (steps : List (Step ρ)) {visits : List (Visit δ κ ρ)} {last : Connection δ κ} :
    let b := setup.settings.batchSize
    let start := ((create setup database : World δ κ ρ).run setup steps).conn
    start.access = .free → start.pending.commands.length < b → Visits setup start visits last →
    (∀ t ∈ visits, t.request.batches = true) →
    (last.pending.commands.length < b ∧ ∃ sent, last.batches = start.batches ++ sent ∧
      ∀ cs ∈ sent, 1 ≤ cs.length ∧ cs.length ≤ b) ∧
    (∀ (caller : Caller) (request : Request ρ), request.batches = true →
      caller.cancelReason? last.contexts = none →
      (∀ mode cs d, ∃ polls rows d', setup.driver.batch mode cs d = (.after polls rows, d')) →
      ∃ outcome after,
        Visits setup start (visits ++ [⟨caller, request, outcome, last, after⟩]) after) ∧
    (∀ cs : List Command, start.pending.commands = [] → visits.map (·.request) = cs.map .add →
      let n := cs.length
      let sent := cs.map setup.prepare
      last.batches = start.batches ++ (List.range (n / b)).map (fun k => Command.part b k sent) ∧
      last.pending.commands = sent.drop (n / b * b) ∧
      ∀ (i : Nat) (t : Visit δ κ ρ), visits[i]? = some t → t.Parts setup sent (i + 1)) := by
  intro b start hfree hroom hvisits hrequests
  have hstart : start.AtRest setup := ⟨hfree, tallied_run setup database steps, hroom⟩
  have hlast := hvisits.atRest hsize hstart hrequests
  refine ⟨⟨hlast.room, hvisits.sent_fits hsize hstart hrequests⟩, ?_, ?_⟩
  · intro caller request hrequest hcaller hreturns
    rcases Visit.goes hrequest hlast.tallied hcaller hlast.access with
      ⟨outcome, after, hcomes, -⟩ | ⟨message, after, -, hcrashed⟩
    · exact ⟨outcome, after, hvisits.next hcaller hcomes⟩
    · obtain ⟨polls, rows, d', hanswer⟩ := hreturns caller.mode
        (request.gathers setup last.pending.commands) last.database
      rw [hanswer] at hcrashed
      cases hcrashed
  · intro cs hempty hadds n sent
    have hlength : visits.length = n := by simpa using congrArg List.length hadds
    have hsent : ∀ (i : Nat) (t : Visit δ κ ρ), visits[i]? = some t →
        ∃ c, t.request = .add c ∧ sent[i]? = some (setup.prepare c) := by
      intro i t ht
      have hi : (cs.map (Request.add (ρ := ρ)))[i]? = some t.request := by
        rw [← hadds, List.getElem?_map, ht]
        rfl
      rw [List.getElem?_map] at hi
      obtain ⟨c, hc, hrequest⟩ := Option.map_eq_some_iff.mp hi
      exact ⟨c, hrequest.symm, by simp [sent, hc]⟩
    obtain ⟨hparted, hparts⟩ := hvisits.parts hsize hstart hempty hrequests hsent
    refine ⟨?_, ?_, hparts⟩
    · rw [hparted.batches, hlength]
    · rw [hparted.pending, hlength, List.take_of_length_le (by simp [sent, n])]

/-- A driver in memory that reports one row for every call, with two commands at most in a batch. -/
def Setup.inPairs : Setup Unit Buffered := { Setup.slow with settings := { batchSize := 2 } }

/-- The first pair is found stale, and the third command waits for a fourth one all the same. -/
theorem additions_partition_stale :
    let x : Caller := .task ⟨"task"⟩
    let c : Command := { sql := "update", expectation := .rows 2 }
    let start : Connection Unit Buffered := .create Setup.inPairs ()
    let add : Operation Nat := .adding (.fresh c)
    let first := (add.poll Setup.inPairs .blocking start).2
    let flushing := (add.poll Setup.inPairs x first).2
    let second := flushing.warn (.verificationFailed 4 1 2) |>.setAccess .free
    let third := (add.poll Setup.inPairs .blocking second).2
    let v₁ : Visit Unit Buffered Nat := ⟨.blocking, .add c, .ok .done, start, first⟩
    let v₂ : Visit Unit Buffered Nat :=
      ⟨x, .add c, .error (.verification ⟨.stale, 4, 1, ["update", "update"]⟩), first, second⟩
    let v₃ : Visit Unit Buffered Nat := ⟨.blocking, .add c, .ok .done, second, third⟩
    Visits Setup.inPairs start [v₁, v₂, v₃] third ∧
      third.batches = [[c, c]] ∧ third.pending.commands = [c] := by
  intro x c start add first flushing second third v₁ v₂ v₃
  have h₁ : Visits Setup.inPairs start ([] ++ [v₁]) first := .next .nil rfl .ready
  have h₂ : Visits Setup.inPairs start ([v₁] ++ [v₂]) second := .next h₁ rfl (.waiting .ready)
  have h₃ : Visits Setup.inPairs start ([v₁, v₂] ++ [v₃]) third := .next h₂ rfl .ready
  have h := World.additions_partition Setup.inPairs (by decide) () [] rfl (by decide) h₃
    (by simp [v₁, v₂, v₃, Request.batches])
  obtain ⟨hbatches, hpending, -⟩ := h.2.2 [c, c, c] rfl rfl
  refine ⟨h₃, hbatches.trans ?_, hpending.trans ?_⟩
  · cbv
  · cbv

end OneConnection
