import OneConnection.Proofs.Acts

/-!
# Conservation of commands

Commands enter the pending batch one by one and leave it all at once, by a call or by disposal. None
is lost, sent twice or overtaken.
-/

namespace OneConnection

variable {δ κ ρ : Type}

/-- How commands leave the pending batch. -/
inductive Departure
  | sent (commands : List Command)
  | discarded (commands : List Command)

namespace Departure

def commands : Departure → List Command
  | .sent commands => commands
  | .discarded commands => commands

def sent? : Departure → Option (List Command)
  | .sent commands => some commands
  | .discarded _ => none

theorem flatMap_sent (sent : List (List Command)) :
    (sent.map Departure.sent).flatMap commands = sent.flatten := by
  rw [List.flatMap_map]
  exact List.flatMap_id

theorem filterMap_sent (sent : List (List Command)) :
    (sent.map Departure.sent).filterMap sent? = sent := by
  rw [List.filterMap_map]
  exact List.filterMap_some

end Departure

/-! ## Accounts -/

/-- The lists that the driver was given to run as batches, from the first to the last. -/
def Connection.batches (conn : Connection δ κ) : List (List Command) :=
  (conn.calls.filter (·.kind = .batch)).map (·.commands)

/-- What a poll adds to the pending batch. -/
def Operation.accepts (setup : Setup δ κ) (caller : Caller) (conn : Connection δ κ) :
    Operation ρ → List Command
  | .adding (.fresh c) =>
    match caller.cancelReason? conn.contexts with
    | some _ => []
    | none => [setup.prepare c]
  | _ => []

namespace World

def accepts (setup : Setup δ κ) (w : World δ κ ρ) : Step ρ → List Command
  | .poll n =>
    match w.task? n with
    | some t => t.operation.accepts setup t.caller w.conn
    | none => []
  | _ => []

def discards (w : World δ κ ρ) : Step ρ → List Departure
  | .act a => if a.disposes then [.discarded w.conn.pending.commands] else []
  | _ => []

end World

/-- The commands of a run, in the order in which they were accepted and in which they left. -/
structure Ledger where
  accepted : List Command := []
  gone : List Departure := []

def Ledger.note [Cursor κ] (setup : Setup δ κ) (w : World δ κ ρ) (s : Step ρ) (l : Ledger) :
    Ledger where
  accepted := l.accepted ++ w.accepts setup s
  gone :=
    let later := (w.step setup s).conn.batches.drop w.conn.batches.length
    l.gone ++ w.discards s ++ later.map .sent

/-! ## Calls -/

namespace Connection

variable {conn : Connection δ κ}

theorem batches_congr {conn' : Connection δ κ} (h : conn'.calls = conn.calls) :
    conn'.batches = conn.batches := by
  unfold batches
  rw [h]

theorem batches_recordCall [Cursor κ] (conn : Connection δ κ) (kind : CallKind) (mode : Mode)
    (cs : List Command) :
    (conn.recordCall kind mode cs).batches =
      conn.batches ++ if kind = .batch then [cs] else [] := by
  unfold batches calls recordCall record
  rw [List.filterMap_append, List.filter_append, List.map_append]
  congr 1
  cases kind <;> rfl

end Connection

/-- `accepted` came to the pending batch, `sent` was sent, and the rest is pending. -/
structure Flow (accepted : List Command) (sent : List (List Command))
    (conn conn' : Connection δ κ) : Prop where
  batches : conn'.batches = conn.batches ++ sent
  commands : conn.pending.commands ++ accepted = sent.flatten ++ conn'.pending.commands
  filled : [] ∉ sent

theorem Flow.refl (conn : Connection δ κ) : Flow [] [] conn conn where
  batches := (List.append_nil _).symm
  commands := List.append_nil _
  filled := List.not_mem_nil

theorem Flow.push (setup : Setup δ κ) (c : Command) (conn : Connection δ κ) :
    Flow [setup.prepare c] [] conn (conn.push setup c).2 where
  batches := (List.append_nil _).symm
  commands := rfl
  filled := List.not_mem_nil

theorem Flow.of_eq {accepted : List Command} {conn conn' conn'' : Connection δ κ}
    (hbatches : conn''.batches = conn'.batches) (hpending : conn''.pending = conn'.pending)
    (h : ∃ sent, Flow accepted sent conn conn') : ∃ sent, Flow accepted sent conn conn'' := by
  obtain ⟨sent, h⟩ := h
  refine ⟨sent, hbatches.trans h.batches, ?_, h.filled⟩
  rw [hpending]
  exact h.commands

variable [Cursor κ] {setup : Setup δ κ}

omit [Cursor κ] in
theorem quiet_batches (batches : List (List Command)) (pending : PendingBatch) :
    Quiet fun conn : Connection δ κ => conn.batches = batches ∧ conn.pending = pending where
  access _ _ h := h
  hold _ _ _ _ h := h
  note _ _ he h := ⟨(Connection.batches_congr (Connection.calls_record he)).trans h.1, h.2⟩
  count _ _ h := h

/-- A flush sends the whole batch in the step in which it takes it. -/
theorem Flow.flush {accepted : List Command} {sent : List (List Command)}
    {conn conn' : Connection δ κ} (mode : Mode) (h : Flow accepted sent conn conn') :
    ∃ sent, Flow accepted sent conn (Flushing.begin setup mode conn').2 := by
  apply (quiet_batches conn'.batches {}).flush setup mode fun c => ∃ sent, Flow accepted sent conn c
  · intro hempty
    have hnil : conn'.pending.commands = [] := List.isEmpty_iff.mp hempty
    refine ⟨sent, h.batches, ?_, h.filled⟩
    rw [h.commands, hnil]
    rfl
  · rintro hfull ready database ⟨hbatches, hpending⟩
    refine ⟨sent ++ [conn'.pending.commands], ?_, ?_, ?_⟩
    · have hcall := ready.batches_recordCall .batch mode conn'.pending.commands
      rw [hbatches, h.batches, if_pos rfl, List.append_assoc] at hcall
      exact hcall
    · show _ = _ ++ ready.pending.commands
      rw [h.commands, hpending, List.flatten_append, List.flatten_singleton]
      exact (List.append_nil _).symm
    · intro hmem
      rcases List.mem_append.mp hmem with hmem | hmem
      · exact h.filled hmem
      · have hnil := List.mem_singleton.mp hmem
        rw [PendingBatch.isEmpty, ← hnil] at hfull
        cases hfull
  · exact ⟨rfl, rfl⟩

theorem endures_flow (setup : Setup δ κ) (accepted : List Command) (conn : Connection δ κ) :
    Endures setup fun conn' => ∃ sent, Flow accepted sent conn conn' where
  access _ _ := Flow.of_eq rfl rfl
  hold _ _ _ _ := Flow.of_eq rfl rfl
  note _ _ he := Flow.of_eq (Connection.batches_congr (Connection.calls_record he)) rfl
  count _ _ := Flow.of_eq rfl rfl
  call conn' kind mode cs database hkind := by
    have hcall := conn'.batches_recordCall kind mode cs
    rw [if_neg hkind, List.append_nil] at hcall
    exact Flow.of_eq hcall rfl
  flush _ mode := by
    rintro ⟨sent, h⟩
    exact h.flush mode

namespace Operation

variable {caller : Caller} {conn : Connection δ κ}

/-- Whatever a poll does, the batch loses only what the poll sends. -/
theorem poll_flow (setup : Setup δ κ) (caller : Caller) (operation : Operation ρ)
    (conn : Connection δ κ) :
    ∃ sent, Flow (operation.accepts setup caller conn) sent conn
      (operation.poll setup caller conn).2 := by
  have he := endures_flow setup [] conn
  have hrefl : ∃ sent, Flow [] sent conn conn := ⟨[], .refl conn⟩
  cases operation with
  | adding state =>
    cases state with
    | flushing call => exact he.flushing caller call hrefl
    | fresh c =>
      have hpush := Flow.push setup c conn
      simp only [accepts, poll, Adding.poll]
      cases caller.cancelReason? conn.contexts with
      | some reason => exact hrefl
      | none =>
        dsimp only
        split <;> rename_i heq <;> rw [heq] at hpush
        · exact (endures_flow setup _ conn).flushing caller .waiting ⟨[], hpush⟩
        · exact ⟨[], hpush⟩
  | flushing call => exact he.flushing caller call hrefl
  | executing c call => exact he.executing caller c call hrefl
  | opening c call => exact he.opening caller c call hrefl
  | listing c decoder call => exact he.listing caller c decoder call hrefl
  | viewing batch index project view =>
    exact he.viewing (fun _ _ => Flow.of_eq rfl rfl) caller batch index view hrefl
  | dispatching state => exact he.dispatching caller state hrefl

theorem drop_flow (setup : Setup δ κ) (caller : Caller) (operation : Operation ρ)
    (conn : Connection δ κ) : ∃ sent, Flow [] sent conn (operation.drop setup caller conn) :=
  (endures_flow setup [] conn).drop (fun _ _ => Flow.of_eq rfl rfl) caller operation
    ⟨[], .refl conn⟩

end Operation

/-! ## Runs -/

structure Balanced (w : World δ κ ρ) (l : Ledger) : Prop where
  commands : l.accepted = l.gone.flatMap Departure.commands ++ w.conn.pending.commands
  sent : l.gone.filterMap Departure.sent? = w.conn.batches
  filled : [] ∉ w.conn.batches

namespace Balanced

variable {w : World δ κ ρ} {l : Ledger}

theorem note {s : Step ρ} (sent : List (List Command)) (h : Balanced w l)
    (hbatches : (w.step setup s).conn.batches = w.conn.batches ++ sent) (hfilled : [] ∉ sent)
    (hcommands : w.conn.pending.commands ++ w.accepts setup s =
      (w.discards s).flatMap Departure.commands ++
        (sent.flatten ++ (w.step setup s).conn.pending.commands)) :
    Balanced (w.step setup s) (l.note setup w s) := by
  have hdiscards : (w.discards s).filterMap Departure.sent? = [] := by
    cases s with
    | act a =>
      unfold World.discards
      dsimp only
      split <;> rfl
    | _ => rfl
  refine ⟨?_, ?_, ?_⟩
  · simp only [Ledger.note, hbatches, List.drop_left, List.flatMap_append, Departure.flatMap_sent]
    rw [h.commands, List.append_assoc, hcommands]
    simp only [List.append_assoc]
  · simp only [Ledger.note, hbatches, List.drop_left, List.filterMap_append, hdiscards,
      Departure.filterMap_sent, h.sent, List.append_nil]
  · rw [hbatches]
    intro hmem
    exact (List.mem_append.mp hmem).elim h.filled hfilled

theorem step (s : Step ρ) (h : Balanced w l) : Balanced (w.step setup s) (l.note setup w s) := by
  cases s with
  | ask caller request =>
    exact h.note [] (List.append_nil _).symm List.not_mem_nil (List.append_nil _)
  | poll n =>
    cases ht : w.task? n with
    | none =>
      have hstep : w.step setup (.poll n) = w := by simp only [World.step, ht]
      refine h.note [] ?_ List.not_mem_nil ?_
      · rw [hstep, List.append_nil]
      · rw [hstep]
        simp [World.accepts, World.discards, ht]
    | some t =>
      obtain ⟨sent, hflow⟩ := t.operation.poll_flow setup t.caller w.conn
      refine h.note sent ?_ hflow.filled ?_
      · rw [World.step_poll ht, World.conn_answer]
        exact hflow.batches
      · rw [World.step_poll ht, World.conn_answer]
        simpa only [World.accepts, World.discards, ht, List.flatMap_nil, List.nil_append]
          using hflow.commands
  | drop n =>
    cases ht : w.task? n with
    | none =>
      have hstep : w.step setup (.drop n) = w := by simp only [World.step, ht]
      refine h.note [] ?_ List.not_mem_nil ?_
      · rw [hstep, List.append_nil]
      · rw [hstep]
        simp [World.accepts, World.discards]
    | some t =>
      obtain ⟨sent, hflow⟩ := t.operation.drop_flow setup t.caller w.conn
      refine h.note sent ?_ hflow.filled ?_
      · rw [World.step_drop ht]
        exact hflow.batches
      · rw [World.step_drop ht]
        simpa only [World.accepts, World.discards, List.flatMap_nil, List.nil_append]
          using hflow.commands
  | act a =>
    refine h.note [] ?_ List.not_mem_nil ?_
    · rw [List.append_nil]
      exact Connection.batches_congr (World.calls_act setup w a)
    · have hpending := World.pending_act setup w a
      simp only [World.step, World.accepts, World.discards, hpending]
      split <;> simp [Departure.commands]

omit [Cursor κ] in
theorem create (setup : Setup δ κ) (database : δ) :
    Balanced (.create setup database : World δ κ ρ) {} where
  commands := rfl
  sent := rfl
  filled := List.not_mem_nil

end Balanced

/-- What was accepted has left in the order in which it came or is still pending, what was sent is
what the driver was given, and the driver is given no empty batch. -/
theorem World.commands_conserved (setup : Setup δ κ) (database : δ) (steps : List (Step ρ)) :
    let start : World δ κ ρ := .create setup database
    let w := start.run setup steps
    let l := World.account setup (Ledger.note setup) start steps {}
    l.accepted = l.gone.flatMap Departure.commands ++ w.conn.pending.commands ∧
    l.gone.filterMap Departure.sent? = w.conn.batches ∧
    ∀ call ∈ w.calls, call.kind = .batch → call.commands ≠ [] := by
  intro start w l
  have h : Balanced w l :=
    World.account_induction (fun _ _ s _ h => h.step s) (Balanced.create setup database)
  refine ⟨h.commands, h.sent, ?_⟩
  intro call hcall hkind hnil
  apply h.filled
  refine List.mem_map.mpr ⟨call, List.mem_filter.mpr ⟨hcall, ?_⟩, hnil⟩
  exact decide_eq_true hkind

end OneConnection
