import OneConnection.Proofs.Discipline.Operations

/-!
# Waiting operations

An operation that has no call on its way leaves a busy connection to whoever has one. Going away is
no way to reach the driver either.
-/

namespace OneConnection

variable {δ κ ρ : Type} [Cursor κ] {setup : Setup δ κ} {conn conn' : Connection δ κ}

/-- What waiting leaves alone: everything but the batches, pending and deferred, and the counts. -/
structure Aside (conn conn' : Connection δ κ) : Prop where
  database : conn'.database = conn.database
  access : conn'.access = conn.access
  registry : conn'.registry = conn.registry
  readers : conn'.readers = conn.readers
  contexts : conn'.contexts = conn.contexts
  history : conn'.history = conn.history

omit [Cursor κ] in
theorem Aside.refl (conn : Connection δ κ) : Aside conn conn := ⟨rfl, rfl, rfl, rfl, rfl, rfl⟩

theorem Sound.aside {strict busy : Bool} {held : List Handle} {out : Option (Nat × κ)}
    (h : Sound strict held busy out conn) (ha : Aside conn conn') :
    Sound strict held busy out conn' where
  access := by
    unfold Connection.isBusy
    rw [ha.access]
    exact h.access
  order := by
    rw [ha.registry, ha.readers]
    exact h.order
  alone := by
    rw [ha.history]
    exact h.alone

/-! ## Polls of a busy connection -/

omit [Cursor κ] in
/-- A call that waits goes on waiting or fails. -/
theorem Protocol.poll_aside {β α : Type} (p : Protocol δ κ β α) (caller : Caller)
    (hb : conn.access = .held) :
    Polled.Ensures (fun o c => o.isFailure = true ∧ c = conn)
      (fun call c => call = .waiting ∧ c = conn)
      (fun _ => False) (p.poll caller .waiting conn) := by
  simp only [Protocol.poll, hb]
  split
  · exact ⟨rfl, rfl⟩
  · exact ⟨rfl, rfl⟩
  · contradiction
  · exact ⟨rfl, rfl⟩
  · contradiction

theorem Execution.aside_leads (setup : Setup δ κ) (caller : Caller) (hb : conn.access = .held) :
    Execution.Leads setup caller (fun _ _ _ call c => call = .waiting ∧ Aside conn c)
      (fun _ _ => Aside conn) (fun _ => Aside conn) (Aside conn) where
  begins _ _ _ _ h := ⟨rfl, h⟩
  asks errand rest done call c h := by
    obtain ⟨rfl, h⟩ := h
    have ho := Protocol.poll_aside (Opening.protocol setup caller errand.command) caller
      (h.access.trans hb)
    unfold Execution.ask Opening.poll
    split <;> rename_i heq <;> rw [heq] at ho
    · exact ⟨ho.1, ho.2 ▸ h⟩
    · cases ho
    · obtain ⟨hfail, rfl⟩ := ho
      rename_i opened _
      cases opened with
      | ok x => cases hfail
      | error | cancelled | panicked => exact h

omit [Cursor κ] in
theorem Viewing.proceed_aside (batch index : Nat) {c : Connection δ κ}
    {x : Polled Execution (Except Stop (List ResultSet)) × Connection δ κ}
    (h : Polled.Ensures (Execution.Ends (fun _ _ => Aside c) fun _ => Aside c)
      (fun e c' => e.call = .waiting ∧ Aside c c') (Aside c) x) :
    Polled.Ensures (fun _ => Aside c) (fun view c' => view.flight? = none ∧ Aside c c') (Aside c)
      (Viewing.proceed batch index x) := by
  obtain ⟨r | e | message, conn⟩ := x
  · rcases r with (reason | why) | sets <;>
      exact ⟨h.database, h.access, h.registry, h.readers, h.contexts, h.history⟩
  · refine ⟨?_, h.2⟩
    show e.call.flight? _ = none
    rw [h.1]
    rfl
  · exact ⟨h.database, h.access, h.registry, h.readers, h.contexts, h.history⟩

theorem Viewing.poll_aside (setup : Setup δ κ) (caller : Caller) (batch index : Nat)
    (view : Viewing) (hb : conn.access = .held) (hf : view.flight? = none) :
    Polled.Ensures (fun _ => Aside conn) (fun view c => view.flight? = none ∧ Aside conn c)
      (Aside conn) (view.poll setup caller batch index conn) := by
  have hleads := Execution.aside_leads setup caller hb
  unfold Viewing.poll
  cases ht : view.turn caller batch conn with
  | refused | lost | recalls => exact .refl conn
  | waits => exact ⟨rfl, .refl conn⟩
  | starts b =>
    refine proceed_aside batch index (Execution.run_ensures hleads _ _ _ ?_)
    exact ⟨rfl, rfl, rfl, rfl, rfl, rfl⟩
  | resumes e =>
    obtain rfl := Viewing.turn_resumes ht
    have hw : e.call = .waiting := by
      cases hc : e.call with
      | waiting => rfl
      | sent polls b => simp [flight?, Execution.flight?, Call.flight?, hc] at hf
    exact proceed_aside batch index
      (Execution.resume_ensures hleads e conn ⟨hw, .refl conn⟩)

theorem Adding.poll_aside (setup : Setup δ κ) (caller : Caller) (state : Adding)
    (hb : conn.access = .held) (hf : state.flight? = none) :
    Polled.Ensures (fun _ => Aside conn) (fun state c => state.flight? = none ∧ Aside conn c)
      (Aside conn) (state.poll setup caller conn) := by
  have hflush : ∀ c : Connection δ κ, c.access = .held → Aside conn c →
      Polled.Ensures (fun _ => Aside conn)
        (fun (state : Adding) c => state.flight? = none ∧ Aside conn c) (Aside conn)
        (Adding.flush setup caller .waiting c) := by
    intro c hb ha
    refine Polled.ensures_within (f := Outcome.map fun _ => ()) (g := Adding.flushing) ?_ ?_
      (Polled.ensures_mono (fun _ _ h => h) (fun _ _ h => h) (fun _ h => h.elim)
        (Protocol.poll_aside (Flushing.protocol setup caller.mode) caller hb))
    · rintro _ _ ⟨-, rfl⟩
      exact ha
    · rintro _ _ ⟨rfl, rfl⟩
      exact ⟨rfl, ha⟩
  cases state with
  | flushing call =>
    cases call with
    | waiting => exact hflush conn hb (.refl conn)
    | sent polls b => cases hf
  | fresh c =>
    have hpush : Aside conn (conn.push setup c).2 := ⟨rfl, rfl, rfl, rfl, rfl, rfl⟩
    simp only [Adding.poll]
    split
    · exact .refl conn
    · split <;> rename_i heq <;> rw [heq] at hpush
      · exact hflush _ (hpush.access.trans hb) hpush
      · exact hpush

theorem Listing.poll_aside {α : Type} (setup : Setup δ κ) (caller : Caller) (c : Command)
    (decoder : RowDecoder α) (call : Call Opening.Sent) (hb : conn.access = .held)
    (hf : call.flight? (·.place.value?) = none) :
    Polled.Ensures (fun _ => Aside conn)
      (fun call c => call.flight? (·.place.value?) = none ∧ Aside conn c)
      (Aside conn) (Listing.poll setup caller c decoder call conn) := by
  cases call with
  | sent polls b => cases hf
  | waiting =>
    have ho := Protocol.poll_aside (Opening.protocol setup caller c) caller hb
    unfold Listing.poll Opening.poll
    split <;> rename_i heq <;> rw [heq] at ho
    · obtain ⟨rfl, rfl⟩ := ho
      exact ⟨rfl, .refl _⟩
    · cases ho
    · cases ho.1
    all_goals
      obtain ⟨-, rfl⟩ := ho
      exact .refl _

namespace Operation

theorem poll_aside (setup : Setup δ κ) (caller : Caller) (operation : Operation ρ)
    (hb : conn.access = .held) (hf : operation.flight? = none) (hd : operation.isDirect = false) :
    Polled.Ensures (fun o c => o.handle? = none ∧ Aside conn c)
      (fun (next : Operation ρ) c => next.flight? = none ∧ next.isDirect = false ∧ Aside conn c)
      (Aside conn) (operation.poll setup caller conn) := by
  have hcall : ∀ {β α : Type} (p : Protocol δ κ β α) (place : β → Option Nat) (call : Call β)
      (f : α → Reply ρ) (g : Call β → Operation ρ), call.flight? place = none →
      (g .waiting).flight? = none → (g .waiting).isDirect = false →
        Polled.Ensures (fun o c => o.handle? = none ∧ Aside conn c)
          (fun (next : Operation ρ) c => next.flight? = none ∧ next.isDirect = false ∧ Aside conn c)
          (Aside conn)
          (((p.poll caller call conn).1.map (Outcome.map f)).within g,
            (p.poll caller call conn).2) := by
    intro β α p place call f g hc hg hgd
    cases call with
    | sent polls b => cases hc
    | waiting =>
      refine Polled.ensures_within ?_ ?_ (Polled.ensures_mono (fun _ _ h => h) (fun _ _ h => h)
        (fun _ h => h.elim) (Protocol.poll_aside p caller hb))
      · rintro (a | why | reason | message) _ ⟨ho, rfl⟩
        · cases ho
        all_goals exact ⟨rfl, .refl _⟩
      · rintro _ _ ⟨rfl, rfl⟩
        exact ⟨hg, hgd, .refl _⟩
  cases operation with
  | adding state =>
    refine Polled.ensures_within ?_ ?_ (Adding.poll_aside setup caller state hb hf)
    · rintro (_ | _ | _ | _) _ h <;> exact ⟨rfl, h⟩
    · exact fun _ _ h => ⟨h.1, rfl, h.2⟩
  | flushing call => exact hcall _ (fun _ => none) call _ _ hf rfl rfl
  | executing c call => exact hcall _ (fun _ => none) call _ _ hf rfl rfl
  | opening c call =>
    exact hcall _ (fun sent : Opening.Sent => sent.place.value?) call _ _ hf rfl rfl
  | listing c decoder call =>
    refine Polled.ensures_within ?_ ?_ (Listing.poll_aside setup caller c decoder call hb hf)
    · rintro (_ | _ | _ | _) _ h <;> exact ⟨rfl, h⟩
    · exact fun _ _ h => ⟨h.1, rfl, h.2⟩
  | viewing batch index project view =>
    refine Polled.ensures_within ?_ ?_
      (Viewing.poll_aside setup caller batch index view hb hf)
    · rintro (rows | _ | _ | _) _ h
      · refine ⟨?_, h⟩
        simp only [Outcome.andThen]
        cases project rows <;> rfl
      all_goals exact ⟨rfl, h⟩
    · exact fun _ _ h => ⟨h.1, rfl, h.2⟩
  | dispatching state => cases hd

theorem aside_poll (setup : Setup δ κ) (caller : Caller) (operation : Operation ρ)
    (hb : conn.access = .held) (hf : operation.flight? = none) (hd : operation.isDirect = false) :
    Aside conn (operation.poll setup caller conn).2 :=
  Polled.ensures_const.mp (Polled.ensures_mono (fun _ _ h => h.2) (fun _ _ h => h.2.2)
    (fun _ h => h) (poll_aside setup caller operation hb hf hd))

/-- An operation whose call is on its way changes nothing before the driver answers. -/
theorem poll_sent (setup : Setup δ κ) (conn : Connection δ κ) (caller : Caller)
    {operation : Operation ρ} {polls : Nat} {place : Option Nat}
    (hf : operation.flight? = some (polls + 1, place)) :
    (operation.poll setup caller conn).2 = conn := by
  have hcall : ∀ {β : Type} {g : β → Option Nat} {call : Call β},
      call.flight? g = some (polls + 1, place) → ∃ b, call = .sent (polls + 1) b := by
    intro β g call hc
    cases call with
    | waiting => cases hc
    | sent n b =>
      cases hc
      exact ⟨b, rfl⟩
  cases operation with
  | adding state =>
    cases state with
    | fresh c => cases hf
    | flushing call =>
      obtain ⟨b, rfl⟩ := hcall hf
      rfl
  | flushing call | executing c call | opening c call | listing c decoder call =>
    obtain ⟨b, rfl⟩ := hcall hf
    rfl
  | viewing batch index project view =>
    cases view with
    | fresh | awaiting => cases hf
    | running e =>
      obtain ⟨b, hb⟩ := hcall hf
      obtain ⟨errand, call, rest, done⟩ := e
      cases hb
      rfl
  | dispatching state =>
    cases state with
    | fresh c => cases hf
    | sent n p =>
      cases hf
      rfl

/-! ## Going away -/

theorem drop_aside (setup : Setup δ κ) (conn : Connection δ κ) (caller : Caller)
    {operation : Operation ρ} (hf : operation.flight? = none) :
    Aside conn (operation.drop setup caller conn) := by
  have hcall : ∀ {β α : Type} (p : Protocol δ κ β α) {g : β → Option Nat} {call : Call β},
      call.flight? g = none → Aside conn (p.drop call conn) := by
    intro β α p g call hc
    cases call with
    | waiting => exact .refl conn
    | sent n b => cases hc
  cases operation with
  | adding state =>
    cases state with
    | fresh c => exact .refl conn
    | flushing call => exact hcall (Flushing.protocol setup caller.mode) hf
  | flushing call => exact hcall (Flushing.protocol setup caller.mode) hf
  | executing c call => exact hcall (Executing.protocol setup caller.mode c) hf
  | opening c call => exact hcall (Opening.protocol setup caller c) hf
  | listing c decoder call => exact hcall (Opening.protocol setup caller c) hf
  | viewing batch index project view =>
    cases view with
    | fresh | awaiting => exact .refl conn
    | running e =>
      have h := hcall (Opening.protocol setup caller e.errand.command) hf
      exact ⟨h.database, h.access, h.registry, h.readers, h.contexts, h.history⟩
  | dispatching state =>
    cases state with
    | fresh c => exact .refl conn
    | sent n p => cases hf

theorem history_drop (caller : Caller) (operation : Operation ρ) :
    (operation.drop setup caller conn).history = conn.history := by
  have hopening : ∀ (c : Command) (call : Call Opening.Sent),
      (Opening.drop setup caller c call conn).history = conn.history := by
    intro c call
    rcases call with _ | ⟨n, command, _ | _ | _ | _⟩ <;> rfl
  cases operation with
  | adding state => rcases state with c | _ | _ <;> rfl
  | flushing call => cases call <;> rfl
  | executing c call => cases call <;> rfl
  | opening c call => exact hopening c call
  | listing c decoder call => exact hopening c call
  | viewing batch index project view =>
    cases view with
    | fresh | awaiting => rfl
    | running e => exact hopening e.errand.command e.call
  | dispatching state => rcases state with c | ⟨n, _ | _ | _ | _⟩ <;> rfl

end Operation

end OneConnection
