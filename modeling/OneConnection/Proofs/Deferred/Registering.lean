import OneConnection.Proofs.Deferred.Turns

/-!
# Registering

A query keeps the place that it got, and no two queries of a session have the same one. The queries
of a batch that has started stay as they are.
-/

namespace OneConnection

variable {δ κ ρ : Type} [Cursor κ] {setup : Setup δ κ}

/-! ## Aging -/

/-- What time does to a batch. -/
structure DeferredBatch.Ages (b b' : DeferredBatch) : Prop where
  queries : b.queries <+: b'.queries
  fixed : b.isSealed = true → b'.isSealed = true ∧ b'.queries = b.queries

namespace DeferredBatch.Ages

variable {b b' b'' : DeferredBatch}

theorem of_eq (hqueries : b'.queries = b.queries)
    (hsealed : b.isSealed = true → b'.isSealed = true) : b.Ages b' where
  queries := hqueries ▸ List.prefix_rfl
  fixed hs := ⟨hsealed hs, hqueries⟩

theorem refl (b : DeferredBatch) : b.Ages b := of_eq rfl id

theorem trans (h : b.Ages b') (h' : b'.Ages b'') : b.Ages b'' where
  queries := h.queries.trans h'.queries
  fixed hs := by
    obtain ⟨hs', hq⟩ := h.fixed hs
    obtain ⟨hs'', hq'⟩ := h'.fixed hs'
    exact ⟨hs'', hq'.trans hq⟩

theorem getElem? (h : b.Ages b') {i : Nat} {q : Query} (hq : b.queries[i]? = some q) :
    b'.queries[i]? = some q := by
  obtain ⟨later, hlater⟩ := h.queries
  obtain ⟨hlt, -⟩ := List.getElem?_eq_some_iff.mp hq
  rw [← hlater, List.getElem?_append_left hlt, hq]

theorem of_grows (h : b.Grows b') : b.Ages b' where
  queries := h.queries
  fixed hs := ⟨h.isSealed.trans hs, h.fixed hs⟩

theorem of_advances (h : b.Advances b') : b.Ages b' := of_eq h.queries h.isSealed

theorem start (b : DeferredBatch) : b.Ages b.start := of_advances (.start b)

theorem after (b : DeferredBatch) (y : Polled Execution (Except Stop (List ResultSet))) :
    b.Ages (b.after y) :=
  of_advances (.after b y)

end DeferredBatch.Ages

namespace World

variable {w : World δ κ ρ} {k : Nat} {b : DeferredBatch}

theorem step_ages (setup : Setup δ κ) (s : Step ρ) (hb : w.conn.batch? k = some b) :
    ∃ b', (w.step setup s).conn.batch? k = some b' ∧ b.Ages b' := by
  by_cases hs : ∃ a, s = .act a
  · obtain ⟨a, rfl⟩ := hs
    obtain ⟨b', hb', hgrows⟩ := (act_grown setup w a).old k b hb
    exact ⟨b', hb', .of_grows hgrows⟩
  · have hrel := step_advances setup w (fun a ha => hs ⟨a, ha⟩) k
    rw [hb] at hrel
    generalize (w.step setup s).conn.batch? k = batch at hrel ⊢
    cases hrel with
    | some hadvances => exact ⟨_, rfl, .of_advances hadvances⟩

theorem run_ages (setup : Setup δ κ) (steps : List (Step ρ)) (hb : w.conn.batch? k = some b) :
    ∃ b', (w.run setup steps).conn.batch? k = some b' ∧ b.Ages b' := by
  refine run_induction (P := fun w => ∃ b', w.conn.batch? k = some b' ∧ b.Ages b') ?_
    ⟨b, hb, .refl b⟩
  rintro w s - ⟨b', hb', hage⟩
  obtain ⟨b'', hb'', hage'⟩ := step_ages setup s hb'
  exact ⟨b'', hb'', hage.trans hage'⟩

end World

/-! ## Places -/

namespace Session

variable {s : Session} {conn : Connection δ κ} {k : Nat} {b : DeferredBatch}

omit [Cursor κ]

end Session

/-- A query that is registered now comes behind the queries of `b`, and the next one may follow
it. -/
structure World.Registers (setup : Setup δ κ) (w : World δ κ ρ) (q : Query) (k : Nat)
    (b : DeferredBatch) : Prop where
  registration : (w.step setup (.act (.register q))).registrations =
    w.registrations ++ [⟨k, b.size, q⟩]
  batch : (w.step setup (.act (.register q))).conn.batch? k = some (b.append q)
  session : (w.step setup (.act (.register q))).session.latest = some k

namespace World

variable {w : World δ κ ρ} {k : Nat} {b : DeferredBatch}

theorem Registers.of_register {conn : Connection δ κ} {q : Query}
    (h : w.session.register q w.conn = ((k, b.size), ⟨some k⟩, conn))
    (hb : conn.batch? k = some (b.append q)) : Registers setup w q k b where
  registration := congrArg (fun x => w.registrations ++ [⟨x.1.1, x.1.2, q⟩]) h
  batch := (congrArg (fun x => x.2.2.batch? k) h).trans hb
  session := congrArg (fun x => x.2.1.latest) h

theorem registers_open (setup : Setup δ κ) (q : Query) (hs : w.session.latest = some k)
    (hb : w.conn.batch? k = some b) (hopen : b.isSealed = false) : Registers setup w q k b := by
  apply Registers.of_register (Session.register_open q hs hb hopen)
  rw [Connection.batch?_updateBatch, if_pos rfl, hb]
  rfl

theorem registers_fresh (setup : Setup δ κ) (q : Query) (h : w.session.current? w.conn = none) :
    ∃ k, w.conn.batch? k = none ∧ Registers setup w q k {} := by
  refine ⟨w.conn.deferred.length, List.getElem?_eq_none (Nat.le_refl _), ?_⟩
  apply Registers.of_register (Session.register_fresh q h)
  rw [Connection.batch?_updateBatch, if_pos rfl, Connection.batch?_newBatch, if_pos rfl]
  rfl

/-- Every query gets a place behind those that have one in the same batch. -/
theorem registers (setup : Setup δ κ) (w : World δ κ ρ) (q : Query) :
    ∃ k b, Registers setup w q k b ∧
      (w.conn.batch? k = some b ∨ w.conn.batch? k = none ∧ b = {}) := by
  cases hc : w.session.current? w.conn with
  | some k =>
    obtain ⟨b, hb, hopen⟩ := Session.batch?_of_current? hc
    exact ⟨k, b, registers_open setup q (Option.filter_eq_some_iff.mp hc).1 hb hopen, .inl hb⟩
  | none =>
    obtain ⟨k, hb, hk⟩ := registers_fresh setup q hc
    exact ⟨k, {}, hk, .inr ⟨hb, rfl⟩⟩

end World

theorem World.registrations_step (setup : Setup δ κ) (w : World δ κ ρ) {s : Step ρ}
    (hs : ∀ q, s ≠ .act (.register q)) :
    (w.step setup s).registrations = w.registrations ∧
      ((w.step setup s).session = w.session ∨ (w.step setup s).session = {}) := by
  cases s with
  | ask caller request => exact ⟨rfl, .inl rfl⟩
  | poll n =>
    cases ht : w.task? n with
    | none => simp [step, ht]
    | some t =>
      rw [step_poll ht]
      rcases t.operation.poll setup t.caller w.conn with ⟨_ | _ | _, conn⟩ <;>
        exact ⟨rfl, .inl rfl⟩
  | drop n =>
    cases ht : w.task? n with
    | none => simp [step, ht]
    | some t =>
      rw [step_drop ht]
      exact ⟨rfl, .inl rfl⟩
  | act a =>
    cases a with
    | register q => exact absurd rfl (hs q)
    | close | abandon => exact ⟨rfl, .inr rfl⟩
    | addQuery | use | closeReader | dropReader =>
      simp only [step, act]
      split <;> exact ⟨rfl, .inl rfl⟩
    | _ => exact ⟨rfl, .inl rfl⟩

/-- Every registration has its query at its place, and no other has the same place. -/
structure Registered (w : World δ κ ρ) : Prop where
  kept : ∀ r ∈ w.registrations,
    ∃ b, w.conn.batch? r.batch = some b ∧ b.queries[r.index]? = some r.query
  distinct : w.registrations.Pairwise fun r r' => (r.batch, r.index) ≠ (r'.batch, r'.index)
  session : ∀ k, w.session.latest = some k →
    w.registrations.getLast?.map (·.batch) = some k

namespace Registered

variable {w : World δ κ ρ}

theorem register (q : Query) (h : Registered w) :
    Registered (w.step setup (.act (.register q))) := by
  obtain ⟨k, b, hreg, hold⟩ := World.registers setup w q
  have hplaced : (b.append q).queries[b.size]? = some q := List.getElem?_concat_length
  refine ⟨?_, ?_, ?_⟩
  · intro r hr
    rw [hreg.registration] at hr
    rcases List.mem_append.mp hr with hr | hr
    · obtain ⟨b₀, hb₀, hq⟩ := h.kept r hr
      obtain ⟨b', hb', hage⟩ := World.step_ages setup (.act (.register q)) hb₀
      exact ⟨b', hb', hage.getElem? hq⟩
    · rw [List.mem_singleton.mp hr]
      exact ⟨b.append q, hreg.batch, hplaced⟩
  · rw [hreg.registration]
    refine List.pairwise_append.mpr ⟨h.distinct, List.pairwise_singleton _ _, ?_⟩
    intro r hr r' hr' heq
    rw [List.mem_singleton.mp hr'] at heq
    obtain ⟨b₀, hb₀, hq⟩ := h.kept r hr
    obtain ⟨hk, hindex⟩ := Prod.mk.inj heq
    dsimp only at hk hindex
    rw [hk] at hb₀
    rw [hindex] at hq
    rcases hold with hk | ⟨hk, rfl⟩ <;> rw [hk] at hb₀ <;> cases hb₀
    exact absurd (List.getElem?_eq_some_iff.mp hq).1 (Nat.lt_irrefl _)
  · intro k' hk'
    rw [hreg.session] at hk'
    cases hk'
    rw [hreg.registration, List.getLast?_concat]
    rfl

theorem step (s : Step ρ) (h : Registered w) : Registered (w.step setup s) := by
  by_cases hs : ∃ q, s = .act (.register q)
  · obtain ⟨q, rfl⟩ := hs
    exact h.register q
  · obtain ⟨hregistrations, hsession⟩ :=
      World.registrations_step setup w fun q hq => hs ⟨q, hq⟩
    constructor
    · intro r hr
      rw [hregistrations] at hr
      obtain ⟨b, hb, hq⟩ := h.kept r hr
      obtain ⟨b', hb', hage⟩ := World.step_ages setup s hb
      exact ⟨b', hb', hage.getElem? hq⟩
    · rw [hregistrations]
      exact h.distinct
    · intro k hk
      rw [hregistrations]
      rcases hsession with hs | hs <;> rw [hs] at hk
      · exact h.session k hk
      · cases hk

omit [Cursor κ] in
theorem create (setup : Setup δ κ) (database : δ) :
    Registered (.create setup database : World δ κ ρ) where
  kept _ hr := nomatch hr
  distinct := .nil
  session _ hk := nomatch hk

omit [Cursor κ] in
theorem batch?_of_latest (h : Registered w) {k : Nat} (hk : w.session.latest = some k) :
    ∃ b, w.conn.batch? k = some b := by
  obtain ⟨r, hr, rfl⟩ := Option.map_eq_some_iff.mp (h.session k hk)
  obtain ⟨b, hb, -⟩ := h.kept r (List.mem_of_getLast? hr)
  exact ⟨b, hb⟩

theorem run (setup : Setup δ κ) (database : δ) (steps : List (Step ρ)) :
    Registered ((World.create setup database).run setup steps) :=
  World.run_induction (fun _ s _ h => h.step s) (create setup database)

end Registered

end OneConnection
