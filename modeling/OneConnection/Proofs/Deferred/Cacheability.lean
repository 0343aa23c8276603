import OneConnection.Proofs.Deferred.Registering
import OneConnection.Proofs.Deferred.RoundTrips

/-!
# Cacheability

A batch notes down with every query whether a cache may keep the results of all its queries, and in
which region. What it has noted in the end depends on which queries it took and not on their order.
-/

namespace OneConnection

variable {δ κ ρ : Type}

/-- A cache may keep the results of all these queries in one region, or of all without a region. -/
structure CachedTogether (qs : List Query) : Prop where
  nonempty : qs ≠ []
  cacheable : ∀ q ∈ qs, q.cacheable = true
  oneRegion : ∀ q ∈ qs, ∀ q' ∈ qs, q.region = q'.region

theorem CachedTogether.perm {qs qs' : List Query} (hperm : qs'.Perm qs)
    (h : CachedTogether qs) : CachedTogether qs' where
  nonempty hnil := h.nonempty (List.nil_perm.mp (hnil ▸ hperm))
  cacheable q hq := h.cacheable q (hperm.mem_iff.mp hq)
  oneRegion q hq q' hq' := h.oneRegion q (hperm.mem_iff.mp hq) q' (hperm.mem_iff.mp hq')

/-! ## What a batch notes -/

/-- The batch holds these queries, in this order, and has noted what they have in common. -/
structure DeferredBatch.Notes (b : DeferredBatch) (qs : List Query) : Prop where
  queries : b.queries = qs
  region : b.region = qs.head?.bind Query.region
  agrees : b.agrees = true ↔ ∀ q ∈ qs, q.cacheable = true ∧ q.region = b.region

namespace DeferredBatch.Notes

variable {b b' : DeferredBatch} {qs : List Query}

theorem empty : Notes {} [] := ⟨rfl, rfl, by simp⟩

theorem append (h : b.Notes qs) (q : Query) : (b.append q).Notes (qs ++ [q]) := by
  obtain ⟨hqueries, hregion, hagrees⟩ := h
  cases qs with
  | nil =>
    -- The first query gives the batch its region.
    have hempty : b.isEmpty = true := List.isEmpty_iff.mpr hqueries
    have hnone : b.agrees = true := hagrees.mpr (by simp)
    constructor <;> simp [DeferredBatch.append, hqueries, hempty, hnone]
  | cons first rest =>
    have hempty : b.isEmpty = false := by simp [isEmpty, hqueries]
    constructor
    · simp [hqueries]
    · simp [DeferredBatch.append, hempty, hregion]
    · have hflag : (b.append q).agrees = true ↔
          (b.agrees = true ∧ b.region = q.region) ∧ q.cacheable = true := by
        simp [DeferredBatch.append, hempty]
      have hkept : (b.append q).region = b.region := by simp [DeferredBatch.append, hempty]
      rw [hflag, hkept, hagrees, List.forall_mem_append, List.forall_mem_singleton]
      constructor
      · rintro ⟨⟨hall, hsame⟩, hcacheable⟩
        exact ⟨hall, hcacheable, hsame.symm⟩
      · rintro ⟨hall, hcacheable, hsame⟩
        exact ⟨⟨hall, hsame.symm⟩, hcacheable⟩

theorem of_advances (h : b.Notes qs) (hb : b.Advances b') : b'.Notes qs where
  queries := hb.queries.trans h.queries
  region := hb.region.trans h.region
  agrees := by rw [hb.agrees, hb.region, h.agrees]

theorem isCacheable_iff (h : b.Notes qs) : b.isCacheable = true ↔ CachedTogether qs := by
  have hempty : b.isEmpty = false ↔ qs ≠ [] := by simp [isEmpty, h.queries]
  rw [isCacheable, Bool.and_eq_true, Bool.not_eq_true', hempty, h.agrees]
  constructor
  · rintro ⟨hne, hall⟩
    refine ⟨hne, fun q hq => (hall q hq).1, fun q hq q' hq' => ?_⟩
    exact (hall q hq).2.trans (hall q' hq').2.symm
  · rintro ⟨hne, hcacheable, hone⟩
    obtain ⟨first, rest, rfl⟩ := List.exists_cons_of_ne_nil hne
    exact ⟨hne, fun q hq => ⟨hcacheable q hq, (hone q hq _ List.mem_cons_self).trans h.region.symm⟩⟩

/-- Without queries there is no region, and with queries it is that of the first one. -/
theorem cacheRegion_eq_some_iff (h : b.Notes qs) {region : String} :
    b.cacheRegion = some region ↔ CachedTogether qs ∧ ∀ q ∈ qs, q.region = some region := by
  have hagreed : b.cacheRegion = some region ↔ b.agrees = true ∧ b.region = some region := by
    simp [cacheRegion]
  rw [hagreed]
  constructor
  · rintro ⟨hagrees, hregion⟩
    have hne : qs ≠ [] := by
      rintro rfl
      rw [h.region] at hregion
      cases hregion
    have hcacheable : b.isCacheable = true := by
      simp [isCacheable, isEmpty, h.queries, hne, hagrees]
    exact ⟨h.isCacheable_iff.mp hcacheable,
      fun q hq => (h.agrees.mp hagrees q hq).2.trans hregion⟩
  · rintro ⟨htogether, hregion⟩
    have hcacheable := h.isCacheable_iff.mpr htogether
    obtain ⟨first, rest, rfl⟩ := List.exists_cons_of_ne_nil htogether.nonempty
    exact ⟨(Bool.and_eq_true_iff.mp hcacheable).2,
      h.region.trans (hregion first List.mem_cons_self)⟩

end DeferredBatch.Notes

/-! ## Additions -/

section

variable {conn : Connection δ κ} {k : Nat}

theorem Session.batch?_register (q : Query) (s : Session) :
    (s.register q conn).2.2.batch? k =
      if (s.register q conn).1.1 = k then some (((conn.batch? k).getD {}).append q)
      else conn.batch? k := by
  cases hc : s.current? conn with
  | some batch =>
    obtain ⟨b, hb, hopen⟩ := batch?_of_current? hc
    rw [register_open q (Option.filter_eq_some_iff.mp hc).1 hb hopen, Connection.batch?_updateBatch]
    split
    · subst batch
      simp [hb]
    · rfl
  | none =>
    rw [register_fresh q hc, Connection.batch?_updateBatch, Connection.batch?_newBatch]
    by_cases hk : conn.deferred.length = k
    · have hnone : conn.batch? k = none := List.getElem?_eq_none (Nat.le_of_eq hk)
      simp [hk, hnone]
    · simp [hk, Ne.symm hk]

theorem Connection.batch?_addQuery {batch : Nat} {q : Query} {x : Nat × Connection δ κ}
    (h : conn.addQuery batch q = some x) : x.2.batch? k =
      if batch = k then some (((conn.batch? k).getD {}).append q) else conn.batch? k := by
  obtain ⟨b, hb, -, rfl⟩ := addQuery_eq_some h
  rw [batch?_updateBatch]
  split
  · subst batch
    simp [hb]
  · rfl

theorem Connection.getD_batch?_newBatch :
    (conn.newBatch.2.batch? k).getD {} = (conn.batch? k).getD {} := by
  rw [batch?_newBatch]
  split
  · subst k
    simp [batch?]
  · rfl

end

/-! ## Runs -/

namespace World

variable [Cursor κ] {w : World δ κ ρ} {k : Nat}

/-- The query that a batch takes in a step, if the step brings one and it is not refused. -/
def taken? (w : World δ κ ρ) (k : Nat) : Step ρ → Option Query
  | .act (.register q) => if (w.session.register q w.conn).1.1 = k then some q else none
  | .act (.addQuery batch q) =>
    if batch = k ∧ (w.conn.addQuery batch q).isSome then some q else none
  | _ => none

/-- The queries that a batch takes in a run. -/
def taken (setup : Setup δ κ) (w : World δ κ ρ) (steps : List (Step ρ)) (k : Nat) : List Query :=
  w.account setup (fun w s qs => qs ++ (w.taken? k s).toList) steps []

theorem taken_concat (setup : Setup δ κ) (w : World δ κ ρ) (steps : List (Step ρ)) (s : Step ρ)
    (k : Nat) : w.taken setup (steps ++ [s]) k =
      w.taken setup steps k ++ ((w.run setup steps).taken? k s).toList :=
  account_concat ..

theorem act_notes (setup : Setup δ κ) (a : Act) {qs : List Query}
    (h : ((w.conn.batch? k).getD {}).Notes qs) :
    (((w.act setup a).conn.batch? k).getD {}).Notes (qs ++ (w.taken? k (.act a)).toList) := by
  cases hd : a.defers with
  | false =>
    have hnone : w.taken? k (.act a) = none := by
      cases a with
      | register | addQuery => cases hd
      | _ => rfl
    rw [hnone, Connection.batch?_congr (deferred_act setup w hd), Option.toList_none,
      List.append_nil]
    exact h
  | true =>
    cases a with
    | register q =>
      have hbatch : (w.act setup (.register q)).conn.batch? k =
          (w.session.register q w.conn).2.2.batch? k := rfl
      rw [hbatch, Session.batch?_register, taken?]
      split
      · exact h.append q
      · simpa using h
    | newBatch =>
      have hbatch : (w.act setup .newBatch).conn = w.conn.newBatch.2 := rfl
      rw [hbatch, Connection.getD_batch?_newBatch]
      simpa [taken?] using h
    | addQuery batch q =>
      cases hadd : w.conn.addQuery batch q with
      | none => simpa [act, taken?, hadd] using h
      | some x =>
        have hbatch : (w.act setup (.addQuery batch q)).conn = x.2 := by simp only [act, hadd]
        rw [hbatch, Connection.batch?_addQuery hadd, taken?, hadd]
        by_cases hk : batch = k
        · simpa [hk] using h.append q
        · simpa [hk] using h
    | _ => cases hd

theorem step_notes (setup : Setup δ κ) (s : Step ρ) {qs : List Query}
    (h : ((w.conn.batch? k).getD {}).Notes qs) :
    (((w.step setup s).conn.batch? k).getD {}).Notes (qs ++ (w.taken? k s).toList) := by
  by_cases hs : ∃ a, s = .act a
  · obtain ⟨a, rfl⟩ := hs
    exact act_notes setup a h
  · have hnone : w.taken? k s = none := by
      cases s with
      | act a => exact absurd ⟨a, rfl⟩ hs
      | _ => rfl
    have hrel := step_advances setup w (fun a ha => hs ⟨a, ha⟩) k
    rw [hnone, Option.toList_none, List.append_nil]
    generalize w.conn.batch? k = before at hrel h
    generalize (w.step setup s).conn.batch? k = after at hrel ⊢
    cases hrel with
    | none => exact h
    | some hadvances => exact h.of_advances hadvances

/-- A batch has noted all queries that it took. -/
theorem run_notes (setup : Setup δ κ) (database : δ) (steps : List (Step ρ)) {b : DeferredBatch}
    (hb : ((create setup database : World δ κ ρ).run setup steps).conn.batch? k = some b) :
    b.Notes ((create setup database : World δ κ ρ).taken setup steps k) := by
  have h : ((((create setup database : World δ κ ρ).run setup steps).conn.batch? k).getD {}).Notes
      ((create setup database : World δ κ ρ).taken setup steps k) :=
    account_induction (P := fun w qs => ((w.conn.batch? k).getD {}).Notes qs)
      (fun _ _ s _ h => step_notes setup s h) .empty
  rwa [hb] at h

/-- After any run, a batch is cacheable just when it took a query, and all that it took are
cacheable and have the same region or none. Its region is then theirs, and otherwise it has none. A
batch that took the same queries in another order, perhaps in another run, gives the same
answers. -/
theorem batches_cached_together (setup : Setup δ κ) (database : δ) (steps : List (Step ρ))
    {b : DeferredBatch}
    (hb : ((create setup database : World δ κ ρ).run setup steps).conn.batch? k = some b) :
    let taken := (create setup database : World δ κ ρ).taken setup steps k
    b.queries = taken ∧
    (b.isCacheable = true ↔ CachedTogether taken) ∧
    (∀ region, b.cacheRegion = some region ↔
      CachedTogether taken ∧ ∀ q ∈ taken, q.region = some region) ∧
    ∀ steps' k' b',
      ((create setup database : World δ κ ρ).run setup steps').conn.batch? k' = some b' →
      ((create setup database : World δ κ ρ).taken setup steps' k').Perm taken →
      b'.isCacheable = b.isCacheable ∧ b'.cacheRegion = b.cacheRegion := by
  intro taken
  have h : b.Notes taken := run_notes setup database steps hb
  refine ⟨h.queries, h.isCacheable_iff, fun _ => h.cacheRegion_eq_some_iff, ?_⟩
  intro steps' k' b' hb' hperm
  have h' := run_notes setup database steps' hb'
  have htogether := Iff.intro (CachedTogether.perm hperm.symm) (CachedTogether.perm hperm)
  constructor
  · rw [Bool.eq_iff_iff, h'.isCacheable_iff, h.isCacheable_iff, htogether]
  · refine Option.ext fun region => ?_
    rw [h'.cacheRegion_eq_some_iff, h.cacheRegion_eq_some_iff, htogether]
    simp only [hperm.mem_iff]

end World

/-- The third query, without a region, comes when a view has started the batch. -/
theorem batches_cached_together_sealed :
    let query (sql : String) (region : Option String) : Query :=
      { command := { sql }, cacheable := true, region }
    let setup := Setup.answering fun _ => [[], []]
    let first := query "select 1" "users"
    let second := query "select 2" "users"
    let third : Step Nat := .act (.addQuery 0 (query "select 3" none))
    let steps : List (Step Nat) :=
      [.act .newBatch, .act (.addQuery 0 first), .act (.addQuery 0 second),
       .ask .blocking (.view 0 0 fun rows => .ok rows.length), .poll 0]
    let w : World Unit Buffered Nat := .create setup ()
    ∃ b, (w.run setup (steps ++ [third])).conn.batch? 0 = some b ∧ b.isSealed = true ∧
      b.queries = [first, second] ∧ b.isCacheable = true ∧ b.cacheRegion = some "users" ∧
      ∃ b', (w.run setup [.act (.register second), .act (.register first)]).conn.batch? 0 =
          some b' ∧ b'.queries = [second, first] ∧ b'.isSealed = false ∧
        b'.isCacheable = true ∧ b'.cacheRegion = some "users" := by
  intro query setup first second third steps w
  have hsealed : ((w.run setup (steps ++ [third])).conn.batch? 0).map (·.isSealed) =
      some true := by decide +kernel
  obtain ⟨b, hb, hsealed⟩ := Option.map_eq_some_iff.mp hsealed
  have hrefused : (w.run setup steps).taken? 0 third = none :=
    Option.isNone_iff_eq_none.mp (by decide +kernel)
  have htaken : w.taken setup (steps ++ [third]) 0 = [first, second] := by
    rw [World.taken_concat, hrefused]
    rfl
  obtain ⟨hqueries, hcacheable, hregion, horder⟩ :=
    World.batches_cached_together setup () (steps ++ [third]) hb
  rw [htaken] at hqueries hcacheable hregion horder
  have htogether : CachedTogether [first, second] := by
    constructor <;> simp [first, second, query]
  have hshared : b.cacheRegion = some "users" :=
    (hregion "users").mpr ⟨htogether, by simp [first, second, query]⟩
  obtain ⟨hcacheable', hregion'⟩ := horder [.act (.register second), .act (.register first)] 0 _ rfl
    (.swap first second [])
  exact ⟨b, hb, hsealed, hqueries, hcacheable.mpr htogether, hshared, _, rfl, rfl, rfl,
    hcacheable'.trans (hcacheable.mpr htogether), hregion'.trans hshared⟩

end OneConnection
