import OneConnection.Proofs.Deferred.Hearing

/-!
# Failures of fetches

What a view tells when the cursor of an errand breaks while its result sets are read: the error of
the fetch, with the command of the errand.
-/

namespace OneConnection

variable {δ κ ρ : Type} [Cursor κ] {setup : Setup δ κ}

theorem Reader.Starts.breaks {cursor : κ} {r : Reader κ} (h : r.Starts cursor) {n : Nat}
    {why : Error} (hbreaks : Cursor.Breaks cursor n why) : Cursor.Breaks r n why := by
  obtain ⟨f, rfl, hrow, hresult⟩ := h.exists_within
  exact hbreaks.within hrow hresult

/-! ## Executions -/

section

variable {errands : List Errand} {errand : Errand} {past opened : List (Opened κ)} {c : Command}
  {cursor : κ} {why : Error}

/-- The cursor of an errand that was delivered has all result sets of the errand. -/
theorem Delivered.not_breaks {sets : List ResultSet} {i : Nat}
    (h : Delivered setup errands opened sets) (herrand : errands[i]? = some errand)
    (hcursor : opened[i]? = some ⟨c, some cursor⟩) :
    ¬ Cursor.Breaks cursor errand.sets why := by
  induction h generalizing i with
  | nil => cases herrand
  | cons hlength hsets _ ih =>
    cases i with
    | succ i => exact ih herrand hcursor
    | zero =>
      cases herrand
      cases hcursor
      intro hbreaks
      refine hbreaks.not_hasSet fun i hi => ?_
      rw [← hlength] at hi
      exact ⟨_, hsets i _ (List.getElem?_eq_getElem hi)⟩

namespace Execution

theorem GoesOn.not_breaks (h : GoesOn setup errands (past ++ [⟨c, some cursor⟩]))
    (herrand : errands[past.length]? = some errand) :
    ¬ Cursor.Breaks cursor errand.sets why := by
  obtain ⟨rfl, hdelivered⟩ := h
  have hlength := hdelivered.length_eq
  rw [List.length_append, List.length_singleton] at hlength
  rw [List.getElem?_append_left (by omega)] at herrand
  exact hdelivered.not_breaks herrand List.getElem?_concat_length

theorem Unread.eq_blame {caller : Caller} {contexts : Contexts} {why' : Error}
    (h : Unread caller errand cursor (.failed why') contexts)
    (hbreaks : Cursor.Breaks cursor errand.sets why) : why' = errand.command.blame why := by
  obtain ⟨r, contexts₀, hstarts, hread, -⟩ := h
  rcases Reading.sets_fails caller errand.command contexts₀ (hstarts.breaks hbreaks) with
    hfailed | ⟨reason, hcancelled⟩
  · rw [hread] at hfailed
    cases hfailed
    rfl
  · rw [hread] at hcancelled
    cases hcancelled

end Execution

end

/-! ## Batches -/

namespace Served

variable {k : Nat} {w : World δ κ ρ} {c : Command} {cursor : κ} {past : List (Opened κ)}
  {earlier : List (List (Opened κ))} {b : DeferredBatch} {errand : Errand} {why : Error}

/-- The last command on record is that of the errand in this place. -/
theorem errand_of_last {cursor? : Option κ}
    (h : Served setup k w ((past ++ [⟨c, cursor?⟩]) :: earlier)) (hb : w.conn.batch? k = some b) :
    ∃ errand, (setup.errandsOf b)[past.length]? = some errand ∧
      c = setup.prepare errand.command := by
  have hplanned := h.planned b hb _ List.mem_cons_self
  rw [List.map_append, List.map_singleton, List.prefix_iff_getElem?] at hplanned
  have hlast := hplanned past.length (by simp)
  rw [List.getElem_concat_length (by simp)] at hlast
  unfold Setup.sends at hlast
  rw [List.getElem?_map, Option.map_eq_some_iff] at hlast
  obtain ⟨errand, herrand, hc⟩ := hlast
  exact ⟨errand, herrand, hc.symm⟩

theorem settled_failed (h : Served setup k w ((past ++ [⟨c, some cursor⟩]) :: earlier))
    (hb : w.conn.batch? k = some b) (herrand : (setup.errandsOf b)[past.length]? = some errand)
    (hbreaks : Cursor.Breaks cursor errand.sets why) {result : Settled}
    (hp : b.progress = .settled result) : result = .error (errand.command.blame why) := by
  cases result with
  | ok sets =>
    obtain ⟨opened, earlier', heq, hdelivered⟩ := h.settled b sets hb hp
    cases heq
    exact absurd hbreaks (hdelivered.not_breaks herrand List.getElem?_concat_length)
  | error why' =>
    obtain ⟨opened, earlier', caller, contexts, heq, hhalted⟩ := h.failed b why' hb hp
    cases heq
    rcases hhalted.unread_or_goesOn past with hgoes | ⟨errand', herrand', hunread⟩
    · exact absurd hbreaks (hgoes.not_breaks herrand)
    · rw [herrand] at herrand'
      cases herrand'
      rw [hunread.eq_blame hbreaks]

end Served

end OneConnection
