import OneConnection.Proofs.Deferred.Hearing
import OneConnection.Proofs.Deferred.RoundTrips
import OneConnection.Proofs.Readers.Counting
import OneConnection.Proofs.Replies

/-!
# Counting the result sets of a batch

A combined command has to give a result set for every query of its batch. Where the cursor holds
fewer, all views get one error. Result sets beyond those of the queries are not looked at, so
nothing tells a batch of which a query has several statements.
-/

namespace OneConnection

variable {δ κ ρ : Type} {setup : Setup δ κ}

/-- What the execution of a combined command comes to when its cursor holds `all`. -/
def DeferredBatch.counted (b : DeferredBatch) (all : List ResultSet) : Settled :=
  if b.size ≤ all.length then .ok (all.take b.size)
  else .error ((Command.combine b.commands).resultShapeError
    s!"expected {b.size} result sets, got {all.length}")

variable [Cursor κ]

/-! ## A single errand -/

section

variable {c c' : Command} {n : Nat} {cursor : κ} {all sets : List ResultSet} {caller : Caller}
  {contexts : Contexts}

theorem Delivered.eq_take (hall : Cursor.Holds cursor all)
    (h : Delivered setup [⟨c, n⟩] [⟨c', some cursor⟩] sets) :
    n ≤ all.length ∧ sets = all.take n := by
  obtain ⟨cursor', heq, rfl, hsets⟩ := h.together
  cases heq
  have hinitial : sets <+: all := by
    rw [List.prefix_iff_getElem?]
    intro i hi
    exact hall.getElem?_eq (hsets i _ (List.getElem?_eq_getElem hi))
  exact ⟨hinitial.length_le, List.prefix_iff_eq_take.mp hinitial⟩

theorem Execution.Unread.too_few {why : Error} (hall : Cursor.Holds cursor all)
    (h : Execution.Unread caller ⟨c, n⟩ cursor (.failed why) contexts) :
    all.length < n ∧
      why = c.resultShapeError s!"expected {n} result sets, got {all.length}" := by
  obtain ⟨r, contexts₀, hstarts, hread, -⟩ := h
  exact Reading.sets_eq_failed (hstarts.holds hall) hread

end

/-! ## Polls of a view -/

namespace Viewing

variable {caller : Caller} {k index : Nat} {view : Viewing} {conn : Connection δ κ}

/-- Each poll of the last errand brings the answer nearer. -/
theorem pollsLeft?_work {x : Polled Execution (Except Stop (List ResultSet)) × Connection δ κ}
    {e : Execution} {polls : Nat} (hw : view.work setup caller k conn = some x)
    (hleft : view.pollsLeft? = some polls) (hlast : ∀ e, view = .running e → e.rest = [])
    (hx : x.1 = .waiting e) : ∃ left, (running e).pollsLeft? = some left ∧ polls = left + 1 := by
  cases view with
  | fresh | awaiting => cases hleft
  | running e₀ =>
    have hrest := hlast e₀ rfl
    obtain ⟨errand, call, rest, done⟩ := e₀
    subst hrest
    cases call with
    | waiting => cases hleft
    | sent polls' sent =>
      cases hleft
      cases Option.some.inj hw
      cases polls with
      | succ left =>
        cases hx
        exact ⟨left, rfl, rfl⟩
      | zero =>
        -- The errand is answered, and there is none behind it that could wait.
        obtain ⟨outcome, hanswered⟩ : ∃ outcome,
            (Execution.ask setup caller errand (.sent 0 sent) conn).1 = .ready outcome := ⟨_, rfl⟩
        unfold Execution.resume at hx
        split at hx <;> rename_i heq <;> rw [heq] at hanswered
        · cases hanswered
        · cases hanswered
        · cases hx
        · cases hx

end Viewing

/-! ## Batches in one round trip -/

omit [Cursor κ] in
theorem Setup.errandsOf_together (hmany : setup.driver.capabilities.multipleQueries = true)
    {b : DeferredBatch} (hb : b.isEmpty = false) :
    setup.errandsOf b = [⟨Command.combine b.commands, b.size⟩] := by
  unfold Setup.errandsOf DeferredBatch.errands
  rw [hb, hmany]
  rfl

/-- The only errand is also the last one. -/
theorem Execution.Waits.last (hmany : setup.driver.capabilities.multipleQueries = true)
    {conn₀ conn : Connection δ κ} {before : List (Opened κ)} {b : DeferredBatch} {errand : Errand}
    {rest : List Errand} {done : List ResultSet} {call : Call Opening.Sent}
    (h : Execution.Waits setup conn₀ before (setup.errandsOf b) errand rest done call conn) :
    rest = [] := by
  obtain ⟨done', past, herrands, -, -⟩ := h
  have hlength : (setup.errandsOf b).length ≤ 1 := by
    cases hb : b.isEmpty with
    | true => rw [Setup.errandsOf, DeferredBatch.errands, if_pos hb]; exact Nat.zero_le 1
    | false => rw [Setup.errandsOf_together hmany hb]; exact Nat.le_refl 1
  rw [herrands, List.length_append, List.length_cons] at hlength
  exact List.length_eq_zero_iff.mp (by omega)

namespace Served

variable {k n : Nat} {w : World δ κ ρ} {c : Command} {cursor : κ}
  {earlier executions : List (List (Opened κ))} {b : DeferredBatch} {all : List ResultSet}

/-- A batch that has got a cursor has queries, and the cursor is that of their combined command. -/
theorem together (hmany : setup.driver.capabilities.multipleQueries = true)
    (h : Served setup k w ([⟨c, some cursor⟩] :: earlier)) (hb : w.conn.batch? k = some b) :
    b.isEmpty = false ∧ c = setup.prepare (Command.combine b.commands) ∧
      setup.errandsOf b = [⟨Command.combine b.commands, b.size⟩] := by
  have hplanned := h.planned b hb _ List.mem_cons_self
  cases hempty : b.isEmpty with
  | true =>
    have hnone : setup.errandsOf b = [] := if_pos hempty
    rw [hnone] at hplanned
    exact absurd (List.prefix_nil.mp hplanned) nofun
  | false =>
    have herrands := Setup.errandsOf_together hmany hempty
    rw [herrands] at hplanned
    exact ⟨rfl, (List.cons_prefix_cons.mp hplanned).1, herrands⟩

/-- Whatever the batch has come to follows from the number of result sets. -/
theorem settled_counted (hmany : setup.driver.capabilities.multipleQueries = true)
    (h : Served setup k w ([⟨c, some cursor⟩] :: earlier)) (hb : w.conn.batch? k = some b)
    (hall : Cursor.Holds cursor all) {result : Settled} (hp : b.progress = .settled result) :
    result = b.counted all := by
  obtain ⟨-, -, herrands⟩ := h.together hmany hb
  unfold DeferredBatch.counted
  cases result with
  | ok sets =>
    obtain ⟨opened, earlier', heq, hdelivered⟩ := h.settled b sets hb hp
    cases heq
    rw [herrands] at hdelivered
    obtain ⟨henough, rfl⟩ := hdelivered.eq_take hall
    rw [if_pos henough]
  | error why =>
    obtain ⟨opened, earlier', caller, contexts, heq, hhalted⟩ := h.failed b why hb hp
    cases heq
    rw [herrands] at hhalted
    rcases hhalted.unread_or_goesOn [] with hgoes | ⟨errand, hone, hunread⟩
    · exact hgoes.not_single.elim
    · cases hone
      obtain ⟨hfew, rfl⟩ := hunread.too_few hall
      rw [if_neg (Nat.not_le.mpr hfew)]

end Served

namespace World

/-- After a poll of a view, let the last execution of the batch have the cursor of the combined
command, and let this cursor hold `all`. Unless its caller is cancelled, the view then waits for the
driver, or for the view that does, or it gives what the result sets come to, as every view does from
then on. This is the first result set for the first query and so on, whether or not there are more
of them than queries. If there are fewer, it is one error with both numbers. -/
theorem result_sets_counted (setup : Setup δ κ) (database : δ) (steps : List (Step ρ))
    (hmany : setup.driver.capabilities.multipleQueries = true)
    (hsteps : ∀ caller c, .ask caller (.dispatch c) ∉ steps) {n k index : Nat} {caller : Caller}
    {project : ResultSet → Except Error ρ} {view : Viewing} {c : Command} {cursor : κ}
    {earlier : List (List (Opened κ))} {all : List ResultSet}
    (ht : ((create setup database).run setup steps).task? n =
      some ⟨caller, .viewing k index project view⟩)
    (hrun : (create setup database).executions setup (steps ++ [.poll n]) k =
      [⟨c, some cursor⟩] :: earlier)
    (hall : Cursor.Holds cursor all)
    (hcaller : caller.cancelReason?
      ((create setup database).run setup (steps ++ [.poll n])).conn.contexts = none) :
    let w : World δ κ ρ := (create setup database).run setup steps
    let after := w.step setup (.poll n)
    let polled := ((Operation.viewing k index project view).poll setup caller w.conn).1
    ∃ b, after.conn.batch? k = some b ∧ b.isEmpty = false ∧
      c = setup.prepare (Command.combine b.commands) ∧
      ((b.progress = .settled (b.counted all) ∧
          polled = .ready ((b.counted all).reply index project) ∧
          ∀ later, Recalls setup k (b.counted all) (after.run setup later)) ∨
        (b.progress = .executing ∧ ∃ view', polled = .waiting (.viewing k index project view') ∧
          (view' = .awaiting ∨ ∃ polls, view'.pollsLeft? = some polls ∧
            ∀ before, view.pollsLeft? = some before → before = polls + 1))) := by
  intro w after polled
  rw [run_append] at hcaller
  obtain ⟨t, executed, ha, h, hnote, ha', h'⟩ := Served.run_poll setup database hsteps hrun
  obtain ⟨b, hb⟩ := h'.batch?_isSome
  obtain ⟨hempty, hc, herrands⟩ := h'.together hmany hb
  have hlast : ¬ Execution.GoesOn setup (setup.errandsOf b) ([] ++ [⟨c, some cursor⟩]) := by
    rw [herrands]
    exact Execution.GoesOn.not_single
  refine ⟨b, hb, hempty, hc, ?_⟩
  rcases h.poll_cases ht ha hnote hb (fun h => hlast (h.goesOn [])) with
    ⟨result, hp, hpolled⟩ | ⟨hexec, hpolled⟩ | ⟨hexec, e, x, hpolled, hw, hx, hwaits⟩ |
      ⟨reason, -, hcancelled⟩
  · obtain rfl := h'.settled_counted hmany hb hall hp
    exact .inl ⟨hp, hpolled, Served.recalls_later ha' hb hp⟩
  · exact .inr ⟨hexec, .awaiting, hpolled, .inl rfl⟩
  · have hrest : ∀ e, view = .running e → e.rest = [] := by
      rintro e rfl
      obtain ⟨_, _, _, _, _, _, hwaits⟩ := h.execution ha ht
      exact hwaits.last hmany
    obtain ⟨polls, hpolls⟩ := (hwaits.pollsLeft?_or_goesOn []).resolve_left hlast
    refine .inr ⟨hexec, .running e, hpolled, .inr ⟨polls, hpolls, ?_⟩⟩
    intro before hbefore
    obtain ⟨left, hleft, rfl⟩ := Viewing.pollsLeft?_work hw hbefore hrest hx
    rw [hpolls] at hleft
    rw [Option.some.inj hleft]
  · have hreason : some reason = none := hcancelled.symm.trans hcaller
    cases hreason

end World

/-- Two queries and one result set. -/
theorem result_sets_counted_short :
    let setup := Setup.answering fun _ => [[]]
    let steps : List (Step Nat) :=
      [.act (.register { command := { sql := "select 1" } }),
       .act (.register { command := { sql := "select 2" } }),
       .ask .blocking (.view 0 0 fun rows => .ok rows.length)]
    let after := ((World.create setup ()).run setup steps).step setup (.poll 0)
    ∃ b, after.conn.batch? 0 = some b ∧ b.size = 2 ∧
      ∀ later, Recalls setup 0 (b.counted [[]]) (after.run setup later) := by
  intro setup steps after
  obtain ⟨opened, hrun, hopened⟩ := List.map_eq_singleton_iff.mp
    (show ((World.create setup ()).executions setup (steps ++ [.poll 0]) 0).map
      (·.map fun o => o.cursor.map fun c => (c.sets.map List.length, c.closed)) =
        [[some ([0], false)]] by decide +kernel)
  obtain ⟨⟨c, cursor⟩, rfl, hcursor⟩ := List.map_eq_singleton_iff.mp hopened
  obtain ⟨⟨sets, closed⟩, rfl, hsets⟩ := Option.map_eq_some_iff.mp hcursor
  obtain ⟨hlengths, rfl⟩ := Prod.mk.inj hsets
  obtain ⟨rows, rfl, hrows⟩ := List.map_eq_singleton_iff.mp hlengths
  obtain rfl := List.length_eq_zero_iff.mp hrows
  obtain ⟨b, hb, -, -, ⟨-, -, hrecalls⟩ | ⟨-, view, hwaits, -⟩⟩ :=
    World.result_sets_counted setup () steps rfl (by simp [steps]) rfl hrun (Buffered.holds [] [])
      rfl
  · have hsize : (after.conn.batch? 0).map DeferredBatch.size = some 2 := by decide +kernel
    rw [hb] at hsize
    exact ⟨b, hb, Option.some.inj hsize, hrecalls⟩
  · have hready : ((Operation.viewing 0 0 (fun rows => .ok rows.length) .fresh).poll setup .blocking
        ((World.create setup ()).run setup steps).conn).1.waits (fun _ => true) = false := by
      decide +kernel
    rw [hwaits] at hready
    cases hready

/-- The first query has two statements, so that the driver gives three result sets. The second query
gets the row of the second statement. -/
theorem surplus_set_shifts_rows :
    let row (n : Int64) : Row := ⟨["v"], [.bigInt n]⟩
    let sets : List ResultSet := [[row 1], [row 2], [row 3]]
    let setup := Setup.answering fun _ => sets
    let steps : List (Step (List (Option Int64))) :=
      [.act (.register { command := { sql := "select 1;\nselect 2" } }),
       .act (.register { command := { sql := "select 3" } })]
    let w := (World.create setup ()).run setup steps
    let view := (Request.view 0 1 fun rows =>
      .ok (rows.map fun r => (r.get? 0).bind Value.toInt64?)).start
    setup.driver.capabilities.multipleQueries = true ∧
      (∀ mode c, ∃ cursor, setup.driver.read mode c () = (.after 0 (.ok cursor), ()) ∧
        Cursor.Holds cursor sets) ∧
      sets.length = 3 ∧ (w.conn.batch? 0).map DeferredBatch.size = some 2 ∧
      (view.poll setup .blocking w.conn).1 = .ready (.ok (.projected [some 2])) := by
  intro row sets setup steps w view
  refine ⟨rfl, ?_, rfl, rfl, ?_⟩
  · intro mode c
    cases mode <;> exact ⟨⟨sets, false⟩, rfl, Buffered.holds _ _⟩
  · have hvalue : ((view.poll setup .blocking w.conn).1.answer?.bind fun o =>
        o.value?.bind Reply.projected?) = some [some 2] := by decide +kernel
    obtain ⟨o, ho, hreply⟩ := Option.bind_eq_some_iff.mp hvalue
    obtain ⟨reply, hreply, hprojected⟩ := Option.bind_eq_some_iff.mp hreply
    rw [Polled.answer?_eq_some.mp ho, Outcome.value?_eq_some.mp hreply,
      Reply.projected?_eq_some.mp hprojected]

end OneConnection
