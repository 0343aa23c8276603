import OneConnection.Proofs.Lending.Tidy
import OneConnection.Proofs.Replies

/-!
# Readings that are cut

A caller may turn out to be cancelled between two rows. The reading of a deferred batch stops there.
A list never looks at its caller between two rows and reads on to the end.
-/

namespace OneConnection

variable {δ κ ρ : Type} [Cursor κ]

/-! ## Rows one by one -/

section

variable {α : Type} {read : Row → Except Error α}

theorem Cursor.collect_of_row {cursor : κ} {row : Row} {item : α}
    (hrow : (nextRow cursor).result = .ok (some row)) (hread : read row = .ok item) :
    collect read cursor =
      ((collect read (nextRow cursor).cursor).map (item :: ·)).after (nextRow cursor).cancels := by
  rw [collect]
  split
  · simp_all
  · simp_all
  · rename_i row' hrow'
    cases hrow.symm.trans hrow'
    simp only [hread]

omit [Cursor κ] in
theorem mapM_cons_eq_ok {row : Row} {rows : ResultSet} {items : List α}
    (h : (row :: rows).mapM read = .ok items) :
    ∃ item others, read row = .ok item ∧ rows.mapM read = .ok others ∧ items = item :: others := by
  rw [List.mapM_cons] at h
  cases hitem : read row with
  | error why =>
    rw [hitem] at h
    cases h
  | ok item =>
    cases hothers : rows.mapM read with
    | error why =>
      rw [hitem, hothers] at h
      cases h
    | ok others =>
      rw [hitem, hothers] at h
      cases h
      exact ⟨item, others, rfl, rfl, rfl⟩

end

/-! ## Cuts -/

/-- Between two fetches from the cursor, behind `rows`, the caller is found to be cancelled. The
cursor and the contexts that there are then come last. -/
inductive Reading.Cut (caller : Caller) (reason : CancelReason) :
    κ → Contexts → ResultSet → κ → Contexts → Prop
  | now {cursor : κ} {contexts : Contexts} : caller.cancelReason? contexts = some reason →
      Cut caller reason cursor contexts [] cursor contexts
  | later {cursor left : κ} {contexts contexts' : Contexts} {row : Row} {rows : ResultSet} :
      caller.cancelReason? contexts = none → (Cursor.nextRow cursor).result = .ok (some row) →
      Cut caller reason (Cursor.nextRow cursor).cursor
        (contexts.cancelAll (Cursor.nextRow cursor).cancels) rows left contexts' →
      Cut caller reason cursor contexts (row :: rows) left contexts'

namespace Reading.Cut

variable {caller : Caller} {reason : CancelReason} {cursor left : κ}
  {contexts contexts' : Contexts} {rows : ResultSet}

/-- Nothing is fetched after the cut. -/
theorem set_eq (h : Cut caller reason cursor contexts rows left contexts') (c : Command) :
    set caller c cursor contexts = ⟨.error (.cancelled reason), left, contexts'⟩ := by
  induction h with
  | now hcancelled =>
    rw [set]
    simp only [hcancelled]
  | later hnone hrow _ ih =>
    rw [set]
    simp only [hnone]
    split
    · simp_all
    · simp_all
    · rw [ih]
      rfl

theorem sets_eq (h : Cut caller reason cursor contexts rows left contexts') (c : Command)
    {wanted : Nat} (hwanted : 0 < wanted) :
    sets caller c wanted cursor contexts = ⟨.error (.cancelled reason), left, contexts'⟩ := by
  obtain ⟨n, rfl⟩ := Nat.exists_eq_add_of_lt hwanted
  rw [Nat.zero_add, sets, h.set_eq c]
  rfl

/-- A loop that does not look at its caller goes on behind the cut as if it began there. -/
theorem collect_eq {β : Type} {read : Row → Except Error β} {items : List β}
    (h : Cut caller reason cursor contexts rows left contexts')
    (hitems : rows.mapM read = .ok items) :
    ∃ cancels, contexts' = contexts.cancelAll cancels ∧
      Cursor.collect read cursor = ((Cursor.collect read left).map (items ++ ·)).after cancels := by
  induction h generalizing items with
  | @now cursor =>
    cases hitems
    refine ⟨[], rfl, ?_⟩
    generalize Cursor.collect read cursor = rest
    obtain ⟨_ | _, cursor', cancels⟩ := rest <;> rfl
  | @later cursor left contexts contexts' row rows hnone hrow _ ih =>
    obtain ⟨item, others, hitem, hothers, rfl⟩ := mapM_cons_eq_ok hitems
    obtain ⟨cancels, hcontexts, hrest⟩ := ih hothers
    refine ⟨(Cursor.nextRow cursor).cancels ++ cancels, ?_, ?_⟩
    · rw [hcontexts]
      exact List.foldl_append.symm
    · rw [Cursor.collect_of_row hrow hitem, hrest]
      generalize Cursor.collect read left = rest
      obtain ⟨_ | _, cursor', later⟩ := rest <;>
        simp [Fetch.map, Fetch.after, Except.map]

end Reading.Cut

/-! ## Readers that are read and given back -/

namespace Connection

variable {conn : Connection δ κ}

/-- A reader was read up to what is left of it, and is given back. -/
def readTo (h : Handle) (left : Reader κ) (contexts : Contexts) (conn : Connection δ κ) :
    Connection δ κ :=
  { conn with readers := conn.readers.update h.place fun _ => left, contexts }.closeReader h

theorem isClosed_closeReader (hκ : ∀ c : κ, Cursor.isClosed (Cursor.close c) = true) (h : Handle)
    (conn : Connection δ κ) : (conn.closeReader h).readers.isClosed h.place = true :=
  Readers.isClosed_closeOpen hκ h.place conn.readers

theorem not_mem_ids_closeReader (h : Handle) (conn : Connection δ κ) :
    h.id ∉ (conn.closeReader h).registry.ids := by
  have hkeys : (conn.closeReader h).registry.keys = conn.registry.keys.filter (· ≠ h.id) :=
    Registry.keys_untrack h.id conn.registry
  simp [hkeys]

end Connection

section

variable {caller : Caller} {reason : CancelReason} {h : Handle} {reader left : Reader κ}
  {conn opened : Connection δ κ} {rows : ResultSet} {contexts : Contexts}

theorem Execution.read_cut (hreader : conn.readers.get? h.place = some reader)
    (hcut : Reading.Cut caller reason reader conn.contexts rows left contexts) {errand : Errand}
    (hsets : 0 < errand.sets) :
    read caller errand h conn = (.error (.cancelled reason), conn.readTo h left contexts) := by
  simp only [read, hreader, hcut.sets_eq errand.command hsets]
  rfl

theorem Listing.poll_cut {setup : Setup δ κ} {α : Type} {c : Command} {decoder : RowDecoder α}
    {call : Call Opening.Sent} {items : List α}
    (hopen : Opening.poll setup caller c call conn = (.ready (.ok h), opened))
    (hreader : opened.readers.get? h.place = some reader)
    (hcut : Reading.Cut caller reason reader opened.contexts rows left contexts)
    (hitems : decoder.decodeAll rows = .ok items) :
    let rest := Cursor.collect decoder.decode left
    poll setup caller c decoder call conn =
      (.ready (.ofExcept (rest.result.map (items ++ ·))),
        opened.readTo h rest.cursor (contexts.cancelAll rest.cancels)) := by
  intro rest
  obtain ⟨cancels, rfl, hcollect⟩ := hcut.collect_eq hitems
  have hfetch : opened.readers.fetch h.place (Cursor.collect decoder.decode) =
      { result := rest.result.map (items ++ ·)
        cursor := opened.readers.update h.place fun _ => rest.cursor
        cancels := cancels ++ rest.cancels } := by
    simp only [Readers.fetch, hreader, hcollect, Readers.update]
    rw [← List.set_eq_modify]
    rfl
  simp only [poll, hopen, decode, Connection.fetch, hfetch]
  simp only [Connection.readTo, Connection.setReaders, Connection.cancelAll, Contexts.cancelAll,
    List.foldl_append]

end

/-! ## Runs -/

/-- In every run, let a list have its reader, and let its caller be found cancelled behind some rows
that can be decoded, with `left` of the reader to be read. The list goes on there, to the last row
or to an error, and its answer is not that it was cancelled. The reading of a deferred batch stops
there and is cancelled. Either way the reader is closed and not tracked any more. -/
theorem World.list_reads_past_cut (hκ : ∀ c : κ, Cursor.isClosed (Cursor.close c) = true)
    (setup : Setup δ κ) (database : δ) (before : List (Step ρ)) {n : Nat} {caller : Caller}
    {c : Command} {decoder : RowDecoder ρ} {call : Call Opening.Sent} {h : Handle}
    {opened : Connection δ κ} {reader left : Reader κ} {reason : CancelReason} {rows : ResultSet}
    {contexts : Contexts} {items : List ρ} :
    let w : World δ κ ρ := (World.create setup database).run setup before
    let rest := Cursor.collect decoder.decode left
    w.task? n = some ⟨caller, .listing c decoder call⟩ →
    Opening.poll setup caller c call w.conn = (.ready (.ok h), opened) →
    opened.readers.get? h.place = some reader →
    Reading.Cut caller reason reader opened.contexts rows left contexts →
    decoder.decodeAll rows = .ok items →
    (w.hears? setup n (.poll n) =
        some ((Outcome.ofExcept (rest.result.map (items ++ ·))).map .items) ∧
      (w.step setup (.poll n)).conn =
        opened.readTo h rest.cursor (contexts.cancelAll rest.cancels)) ∧
    (∀ errand, 0 < errand.sets → Execution.read caller errand h opened =
      (.error (.cancelled reason), opened.readTo h left contexts)) ∧
    ∀ left contexts, (opened.readTo h left contexts).readers.isClosed h.place = true ∧
      h.id ∉ (opened.readTo h left contexts).registry.ids := by
  intro w rest htask hopen hreader hcut hitems
  have hpoll := Listing.poll_cut hopen hreader hcut hitems
  refine ⟨⟨?_, ?_⟩, ?_, ?_⟩
  · rw [World.hears?_poll htask]
    simp only [Operation.poll, hpoll]
    rfl
  · rw [World.step_poll htask, World.conn_answer]
    simp only [Operation.poll, hpoll]
    rfl
  · exact fun errand hsets => Execution.read_cut hreader hcut hsets
  · exact fun left contexts => ⟨Connection.isClosed_closeReader hκ h _,
      Connection.not_mem_ids_closeReader h _⟩

/-! ## A reader that cancels -/

/-- A cursor in memory that cancels a context whenever it is read. -/
structure Alarming where
  rows : ResultSet
  closed : Bool := false

def Alarming.victim : Context := ⟨"x"⟩

instance : Cursor Alarming where
  nextRow a :=
    match a.rows with
    | row :: rows =>
      { result := .ok (some row)
        cursor := { a with rows }
        cancels := [{ context := Alarming.victim }] }
    | [] => { result := .ok none, cursor := a }
  nextResult a := { result := .ok false, cursor := a }
  close a := { a with closed := true }
  isClosed := Alarming.closed
  remaining a := a.rows.length
  remaining_nextRow_le a := by
    split <;> simp_all
  remaining_nextRow_lt a row h := by
    split at h <;> simp_all
  remaining_nextResult_lt a h := by cases h

/-- A driver that opens such cursors. -/
def Setup.alarming (rows : ResultSet) : Setup Unit Alarming where
  driver :=
    { capabilities := {}
      openReader := fun _ d => (.returned (.ok { rows }), d)
      execute := fun _ d => (.returned (.ok 1), d)
      executeBatch := fun _ d => (.returned (.ok 1), d) }
  settings := {}
  chain := .standard {}
  verbosity := .off

namespace Alarming

def row (n : Int64) : Row := ⟨["v"], [.bigInt n]⟩

def select : Command := { sql := "select v from t" }

def reader (rows : ResultSet) : Reader Alarming := .plain { rows }

/-- A task that may be cancelled asks for a list. -/
def asked : World Unit Alarming Int64 :=
  (World.create (Setup.alarming [row 1, row 2]) ()).run (Setup.alarming [row 1, row 2])
    [.ask (.task victim) (.list select (.firstColumn Int64))]

/-- The task is found cancelled behind the first row. -/
theorem exists_cut : ∃ opened contexts,
    Opening.poll (Setup.alarming [row 1, row 2]) (.task victim) select .waiting asked.conn =
        (.ready (.ok ⟨⟨1⟩, 0⟩), opened) ∧
      opened.readers.get? 0 = some (reader [row 1, row 2]) ∧
      Reading.Cut (.task victim) (.user "cancelled") (reader [row 1, row 2]) opened.contexts [row 1]
        (reader [row 2]) contexts := by
  have hselect : (Setup.alarming [row 1, row 2]).chain.select select = .ok .fallback := by
    have hwell : select.isWellFormed = true := by decide +kernel
    unfold Chain.select
    rw [hwell]
    rfl
  have hprepared : (Setup.alarming [row 1, row 2]).chain.select
      ((Setup.alarming [row 1, row 2]).prepare select) = .ok .fallback := hselect
  simp only [Opening.poll, Protocol.poll, Opening.protocol, hselect]
  simp only [Protocol.start, Opening.begin, Connection.beforeSingle, Dispatch.run, hprepared]
  exact ⟨_, _, rfl, rfl, .later rfl rfl (.now rfl)⟩

theorem collect_left :
    (Cursor.collect (RowDecoder.firstColumn Int64).decode (reader [row 2])).result = .ok [2] := by
  have hread : (RowDecoder.firstColumn Int64).decode (row 2) = .ok 2 := rfl
  rw [reader, Cursor.collect_of_row rfl hread, Cursor.collect]
  rfl

end Alarming

/-- The list has the second row too, and its reader is closed. -/
theorem list_reads_past_cut_alarm :
    let setup := Setup.alarming [Alarming.row 1, Alarming.row 2]
    Alarming.asked.hears? setup 0 (.poll 0) = some (.ok (.items [1, 2])) ∧
      (Alarming.asked.step setup (.poll 0)).conn.readers.isClosed 0 = true := by
  intro setup
  obtain ⟨opened, contexts, hopen, hreader, hcut⟩ := Alarming.exists_cut
  have htask : Alarming.asked.task? 0 =
      some ⟨.task Alarming.victim, .listing Alarming.select (.firstColumn Int64) .waiting⟩ := rfl
  have hitems : (RowDecoder.firstColumn Int64).decodeAll [Alarming.row 1] = .ok [1] := rfl
  obtain ⟨⟨hheard, hconn⟩, -, hgiven⟩ := World.list_reads_past_cut (fun _ => rfl) setup () _ htask
    hopen hreader hcut hitems
  refine ⟨hheard.trans ?_, ?_⟩
  · rw [Alarming.collect_left]
    rfl
  · rw [Alarming.asked, hconn]
    exact (hgiven _ _).1

/-- The task is cancelled when it has one of two rows. As a list it gets both of them, and as a view
it is told that it was cancelled. -/
theorem list_misses_cancellation :
    let setup := Setup.alarming [Alarming.row 1, Alarming.row 2]
    let x : Caller := .task Alarming.victim
    let viewed : World Unit Alarming Int64 := (World.create setup ()).run setup
      [.act (.register { command := Alarming.select }), .ask x (.view 0 0 fun _ => .ok 0)]
    (∃ opened contexts, Opening.poll setup x Alarming.select .waiting Alarming.asked.conn =
        (.ready (.ok ⟨⟨1⟩, 0⟩), opened) ∧
      opened.readers.get? 0 = some (Alarming.reader [Alarming.row 1, Alarming.row 2]) ∧
      Reading.Cut x (.user "cancelled") (Alarming.reader [Alarming.row 1, Alarming.row 2])
        opened.contexts [Alarming.row 1] (Alarming.reader [Alarming.row 2]) contexts) ∧
      Alarming.asked.hears? setup 0 (.poll 0) = some (.ok (.items [1, 2])) ∧
      ∃ reason, viewed.hears? setup 0 (.poll 0) = some (.cancelled reason) := by
  intro setup x viewed
  refine ⟨Alarming.exists_cut, ?_, ?_⟩
  · obtain ⟨opened, contexts, hopen, hreader, hcut⟩ := Alarming.exists_cut
    have htask : Alarming.asked.task? 0 =
        some ⟨x, .listing Alarming.select (.firstColumn Int64) .waiting⟩ := rfl
    have hitems : (RowDecoder.firstColumn Int64).decodeAll [Alarming.row 1] = .ok [1] := rfl
    have hpoll := Listing.poll_cut hopen hreader hcut hitems
    rw [World.hears?_poll htask]
    simp only [Operation.poll, setup, x, hpoll, Alarming.collect_left]
    rfl
  · have hcancelled : (viewed.hears? setup 0 (.poll 0)).any (fun o =>
        match o with
        | .cancelled _ => true
        | _ => false) = true := by decide +kernel
    generalize viewed.hears? setup 0 (.poll 0) = heard at hcancelled ⊢
    rcases heard with _ | _ | _ | reason | _
    case some.cancelled => exact ⟨reason, rfl⟩
    all_goals cases hcancelled

end OneConnection
