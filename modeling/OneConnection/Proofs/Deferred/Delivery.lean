import OneConnection.Proofs.Deferred.Turns
import OneConnection.Proofs.Readers.Sets

/-!
# Delivery

An execution asks the driver for the reader of one errand after the other, and what it comes to are
the result sets of the cursors that it gets.
-/

namespace OneConnection

variable {δ κ ρ : Type}

/-! ## Records of calls -/

/-- A command that was sent, and the cursor that the driver opened for it, if it opened one. -/
structure Opened (κ : Type) where
  command : Command
  cursor : Option κ

def Promise.cursor? : Promise κ → Option κ
  | .after _ (.ok cursor) => some cursor
  | _ => none

namespace Driver

/-- The driver answers a call. The readers that it was asked for are put on record. -/
def serve (driver : Driver δ κ) (x : List (Opened κ) × δ) (call : DriverCall) :
    List (Opened κ) × δ :=
  match call.kind, call.commands with
  | .reader, [c] =>
    let (promise, d) := driver.read call.mode c x.2
    (x.1 ++ [⟨c, promise.cursor?⟩], d)
  | .nonQuery, [c] => (x.1, (driver.nonQuery call.mode c x.2).2)
  | .batch, cs => (x.1, (driver.batch call.mode cs x.2).2)
  | _, _ => x

def replay (driver : Driver δ κ) (calls : List DriverCall) (x : List (Opened κ) × δ) :
    List (Opened κ) × δ :=
  calls.foldl driver.serve x

end Driver

/-- Since `conn₀`, when `before` was on record, the driver was called so that `opened` is on record
now. -/
def Recorded (setup : Setup δ κ) (conn₀ : Connection δ κ) (before opened : List (Opened κ))
    (conn : Connection δ κ) : Prop :=
  ∃ calls, conn.calls = conn₀.calls ++ calls ∧
    setup.driver.replay calls (before, conn₀.database) = (opened, conn.database)

variable {setup : Setup δ κ} {conn₀ conn : Connection δ κ} {before opened : List (Opened κ)}

theorem Recorded.refl (opened : List (Opened κ)) (conn : Connection δ κ) :
    Recorded setup conn opened opened conn :=
  ⟨[], (List.append_nil _).symm, rfl⟩

theorem Recorded.replay_later (h : Recorded setup conn₀ before opened conn) :
    (setup.driver.replay (conn.calls.drop conn₀.calls.length) (before, conn₀.database)).1 =
      opened := by
  obtain ⟨calls, hcalls, hreplay⟩ := h
  rw [hcalls, List.drop_left, hreplay]

theorem quiet_recorded (setup : Setup δ κ) (conn₀ : Connection δ κ)
    (before opened : List (Opened κ)) : Quiet (Recorded setup conn₀ before opened) where
  access _ _ h := h
  hold _ _ _ _ h := h
  note _ _ he := by
    rintro ⟨calls, hcalls, hreplay⟩
    exact ⟨calls, (Connection.calls_record he).trans hcalls, hreplay⟩
  count _ _ h := h

variable [Cursor κ]

theorem Recorded.read (mode : Mode) (c : Command) (h : Recorded setup conn₀ before opened conn) :
    Recorded setup conn₀ before
      (opened ++ [⟨c, (setup.driver.read mode c conn.database).1.cursor?⟩])
      { conn.recordCall .reader mode [c] with
        database := (setup.driver.read mode c conn.database).2 } := by
  obtain ⟨calls, hcalls, hreplay⟩ := h
  refine ⟨calls ++ [⟨.reader, mode, [c], conn.readers.openCursors⟩], ?_, ?_⟩
  · have hcall : (conn.recordCall .reader mode [c]).calls =
        conn.calls ++ [⟨.reader, mode, [c], conn.readers.openCursors⟩] := by
      unfold Connection.calls Connection.recordCall Connection.record
      rw [List.filterMap_append]
      rfl
    rw [← List.append_assoc, ← hcalls]
    exact hcall
  · unfold Driver.replay at *
    rw [List.foldl_append, hreplay]
    rfl

/-! ## Openings -/

/-- A reader that was just handed out reads from the cursor that the driver opened. -/
def Reader.Starts (cursor : κ) (r : Reader κ) : Prop :=
  r = .plain cursor ∨ r = .hybrid (.streaming cursor)

/-- It passes on what the cursor gives. -/
theorem Reader.Starts.exists_within {cursor : κ} {r : Reader κ} (h : r.Starts cursor) :
    ∃ f : κ → Reader κ, r = f cursor ∧
      (∀ c, Cursor.nextRow (f c) = (Cursor.nextRow c).within f) ∧
      ∀ c, Cursor.nextResult (f c) = (Cursor.nextResult c).within f := by
  rcases h with rfl | rfl
  · exact ⟨.plain, rfl, fun _ => rfl, fun _ => rfl⟩
  · exact ⟨fun c => .hybrid (.streaming c), rfl, fun _ => rfl, fun _ => rfl⟩

theorem Reader.Starts.hasSet {cursor : κ} {r : Reader κ} (h : r.Starts cursor) {i : Nat}
    {rows : ResultSet} (hset : Cursor.HasSet r i rows) : Cursor.HasSet cursor i rows := by
  rcases h with rfl | rfl
  · exact hasSet_plain hset
  · exact hasSet_streaming hset

omit [Cursor κ] in
theorem Reader.starts_register {place : Nat} {cursor : κ}
    (h : conn.readers.get? place = some (.plain cursor)) :
    ∃ r, (conn.register place).2.readers.get? (conn.register place).1.place = some r ∧
      r.Starts cursor := by
  simp only [Connection.register, Registry.register]
  split
  · exact ⟨.plain cursor, h, .inl rfl⟩
  · refine ⟨.hybrid (.streaming cursor), ?_, .inr rfl⟩
    simp only [Readers.update, Readers.get?, List.getElem?_modify_eq]
    exact congrArg (Option.map Reader.movable) h

/-- The call for a command is on record, and the cursor that it opened is at its place. Without a
place it opened none. -/
def Asked (setup : Setup δ κ) (conn₀ : Connection δ κ) (before past : List (Opened κ)) (c : Command)
    (sent : Outcome Nat) (conn : Connection δ κ) : Prop :=
  ∃ cursor?, Recorded setup conn₀ before (past ++ [⟨c, cursor?⟩]) conn ∧
    (∀ place, sent = .ok place →
      ∃ cursor, cursor? = some cursor ∧ conn.readers.get? place = some (.plain cursor)) ∧
    (sent.value? = none → cursor? = none)

/-- No cursor was opened for a command, whether or not the call for it is on record. -/
def Unopened (setup : Setup δ κ) (conn₀ : Connection δ κ) (before past : List (Opened κ))
    (c : Command) (conn : Connection δ κ) : Prop :=
  ∃ opened, Recorded setup conn₀ before opened conn ∧
    (opened = past ∨ opened = past ++ [⟨c, none⟩])

/-- The call for a command is over. A reader reads from the cursor that is on record. -/
def Answered (setup : Setup δ κ) (conn₀ : Connection δ κ) (before past : List (Opened κ))
    (c : Command) : Outcome Handle → Connection δ κ → Prop
  | .ok h, conn => ∃ cursor r, Recorded setup conn₀ before (past ++ [⟨c, some cursor⟩]) conn ∧
      conn.readers.get? h.place = some r ∧ r.Starts cursor
  | _, conn => Unopened setup conn₀ before past c conn

def Dispatched (setup : Setup δ κ) (conn₀ : Connection δ κ) (before past : List (Opened κ))
    (c : Command) : Dispatch.Result × Connection δ κ → Prop
  | (.sent _ place, conn) => Asked setup conn₀ before past c place conn
  | (.crashed message, conn) => Asked setup conn₀ before past c (.panicked message) conn
  | (_, conn) => Recorded setup conn₀ before past conn

variable {past : List (Opened κ)}

omit [Cursor κ] in
theorem Recorded.unopened (c : Command) (h : Recorded setup conn₀ before past conn) :
    Unopened setup conn₀ before past c conn :=
  ⟨past, h, .inl rfl⟩

omit [Cursor κ] in
theorem Asked.unopened {c : Command} {sent : Outcome Nat}
    (h : Asked setup conn₀ before past c sent conn) (hsent : sent.value? = none) :
    Unopened setup conn₀ before past c conn := by
  obtain ⟨cursor?, hrec, -, hnone⟩ := h
  obtain rfl := hnone hsent
  exact ⟨_, hrec, .inr rfl⟩

theorem Recorded.dispatch (setup : Setup δ κ) {conn₀ conn : Connection δ κ} (caller : Caller)
    (c : Command) (h : Recorded setup conn₀ before past conn) :
    Dispatched setup conn₀ before past c (Dispatch.run setup caller c conn) := by
  unfold Dispatch.run
  split
  · exact h
  · exact h
  · rename_i handler _ _
    have hread := h.read (Dispatch.mode caller handler) c
    dsimp only
    split <;> rename_i heq
    · have heq' : setup.driver.read (Dispatch.mode caller handler) c conn.database = _ := heq
      rw [heq'] at hread
      rename_i polls outcome database
      cases outcome with
      | ok cursor =>
        refine ⟨some cursor, hread, ?_, nofun⟩
        rintro place ⟨⟩
        exact ⟨cursor, rfl, (Readers.get?_add cursor conn.readers _).trans (if_pos rfl)⟩
      | error | cancelled | panicked => exact ⟨none, hread, nofun, fun _ => rfl⟩
    · have heq' : setup.driver.read (Dispatch.mode caller handler) c conn.database = _ := heq
      rw [heq'] at hread
      exact ⟨none, hread, nofun, fun _ => rfl⟩

/-- Every opening leads from what is on record to one more call. -/
theorem opening_leads (setup : Setup δ κ) (conn₀ : Connection δ κ) (before past : List (Opened κ))
    (caller : Caller) (c : Command) :
    (Opening.protocol setup caller c).Leads (Recorded setup conn₀ before past)
      (fun sent => Asked setup conn₀ before past (setup.prepare c) sent.place)
      (Answered setup conn₀ before past (setup.prepare c))
      (Unopened setup conn₀ before past (setup.prepare c)) where
  fails o conn h ho := by
    cases o with
    | ok h => cases ho
    | error | cancelled | panicked => exact h.unopened _
  begins conn h _ := by
    have hq := quiet_recorded setup conn₀ before past
    have hready := hq.beforeSingle setup c (hq.access conn .held h)
    have hrun := hready.dispatch setup caller ((conn.setAccess .held).beforeSingle setup c).1
    have hidle : ∀ conn, Recorded setup conn₀ before past conn →
        Unopened setup conn₀ before past (setup.prepare c) (conn.setAccess .free) := fun conn h =>
      (hq.access conn .free h).unopened _
    simp only [Opening.protocol, Opening.begin]
    split <;> rename_i heq <;> rw [heq] at hrun
    · exact hrun
    · exact hrun.unopened rfl
    · exact hidle _ hrun
    · exact hidle _ hrun
  finishes sent conn h := by
    obtain ⟨command, place⟩ := sent
    simp only [Opening.protocol, Opening.finish]
    cases place with
    | ok place =>
      obtain ⟨cursor?, hrec, hplace, -⟩ := h
      obtain ⟨cursor, rfl, hget⟩ := hplace place rfl
      have hq := quiet_recorded setup conn₀ before (past ++ [⟨setup.prepare c, some cursor⟩])
      obtain ⟨r, hr, hstarts⟩ := Reader.starts_register hget
      exact ⟨cursor, r, hq.access _ .free (hq.count _ _ (hq.register place hrec)), hr, hstarts⟩
    | error | cancelled | panicked => exact h.unopened rfl

/-! ## Executions -/

/-- Every errand got a cursor, and `sets` are the first result sets of the cursors. -/
inductive Delivered (setup : Setup δ κ) : List Errand → List (Opened κ) → List ResultSet → Prop
  | nil : Delivered setup [] [] []
  | cons {errand : Errand} {cursor : κ} {sets : List ResultSet} {errands : List Errand}
      {opened : List (Opened κ)} {others : List ResultSet} : sets.length = errand.sets →
      (∀ i rows, sets[i]? = some rows → Cursor.HasSet cursor i rows) →
      Delivered setup errands opened others →
        Delivered setup (errand :: errands) (⟨setup.prepare errand.command, some cursor⟩ :: opened)
          (sets ++ others)

namespace Delivered

variable {errands more : List Errand} {opened later : List (Opened κ)}
  {sets others : List ResultSet}

theorem append (h : Delivered setup errands opened sets) (h' : Delivered setup more later others) :
    Delivered setup (errands ++ more) (opened ++ later) (sets ++ others) := by
  induction h with
  | nil => exact h'
  | cons hlength hsets _ ih =>
    rw [List.append_assoc]
    exact .cons hlength hsets ih

theorem commands (h : Delivered setup errands opened sets) :
    opened.map (·.command) = errands.map fun errand => setup.prepare errand.command := by
  induction h with
  | nil => rfl
  | cons _ _ _ ih => exact congrArg (_ :: ·) ih

theorem length_eq (h : Delivered setup errands opened sets) : opened.length = errands.length := by
  simpa using congrArg List.length h.commands

theorem together {c : Command} {n : Nat} (h : Delivered setup [⟨c, n⟩] opened sets) :
    ∃ cursor, opened = [⟨setup.prepare c, some cursor⟩] ∧ sets.length = n ∧
      ∀ i rows, sets[i]? = some rows → Cursor.HasSet cursor i rows := by
  cases h with
  | cons hlength hsets hrest =>
    cases hrest
    rw [List.append_nil]
    exact ⟨_, rfl, hlength, hsets⟩

theorem apart {cs : List Command} (h : Delivered setup (cs.map (⟨·, 1⟩)) opened sets) {i : Nat}
    {rows : ResultSet} (hi : sets[i]? = some rows) :
    ∃ c cursor, cs[i]? = some c ∧ opened[i]? = some ⟨setup.prepare c, some cursor⟩ ∧
      Cursor.HasSet cursor 0 rows := by
  induction cs generalizing opened sets i with
  | nil =>
    cases h
    cases hi
  | cons c rest ih =>
    cases h with
    | cons hlength hsets hrest =>
      rename_i cursor first opened others
      obtain ⟨rows₀, rfl⟩ := List.length_eq_one_iff.mp hlength
      cases i with
      | zero => exact ⟨c, cursor, rfl, rfl, hsets 0 rows hi⟩
      | succ i => exact ih hrest hi

end Delivered

def Setup.sends (setup : Setup δ κ) (errands : List Errand) : List Command :=
  errands.map fun errand => setup.prepare errand.command

theorem Delivered.prefix_sends {errands rest : List Errand} {errand : Errand}
    {past : List (Opened κ)} {done : List ResultSet} (h : Delivered setup errands past done) :
    past.map (·.command) ++ [setup.prepare errand.command] <+:
      setup.sends (errands ++ errand :: rest) := by
  rw [h.commands]
  simp [Setup.sends]

namespace Execution

variable {errands : List Errand}

/-- The errands before the one that waits are delivered, and the call for that one is on record if
it is on its way. -/
def Waits (setup : Setup δ κ) (conn₀ : Connection δ κ) (before : List (Opened κ))
    (errands : List Errand) (errand : Errand) (rest : List Errand) (done : List ResultSet)
    (call : Call Opening.Sent) (conn : Connection δ κ) : Prop :=
  ∃ done' past, errands = done' ++ errand :: rest ∧ Delivered setup done' past done ∧
    call.Holds (Recorded setup conn₀ before past)
      (fun sent => Asked setup conn₀ before past (setup.prepare errand.command) sent.place) conn

def Pauses (setup : Setup δ κ) (conn₀ : Connection δ κ) (before : List (Opened κ))
    (errands : List Errand) (rest : List Errand) (done : List ResultSet)
    (conn : Connection δ κ) : Prop :=
  ∃ done' past, errands = done' ++ rest ∧ Delivered setup done' past done ∧
    Recorded setup conn₀ before past conn

theorem read_delivers (setup : Setup δ κ) (caller : Caller) (errand : Errand) {h : Handle}
    {cursor : κ} {r : Reader κ} {sets : List ResultSet} (hr : conn.readers.get? h.place = some r)
    (hstarts : r.Starts cursor)
    (hread : (read caller errand h conn).1 = .ok sets) :
    Delivered setup [errand] [⟨setup.prepare errand.command, some cursor⟩] sets := by
  unfold read at hread
  rw [hr] at hread
  obtain ⟨hlength, hsets⟩ := Reading.hasSet_sets hread
  have hone : Delivered setup [errand] [⟨setup.prepare errand.command, some cursor⟩] (sets ++ []) :=
    .cons hlength (fun i rows hi => hstarts.hasSet (hsets i rows hi)) .nil
  rwa [List.append_nil] at hone

/-- The errands before one of them are delivered, and this one got no cursor. -/
inductive Stalled (setup : Setup δ κ) (errands : List Errand) : List (Opened κ) → Prop
  | intro {done' rest : List Errand} {errand : Errand} {past opened : List (Opened κ)}
      {done : List ResultSet} : errands = done' ++ errand :: rest →
      Delivered setup done' past done →
      (opened = past ∨ opened = past ++ [⟨setup.prepare errand.command, none⟩]) →
        Stalled setup errands opened

/-- Reading from the cursor of an errand stops, with the contexts as they are then. -/
def Unread (caller : Caller) (errand : Errand) (cursor : κ) (stop : Stop) (contexts : Contexts) :
    Prop :=
  ∃ (r : Reader κ) (contexts₀ : Contexts), r.Starts cursor ∧
    (Reading.sets caller errand.command errand.sets r contexts₀).result = .error stop ∧
    (Reading.sets caller errand.command errand.sets r contexts₀).contexts = contexts

/-- An execution stopped with an errand that got no cursor, or that could not be read. -/
inductive Halted (setup : Setup δ κ) (caller : Caller) (errands : List Errand) (stop : Stop)
    (contexts : Contexts) : List (Opened κ) → Prop
  | stalled {opened : List (Opened κ)} : Stalled setup errands opened →
      Halted setup caller errands stop contexts opened
  | unread {done' rest : List Errand} {errand : Errand} {past : List (Opened κ)}
      {done : List ResultSet} {cursor : κ} : errands = done' ++ errand :: rest →
      Delivered setup done' past done → Unread caller errand cursor stop contexts →
        Halted setup caller errands stop contexts
          (past ++ [⟨setup.prepare errand.command, some cursor⟩])

theorem Stalled.prefix_sends {opened : List (Opened κ)} (h : Stalled setup errands opened) :
    opened.map (·.command) <+: setup.sends errands := by
  obtain ⟨rfl, hdelivered, rfl | rfl⟩ := h
  · exact (List.prefix_append _ _).trans hdelivered.prefix_sends
  · rw [List.map_append]
    exact hdelivered.prefix_sends

theorem Halted.prefix_sends {caller : Caller} {stop : Stop} {contexts : Contexts}
    {opened : List (Opened κ)} (h : Halted setup caller errands stop contexts opened) :
    opened.map (·.command) <+: setup.sends errands := by
  cases h with
  | stalled h => exact h.prefix_sends
  | unread herrands hdelivered _ =>
    rw [List.map_append, herrands]
    exact hdelivered.prefix_sends

def Stopped (setup : Setup δ κ) (conn₀ : Connection δ κ) (before : List (Opened κ))
    (caller : Caller) (errands : List Errand) (stop : Stop) (conn : Connection δ κ) : Prop :=
  ∃ opened, Recorded setup conn₀ before opened conn ∧
    Halted setup caller errands stop conn.contexts opened

def Abandoned (setup : Setup δ κ) (conn₀ : Connection δ κ) (before : List (Opened κ))
    (errands : List Errand) (conn : Connection δ κ) : Prop :=
  ∃ opened, Recorded setup conn₀ before opened conn ∧ Stalled setup errands opened

theorem read_stops (caller : Caller) (errand : Errand) {h : Handle} {cursor : κ} {r : Reader κ}
    {stop : Stop} (hr : conn.readers.get? h.place = some r) (hstarts : r.Starts cursor)
    (hread : (read caller errand h conn).1 = .error stop) :
    Unread caller errand cursor stop (read caller errand h conn).2.contexts := by
  unfold read at *
  rw [hr] at *
  exact ⟨r, conn.contexts, hstarts, hread, rfl⟩

theorem recorded_leads (setup : Setup δ κ) (conn₀ : Connection δ κ) (before : List (Opened κ))
    (errands : List Errand) (caller : Caller) :
    Leads setup caller (Waits setup conn₀ before errands) (Pauses setup conn₀ before errands)
      (Stopped setup conn₀ before caller errands) (Abandoned setup conn₀ before errands) where
  begins errand rest done conn := by
    rintro ⟨done', past, herrands, hdelivered, hrec⟩
    exact ⟨done', past, herrands, hdelivered, hrec⟩
  asks errand rest done call conn := by
    rintro ⟨done', past, herrands, hdelivered, hcall⟩
    have ho := Protocol.poll_ensures (opening_leads setup conn₀ before past caller errand.command)
      caller call conn hcall
    have hstalls : ∀ conn, Unopened setup conn₀ before past (setup.prepare errand.command) conn →
        Abandoned setup conn₀ before errands conn := by
      rintro conn ⟨opened, hrec, hopened⟩
      exact ⟨opened, hrec, .intro herrands hdelivered hopened⟩
    have hstops : ∀ stop conn,
        Unopened setup conn₀ before past (setup.prepare errand.command) conn →
        Stopped setup conn₀ before caller errands stop conn := by
      intro stop conn h
      obtain ⟨opened, hrec, hstalled⟩ := hstalls conn h
      exact ⟨opened, hrec, .stalled hstalled⟩
    unfold ask Opening.poll
    split <;> rename_i heq <;> rw [heq] at ho
    · exact ⟨done', past, herrands, hdelivered, ho⟩
    · exact hstalls _ ho
    · rename_i opened conn
      cases opened with
      | error | cancelled | panicked => exact hstops _ _ ho
      | ok h =>
        obtain ⟨cursor, r, hrec, hr, hstarts⟩ := ho
        have hread := (quiet_recorded setup conn₀ before _).read caller errand h hrec
        simp only [Polled.Ensures, complete]
        split <;> rename_i hsets
        · have hone := read_delivers setup caller errand hr hstarts hsets
          refine ⟨done' ++ [errand], _, ?_, hdelivered.append hone, hread⟩
          rw [herrands, List.append_assoc]
          rfl
        · exact ⟨_, hread, .unread herrands hdelivered (read_stops caller errand hr hstarts hsets)⟩

end Execution

omit [Cursor κ] in
theorem Recorded.self_eq (h : Recorded setup conn before opened conn) : opened = before := by
  obtain ⟨calls, hcalls, hreplay⟩ := h
  obtain rfl : calls = [] := List.self_eq_append_right.mp hcalls
  exact (congrArg Prod.fst hreplay).symm

namespace Execution

variable {errands rest : List Errand} {errand : Errand} {done : List ResultSet}
  {call : Call Opening.Sent}

/-- What was delivered so far goes on record, and the execution waits for more. -/
theorem Waits.recorded (h : Waits setup conn₀ before errands errand rest done call conn) :
    ∃ opened, Recorded setup conn₀ before opened conn ∧
      opened.map (·.command) <+: setup.sends errands ∧
      Waits setup conn opened errands errand rest done call conn := by
  obtain ⟨done', past, rfl, hdelivered, hcall⟩ := h
  have hplan : past.map (·.command) ++ [setup.prepare errand.command] <+:
      setup.sends (done' ++ errand :: rest) := hdelivered.prefix_sends
  cases call with
  | waiting =>
    exact ⟨past, hcall, (List.prefix_append _ _).trans hplan, done', past, rfl, hdelivered,
      .refl past conn⟩
  | sent polls sent =>
    obtain ⟨cursor?, hrec, hplace⟩ := hcall
    refine ⟨_, hrec, ?_, done', past, rfl, hdelivered, cursor?, .refl _ conn, hplace⟩
    rw [List.map_append]
    exact hplan

/-- An execution waits as long as nobody touches the reader at its place. -/
theorem Waits.frame {conn' : Connection δ κ}
    (h : Waits setup conn opened errands errand rest done call conn)
    (hkeep : ∀ polls sent place cursor, call = .sent polls sent → sent.place = .ok place →
      conn.readers.get? place = some (.plain cursor) →
        conn'.readers.get? place = some (.plain cursor)) :
    Waits setup conn' opened errands errand rest done call conn' := by
  obtain ⟨done', past, herrands, hdelivered, hcall⟩ := h
  refine ⟨done', past, herrands, hdelivered, ?_⟩
  cases call with
  | waiting =>
    obtain rfl := Recorded.self_eq hcall
    exact .refl _ conn'
  | sent polls sent =>
    obtain ⟨cursor?, hrec, hplace, hnone⟩ := hcall
    obtain rfl := hrec.self_eq
    refine ⟨cursor?, .refl _ conn', ?_, hnone⟩
    intro place hsent
    obtain ⟨cursor, hcursor, hget⟩ := hplace place hsent
    exact ⟨cursor, hcursor, hkeep polls sent place cursor rfl hsent hget⟩

def Serves (setup : Setup δ κ) (caller : Caller) (errands : List Errand) (opened : List (Opened κ))
    (conn : Connection δ κ) : Polled Execution (Except Stop (List ResultSet)) → Prop
  | .waiting e => Waits setup conn opened errands e.errand e.rest e.done e.call conn
  | .ready (.ok sets) => Delivered setup errands opened sets
  | .ready (.error stop) => Halted setup caller errands stop conn.contexts opened
  | .crashed _ => True

/-- Only an execution that is over, with all its result sets, settles a batch with some. -/
theorem Serves.delivered {y : Polled Execution (Except Stop (List ResultSet))} {b : DeferredBatch}
    {sets : List ResultSet} {caller : Caller} (h : Serves setup caller errands opened conn y)
    (hb : b.progress = .executing) (hp : (b.after y).progress = .settled (.ok sets)) :
    Delivered setup errands opened sets := by
  rcases y with ((reason | why) | all) | e | message
  · cases hp
  · cases hp
  · cases hp
    exact h
  · exact absurd (hb.symm.trans hp) nofun
  · cases hp

/-- Only an execution that was stopped by an error settles a batch with this error. -/
theorem Serves.halted {y : Polled Execution (Except Stop (List ResultSet))} {b : DeferredBatch}
    {why : Error} {caller : Caller} (h : Serves setup caller errands opened conn y)
    (hb : b.progress = .executing) (hp : (b.after y).progress = .settled (.error why)) :
    Halted setup caller errands (.failed why) conn.contexts opened := by
  rcases y with ((reason | why') | all) | e | message
  · cases hp
  · cases hp
    exact h
  · cases hp
  · exact absurd (hb.symm.trans hp) nofun
  · cases hp

theorem serves_of_ensures {caller : Caller}
    {x : Polled Execution (Except Stop (List ResultSet)) × Connection δ κ}
    (h : Polled.Ensures (Ends (Pauses setup conn₀ before errands)
        (Stopped setup conn₀ before caller errands))
      (fun e => Waits setup conn₀ before errands e.errand e.rest e.done e.call)
      (Abandoned setup conn₀ before errands) x) :
    ∃ opened, Recorded setup conn₀ before opened x.2 ∧
      opened.map (·.command) <+: setup.sends errands ∧
      Serves setup caller errands opened x.2 x.1 ∧
      ∀ message, x.1 = .crashed message → Stalled setup errands opened := by
  obtain ⟨(stop | sets) | e | message, conn⟩ := x
  · obtain ⟨opened, hrec, hhalted⟩ := h
    exact ⟨opened, hrec, hhalted.prefix_sends, hhalted, nofun⟩
  · obtain ⟨done', opened, rfl, hdelivered, hrec⟩ := h
    rw [List.append_nil]
    exact ⟨opened, hrec, hdelivered.commands ▸ List.prefix_rfl, hdelivered, nofun⟩
  · obtain ⟨opened, hrec, hplan, hwaits⟩ := Waits.recorded h
    exact ⟨opened, hrec, hplan, hwaits, nofun⟩
  · obtain ⟨opened, hrec, hstalled⟩ := h
    exact ⟨opened, hrec, hstalled.prefix_sends, trivial, fun _ _ => hstalled⟩

end Execution

namespace Viewing

variable {caller : Caller} {batch : Nat} {view : Viewing} {b : DeferredBatch}
  {x : Polled Execution (Except Stop (List ResultSet)) × Connection δ κ}

theorem start_serves (hw : view.work setup caller batch conn = some x)
    (ht : view.turn caller batch conn = .starts b) :
    ∃ opened, Recorded setup conn [] opened x.2 ∧
      opened.map (·.command) <+:
        setup.sends (b.errands setup.driver.capabilities.multipleQueries) ∧
      Execution.Serves setup caller (b.errands setup.driver.capabilities.multipleQueries) opened x.2
        x.1 ∧
      ∀ message, x.1 = .crashed message →
        Execution.Stalled setup (b.errands setup.driver.capabilities.multipleQueries) opened := by
  simp only [work, ht, Option.some.injEq] at hw
  subst hw
  apply Execution.serves_of_ensures
  apply Execution.run_ensures (Execution.recorded_leads setup conn [] _ caller)
  exact ⟨[], [], rfl, .nil, Recorded.refl [] conn⟩

theorem resume_serves {e : Execution} {errands : List Errand}
    (hw : (running e).work setup caller batch conn = some x)
    (hwaits : Execution.Waits setup conn before errands e.errand e.rest e.done e.call conn) :
    ∃ opened, Recorded setup conn before opened x.2 ∧
      opened.map (·.command) <+: setup.sends errands ∧
      Execution.Serves setup caller errands opened x.2 x.1 ∧
      ∀ message, x.1 = .crashed message → Execution.Stalled setup errands opened := by
  cases Option.some.inj hw
  apply Execution.serves_of_ensures
  exact Execution.resume_ensures (Execution.recorded_leads setup conn before errands caller) e conn
    hwaits

end Viewing

end OneConnection
