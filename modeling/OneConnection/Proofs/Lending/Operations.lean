import OneConnection.Proofs.Flights
import OneConnection.Proofs.Lending.Tidy

/-!
# Operations on tidy connections

Every poll of an operation leads from a tidy connection to a tidy one. Whatever it answers, the only
reader that it leaves behind is the one that it hands out.
-/

namespace OneConnection

variable {δ κ ρ : Type} [Cursor κ] {setup : Setup δ κ} {c : Custody} {conn : Connection δ κ}

/-- The connection is tidy but for the cursor of a call that may be on its way. -/
def Tidy.During (c : Custody) (conn : Connection δ κ) (flight : Option (Nat × Option Nat)) : Prop :=
  Tidy c (flight.bind (·.2)) conn

namespace Tidy

variable {out : Option Nat}

/-! ## Before a call -/

theorem setAccess (access : Access) (h : Tidy c out conn) : Tidy c out (conn.setAccess access) :=
  h.congr rfl rfl

theorem count (f : Stats → Stats) (h : Tidy c out conn) : Tidy c out (conn.count f) :=
  h.congr rfl rfl

theorem recordCall (kind : CallKind) (mode : Mode) (cs : List Command) (database : δ)
    (h : Tidy c out conn) : Tidy c out { conn.recordCall kind mode cs with database } :=
  h.congr rfl rfl

theorem beforeSingle (setup : Setup δ κ) (command : Command) (h : Tidy c out conn) :
    Tidy c out (conn.beforeSingle setup command).2 :=
  (noted.logCommand setup (setup.prepare command) h.checkReaders).count
    fun s => { s with roundTrips := s.roundTrips + 1 }

theorem push (setup : Setup δ κ) (command : Command) (h : Tidy c out conn) :
    Tidy c out (conn.push setup command).2 :=
  h.congr rfl rfl

def Dispatched (c : Custody) : Dispatch.Result × Connection δ κ → Prop
  | (.sent _ place, conn) => Tidy c place.value? conn
  | (_, conn) => Tidy c none conn

theorem dispatch (setup : Setup δ κ) (caller : Caller) (command : Command) (h : Tidy c none conn) :
    Dispatched c (Dispatch.run setup caller command conn) := by
  simp only [Dispatch.run]
  split
  · exact h
  · exact h
  · rename_i handler _ _
    have hcall := h.recordCall .reader (Dispatch.mode caller handler) [command]
    split
    · exact (hcall _).keep _
    · exact hcall _

/-! ## Calls without cursors -/

theorem begun {β α : Type} {x : Begun β α × Connection δ κ} (h : Tidy c none x.2) :
    Begun.Ensures (fun _ => Tidy c none) (fun _ => Tidy c none) (Tidy c none) x := by
  obtain ⟨_ | _ | _, conn⟩ := x
  · exact h
  · exact h.setAccess .free
  · exact h.setAccess .broken

variable (setup)

theorem begin_flushing (mode : Mode) (h : Tidy c none conn) :
    Tidy c none (Flushing.begin setup mode conn).2 := by
  have htake : Tidy c none conn.takePending.2 := h.congr rfl rfl
  have hready := (noted.logBatch setup conn.pending.log htake.checkReaders).count
    fun s => { s with flushes := s.flushes + 1, roundTrips := s.roundTrips + 1 }
  have hcall := hready.recordCall .batch mode conn.pending.commands
  simp only [Flushing.begin]
  split
  · exact htake
  · split <;> exact hcall _

theorem flushing_leads (c : Custody) (mode : Mode) :
    (Flushing.protocol setup mode).Leads (Tidy c none) (fun _ => Tidy c none)
      (fun _ => Tidy c none) (Tidy c none) where
  fails _ _ h _ := h
  begins conn h _ := begun (begin_flushing setup mode (h.setAccess .held))
  finishes sent conn h := by
    refine (show Tidy c none _ from ?_).setAccess .free
    simp only [Flushing.protocol, Flushing.finish, Flushing.verify]
    split
    · split
      · exact h
      · exact noted _ _ rfl h
    · exact h

theorem executing_leads (c : Custody) (mode : Mode) (command : Command) :
    (Executing.protocol setup mode command).Leads (Tidy c none) (fun _ => Tidy c none)
      (fun _ => Tidy c none) (Tidy c none) where
  fails _ _ h _ := h
  begins conn h _ := by
    have hready := (h.setAccess .held).beforeSingle setup command
    have hcall := hready.recordCall .nonQuery mode [setup.prepare command]
    refine begun ?_
    simp only [Executing.protocol, Executing.begin]
    split <;> exact hcall _
  finishes sent conn h := h.setAccess .free

/-! ## Calls that open cursors -/

theorem opening_leads (c : Custody) (caller : Caller) (command : Command) :
    (Opening.protocol setup caller command).Leads (Tidy c none)
      (fun sent => Tidy c sent.place.value?)
      (fun o => Tidy (c.give o.value?.toList) none) (Tidy c none) where
  fails o _ h ho := by
    cases o with
    | ok h => cases ho
    | error | cancelled | panicked => simpa [Outcome.value?] using h
  begins conn h _ := by
    have hready := (h.setAccess .held).beforeSingle setup command
    have hrun := hready.dispatch setup caller
      ((conn.setAccess .held).beforeSingle setup command).1
    simp only [Opening.protocol, Opening.begin]
    split <;> rename_i heq <;> rw [heq] at hrun
    · exact hrun
    · exact setAccess .broken hrun
    · simpa [Begun.Ensures, Outcome.value?] using setAccess .free hrun
    · simpa [Begun.Ensures, Outcome.value?] using setAccess .free hrun
  finishes sent conn h := by
    obtain ⟨command, place⟩ := sent
    simp only [Opening.protocol, Opening.finish]
    cases place with
    | ok p =>
      have hregister : Tidy (c.give [(conn.register p).1]) none (conn.register p).2 := register h
      exact (hregister.count _).setAccess .free
    | error | cancelled | panicked => simpa [Outcome.value?] using setAccess .free h

variable (hκ : ∀ c : κ, Cursor.isClosed (Cursor.close c) = true)
include hκ

omit setup in
theorem decode {α : Type} (decoder : RowDecoder α) {x : Handle}
    (h : Tidy (c.give [x]) none conn) : Tidy c none (Listing.decode decoder x conn).2 := by
  have hfetch := h.fetch (Cursor.collect decoder.decode)
    (.inl (.inr ⟨x, List.mem_singleton_self x, rfl⟩))
  exact hfetch.returned hκ

omit setup in
theorem read (caller : Caller) (errand : Errand) {x : Handle} (h : Tidy (c.give [x]) none conn) :
    Tidy c none (Execution.read caller errand x conn).2 := by
  unfold Execution.read
  split
  · exact h.returned hκ
  · refine returned hκ (h.settle _ ?_)
    intro p hp
    rw [Readers.get?_update, if_neg]
    rintro rfl
    exact hp (.inl (.inr ⟨x, List.mem_singleton_self x, rfl⟩))

theorem carries (c : Custody) (caller : Caller) :
    Carries setup caller (During c) fun more => Tidy (c.give more) none where
  idle conn := by
    rw [Custody.give_nil]
    exact Iff.rfl
  polls _ _ _ _ h := h
  push command _ h := push setup command h
  defer _ _ h := congr h rfl rfl
  flushing := flushing_leads setup c caller.mode
  executing := executing_leads setup c caller.mode
  opening := opening_leads setup c caller
  decode decoder _ _ := decode hκ decoder
  read errand _ _ := read hκ caller errand
  release _ h := setAccess .free h
  discard place conn h := by
    have hclosed : Tidy c none (Dispatch.discard (.ok place) conn) := discard hκ h
    exact hclosed.setAccess .free

/-- The cursor of a command that was given to the driver directly is closed with the answer. -/
theorem dispatching (caller : Caller) (state : Dispatching) (h : During c conn state.flight?) :
    Polled.Ensures (fun _ => Tidy c none) (fun state conn => During c conn state.flight?)
      (Tidy c none) (state.poll setup caller conn) := by
  have hanswer : ∀ polls place (conn : Connection δ κ), Tidy c place.value? conn →
      Polled.Ensures (fun _ => Tidy c none) (fun state conn => During c conn state.flight?)
        (Tidy c none) (Dispatching.answer polls place conn) := by
    intro polls place conn h
    cases polls with
    | succ n => exact h
    | zero =>
      cases place with
      | ok p =>
        have hfetch := h.fetch Reader.nextRow (.inr rfl)
        exact hfetch.discard hκ
      | error | cancelled | panicked => exact h
  cases state with
  | sent polls place => exact hanswer polls place conn h
  | fresh command =>
    have hrun := dispatch setup caller command h
    simp only [Dispatching.poll]
    split <;> rename_i heq <;> rw [heq] at hrun
    · exact hanswer _ _ _ hrun
    all_goals exact hrun

end Tidy

/-! ## Operations -/

namespace Operation

variable (setup) (hκ : ∀ c : κ, Cursor.isClosed (Cursor.close c) = true)
include hκ

theorem poll_tidy (caller : Caller) (operation : Operation ρ)
    (h : Tidy.During c conn operation.flight?) :
    Polled.Ensures (fun o => Tidy (c.give o.handle?.toList) none)
      (fun next conn => Tidy.During c conn next.flight?) (Tidy c none)
      (operation.poll setup caller conn) := by
  cases hd : operation.isDirect with
  | false =>
    exact Polled.ensures_mono (fun _ _ h => h) (fun _ _ h => h.2) (fun _ h => h)
      ((Tidy.carries setup hκ c caller).poll hd h)
  | true =>
    cases operation with
    | dispatching state =>
      refine Polled.ensures_within ?_ ?_ (Tidy.dispatching setup hκ caller state h)
      · rintro (_ | _ | _ | _) conn h <;> simpa [Outcome.map, Outcome.handle?] using h
      · exact fun _ _ h => h
    | _ => cases hd

/-- The cursor of a call that nobody waits for is closed. -/
theorem drop_tidy (caller : Caller) (operation : Operation ρ)
    (h : Tidy.During c conn operation.flight?) :
    Tidy c none (operation.drop setup caller conn) := by
  cases hd : operation.isDirect with
  | false => exact (Tidy.carries setup hκ c caller).drop hd h
  | true =>
    cases operation with
    | dispatching state =>
      cases state with
      | fresh command => exact h
      | sent n place => exact Tidy.discard hκ h
    | _ => cases hd

end Operation

end OneConnection
