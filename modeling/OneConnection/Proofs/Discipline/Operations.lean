import OneConnection.Proofs.Discipline.Sound
import OneConnection.Proofs.Flights

/-!
# Operations on sound connections

Every poll of an operation leads from a sound connection to a sound one. An operation has a call on
its way exactly while the connection is busy.
-/

namespace OneConnection

variable {δ κ ρ : Type} [Cursor κ] {setup : Setup δ κ} {strict : Bool} {held : List Handle}
  {conn : Connection δ κ}

/-! ## Flights -/

/-- What holds while a call is on its way that has opened a cursor at a place. -/
def Sound.Sent (strict : Bool) (held : List Handle) (place : Option Nat)
    (conn : Connection δ κ) : Prop :=
  ∃ out : Option (Nat × κ), out.map Prod.fst = place ∧ Sound strict held true out conn

/-- What holds of the connection with a call that may be on its way. -/
def InFlight (strict : Bool) (held : List Handle) (conn : Connection δ κ) :
    Option (Nat × Option Nat) → Prop
  | none => Sound strict held false none conn
  | some (_, place) => Sound.Sent strict held place conn

theorem Sound.sent_none : Sound.Sent strict held none conn ↔ Sound strict held true none conn := by
  constructor
  · rintro ⟨out, hout, h⟩
    rwa [Option.map_eq_none_iff.mp hout] at h
  · intro h
    exact ⟨none, rfl, h⟩

/-! ## Before a call -/

/-- A call may go to the driver. -/
structure Ready (strict : Bool) (held : List Handle) (conn : Connection δ κ) : Prop where
  sound : Sound strict held true none conn
  clear : strict = true → conn.readers.openCursors = 0

namespace Ready

variable (setup)

theorem count (f : Stats → Stats) (h : Ready strict held conn) :
    Ready strict held (conn.count f) :=
  ⟨h.sound.count f, h.clear⟩

theorem noted : Noted (Ready (δ := δ) (κ := κ) strict held) := fun _ _ he h =>
  ⟨Sound.noted _ _ he h.sound, h.clear⟩

theorem recordCall (kind : CallKind) (mode : Mode) (cs : List Command) (database : δ)
    (h : Ready strict held conn) :
    Sound strict held true none { conn.recordCall kind mode cs with database } := by
  refine ⟨h.sound.access, h.sound.order, ?_⟩
  intro hm call hc
  rcases List.mem_append.mp hc with hc | hc
  · exact h.sound.alone hm call hc
  · cases List.mem_singleton.mp hc
    exact h.clear hm

def Dispatched (strict : Bool) (held : List Handle) :
    Dispatch.Result × Connection δ κ → Prop
  | (.sent _ place, conn) => Sound.Sent strict held place.value? conn
  | (_, conn) => Sound strict held true none conn

theorem dispatch (caller : Caller) (c : Command) (h : Ready strict held conn) :
    Dispatched strict held (Dispatch.run setup caller c conn) := by
  simp only [Dispatch.run]
  split
  · exact h.sound
  · exact h.sound
  · rename_i handler _ _
    have hcall := h.recordCall .reader (Dispatch.mode caller handler) [c]
    split
    · obtain ⟨out, hplace, -, hsound⟩ := (hcall _).keep _
      exact ⟨out, hplace, hsound⟩
    · exact hcall _

end Ready

namespace Sound

variable (setup) (hκ : strict = true → Cursor.Releases κ)
include hκ

theorem ready (h : Sound strict held true none conn) :
    Ready strict held conn.checkReaders.2 := by
  refine ⟨h.checkReaders hκ, ?_⟩
  intro hm
  obtain ⟨all, -, ho⟩ := h.order
  exact ho.openCursors_checkReaders hκ hm

theorem beforeSingle (c : Command) (h : Sound strict held true none conn) :
    Ready strict held (conn.beforeSingle setup c).2 :=
  (Ready.noted.logCommand setup (setup.prepare c) (h.ready hκ)).count
    fun s => { s with roundTrips := s.roundTrips + 1 }

/-! ## Calls without cursors -/

omit hκ in
theorem begun {β α : Type} {x : Begun β α × Connection δ κ} (h : Sound strict held true none x.2) :
    Begun.Ensures (fun _ => Sent strict held none) (fun _ => Sound strict held false none)
      (Sound strict held false none) x := by
  obtain ⟨_ | _ | _, conn⟩ := x
  · exact sent_none.mpr h
  · exact h.setAccess .free
  · exact h.setAccess .broken

theorem begin_flushing (mode : Mode) (h : Sound strict held true none conn) :
    Sound strict held true none (Flushing.begin setup mode conn).2 := by
  have htake : Sound strict held true none conn.takePending.2 := ⟨h.access, h.order, h.alone⟩
  have hready := (Ready.noted.logBatch setup conn.pending.log (htake.ready hκ)).count
    fun s => { s with flushes := s.flushes + 1, roundTrips := s.roundTrips + 1 }
  have hcall := hready.recordCall .batch mode conn.pending.commands
  simp only [Flushing.begin]
  split
  · exact htake
  · split <;> exact hcall _

theorem flushing_leads (mode : Mode) :
    (Flushing.protocol setup mode).Leads (Sound strict held false none)
      (fun _ => Sent strict held none) (fun _ => Sound strict held false none)
      (Sound strict held false none) where
  fails _ _ h _ := h
  begins conn h _ := begun (begin_flushing setup hκ mode (h.setAccess .held))
  finishes sent conn h := by
    have h := sent_none.mp h
    refine (show Sound strict held true none _ from ?_).setAccess .free
    simp only [Flushing.protocol, Flushing.finish, Flushing.verify]
    split
    · split
      · exact h
      · exact noted _ _ rfl h
    · exact h

theorem executing_leads (mode : Mode) (c : Command) :
    (Executing.protocol setup mode c).Leads (Sound strict held false none)
      (fun _ => Sent strict held none) (fun _ => Sound strict held false none)
      (Sound strict held false none) where
  fails _ _ h _ := h
  begins conn h _ := by
    have hready := beforeSingle setup hκ c (h.setAccess .held)
    have hcall := hready.recordCall .nonQuery mode [setup.prepare c]
    refine begun ?_
    simp only [Executing.protocol, Executing.begin]
    split <;> exact hcall _
  finishes sent conn h := (sent_none.mp h).setAccess .free

/-! ## Calls that open cursors -/

theorem opening_leads (caller : Caller) (c : Command) :
    (Opening.protocol setup caller c).Leads (Sound strict held false none)
      (fun sent => Sent strict held sent.place.value?)
      (fun o => Sound strict (held ++ o.value?.toList) false none)
      (Sound strict held false none) where
  fails o _ h ho := by
    cases o with
    | ok h => cases ho
    | error | cancelled | panicked => simpa [Outcome.value?] using h
  begins conn h _ := by
    have hready := beforeSingle setup hκ c (h.setAccess .held)
    have hrun := hready.dispatch setup caller
      ((conn.setAccess .held).beforeSingle setup c).1
    simp only [Opening.protocol, Opening.begin]
    split <;> rename_i heq <;> rw [heq] at hrun
    · exact hrun
    · exact hrun.setAccess .broken
    · simpa [Begun.Ensures, Outcome.value?] using hrun.setAccess .free
    · simpa [Begun.Ensures, Outcome.value?] using hrun.setAccess .free
  finishes sent conn h := by
    obtain ⟨command, place⟩ := sent
    obtain ⟨out, hout, h⟩ := h
    simp only [Opening.protocol, Opening.finish]
    cases place with
    | ok p =>
      obtain ⟨⟨q, c⟩, rfl, rfl⟩ := Option.map_eq_some_iff.mp hout
      exact (h.register.count _).setAccess .free
    | error | cancelled | panicked =>
      rw [Option.map_eq_none_iff.mp hout] at h
      simpa [Outcome.value?] using h.setAccess .free

theorem decode {α : Type} (decoder : RowDecoder α) {x : Handle}
    (h : Sound strict (held ++ [x]) false none conn) :
    Sound strict held false none (Listing.decode decoder x conn).2 := by
  have hx : x ∈ held ++ [x] := List.mem_append_right _ (List.mem_singleton_self x)
  have hfetch := h.fetch hx (f := Cursor.collect decoder.decode)
    fun hs r => Cursor.collect_keeps (fun r' hr' => hr'.trans (Reader.calm_nextRow (hκ hs) r'))
      decoder.decode (Reader.Calm.refl r)
  exact (hfetch.closeReader hκ hx).forget fun y hy => List.mem_append_left _ hy

theorem read (caller : Caller) (errand : Errand) {x : Handle}
    (h : Sound strict (held ++ [x]) false none conn) :
    Sound strict held false none (Execution.read caller errand x conn).2 := by
  have hx : x ∈ held ++ [x] := List.mem_append_right _ (List.mem_singleton_self x)
  have hforget : ∀ y ∈ held, y ∈ held ++ [x] := fun y hy => List.mem_append_left _ hy
  unfold Execution.read
  split
  · exact (h.closeReader hκ hx).forget hforget
  · rename_i reader hr
    refine (closeReader hκ hx ?_).forget hforget
    refine h.hold none _ fun _ hheld ho => ho.settles_place (hheld x hx) ?_
    refine .update x.place fun hs r hr' => ?_
    rw [hr] at hr'
    cases hr'
    exact Reading.sets_keeps (fun r' hr' => hr'.trans (Reader.calm_nextRow (hκ hs) r'))
      (fun r' hr' => hr'.trans (Reader.calm_nextResult (hκ hs) r')) caller errand.command
      errand.sets _
      (Reader.Calm.refl reader)

theorem carries (held : List Handle) (caller : Caller) :
    Carries setup caller (InFlight strict held) fun more => Sound strict (held ++ more) false none
    where
  idle conn := by
    rw [List.append_nil]
    exact Iff.rfl
  polls _ _ _ _ h := h
  push _ _ h := ⟨h.access, h.order, h.alone⟩
  defer _ _ h := ⟨h.access, h.order, h.alone⟩
  flushing := flushing_leads setup hκ caller.mode
  executing := executing_leads setup hκ caller.mode
  opening := opening_leads setup hκ caller
  decode decoder _ _ := decode hκ decoder
  read errand _ _ := read hκ caller errand
  release _ h := (sent_none.mp h).setAccess .free
  discard place conn h := by
    obtain ⟨out, hout, h⟩ := h
    obtain ⟨⟨q, c⟩, rfl, rfl⟩ := Option.map_eq_some_iff.mp hout
    exact (h.discard hκ).setAccess .free

end Sound

namespace Operation

/-- What holds of an operation of the connection and of the connection with it. -/
structure Disciplined (strict : Bool) (held : List Handle) (operation : Operation ρ)
    (conn : Connection δ κ) : Prop where
  indirect : operation.isDirect = false
  sound : InFlight strict held conn operation.flight?

theorem Disciplined.poll (hκ : strict = true → Cursor.Releases κ) (caller : Caller)
    {operation : Operation ρ} (h : operation.Disciplined strict held conn) :
    Polled.Ensures (fun o => Sound strict (held ++ o.handle?.toList) false none)
      (Disciplined strict held) (Sound strict held false none)
      (Operation.poll setup caller operation conn) :=
  Polled.ensures_mono (fun _ _ h => h) (fun _ _ h => ⟨h.1, h.2⟩) (fun _ h => h)
    ((Sound.carries setup hκ held caller).poll h.indirect h.sound)

/-- The driver gives up a call that nobody waits for, with the cursor that it has opened. -/
theorem Disciplined.drop (hκ : strict = true → Cursor.Releases κ) (caller : Caller)
    {operation : Operation ρ} (h : operation.Disciplined strict held conn) :
    Sound strict held false none (operation.drop setup caller conn) :=
  (Sound.carries setup hκ held caller).drop h.indirect h.sound

end Operation

end OneConnection
