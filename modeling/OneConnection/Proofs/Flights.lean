import OneConnection.Operation
import OneConnection.Proofs.Deferred.Turns

/-!
# Flights

The call of an operation that is on its way, with the cursor that it has opened. A fact of the
connection and of such a call, which the calls carry on, is carried on by whole operations.
-/

namespace OneConnection

variable {δ κ ρ : Type}

/-- The polls that a call still needs once it is sent, and the place of the cursor that it has
opened. -/
def Call.flight? {β : Type} (place : β → Option Nat) : Call β → Option (Nat × Option Nat)
  | .waiting => none
  | .sent polls b => some (polls, place b)

def Execution.flight? (e : Execution) : Option (Nat × Option Nat) :=
  e.call.flight? (·.place.value?)

def Viewing.flight? : Viewing → Option (Nat × Option Nat)
  | .running e => e.flight?
  | _ => none

def Adding.flight? : Adding → Option (Nat × Option Nat)
  | .fresh _ => none
  | .flushing call => call.flight? fun _ => none

def Dispatching.flight? : Dispatching → Option (Nat × Option Nat)
  | .fresh _ => none
  | .sent polls place => some (polls, place.value?)

def Operation.flight? : Operation ρ → Option (Nat × Option Nat)
  | .adding state => state.flight?
  | .flushing call => call.flight? fun _ => none
  | .executing _ call => call.flight? fun _ => none
  | .opening _ call => call.flight? (·.place.value?)
  | .listing _ _ call => call.flight? (·.place.value?)
  | .viewing _ _ _ view => view.flight?
  | .dispatching state => state.flight?

/-- The operation goes to the driver past the connection's access rules. -/
def Operation.isDirect : Operation ρ → Bool
  | .dispatching _ => true
  | _ => false

/-! ## Facts that calls carry on -/

/-- `F` is a fact of the connection with a call that may be on its way, and `D` is what holds when
callers were given some readers. -/
structure Carries [Cursor κ] (setup : Setup δ κ) (caller : Caller)
    (F : Connection δ κ → Option (Nat × Option Nat) → Prop)
    (D : List Handle → Connection δ κ → Prop) : Prop where
  idle : ∀ conn, D [] conn ↔ F conn none
  polls : ∀ conn n m place, F conn (some (n, place)) → F conn (some (m, place))
  push : ∀ c conn, F conn none → F (conn.push setup c).2 none
  defer : ∀ conn deferred, F conn none → F { conn with deferred } none
  flushing : (Flushing.protocol setup caller.mode).Leads (F · none)
    (fun _ conn => F conn (some (0, none))) (fun _ => (F · none)) (F · none)
  executing : ∀ c, (Executing.protocol setup caller.mode c).Leads (F · none)
    (fun _ conn => F conn (some (0, none))) (fun _ => (F · none)) (F · none)
  opening : ∀ c, (Opening.protocol setup caller c).Leads (F · none)
    (fun sent conn => F conn (some (0, sent.place.value?))) (fun o => D o.value?.toList) (F · none)
  decode : ∀ {α : Type} (decoder : RowDecoder α) x conn, D [x] conn →
    F (Listing.decode decoder x conn).2 none
  read : ∀ errand x conn, D [x] conn → F (Execution.read caller errand x conn).2 none
  release : ∀ conn, F conn (some (0, none)) → F (conn.setAccess .free) none
  discard : ∀ place conn, F conn (some (0, some place)) →
    F ((conn.dropCursor place).setAccess .free) none

namespace Carries

variable [Cursor κ] {setup : Setup δ κ} {caller : Caller}
  {F : Connection δ κ → Option (Nat × Option Nat) → Prop}
  {D : List Handle → Connection δ κ → Prop} {conn : Connection δ κ}

/-! ## Polls -/

theorem holds_iff (h : Carries setup caller F D) {β : Type} {place : β → Option Nat}
    (call : Call β) :
    call.Holds (F · none) (fun b conn => F conn (some (0, place b))) conn ↔
      F conn (call.flight? place) := by
  cases call with
  | waiting => exact Iff.rfl
  | sent n b => exact ⟨h.polls conn 0 n _, h.polls conn n 0 _⟩

theorem call (h : Carries setup caller F D) {β α : Type} {p : Protocol δ κ β α}
    {place : β → Option Nat} {R : Outcome α → Connection δ κ → Prop}
    (hp : p.Leads (F · none) (fun b conn => F conn (some (0, place b))) R (F · none))
    (call : Call β) (hF : F conn (call.flight? place)) :
    Polled.Ensures R (fun call conn => F conn (call.flight? place)) (F · none)
      (p.poll caller call conn) :=
  Polled.ensures_mono (fun _ _ h => h) (fun call _ => (h.holds_iff call).mp) (fun _ h => h)
    (Protocol.poll_ensures hp caller call conn ((h.holds_iff call).mpr hF))

theorem flush (h : Carries setup caller F D) (call : Call Flushing.Sent)
    (hF : F conn (call.flight? fun _ => none)) :
    Polled.Ensures (fun _ => (F · none)) (fun state conn => F conn state.flight?) (F · none)
      (Adding.flush setup caller call conn) := by
  refine Polled.ensures_within (g := Adding.flushing) ?_ ?_ (h.call h.flushing call hF)
  · exact fun _ _ hF => hF
  · exact fun _ _ hF => hF

theorem adding (h : Carries setup caller F D) (state : Adding) (hF : F conn state.flight?) :
    Polled.Ensures (fun _ => (F · none)) (fun state conn => F conn state.flight?) (F · none)
      (state.poll setup caller conn) := by
  cases state with
  | flushing call => exact h.flush call hF
  | fresh c =>
    have hpush := h.push c conn hF
    simp only [Adding.poll]
    split
    · exact hF
    · split <;> rename_i heq <;> rw [heq] at hpush
      · exact h.flush .waiting hpush
      · exact hpush

theorem listing (h : Carries setup caller F D) {α : Type} (c : Command) (decoder : RowDecoder α)
    (call : Call Opening.Sent) (hF : F conn (call.flight? (·.place.value?))) :
    Polled.Ensures (fun _ => (F · none)) (fun call conn => F conn (call.flight? (·.place.value?)))
      (F · none) (Listing.poll setup caller c decoder call conn) := by
  have ho := h.call (h.opening c) call hF
  unfold Listing.poll Opening.poll
  split <;> rename_i heq <;> rw [heq] at ho
  · exact ho
  · exact ho
  · exact h.decode decoder _ _ ho
  all_goals exact (h.idle _).mp ho

theorem execution_leads (h : Carries setup caller F D) :
    Execution.Leads setup caller (fun _ _ _ call conn => F conn (call.flight? (·.place.value?)))
      (fun _ _ => (F · none)) (fun _ => (F · none)) (F · none) where
  begins _ _ _ _ hF := hF
  asks errand rest done call conn hF := by
    have ho := h.call (h.opening errand.command) call hF
    unfold Execution.ask Opening.poll
    split <;> rename_i heq <;> rw [heq] at ho
    · exact ho
    · exact ho
    · rename_i opened conn
      have hdone : F (Execution.complete caller errand opened conn).2 none := by
        cases opened with
        | ok x => exact h.read errand x conn ho
        | error | cancelled | panicked => exact (h.idle _).mp ho
      simp only [Polled.Ensures]
      split <;> exact hdone

theorem proceed (h : Carries setup caller F D) (batch index : Nat)
    {x : Polled Execution (Except Stop (List ResultSet)) × Connection δ κ}
    (hx : Polled.Ensures (Execution.Ends (fun _ _ => (F · none)) fun _ => (F · none))
      (fun e conn => F conn e.flight?) (F · none) x) :
    Polled.Ensures (fun _ => (F · none)) (fun view conn => F conn view.flight?) (F · none)
      (Viewing.proceed batch index x) := by
  obtain ⟨r | e | message, conn⟩ := x
  · rcases r with (reason | why) | sets <;> exact h.defer _ _ hx
  · exact hx
  · exact h.defer _ _ hx

theorem viewing (h : Carries setup caller F D) (batch index : Nat) (view : Viewing)
    (hF : F conn view.flight?) :
    Polled.Ensures (fun _ => (F · none)) (fun view conn => F conn view.flight?) (F · none)
      (view.poll setup caller batch index conn) := by
  unfold Viewing.poll
  cases ht : view.turn caller batch conn with
  | resumes e =>
    rw [Viewing.turn_resumes ht] at hF
    exact h.proceed batch index (Execution.resume_ensures h.execution_leads e conn hF)
  | starts b =>
    have hidle : F conn none := by
      cases view with
      | running e => cases ht
      | fresh | awaiting => exact hF
    exact h.proceed batch index (Execution.run_ensures h.execution_leads _ _ _ (h.defer _ _ hidle))
  | _ =>
    cases view with
    | running e => cases ht
    | fresh | awaiting => exact hF

/-- An answer that hands out no reader. -/
theorem handleless (h : Carries setup caller F D) {τ α : Type}
    {f : Outcome α → Outcome (Reply ρ)} {g : τ → Operation ρ} (hf : ∀ o, (f o).handle? = none)
    (hg : ∀ t, (g t).isDirect = false) {x : Polled τ (Outcome α) × Connection δ κ}
    (hx : Polled.Ensures (fun _ => (F · none)) (fun t conn => F conn (g t).flight?) (F · none) x) :
    Polled.Ensures (fun o => D o.handle?.toList)
      (fun next conn => next.isDirect = false ∧ F conn next.flight?) (F · none)
      ((x.1.map f).within g, x.2) := by
  refine Polled.ensures_within ?_ ?_ hx
  · intro o conn hF
    rw [hf]
    exact (h.idle conn).mpr hF
  · exact fun t _ hF => ⟨hg t, hF⟩

theorem poll (h : Carries setup caller F D) {operation : Operation ρ}
    (hdirect : operation.isDirect = false) (hF : F conn operation.flight?) :
    Polled.Ensures (fun o => D o.handle?.toList)
      (fun next conn => next.isDirect = false ∧ F conn next.flight?) (F · none)
      (operation.poll setup caller conn) := by
  cases operation with
  | adding state =>
    apply h.handleless (g := .adding) ?_ (fun _ => rfl) (h.adding state hF)
    rintro (_ | _ | _ | _) <;> rfl
  | flushing call =>
    apply h.handleless (g := .flushing) ?_ (fun _ => rfl) (h.call h.flushing call hF)
    rintro (_ | _ | _ | _) <;> rfl
  | executing c call =>
    apply h.handleless (g := .executing c) ?_ (fun _ => rfl) (h.call (h.executing c) call hF)
    rintro (_ | _ | _ | _) <;> rfl
  | opening c call =>
    refine Polled.ensures_within ?_ ?_ (h.call (h.opening c) call hF)
    · rintro (_ | _ | _ | _) conn hF <;> exact hF
    · exact fun _ _ hF => ⟨rfl, hF⟩
  | listing c decoder call =>
    apply h.handleless (g := .listing c decoder) ?_ (fun _ => rfl) (h.listing c decoder call hF)
    rintro (_ | _ | _ | _) <;> rfl
  | viewing batch index project view =>
    apply h.handleless (g := .viewing batch index project) ?_ (fun _ => rfl)
      (h.viewing batch index view hF)
    rintro (rows | _ | _ | _)
    · simp only [Outcome.andThen]
      cases project rows <;> rfl
    all_goals rfl
  | dispatching state => cases hdirect

/-! ## Going away -/

theorem drop_plain (h : Carries setup caller F D) {β α : Type} (p : Protocol δ κ β α)
    (hp : ∀ b conn, p.discard b conn = conn) (call : Call β)
    (hF : F conn (call.flight? fun _ => none)) : F (p.drop call conn) none := by
  cases call with
  | waiting => exact hF
  | sent n b =>
    show F ((p.discard b conn).setAccess .free) none
    rw [hp]
    exact h.release conn (h.polls conn n 0 _ hF)

theorem drop_opening (h : Carries setup caller F D) (c : Command) (call : Call Opening.Sent)
    (hF : F conn (call.flight? (·.place.value?))) :
    F (Opening.drop setup caller c call conn) none := by
  cases call with
  | waiting => exact hF
  | sent n b =>
    have hF := h.polls conn n 0 _ hF
    obtain ⟨command, place⟩ := b
    cases place with
    | ok place => exact h.discard place conn hF
    | error | cancelled | panicked => exact h.release conn hF

theorem drop (h : Carries setup caller F D) {operation : Operation ρ}
    (hdirect : operation.isDirect = false) (hF : F conn operation.flight?) :
    F (operation.drop setup caller conn) none := by
  cases operation with
  | adding state =>
    cases state with
    | fresh c => exact hF
    | flushing call =>
      exact h.drop_plain (Flushing.protocol setup caller.mode) (fun _ _ => rfl) call hF
  | flushing call =>
    exact h.drop_plain (Flushing.protocol setup caller.mode) (fun _ _ => rfl) call hF
  | executing c call =>
    exact h.drop_plain (Executing.protocol setup caller.mode c) (fun _ _ => rfl) call hF
  | opening c call => exact h.drop_opening c call hF
  | listing c decoder call => exact h.drop_opening c call hF
  | viewing batch index project view =>
    cases view with
    | fresh | awaiting => exact hF
    | running e => exact h.defer _ _ (h.drop_opening e.errand.command e.call hF)
  | dispatching state => cases hdirect

end Carries

end OneConnection
