import OneConnection.Proofs.Acts
import OneConnection.Proofs.Discipline.Waiting

/-!
# One call at a time

In every run the connection carries one call at most, and a driver that keeps only one cursor open
finds none open at a call.
-/

namespace OneConnection

variable {δ κ ρ : Type} [Cursor κ] {setup : Setup δ κ}

/-! ## Acts -/

section

variable {strict busy : Bool} {held : List Handle} {out : Option (Nat × κ)}
  {conn : Connection δ κ}

theorem Sound.disposeReaders (hκ : strict = true → Cursor.Releases κ) (leaks : Bool)
    (h : Sound strict held busy out conn) :
    Sound strict held busy out (conn.disposeReaders leaks).2 := by
  have hclose := h.closeAllReaders hκ
  simp only [Connection.disposeReaders]
  split
  · exact noted.warnAll id _ hclose
  · exact hclose

theorem Sound.dispose (setup : Setup δ κ) (hκ : strict = true → Cursor.Releases κ)
    (h : Sound strict held busy out conn) :
    Sound strict held busy out (conn.dispose setup).2 := by
  have htake : Sound strict held busy out conn.takePending.2 := ⟨h.access, h.order, h.alone⟩
  refine disposeReaders hκ _ ?_
  simp only [Connection.discardPending]
  split
  · exact htake
  · exact noted _ _ rfl htake

omit [Cursor κ] in
theorem Session.register_aside (q : Query) (s : Session) (conn : Connection δ κ) :
    Aside conn (s.register q conn).2.2 := by
  obtain ⟨deferred, heq⟩ := s.register_deferred q conn
  rw [heq]
  exact ⟨rfl, rfl, rfl, rfl, rfl, rfl⟩

theorem Sound.abandon (hκ : strict = true → Cursor.Releases κ) (s : Session)
    (h : Sound strict held busy out conn) :
    Sound strict held busy out (s.abandon setup conn) := by
  have hdispose := h.dispose setup hκ
  unfold Session.abandon
  split <;> rename_i heq <;> rw [heq] at hdispose
  · exact hdispose
  · exact noted _ _ rfl hdispose

end

namespace World

variable {strict : Bool} {out : Option (Nat × κ)} {w : World δ κ ρ}

theorem sound_act (setup : Setup δ κ) (hκ : strict = true → Cursor.Releases κ) (a : Act)
    (h : Sound strict w.held w.conn.isBusy out w.conn) :
    Sound strict (w.act setup a).held w.conn.isBusy out (w.act setup a).conn := by
  cases a with
  | cancel request => exact ⟨h.access, h.order, h.alone⟩
  | revive x => exact ⟨h.access, h.order, h.alone⟩
  | register q => exact h.aside (w.session.register_aside q w.conn)
  | newBatch => exact ⟨h.access, h.order, h.alone⟩
  | addQuery batch q =>
    simp only [act]
    split
    · rename_i hadd
      obtain ⟨b, -, -, hx⟩ := Connection.addQuery_eq_some hadd
      cases hx
      exact ⟨h.access, h.order, h.alone⟩
    · exact h
  | use x way =>
    simp only [act]
    split
    · exact h.use hκ ‹_› way
    · exact h
  | closeReader x =>
    simp only [act]
    split
    · exact h.closeReader hκ ‹_›
    · exact h
  | dropReader x =>
    simp only [act]
    split
    · exact (h.dropReader hκ ‹_›).forget fun y hy => List.mem_of_mem_erase hy
    · exact h
  | checkReaders => exact h.checkReaders hκ
  | closeAllReaders => exact h.closeAllReaders hκ
  | dispose => exact h.dispose setup hκ
  | close => exact h.dispose setup hκ
  | abandon => exact h.abandon hκ w.session

/-! ## Steps -/

/-- Nobody goes to the driver directly, the connection is busy while one call is on its way, and it
is sound with the cursor of that call. -/
structure Disciplined (strict : Bool) (w : World δ κ ρ) : Prop where
  indirect : ∀ n t, w.task? n = some t → t.operation.isDirect = false
  single : w.count (·.flight?.isSome) = w.conn.isBusy.toNat
  sound : ∃ out : Option (Nat × κ), Sound strict w.held w.conn.isBusy out w.conn ∧
    (w.conn.isBusy = false → out = none) ∧
    ∀ n t polls place, w.task? n = some t → t.operation.flight? = some (polls, place) →
      out.map Prod.fst = place

namespace Disciplined

variable {w' : World δ κ ρ}

theorem of_idle (hd : ∀ n t, w.task? n = some t → t.operation.isDirect = false)
    (hcount : w.count (·.flight?.isSome) = 0) (hs : Sound strict w.held false none w.conn) :
    Disciplined strict w := by
  refine ⟨hd, ?_, none, ?_, fun _ => rfl, ?_⟩
  · rw [hs.access, hcount]
    rfl
  · rw [hs.access]
    exact hs
  · intro n t polls place ht hf
    have := count_eq_zero hcount ht
    simp [hf] at this

theorem of_sent (hd : ∀ n t, w.task? n = some t → t.operation.isDirect = false)
    (hcount : w.count (·.flight?.isSome) = 1) {n : Nat} {t : Task ρ} {polls : Nat}
    {place : Option Nat} (ht : w.task? n = some t) (hf : t.operation.flight? = some (polls, place))
    (hs : Sound.Sent strict w.held place w.conn) : Disciplined strict w := by
  obtain ⟨out, hout, hs⟩ := hs
  refine ⟨hd, ?_, out, ?_, ?_, ?_⟩
  · rw [hs.access, hcount]
    rfl
  · rw [hs.access]
    exact hs
  · rw [hs.access]
    nofun
  · intro m u polls' place' hu hg
    obtain rfl : n = m :=
      eq_of_count_le_one (Nat.le_of_eq hcount) ht (by simp [hf]) hu (by simp [hg])
    rw [ht] at hu
    cases hu
    rw [hf] at hg
    cases hg
    exact hout

theorem of_aside (h : Disciplined strict w)
    (hd : ∀ n t, w'.task? n = some t → t.operation.isDirect = false)
    (hcount : w'.count (·.flight?.isSome) = w.count (·.flight?.isSome)) (hheld : w'.held = w.held)
    (ha : Aside w.conn w'.conn)
    (hcalls : ∀ n t, w'.task? n = some t → t.operation.flight?.isSome = true →
      w.task? n = some t) : Disciplined strict w' := by
  obtain ⟨out, hs, hidle, hout⟩ := h.sound
  have hbusy : w'.conn.isBusy = w.conn.isBusy := (hs.aside ha).access
  refine ⟨hd, ?_, out, ?_, ?_, ?_⟩
  · rw [hcount, hbusy]
    exact h.single
  · rw [hbusy, hheld]
    exact hs.aside ha
  · rw [hbusy]
    exact hidle
  · intro n t polls place ht hf
    exact hout n t polls place (hcalls n t ht (by simp [hf])) hf

theorem act (hκ : strict = true → Cursor.Releases κ) (a : Act) (h : Disciplined strict w) :
    Disciplined strict (w.act setup a) := by
  obtain ⟨out, hs, hidle, hout⟩ := h.sound
  have hs' := sound_act setup hκ a hs
  have hbusy : (w.act setup a).conn.isBusy = w.conn.isBusy := hs'.access
  refine ⟨?_, ?_, out, ?_, ?_, ?_⟩
  · intro n t ht
    rw [task?_act] at ht
    exact h.indirect n t ht
  · rw [hbusy, count_act]
    exact h.single
  · rw [hbusy]
    exact hs'
  · rw [hbusy]
    exact hidle
  · intro n t polls place ht
    rw [task?_act] at ht
    exact hout n t polls place ht

theorem operation (h : Disciplined strict w) {n : Nat} {t : Task ρ} (ht : w.task? n = some t)
    (hf : t.operation.flight?.isSome = w.conn.isBusy) :
    t.operation.Disciplined strict w.held w.conn := by
  obtain ⟨out, hs, hidle, hout⟩ := h.sound
  refine ⟨h.indirect n t ht, ?_⟩
  cases hc : t.operation.flight? with
  | none =>
    rw [hc] at hf
    have hb : w.conn.isBusy = false := hf.symm
    rw [hb, hidle hb] at hs
    exact hs
  | some flight =>
    rw [hc] at hf
    have hb : w.conn.isBusy = true := hf.symm
    rw [hb] at hs
    exact ⟨out, hout n t flight.1 flight.2 ht hc, hs⟩

theorem busy_of_flight (h : Disciplined strict w) {n : Nat} {t : Task ρ}
    (ht : w.task? n = some t) (hf : t.operation.flight?.isSome = true) : w.conn.isBusy = true := by
  cases hb : w.conn.isBusy with
  | true => rfl
  | false =>
    have hzero : w.count (·.flight?.isSome) = 0 := by rw [h.single, hb, Bool.toNat_false]
    rw [count_eq_zero hzero ht] at hf
    cases hf

theorem indirect_answer (h : Disciplined strict w) {n : Nat} {t : Task ρ}
    (ht : w.task? n = some t) (caller : Caller)
    {x : Polled (Operation ρ) (Outcome (Reply ρ)) × Connection δ κ}
    (hx : ∀ next, x.1.waiting? = some next → next.isDirect = false) (m : Nat) (u : Task ρ)
    (hu : (w.answer n caller x).task? m = some u) : u.operation.isDirect = false := by
  rw [task?_answer ht] at hu
  split at hu
  · obtain ⟨next, hnext, rfl⟩ := Option.map_eq_some_iff.mp hu
    exact hx next hnext
  · exact h.indirect m u hu

/-- The poll of a task that has its call on its way, or of any if there is none. -/
theorem answer_sound (h : Disciplined strict w) {n : Nat} {t : Task ρ} (ht : w.task? n = some t)
    (hf : t.operation.flight?.isSome = w.conn.isBusy) (caller : Caller)
    {x : Polled (Operation ρ) (Outcome (Reply ρ)) × Connection δ κ}
    (hx : Polled.Ensures (fun o => Sound strict (w.held ++ o.handle?.toList) false none)
      (fun next => next.Disciplined strict w.held) (Sound strict w.held false none) x) :
    Disciplined strict (w.answer n caller x) := by
  have hcount := count_answer ht caller x (·.flight?.isSome)
  rw [hf, ← h.single] at hcount
  have hd := h.indirect_answer ht caller (x := x)
  obtain ⟨o | next | message, conn⟩ := x
  · refine of_idle (hd ?_) (by simpa [Polled.waits] using hcount) hx
    rintro next ⟨⟩
  · have hd := hd fun _ hn => Option.some.inj hn ▸ hx.indirect
    have hs := hx.sound
    cases hn : next.flight? with
    | none =>
      rw [hn] at hs
      exact of_idle hd (by simpa [Polled.waits, hn] using hcount) hs
    | some flight =>
      rw [hn] at hs
      have hone : (w.answer n caller (.waiting next, conn)).count (·.flight?.isSome) = 1 := by
        simp only [Polled.waits, hn, Option.isSome_some, Bool.toNat_true] at hcount
        omega
      exact of_sent hd hone ((task?_answer ht caller _ n).trans (if_pos rfl)) hn hs
  · refine of_idle (hd ?_) (by simpa [Polled.waits] using hcount) hx
    rintro next ⟨⟩

theorem answer_aside (h : Disciplined strict w) {n : Nat} {t : Task ρ} (ht : w.task? n = some t)
    (hf : t.operation.flight? = none) (caller : Caller)
    {x : Polled (Operation ρ) (Outcome (Reply ρ)) × Connection δ κ}
    (hx : Polled.Ensures (fun o c => o.handle? = none ∧ Aside w.conn c)
      (fun (next : Operation ρ) c => next.flight? = none ∧ next.isDirect = false ∧ Aside w.conn c)
      (Aside w.conn) x) :
    Disciplined strict (w.answer n caller x) := by
  have hcount := count_answer ht caller x (·.flight?.isSome)
  rw [hf, Option.isSome_none, Bool.toNat_false] at hcount
  have hd := h.indirect_answer ht caller (x := x)
  have hcalls : (∀ next, x.1.waiting? = some next → next.flight? = none) →
      ∀ m u, (w.answer n caller x).task? m = some u → u.operation.flight?.isSome = true →
        w.task? m = some u := by
    intro hnext m u hu hfu
    rw [task?_answer ht] at hu
    split at hu
    · obtain ⟨next, hn, rfl⟩ := Option.map_eq_some_iff.mp hu
      simp [hnext next hn] at hfu
    · exact hu
  obtain ⟨o | next | message, conn⟩ := x
  · refine h.of_aside (hd ?_) (by simpa [Polled.waits] using hcount) ?_ hx.2 (hcalls ?_)
    · rintro next ⟨⟩
    · show w.held ++ o.handle?.toList = w.held
      rw [hx.1]
      exact List.append_nil _
    · rintro next ⟨⟩
  · obtain ⟨hnf, hnd, ha⟩ := hx
    refine h.of_aside (hd ?_) (by simpa [Polled.waits, hnf] using hcount) rfl ha (hcalls ?_)
    · exact fun _ hn => Option.some.inj hn ▸ hnd
    · exact fun _ hn => Option.some.inj hn ▸ hnf
  · refine h.of_aside (hd ?_) (by simpa [Polled.waits] using hcount) rfl hx (hcalls ?_)
    · rintro next ⟨⟩
    · rintro next ⟨⟩

theorem poll (hκ : strict = true → Cursor.Releases κ) (n : Nat) (h : Disciplined strict w) :
    Disciplined strict (w.step setup (.poll n)) := by
  cases ht : w.task? n with
  | none => simpa [World.step, ht] using h
  | some t =>
    rw [step_poll ht]
    -- The task has its call on its way or nobody has one, or else it can only wait.
    by_cases hf : t.operation.flight?.isSome = w.conn.isBusy
    · exact h.answer_sound ht hf t.caller ((h.operation ht hf).poll hκ t.caller)
    · have hnone : t.operation.flight? = none := by
        cases hc : t.operation.flight? with
        | none => rfl
        | some flight =>
          rw [h.busy_of_flight ht (by simp [hc]), hc] at hf
          exact absurd rfl hf
      have hbusy : w.conn.access = .held := by
        rw [hnone] at hf
        simpa [Connection.isBusy] using hf
      exact h.answer_aside ht hnone t.caller
        (Operation.poll_aside setup t.caller t.operation hbusy hnone (h.indirect n t ht))

theorem drop (hκ : strict = true → Cursor.Releases κ) (n : Nat) (h : Disciplined strict w) :
    Disciplined strict (w.step setup (.drop n)) := by
  cases ht : w.task? n with
  | none => simpa [World.step, ht] using h
  | some t =>
    have hcount := count_drop setup ht (·.flight?.isSome)
    have hold : ∀ m u, (w.step setup (.drop n)).task? m = some u → w.task? m = some u := by
      intro m u hu
      rw [task?_drop setup ht] at hu
      split at hu
      · cases hu
      · exact hu
    rw [step_drop ht] at hcount hold ⊢
    have hd := fun m u hu => h.indirect m u (hold m u hu)
    cases hf : t.operation.flight? with
    | none =>
      rw [hf] at hcount
      have haside := Operation.drop_aside setup w.conn t.caller hf
      exact h.of_aside hd (by simpa using hcount) rfl haside
        fun m u hu _ => hold m u hu
    | some flight =>
      have hb := h.busy_of_flight ht (by simp [hf])
      have hs := h.single
      rw [hf, Option.isSome_some, Bool.toNat_true] at hcount
      rw [hb, Bool.toNat_true] at hs
      refine of_idle hd (by omega) ?_
      exact (h.operation ht (by rw [hf, hb]; rfl)).drop hκ t.caller

theorem ask (caller : Caller) {request : Request ρ} (hr : ∀ c, request ≠ .dispatch c)
    (h : Disciplined strict w) : Disciplined strict (w.step setup (.ask caller request)) := by
  have hstart : request.start.flight? = none := by
    cases request <;> rfl
  refine h.of_aside ?_ ?_ rfl (.refl _) ?_
  · intro n t ht
    rw [task?_ask] at ht
    split at ht
    · cases ht
      cases request with
      | dispatch c => exact absurd rfl (hr c)
      | _ => rfl
    · exact h.indirect n t ht
  · rw [count_ask, hstart]
    rfl
  · intro n t ht hf
    rw [task?_ask] at ht
    split at ht
    · cases ht
      rw [hstart] at hf
      cases hf
    · exact ht

theorem step (hκ : strict = true → Cursor.Releases κ) {s : Step ρ}
    (hs : ∀ caller c, s ≠ .ask caller (.dispatch c)) (h : Disciplined strict w) :
    Disciplined strict (w.step setup s) := by
  cases s with
  | ask caller request => exact h.ask caller fun c hr => hs caller c (hr ▸ rfl)
  | poll n => exact h.poll hκ n
  | drop n => exact h.drop hκ n
  | act a => exact h.act hκ a

theorem count_le_one (h : Disciplined strict w) : w.count (·.flight?.isSome) ≤ 1 := by
  rw [h.single]
  exact Bool.toNat_le _

theorem flight?_eq_none (h : Disciplined strict w) {n m : Nat} {t u : Task ρ}
    (ht : w.task? m = some t) (hf : t.operation.flight?.isSome = true) (hn : n ≠ m)
    (hu : w.task? n = some u) : u.operation.flight? = none := by
  cases hg : u.operation.flight? with
  | none => rfl
  | some flight => exact absurd (eq_of_count_le_one h.count_le_one hu (by simp [hg]) ht hf) hn

/-- Nobody but its own task touches the cursor of a call that is on its way. -/
theorem cursor_step (hκ : strict = true → Cursor.Releases κ) (h : Disciplined strict w)
    {s : Step ρ} {m : Nat} {t : Task ρ} {polls place : Nat} {cursor : κ} (ht : w.task? m = some t)
    (hf : t.operation.flight? = some (polls, some place)) (hpoll : s ≠ .poll m)
    (hdrop : s ≠ .drop m)
    (hr : w.conn.readers.get? place = some (.plain cursor)) :
    (w.step setup s).conn.readers.get? place = some (.plain cursor) := by
  have hbusy := h.busy_of_flight ht (by simp [hf])
  have hheld : w.conn.access = .held := by simpa [Connection.isBusy] using hbusy
  have hother := fun n u => h.flight?_eq_none (n := n) (u := u) ht (by simp [hf])
  cases s with
  | ask caller request => exact hr
  | act a =>
    -- The order before and after the act says that the same cursor is at the same place.
    obtain ⟨out, hs, -, hout⟩ := h.sound
    obtain ⟨⟨p, c⟩, rfl, rfl⟩ := Option.map_eq_some_iff.mp (hout m t polls (some place) ht hf)
    obtain ⟨all, -, ho⟩ := hs.order
    obtain ⟨all', -, ho'⟩ := (sound_act setup hκ a hs).order
    rw [(ho.apart _ _ rfl).1] at hr
    cases hr
    exact (ho'.apart _ _ rfl).1
  | poll n =>
    cases hu : w.task? n with
    | none => simpa [World.step, hu] using hr
    | some u =>
      have hn : n ≠ m := fun he => hpoll (he ▸ rfl)
      have haside := Operation.aside_poll setup u.caller u.operation hheld (hother n u hn hu)
        (h.indirect n u hu)
      rw [step_poll hu, conn_answer]
      exact (congrArg (Readers.get? · place) haside.readers).trans hr
  | drop n =>
    cases hu : w.task? n with
    | none => simpa [World.step, hu] using hr
    | some u =>
      have hn : n ≠ m := fun he => hdrop (he ▸ rfl)
      have haside := Operation.drop_aside setup w.conn u.caller (hother n u hn hu)
      rw [step_drop hu]
      exact (congrArg (Readers.get? · place) haside.readers).trans hr

theorem create (setup : Setup δ κ) (database : δ)
    (hs : strict = true → setup.driver.capabilities.multipleOpenReaders = false) :
    Disciplined strict (.create setup database : World δ κ ρ) := by
  refine of_idle ?_ rfl (Sound.create setup database hs)
  intro n t ht
  cases ht

/-- Only a poll calls the driver, and no call is on its way then. One that was is answered first. -/
theorem calls_step (h : Disciplined strict w) {s : Step ρ}
    (hs : (w.step setup s).calls ≠ w.calls) :
    ∃ n, s = .poll n ∧ ∀ m t, w.task? m = some t → t.operation.flight?.isSome = true →
      m = n ∧ ∃ place, t.operation.flight? = some (0, place) := by
  cases s with
  | ask caller request => exact absurd rfl hs
  | act a => exact absurd (calls_act setup w a) hs
  | drop n =>
    refine absurd ?_ hs
    cases ht : w.task? n with
    | none => simp only [World.step, ht]
    | some t =>
      rw [step_drop ht]
      exact congrArg (List.filterMap Event.call?) (Operation.history_drop t.caller t.operation)
  | poll n =>
    refine ⟨n, rfl, ?_⟩
    intro m t hm hf
    cases ht : w.task? n with
    | none => simp [World.step, ht] at hs
    | some u =>
      have hcalls : (u.operation.poll setup u.caller w.conn).2.history ≠ w.conn.history := by
        intro he
        refine hs ?_
        rw [step_poll ht]
        unfold World.calls Connection.calls
        rw [conn_answer, he]
      cases hu : u.operation.flight? with
      | none =>
        have hbusy : w.conn.access = .held := by
          simpa [Connection.isBusy] using h.busy_of_flight hm hf
        exact absurd (Operation.aside_poll setup u.caller u.operation hbusy hu
          (h.indirect n u ht)).history hcalls
      | some flight =>
        obtain ⟨polls, place⟩ := flight
        have hnm : n = m := eq_of_count_le_one h.count_le_one ht (by simp [hu]) hm hf
        subst m
        rw [ht] at hm
        cases hm
        cases polls with
        | zero => exact ⟨rfl, place, hu⟩
        | succ k =>
          have hsame := Operation.poll_sent setup w.conn t.caller hu
          exact absurd (congrArg Connection.history hsame) hcalls

end Disciplined

/-- At most one call is on its way, a call is made only when no other is, and a driver that keeps
only one cursor open has none open at a call. Only requests that go past the connection, directly to
the driver, are left out. -/
theorem one_call_at_a_time (hκ : Cursor.Releases κ) (setup : Setup δ κ) (database : δ)
    (steps : List (Step ρ)) (hsteps : ∀ caller c, .ask caller (.dispatch c) ∉ steps) :
    let w := (World.create setup database).run setup steps
    w.count (·.flight?.isSome) ≤ 1 ∧
    (∀ s, (w.step setup s).calls ≠ w.calls → ∃ n, s = .poll n ∧
      ∀ m t, w.task? m = some t → t.operation.flight?.isSome = true →
        m = n ∧ ∃ place, t.operation.flight? = some (0, place)) ∧
    (setup.driver.capabilities.multipleOpenReaders = false →
      ∀ call ∈ w.calls, call.openBefore = 0) := by
  intro w
  have h : Disciplined (!setup.driver.capabilities.multipleOpenReaders) w := by
    refine run_induction ?_ (Disciplined.create setup database (by simp))
    intro w s hs h
    refine h.step (fun _ => hκ) ?_
    rintro caller c rfl
    exact hsteps caller c hs
  refine ⟨h.count_le_one, fun s => h.calls_step, ?_⟩
  intro hm call hcall
  obtain ⟨out, hsound, -⟩ := h.sound
  obtain ⟨event, hevent, hcall⟩ := List.mem_filterMap.mp hcall
  cases event with
  | called c =>
    cases hcall
    exact hsound.alone (by simp [hm]) _ hevent
  | logged | warned => cases hcall

end World

/-- A driver in memory that keeps only one cursor open, under settings that do not ask for
tracking. -/
def Setup.single : Setup Unit Buffered where
  driver :=
    { capabilities := { multipleOpenReaders := false }
      openReader := fun _ d => (.returned (.ok { sets := [[{ columns := [], values := [] }]] }), d)
      execute := fun _ d => (.returned (.ok 1), d)
      executeBatch := fun _ d => (.returned (.ok 1), d) }
  settings := { trackReaders := false }
  chain := .standard { multipleOpenReaders := false }
  verbosity := .off

/-- A reader that its caller leaves open holds a cursor, and is released before the next call. -/
theorem one_call_at_a_time_single :
    let c : Command := { sql := "select 1" }
    let opened : World Unit Buffered Nat :=
      (World.create Setup.single ()).run Setup.single [.ask .blocking (.read c), .poll 0]
    let steps : List (Step Nat) :=
      [.ask .blocking (.read c), .poll 0, .ask .blocking (.execute c), .poll 1]
    let w := (World.create Setup.single ()).run Setup.single steps
    opened.conn.readers.openCursors = 1 ∧ w.calls.length = 2 ∧
      ∀ call ∈ w.calls, call.openBefore = 0 := by
  intro c opened steps w
  exact ⟨by decide +kernel, by decide +kernel,
    (World.one_call_at_a_time Buffered.releases Setup.single () steps (by simp [steps])).2.2 rfl⟩

end OneConnection
