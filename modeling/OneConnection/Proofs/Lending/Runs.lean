import OneConnection.Proofs.Discipline.Runs
import OneConnection.Proofs.Lending.Operations
import OneConnection.Proofs.Replies

/-!
# Readers that are lent

In every run the registry tracks the readers that callers were given and have not given back, and
every reader that is open belongs to a caller or to a call that is on its way.
-/

namespace OneConnection

variable {δ κ ρ : Type} [Cursor κ] {setup : Setup δ κ}

/-! ## Disposal -/

section

variable {c : Custody} {out : Option Nat} {conn : Connection δ κ} {mayOpen : Nat → Prop}
  (hκ : ∀ c : κ, Cursor.isClosed (Cursor.close c) = true)
  (hopened : ∀ p, ¬ places c.lent p → c.mayOpen p → mayOpen p)
include hκ hopened

theorem Tidy.dispose (setup : Setup δ κ) (h : Tidy c out conn) :
    Tidy (c.dispose mayOpen) out (conn.dispose setup).2 := by
  have hdiscard : Tidy c out conn.discardPending := by
    simp only [Connection.discardPending]
    split <;> exact h.congr rfl rfl
  have hclose := hdiscard.closeAllReaders hκ hopened
  simp only [Connection.dispose, Connection.disposeReaders]
  split
  · exact noted.warnAll id _ hclose
  · exact hclose

theorem Tidy.abandon (s : Session) (h : Tidy c out conn) :
    Tidy (c.dispose mayOpen) out (s.abandon setup conn) := by
  have hdispose := h.dispose hκ hopened setup
  unfold Session.abandon
  split <;> rename_i heq <;> rw [heq] at hdispose
  · exact hdispose
  · exact noted _ _ rfl hdispose

end

theorem places_append {hs more : List Handle} {p : Nat} :
    places (hs ++ more) p ↔ places hs p ∨ places more p := by
  simp only [places, List.mem_append, or_and_right, exists_or]

namespace World

variable {w w' : World δ κ ρ} {c : Custody} {n : Nat} {t : Task ρ}

/-- The driver has opened a cursor at the place for a call that is on its way. -/
def Flying (w : World δ κ ρ) (p : Nat) : Prop :=
  ∃ n t polls, w.task? n = some t ∧ t.operation.flight? = some (polls, some p)

/-- The readers that callers were given and that were closed neither by `closeReader` nor by
disposal, after one more step. -/
def lend (setup : Setup δ κ) (w : World δ κ ρ) (s : Step ρ) (lent : List Handle) : List Handle :=
  match s with
  | .poll n => lent ++ ((w.hears? setup n s).bind Outcome.handle?).toList
  | .act (.closeReader h) => if h ∈ w.held then lent.filter (· ≠ h) else lent
  | .act .closeAllReaders | .act .dispose | .act .close | .act .abandon => []
  | _ => lent

/-- Somebody in the world answers for a reader at the place. -/
def Answers (w : World δ κ ρ) (lent : List Handle) (p : Nat) : Prop :=
  places w.held p ∨ places lent p ∨ w.Flying p

structure TendedBy (w : World δ κ ρ) (c : Custody) : Prop where
  held : ∀ h ∈ w.held, h ∈ c.given
  mayOpen : ∀ p, c.mayOpen p ↔ w.Answers c.lent p
  tidy : Tidy c none w.conn

/-- The connection is tidy, and these readers are lent if readers are tracked at all. -/
def Tended (w : World δ κ ρ) (tracking : Bool) (lent : List Handle) : Prop :=
  ∃ c, w.TendedBy c ∧ c.tracking = tracking ∧ (tracking = true → c.lent = lent)

theorem tended_of_tidy {out : Option Nat} (h : Tidy c out w.conn)
    (hheld : ∀ h ∈ w.held, h ∈ c.given) (hopened : ∀ p, c.mayOpen p → w.Answers c.lent p)
    (hout : ∀ p, out = some p → w.Answers c.lent p) : w.Tended c.tracking c.lent := by
  have hlent : ∀ x ∈ c.lent, w.Answers c.lent x.place := fun x hx => .inr (.inl ⟨x, hx, rfl⟩)
  refine ⟨c.transfer (w.Answers c.lent) hlent, ⟨hheld, fun _ => Iff.rfl, ?_⟩, rfl, fun _ => rfl⟩
  exact h.transfer hlent fun p hp => .inl (hp.elim (hopened p) (hout p))

/-- When no call is on its way, nothing is to be said of its cursor. -/
theorem tended_of_idle (h : Tidy c none w.conn) (hheld : ∀ h ∈ w.held, h ∈ c.given)
    (hopened : ∀ p, c.mayOpen p → w.Answers c.lent p) : w.Tended c.tracking c.lent :=
  tended_of_tidy h hheld hopened fun _ hp => by cases hp

theorem Tended.congr {tracking : Bool} {lent lent' : List Handle} (h : w.Tended tracking lent)
    (heq : tracking = true → lent = lent') : w.Tended tracking lent' := by
  obtain ⟨c, hc, htracking, hlent⟩ := h
  exact ⟨c, hc, htracking, fun ht => (hlent ht).trans (heq ht)⟩

namespace TendedBy

/-! ## Acts -/

theorem of_held (h : TendedBy w c) {x : Handle} (hx : x ∈ w.held) : c.mayOpen x.place :=
  (h.mayOpen _).mpr (.inl ⟨x, hx, rfl⟩)

/-- Steps after which the same people answer for the readers. -/
theorem tended (h : TendedBy w c) (htasks : w'.tasks = w.tasks) (hheld : w'.held = w.held)
    (htidy : Tidy c none w'.conn) : w'.Tended c.tracking c.lent := by
  refine tended_of_idle htidy ?_ ?_
  · rw [hheld]
    exact h.held
  · intro p hp
    have hp := (h.mayOpen p).mp hp
    unfold Answers Flying task? at *
    rw [hheld, htasks]
    exact hp

theorem closeReader (h : TendedBy w c) {x : Handle} (hx : x ∈ w.held) :
    { w with conn := w.conn.closeReader x }.Tended c.tracking (c.lent.filter (· ≠ x)) := by
  have hclose := h.tidy.closeReader (h.held x hx) (h.of_held hx)
  refine tended_of_idle (c := c.takeBack x) hclose h.held ?_
  intro p hp
  rcases (h.mayOpen p).mp hp with hheld | ⟨y, hy, rfl⟩ | hflying
  · exact .inl hheld
  · by_cases hyx : y = x
    · exact .inl ⟨x, hx, congrArg Handle.place hyx.symm⟩
    · exact .inr (.inl ⟨y, List.mem_filter.mpr ⟨hy, decide_eq_true hyx⟩, rfl⟩)
  · exact .inr (.inr hflying)

/-- A reader that is tracked is still lent when its caller has let go of it. -/
theorem dropReader (hκ : ∀ c : κ, Cursor.isClosed (Cursor.close c) = true) (h : TendedBy w c)
    (x : Handle) :
    { w with conn := w.conn.dropReader x, held := w.held.erase x }.Tended c.tracking c.lent := by
  have hheld : ∀ y ∈ w.held.erase x, y ∈ c.given := fun y hy => h.held y (List.mem_of_mem_erase hy)
  have hrest : ∀ p, (p = x.place → places c.lent p) → c.mayOpen p →
      { w with held := w.held.erase x }.Answers c.lent p := by
    intro p hx hp
    rcases (h.mayOpen p).mp hp with ⟨y, hy, rfl⟩ | hlent | hflying
    · by_cases hyx : y = x
      · exact .inr (.inl (hx (congrArg Handle.place hyx)))
      · exact .inl ⟨y, (List.mem_erase_of_ne hyx).mpr hy, rfl⟩
    · exact .inr (.inl hlent)
    · exact .inr (.inr hflying)
  unfold Connection.dropReader
  split
  · rename_i htracked
    rw [h.tidy.tracked, List.contains_iff_mem] at htracked
    refine tended_of_idle h.tidy hheld ?_
    exact fun p => hrest p fun hplace => ⟨x, htracked, hplace.symm⟩
  · have hlent : ∀ y ∈ c.lent, { w with held := w.held.erase x }.Answers c.lent y.place :=
      fun y hy => .inr (.inl ⟨y, hy, rfl⟩)
    refine ⟨c.transfer _ hlent, ⟨hheld, fun _ => Iff.rfl, ?_⟩, rfl, fun _ => rfl⟩
    refine h.tidy.dropCursor hκ hlent ?_
    rintro p hne (hp | hp)
    · exact .inl (hrest p (fun hplace => absurd hplace hne) hp)
    · cases hp

theorem use (h : TendedBy w c) {x : Handle} (hx : x ∈ w.held) (way : Use) :
    Tidy c none (w.conn.use x.place way) := by
  have hplace : c.mayOpen x.place ∨ none = some x.place := .inl (h.of_held hx)
  cases way with
  | nextRow | nextResult | buffer => exact h.tidy.fetch _ hplace
  | close =>
    refine h.tidy.settle _ ?_
    intro p hp
    have hne : x.place ≠ p := fun heq => hp (heq ▸ hplace)
    unfold Readers.close
    rw [Readers.get?_update, if_neg hne]

theorem act (setup : Setup δ κ) (hκ : ∀ c : κ, Cursor.isClosed (Cursor.close c) = true) (a : Act)
    (h : TendedBy w c) :
    (w.act setup a).Tended c.tracking (w.lend setup (.act a) c.lent) := by
  -- Disposal closes the readers that are lent, and the others are still answered for.
  have hothers : ∀ p, ¬ places c.lent p → c.mayOpen p → w.Answers [] p := by
    intro p hlent hp
    rcases (h.mayOpen p).mp hp with hheld | hlent' | hflying
    · exact .inl hheld
    · exact absurd hlent' hlent
    · exact .inr (.inr hflying)
  have hdispose : ∀ {w' : World δ κ ρ}, w'.tasks = w.tasks → w'.held = w.held →
      Tidy (c.dispose (w.Answers [])) none w'.conn → w'.Tended c.tracking [] := by
    intro w' htasks hheld htidy
    refine ⟨c.dispose _, ⟨?_, ?_, htidy⟩, rfl, fun _ => rfl⟩
    · rw [hheld]
      exact h.held
    · intro p
      unfold Answers Flying task?
      rw [hheld, htasks]
      exact Iff.rfl
  cases a with
  | cancel | revive | newBatch => exact h.tended rfl rfl (h.tidy.congr rfl rfl)
  | register q =>
    have haside := w.session.register_aside q w.conn
    exact h.tended rfl rfl (h.tidy.congr haside.registry haside.readers)
  | addQuery batch q =>
    simp only [World.act]
    split
    · rename_i hadd
      obtain ⟨b, -, -, hx⟩ := Connection.addQuery_eq_some hadd
      cases hx
      exact h.tended rfl rfl (h.tidy.congr rfl rfl)
    · exact h.tended rfl rfl h.tidy
  | use x way =>
    simp only [World.act]
    split
    · exact h.tended rfl rfl (h.use ‹_› way)
    · exact h.tended rfl rfl h.tidy
  | closeReader x =>
    simp only [World.act, lend]
    split
    · exact h.closeReader ‹_›
    · exact h.tended rfl rfl h.tidy
  | dropReader x =>
    simp only [World.act]
    split
    · exact h.dropReader hκ x
    · exact h.tended rfl rfl h.tidy
  | checkReaders => exact h.tended rfl rfl h.tidy.checkReaders
  | closeAllReaders => exact hdispose rfl rfl (h.tidy.closeAllReaders hκ hothers)
  | dispose | close => exact hdispose rfl rfl (h.tidy.dispose hκ hothers setup)
  | abandon => exact hdispose rfl rfl (h.tidy.abandon hκ hothers w.session)

/-! ## Steps -/

theorem ask (h : TendedBy w c) (caller : Caller) (request : Request ρ) :
    (w.step setup (.ask caller request)).Tended c.tracking c.lent := by
  refine tended_of_idle h.tidy h.held ?_
  intro p hp
  rcases (h.mayOpen p).mp hp with hheld | hlent | ⟨n, t, polls, ht, hf⟩
  · exact .inl hheld
  · exact .inr (.inl hlent)
  · refine .inr (.inr ⟨n, t, polls, ?_, hf⟩)
    rw [task?_ask, if_neg (Nat.ne_of_lt (lt_of_task? ht))]
    exact ht

end TendedBy

/-! ## Polls -/

/-- Others than the caller of a task answer for a reader at the place. -/
def AnswersBut (n : Nat) (w : World δ κ ρ) (lent : List Handle) (p : Nat) : Prop :=
  places w.held p ∨ places lent p ∨
    ∃ m t polls, m ≠ n ∧ w.task? m = some t ∧ t.operation.flight? = some (polls, some p)

/-- What others answer for. -/
def butOf (n : Nat) (w : World δ κ ρ) (c : Custody) : Custody :=
  c.transfer (w.AnswersBut n c.lent) fun x hx => .inr (.inl ⟨x, hx, rfl⟩)

omit [Cursor κ] in
theorem AnswersBut.answers {lent lent' : List Handle} {p : Nat} (h : w.AnswersBut n lent p)
    (hheld : ∀ x ∈ w.held, x ∈ w'.held) (hlent : ∀ x ∈ lent, x ∈ lent')
    (htasks : ∀ m, m ≠ n → w'.task? m = w.task? m) : w'.Answers lent' p := by
  rcases h with ⟨x, hx, hp⟩ | ⟨x, hx, hp⟩ | ⟨m, t, polls, hm, ht, hf⟩
  · exact .inl ⟨x, hheld x hx, hp⟩
  · exact .inr (.inl ⟨x, hlent x hx, hp⟩)
  · refine .inr (.inr ⟨m, t, polls, ?_, hf⟩)
    rw [htasks m hm]
    exact ht

namespace TendedBy

theorem during (h : TendedBy w c) (ht : w.task? n = some t) :
    Tidy.During (w.butOf n c) w.conn t.operation.flight? := by
  refine h.tidy.transfer _ ?_
  rintro p (hp | hp)
  · rcases (h.mayOpen p).mp hp with hheld | hlent | ⟨m, u, polls, hu, hf⟩
    · exact .inl (.inl hheld)
    · exact .inl (.inr (.inl hlent))
    · by_cases hm : m = n
      · rw [hm, ht] at hu
        cases hu
        rw [hf]
        exact .inr rfl
      · exact .inl (.inr (.inr ⟨m, u, polls, hm, hu, hf⟩))
  · cases hp

theorem answer (h : TendedBy w c) (ht : w.task? n = some t) (caller : Caller)
    {x : Polled (Operation ρ) (Outcome (Reply ρ)) × Connection δ κ}
    (hx : Polled.Ensures (fun o => Tidy ((w.butOf n c).give o.handle?.toList) none)
      (fun next conn => Tidy.During (w.butOf n c) conn next.flight?) (Tidy (w.butOf n c) none) x) :
    (w.answer n caller x).Tended c.tracking
      (c.lent ++ (x.1.answer?.bind Outcome.handle?).toList) := by
  have htasks := task?_answer ht caller x
  have hothers : ∀ m, m ≠ n → (w.answer n caller x).task? m = w.task? m := by
    intro m hm
    rw [htasks, if_neg (Ne.symm hm)]
  obtain ⟨o | next | message, conn⟩ := x
  · have hlent : ∀ y ∈ c.lent, y ∈ ((w.butOf n c).give o.handle?.toList).lent := by
      intro y hy
      simp only [Custody.give]
      split
      · exact List.mem_append_left _ hy
      · exact hy
    have hheld : ∀ y ∈ w.held ++ o.handle?.toList, y ∈ c.given ++ o.handle?.toList :=
      fun y hy => List.mem_append.mpr ((List.mem_append.mp hy).imp_left (h.held y))
    have hopened : ∀ p, ((w.butOf n c).give o.handle?.toList).mayOpen p →
        (w.answer n caller (.ready o, conn)).Answers
          ((w.butOf n c).give o.handle?.toList).lent p := by
      rintro p (hp | hp)
      · exact AnswersBut.answers hp (fun _ => List.mem_append_left _) hlent hothers
      · exact .inl (places_append.mpr (.inr hp))
    have hready : Tidy ((w.butOf n c).give o.handle?.toList) none conn := hx
    exact (tended_of_idle hready hheld hopened).congr fun htracking => if_pos htracking
  · simp only [Polled.answer?, Option.bind_none, Option.toList_none, List.append_nil]
    refine tended_of_tidy (c := w.butOf n c) hx h.held ?_ ?_
    · exact fun p hp => AnswersBut.answers hp (fun _ h => h) (fun _ h => h) hothers
    · intro p hp
      obtain ⟨flight, hf, hplace⟩ := Option.bind_eq_some_iff.mp hp
      refine .inr (.inr ⟨n, ⟨caller, next⟩, flight.1, ?_, ?_⟩)
      · exact (htasks n).trans (if_pos rfl)
      · rw [← hplace]
        exact hf
  · simp only [Polled.answer?, Option.bind_none, Option.toList_none, List.append_nil]
    refine tended_of_idle (c := w.butOf n c) hx h.held ?_
    exact fun p hp => AnswersBut.answers hp (fun _ h => h) (fun _ h => h) hothers

theorem poll (hκ : ∀ c : κ, Cursor.isClosed (Cursor.close c) = true) (n : Nat)
    (h : TendedBy w c) :
    (w.step setup (.poll n)).Tended c.tracking (w.lend setup (.poll n) c.lent) := by
  cases ht : w.task? n with
  | none =>
    simp only [lend, hears?, step, ht, if_pos, Option.bind_none, Option.toList_none,
      List.append_nil]
    exact h.tended rfl rfl h.tidy
  | some t =>
    simp only [lend, hears?_poll ht, step_poll ht]
    exact h.answer ht t.caller (t.operation.poll_tidy setup hκ t.caller (h.during ht))

theorem drop (hκ : ∀ c : κ, Cursor.isClosed (Cursor.close c) = true) (n : Nat)
    (h : TendedBy w c) : (w.step setup (.drop n)).Tended c.tracking c.lent := by
  cases ht : w.task? n with
  | none =>
    simp only [step, ht]
    exact h.tended rfl rfl h.tidy
  | some t =>
    have htasks := task?_drop setup ht
    rw [step_drop ht] at htasks ⊢
    have hdrop := t.operation.drop_tidy setup hκ t.caller (h.during ht)
    refine tended_of_idle (c := w.butOf n c) hdrop h.held ?_
    intro p hp
    refine AnswersBut.answers hp (fun _ h => h) (fun _ h => h) ?_
    intro m hm
    rw [htasks, if_neg (Ne.symm hm)]

end TendedBy

/-! ## Runs -/

theorem Tended.step {tracking : Bool} {lent : List Handle}
    (hκ : ∀ c : κ, Cursor.isClosed (Cursor.close c) = true) (s : Step ρ)
    (h : w.Tended tracking lent) : (w.step setup s).Tended tracking (w.lend setup s lent) := by
  obtain ⟨c, hc, rfl, hlent⟩ := h
  have hstep : (w.step setup s).Tended c.tracking (w.lend setup s c.lent) := by
    cases s with
    | ask caller request => exact hc.ask caller request
    | poll n => exact hc.poll hκ n
    | drop n => exact hc.drop hκ n
    | act a => exact hc.act setup hκ a
  exact hstep.congr fun htracking => by rw [hlent htracking]

theorem Tended.create (setup : Setup δ κ) (database : δ) :
    (.create setup database : World δ κ ρ).Tended
      (Registry.create setup.settings setup.driver.capabilities).tracking [] := by
  refine tended_of_idle (w := .create setup database) (Tidy.create setup database) ?_ ?_
  · exact fun _ hx => nomatch hx
  · exact fun _ hp => hp.elim

/-- The registry tracks exactly the readers that are lent to callers, and every reader that is open
belongs to a caller or to a call that is on its way. -/
theorem readers_are_lent (hκ : ∀ c : κ, Cursor.isClosed (Cursor.close c) = true)
    (setup : Setup δ κ) (database : δ) (steps : List (Step ρ)) :
    let start : World δ κ ρ := .create setup database
    let w := start.run setup steps
    let lent := World.account setup (World.lend setup) start steps []
    (w.conn.registry.tracking = true → w.conn.registry.tracked = lent) ∧
    ∀ p, w.conn.readers.isClosed p = false →
      (∃ h, (h ∈ w.held ∨ h ∈ w.conn.registry.tracked) ∧ h.place = p) ∨ w.Flying p := by
  intro start w lent
  have hw : w.Tended (Registry.create setup.settings setup.driver.capabilities).tracking lent :=
    World.account_induction (P := fun w lent => w.Tended _ lent)
      (fun _ _ s _ h => h.step hκ s) (.create setup database)
  obtain ⟨c, hc, htracking, hlent⟩ := hw
  refine ⟨?_, ?_⟩
  · intro ht
    rw [hc.tidy.tracking, htracking] at ht
    rw [hc.tidy.tracked, hlent ht]
  · intro p hp
    rw [hc.tidy.tracked]
    rcases hc.tidy.opened p hp with hmay | hnone
    · rcases (hc.mayOpen p).mp hmay with ⟨x, hx, rfl⟩ | ⟨x, hx, rfl⟩ | hflying
      · exact .inl ⟨x, .inl hx, rfl⟩
      · exact .inl ⟨x, .inr hx, rfl⟩
      · exact .inr hflying
    · cases hnone

end World

/-- A driver in memory that opens readers for tasks only at the second poll. -/
def Setup.hesitant : Setup Unit Buffered where
  driver :=
    { capabilities := { nativeAsync := true }
      openReader := fun _ d => (.returned (.ok { sets := [] }), d)
      execute := fun _ d => (.returned (.ok 0), d)
      executeBatch := fun _ d => (.returned (.ok 0), d)
      openReaderAsync := fun _ d => (.after 1 (.ok { sets := [] }), d) }
  settings := {}
  chain := .standard { nativeAsync := true }
  verbosity := .off

/-- A listing that is dropped while the driver works on it leaves only the reader that was opened
before it. -/
theorem readers_are_lent_dropped :
    let c : Command := { sql := "select 1" }
    let decoder : RowDecoder Nat := { typeName := "Nat", decode := fun _ => .ok 0 }
    let steps : List (Step Nat) :=
      [.ask .blocking (.read c), .poll 0, .ask (.task ⟨"x"⟩) (.list c decoder), .poll 1, .drop 1]
    let handle : Handle := { id := ⟨1⟩, place := 0 }
    ((World.create Setup.hesitant ()).run Setup.hesitant steps).conn.registry.tracked = [handle] ∧
    ∀ p, ((World.create Setup.hesitant ()).run Setup.hesitant
      steps).conn.readers.isClosed p = false → p = 0 := by
  intro c decoder steps handle
  obtain ⟨htracked, hopen⟩ :=
    World.readers_are_lent Buffered.releases.close Setup.hesitant () steps
  have htracking : ((World.create Setup.hesitant ()).run Setup.hesitant
      steps).conn.registry.tracking = true := by decide +kernel
  have hlent : World.account Setup.hesitant (World.lend Setup.hesitant)
      (World.create Setup.hesitant ()) steps [] = [handle] := by decide +kernel
  have hheld : ((World.create Setup.hesitant ()).run Setup.hesitant steps).held = [handle] := by
    decide +kernel
  have hgone : ((World.create Setup.hesitant ()).run Setup.hesitant
      steps).tasks.all Option.isNone = true := by decide +kernel
  have hone := (htracked htracking).trans hlent
  refine ⟨hone, ?_⟩
  intro p hp
  rcases hopen p hp with ⟨x, hx, rfl⟩ | ⟨n, t, polls, ht, -⟩
  · rw [hheld, hone, or_self, List.mem_singleton] at hx
    rw [hx]
  · have hmem := List.mem_of_getElem? (World.task?_eq_some.mp ht)
    cases List.all_eq_true.mp hgone _ hmem

end OneConnection
