import OneConnection.Operation
import OneConnection.Session

/-!
# Worlds

A connection with everybody who uses it: operations that wait for each other, readers that callers
hold, and a session that registers queries. A run is a list of steps in any order. Operations are
asked for, polled and dropped; contexts are cancelled; and callers do what needs no waiting.
-/

namespace OneConnection

/-- An operation under way, and who waits for it. -/
structure Task (ρ : Type) where
  caller : Caller
  operation : Operation ρ

/-- A query that the session took, and where it is. -/
structure Registration where
  batch : Nat
  index : Nat
  query : Query

structure World (δ κ ρ : Type) where
  conn : Connection δ κ
  session : Session := {}
  /-- In the order in which they were asked for. A task that is over leaves its place empty. -/
  tasks : List (Option (Task ρ)) := []
  /-- The readers that callers hold. -/
  held : List Handle := []
  /-- From the first registration to the last. -/
  registrations : List Registration := []

inductive Use
  | nextRow | nextResult | buffer | close
  deriving DecidableEq, Repr

/-- What callers do that needs no waiting. -/
inductive Act
  | cancel (request : CancelRequest)
  | revive (context : Context)
  | register (query : Query)
  /-- Creates a deferred batch apart from the session. -/
  | newBatch
  | addQuery (batch : Nat) (query : Query)
  | use (reader : Handle) (way : Use)
  | closeReader (reader : Handle)
  /-- A caller lets go of a reader without closing it. -/
  | dropReader (reader : Handle)
  | checkReaders
  | closeAllReaders
  | dispose
  /-- Ends the session in order. A new one takes its place. -/
  | close
  /-- Ends the session without closing it. A new one takes its place. -/
  | abandon

inductive Step (ρ : Type)
  | ask (caller : Caller) (request : Request ρ)
  | poll (task : Nat)
  | drop (task : Nat)
  | act (act : Act)

def Polled.waits {τ α : Type} (p : τ → Bool) : Polled τ α → Bool
  | .waiting operation => p operation
  | _ => false

@[simp] theorem Polled.waits_map {τ α β : Type} (p : τ → Bool) (f : α → β) (x : Polled τ α) :
    (x.map f).waits p = x.waits p := by
  cases x <;> rfl

@[simp] theorem Polled.waits_within {τ υ α : Type} (p : υ → Bool) (f : τ → υ) (x : Polled τ α) :
    (x.within f).waits p = x.waits fun t => p (f t) := by
  cases x <;> rfl

@[simp] theorem Polled.waits_false {τ α : Type} (x : Polled τ α) :
    x.waits (fun _ => false) = false := by
  cases x <;> rfl

def Polled.waiting? {τ α : Type} : Polled τ α → Option τ
  | .waiting operation => some operation
  | _ => none

theorem Polled.waits_eq_any {τ α : Type} (p : τ → Bool) (x : Polled τ α) :
    x.waits p = x.waiting?.any p := by
  cases x <;> rfl

@[simp] theorem Polled.waiting?_map {τ α β : Type} (f : α → β) (x : Polled τ α) :
    (x.map f).waiting? = x.waiting? := by
  cases x <;> rfl

@[simp] theorem Polled.waiting?_within {τ υ α : Type} (f : τ → υ) (x : Polled τ α) :
    (x.within f).waiting? = x.waiting?.map f := by
  cases x <;> rfl

def Outcome.value? {α : Type} : Outcome α → Option α
  | .ok a => some a
  | _ => none

theorem Outcome.value?_eq_some {α : Type} {o : Outcome α} {a : α} :
    o.value? = some a ↔ o = .ok a := by
  cases o <;> simp [value?]

def Outcome.error? {α : Type} : Outcome α → Option Error
  | .error why => some why
  | _ => none

theorem Outcome.error?_eq_some {α : Type} {o : Outcome α} {why : Error} :
    o.error? = some why ↔ o = .error why := by
  cases o <;> simp [error?]

/-- The reader that an answer hands out. -/
def Outcome.handle? {ρ : Type} : Outcome (Reply ρ) → Option Handle
  | .ok (.reader h) => some h
  | _ => none

namespace Connection

variable {δ κ : Type} [Cursor κ]

def calls (conn : Connection δ κ) : List DriverCall := conn.history.filterMap Event.call?

def use (place : Nat) (way : Use) (conn : Connection δ κ) : Connection δ κ :=
  match way with
  | .nextRow => (conn.fetch place Reader.nextRow).2
  | .nextResult => (conn.fetch place Reader.nextResult).2
  | .buffer => (conn.fetch place Reader.readIntoMemory).2
  | .close => conn.setReaders (conn.readers.close place)

end Connection

namespace World

variable {δ κ ρ : Type}

def create (setup : Setup δ κ) (database : δ) : World δ κ ρ := { conn := .create setup database }

def task? (w : World δ κ ρ) (n : Nat) : Option (Task ρ) := w.tasks[n]?.join

def count (p : Operation ρ → Bool) (w : World δ κ ρ) : Nat :=
  w.tasks.countP fun t => t.any (p ·.operation)

def calls (w : World δ κ ρ) : List DriverCall := w.conn.calls

variable [Cursor κ]

def answer (n : Nat) (caller : Caller) (w : World δ κ ρ) :
    Polled (Operation ρ) (Outcome (Reply ρ)) × Connection δ κ → World δ κ ρ
  | (.waiting operation, conn) => { w with conn, tasks := w.tasks.set n (some ⟨caller, operation⟩) }
  | (.crashed _, conn) => { w with conn, tasks := w.tasks.set n none }
  | (.ready outcome, conn) =>
    { w with
      conn
      tasks := w.tasks.set n none
      held := w.held ++ outcome.handle?.toList }

def act (setup : Setup δ κ) (w : World δ κ ρ) : Act → World δ κ ρ
  | .cancel request => { w with conn := w.conn.cancelAll [request] }
  | .revive x => { w with conn := { w.conn with contexts := w.conn.contexts.revive x } }
  | .register query =>
    let ((batch, index), session, conn) := w.session.register query w.conn
    { w with conn, session, registrations := w.registrations ++ [⟨batch, index, query⟩] }
  | .newBatch => { w with conn := w.conn.newBatch.2 }
  | .addQuery batch query =>
    match w.conn.addQuery batch query with
    | some (_, conn) => { w with conn }
    | none => w
  | .use h way => if h ∈ w.held then { w with conn := w.conn.use h.place way } else w
  | .closeReader h => if h ∈ w.held then { w with conn := w.conn.closeReader h } else w
  | .dropReader h =>
    if h ∈ w.held then { w with conn := w.conn.dropReader h, held := w.held.erase h } else w
  | .checkReaders => { w with conn := w.conn.checkReaders.2 }
  | .closeAllReaders => { w with conn := w.conn.closeAllReaders.2 }
  | .dispose => { w with conn := (w.conn.dispose setup).2 }
  | .close => { w with conn := (w.session.close setup w.conn).2, session := {} }
  | .abandon => { w with conn := w.session.abandon setup w.conn, session := {} }

def step (setup : Setup δ κ) (w : World δ κ ρ) : Step ρ → World δ κ ρ
  | .ask caller request => { w with tasks := w.tasks ++ [some ⟨caller, request.start⟩] }
  | .poll n =>
    match w.task? n with
    | some t => w.answer n t.caller (t.operation.poll setup t.caller w.conn)
    | none => w
  | .drop n =>
    match w.task? n with
    | some t =>
      { w with conn := t.operation.drop setup t.caller w.conn, tasks := w.tasks.set n none }
    | none => w
  | .act a => w.act setup a

def run (setup : Setup δ κ) (w : World δ κ ρ) (steps : List (Step ρ)) : World δ κ ρ :=
  steps.foldl (step setup) w

/-- Keeps an account of a run, step by step. -/
def account {γ : Type} (setup : Setup δ κ) (note : World δ κ ρ → Step ρ → γ → γ) :
    World δ κ ρ → List (Step ρ) → γ → γ
  | _, [], g => g
  | w, s :: rest, g => account setup note (w.step setup s) rest (note w s g)

/-! ## Runs -/

variable {setup : Setup δ κ} {w : World δ κ ρ}

@[simp] theorem run_cons (s : Step ρ) (rest : List (Step ρ)) :
    w.run setup (s :: rest) = (w.step setup s).run setup rest := rfl

theorem run_append (steps later : List (Step ρ)) :
    w.run setup (steps ++ later) = (w.run setup steps).run setup later :=
  List.foldl_append

/-- What the steps of a run keep, the run keeps. -/
theorem run_induction {P : World δ κ ρ → Prop} {steps : List (Step ρ)}
    (hstep : ∀ w, ∀ s ∈ steps, P w → P (w.step setup s)) (hw : P w) : P (w.run setup steps) := by
  induction steps generalizing w with
  | nil => exact hw
  | cons s rest ih =>
    exact ih (fun w x hx => hstep w x (List.mem_cons_of_mem _ hx))
      (hstep w s List.mem_cons_self hw)

/-- What the steps of a run keep of a world and its account, the run keeps. -/
theorem account_induction {γ : Type} {note : World δ κ ρ → Step ρ → γ → γ}
    {P : World δ κ ρ → γ → Prop} {steps : List (Step ρ)}
    (hstep : ∀ w g, ∀ s ∈ steps, P w g → P (w.step setup s) (note w s g))
    {g : γ} (hw : P w g) : P (w.run setup steps) (account setup note w steps g) := by
  induction steps generalizing w g with
  | nil => exact hw
  | cons s rest ih =>
    exact ih (fun w g x hx => hstep w g x (List.mem_cons_of_mem _ hx))
      (hstep w g s List.mem_cons_self hw)

theorem account_concat {γ : Type} (note : World δ κ ρ → Step ρ → γ → γ) (w : World δ κ ρ)
    (steps : List (Step ρ)) (s : Step ρ) (g : γ) :
    w.account setup note (steps ++ [s]) g =
      note (w.run setup steps) s (w.account setup note steps g) := by
  induction steps generalizing w g with
  | nil => rfl
  | cons first rest ih => exact ih (w.step setup first) (note w first g)

/-! ## Tasks -/

omit [Cursor κ]

theorem task?_eq_some {n : Nat} {t : Task ρ} : w.task? n = some t ↔ w.tasks[n]? = some (some t) :=
  Option.join_eq_some_iff

theorem lt_of_task? {n : Nat} {t : Task ρ} (h : w.task? n = some t) : n < w.tasks.length := by
  rw [task?_eq_some] at h
  exact (List.getElem?_eq_some_iff.mp h).1

theorem count_set {n : Nat} {t : Task ρ} (h : w.task? n = some t) (x : Option (Task ρ))
    (p : Operation ρ → Bool) :
    { w with tasks := w.tasks.set n x }.count p + (p t.operation).toNat =
      w.count p + (x.any (p ·.operation)).toNat := by
  have hn := lt_of_task? h
  have ht : w.tasks[n] = some t := by
    rw [task?_eq_some, List.getElem?_eq_getElem hn] at h
    exact Option.some.inj h
  have hle : p t.operation = true → 0 < w.count p := by
    intro hp
    refine List.countP_pos_iff.mpr ⟨some t, ht ▸ List.getElem_mem hn, ?_⟩
    simpa using hp
  unfold count at *
  rw [List.countP_set hn, ht]
  cases hp : p t.operation <;> cases hx : x.any (p ·.operation) <;> simp_all

theorem count_eq_zero {p : Operation ρ → Bool} (h : w.count p = 0) {n : Nat} {t : Task ρ}
    (ht : w.task? n = some t) : p t.operation = false := by
  have := count_set ht none p
  simp only [Option.any_none, Bool.toNat_false] at this
  cases hp : p t.operation with
  | false => rfl
  | true =>
    rw [hp, Bool.toNat_true] at this
    omega

theorem task?_set {n : Nat} (hn : n < w.tasks.length) (x : Option (Task ρ)) (m : Nat) :
    { w with tasks := w.tasks.set n x }.task? m = if n = m then x else w.task? m := by
  unfold task?
  rw [List.getElem?_set]
  split
  · exact Option.join_some
  · rfl

theorem eq_of_count_le_one {p : Operation ρ → Bool} (h : w.count p ≤ 1) {n m : Nat}
    {t u : Task ρ} (ht : w.task? n = some t) (hp : p t.operation = true)
    (hu : w.task? m = some u) (hq : p u.operation = true) : n = m := by
  by_cases hnm : n = m
  · exact hnm
  · have hset := count_set ht none p
    rw [hp, Option.any_none, Bool.toNat_true, Bool.toNat_false] at hset
    have hm := task?_set (lt_of_task? ht) none m
    rw [if_neg hnm, hu] at hm
    have hzero : { w with tasks := w.tasks.set n none }.count p = 0 := by omega
    rw [count_eq_zero hzero hm] at hq
    cases hq

theorem conn_answer (n : Nat) (caller : Caller)
    (x : Polled (Operation ρ) (Outcome (Reply ρ)) × Connection δ κ) :
    (w.answer n caller x).conn = x.2 := by
  obtain ⟨_ | _ | _, conn⟩ := x <;> rfl

theorem task?_answer {n : Nat} {t : Task ρ} (h : w.task? n = some t) (caller : Caller)
    (x : Polled (Operation ρ) (Outcome (Reply ρ)) × Connection δ κ) (m : Nat) :
    (w.answer n caller x).task? m =
      if n = m then x.1.waiting?.map (⟨caller, ·⟩) else w.task? m := by
  obtain ⟨_ | _ | _, conn⟩ := x
  · exact task?_set (lt_of_task? h) _ m
  · exact task?_set (lt_of_task? h) _ m
  · exact task?_set (lt_of_task? h) _ m

theorem count_answer {n : Nat} {t : Task ρ} (h : w.task? n = some t) (caller : Caller)
    (x : Polled (Operation ρ) (Outcome (Reply ρ)) × Connection δ κ) (p : Operation ρ → Bool) :
    (w.answer n caller x).count p + (p t.operation).toNat = w.count p + (x.1.waits p).toNat := by
  obtain ⟨_ | _ | _, conn⟩ := x
  · exact count_set h none p
  · exact count_set h (some _) p
  · exact count_set h none p

variable [Cursor κ]

theorem step_poll {n : Nat} {t : Task ρ} (h : w.task? n = some t) :
    w.step setup (.poll n) = w.answer n t.caller (t.operation.poll setup t.caller w.conn) := by
  simp only [step, h]

theorem step_drop {n : Nat} {t : Task ρ} (h : w.task? n = some t) :
    w.step setup (.drop n) =
      { w with conn := t.operation.drop setup t.caller w.conn, tasks := w.tasks.set n none } := by
  simp only [step, h]

theorem count_drop (setup : Setup δ κ) {n : Nat} {t : Task ρ} (h : w.task? n = some t)
    (p : Operation ρ → Bool) :
    (w.step setup (.drop n)).count p + (p t.operation).toNat = w.count p := by
  rw [step_drop h]
  exact count_set h none p

@[simp] theorem tasks_act (w : World δ κ ρ) (a : Act) :
    (w.act setup a).tasks = w.tasks := by
  cases a <;> simp only [act] <;> split <;> rfl

theorem task?_act (setup : Setup δ κ) (w : World δ κ ρ) (a : Act) (n : Nat) :
    (w.act setup a).task? n = w.task? n := by
  unfold task?
  rw [tasks_act]

theorem count_act (setup : Setup δ κ) (w : World δ κ ρ) (a : Act) (p : Operation ρ → Bool) :
    (w.act setup a).count p = w.count p := by
  unfold count
  rw [tasks_act]

theorem task?_drop (setup : Setup δ κ) {n : Nat} {t : Task ρ} (h : w.task? n = some t) (m : Nat) :
    (w.step setup (.drop n)).task? m = if n = m then none else w.task? m := by
  rw [step_drop h]
  exact task?_set (lt_of_task? h) none m

theorem task?_ask (caller : Caller) (request : Request ρ) (m : Nat) :
    (w.step setup (.ask caller request)).task? m =
      if m = w.tasks.length then some ⟨caller, request.start⟩ else w.task? m := by
  unfold step task?
  rcases Nat.lt_trichotomy m w.tasks.length with h | rfl | h
  · rw [List.getElem?_append_left h, if_neg (Nat.ne_of_lt h)]
  · rw [List.getElem?_concat_length, if_pos rfl]
    rfl
  · rw [if_neg (Nat.ne_of_gt h), List.getElem?_eq_none (Nat.le_of_lt h), List.getElem?_eq_none]
    rw [List.length_append]
    exact h

theorem count_ask (caller : Caller) (request : Request ρ) (p : Operation ρ → Bool) :
    (w.step setup (.ask caller request)).count p = w.count p + (p request.start).toNat := by
  unfold count step
  rw [List.countP_append]
  cases h : p request.start <;> simp [h]

end World

end OneConnection
