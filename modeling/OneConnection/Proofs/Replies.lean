import OneConnection.Proofs.World

/-!
# Answers along a run

What the caller of an operation hears from its polls while others use the connection in between.
-/

namespace OneConnection

variable {δ κ ρ : Type}

def Polled.answer? {τ α : Type} : Polled τ α → Option α
  | .ready answer => some answer
  | _ => none

theorem Polled.answer?_eq_some {τ α : Type} {x : Polled τ α} {answer : α} :
    x.answer? = some answer ↔ x = .ready answer := by
  cases x <;> simp [answer?]

def Reply.projected? : Reply ρ → Option ρ
  | .projected result => some result
  | _ => none

theorem Reply.projected?_eq_some {reply : Reply ρ} {result : ρ} :
    reply.projected? = some result ↔ reply = .projected result := by
  cases reply <;> simp [projected?]

def Step.polls (n : Nat) : Step ρ → Bool
  | .poll m => m = n
  | _ => false

/-- The step is about one task. -/
def Step.concerns (n : Nat) : Step ρ → Bool
  | .poll m | .drop m => m = n
  | _ => false

theorem Step.concerns_eq_false {n : Nat} {s : Step ρ} (hpoll : s.polls n = false)
    (hdrop : s ≠ .drop n) : s.concerns n = false := by
  cases s with
  | poll m => exact hpoll
  | drop m =>
    simp only [concerns, decide_eq_false_iff_not]
    exact fun h => hdrop (by rw [h])
  | _ => rfl

namespace World

variable [Cursor κ] {setup : Setup δ κ} {w : World δ κ ρ} {n : Nat} {t : Task ρ}

/-- What a step tells the caller of a task. -/
def hears? (setup : Setup δ κ) (n : Nat) (w : World δ κ ρ) : Step ρ → Option (Outcome (Reply ρ))
  | .poll m =>
    if m = n then
      (w.task? n).bind fun t => (t.operation.poll setup t.caller w.conn).1.answer?
    else none
  | _ => none

/-- What a run tells the caller of a task, from the first answer to the last. -/
def heard (setup : Setup δ κ) (n : Nat) : World δ κ ρ → List (Step ρ) → List (Outcome (Reply ρ))
  | _, [] => []
  | w, s :: rest => (w.hears? setup n s).toList ++ heard setup n (w.step setup s) rest

theorem hears?_poll (h : w.task? n = some t) :
    w.hears? setup n (.poll n) = (t.operation.poll setup t.caller w.conn).1.answer? := by
  simp [hears?, h]

theorem hears?_of_not_polls {s : Step ρ} (h : s.polls n = false) : w.hears? setup n s = none := by
  cases s with
  | poll m =>
    have hm : m ≠ n := by simpa [Step.polls] using h
    simp [hears?, hm]
  | _ => rfl

/-- The place of a task changes only with its own steps. -/
theorem tasks_step {s : Step ρ} (hn : n < w.tasks.length) (hs : s.concerns n = false) :
    (w.step setup s).tasks[n]? = w.tasks[n]? := by
  cases s with
  | ask caller request =>
    simp only [step]
    exact List.getElem?_append_left hn
  | poll m =>
    have hm : m ≠ n := by simpa [Step.concerns] using hs
    simp only [step]
    split
    · rename_i t _
      rcases t.operation.poll setup t.caller w.conn with ⟨_ | _ | _, conn⟩ <;>
        exact List.getElem?_set_ne hm
    · rfl
  | drop m =>
    have hm : m ≠ n := by simpa [Step.concerns] using hs
    simp only [step]
    split
    · exact List.getElem?_set_ne hm
    · rfl
  | act a => exact congrArg (·[n]?) (w.tasks_act a)

theorem step_of_gone {s : Step ρ} (h : w.task? n = none) (hs : s.concerns n = true) :
    w.step setup s = w := by
  cases s with
  | poll m | drop m =>
    simp only [Step.concerns, decide_eq_true_eq] at hs
    simp only [step, hs, h]
  | ask | act => cases hs

theorem tasks_poll (setup : Setup δ κ) (h : w.task? n = some t) :
    (w.step setup (.poll n)).tasks[n]? =
      some ((t.operation.poll setup t.caller w.conn).1.waiting?.map (⟨t.caller, ·⟩)) := by
  have hn := lt_of_task? h
  rw [step_poll h]
  rcases t.operation.poll setup t.caller w.conn with ⟨_ | _ | _, conn⟩ <;>
    exact List.getElem?_set_self hn

/-- A task waits on or is over, unless the step is its own poll. -/
theorem tasks_step_or {slot : Option (Task ρ)} (h : w.tasks[n]? = some slot) (s : Step ρ) :
    (w.step setup s).tasks[n]? = some slot ∨ (w.step setup s).tasks[n]? = some none ∨
      s = .poll n ∧ slot.isSome = true := by
  cases hs : s.concerns n with
  | false => exact .inl ((tasks_step (List.getElem?_eq_some_iff.mp h).1 hs).trans h)
  | true =>
    cases slot with
    | none =>
      rw [step_of_gone (by simp [task?, h]) hs]
      exact .inl h
    | some t =>
      have htask : w.task? n = some t := by simp [task?, h]
      cases s with
      | ask | act => cases hs
      | drop m =>
        obtain rfl : m = n := by simpa [Step.concerns] using hs
        rw [step_drop htask]
        exact .inr (.inl (List.getElem?_set_self (lt_of_task? htask)))
      | poll m =>
        obtain rfl : m = n := by simpa [Step.concerns] using hs
        exact .inr (.inr ⟨rfl, rfl⟩)

/-- A task that is over tells its caller nothing. -/
theorem heard_of_gone {steps : List (Step ρ)} (h : w.tasks[n]? = some none) :
    w.heard setup n steps = [] := by
  induction steps generalizing w with
  | nil => rfl
  | cons s rest ih =>
    have htask : w.task? n = none := by simp [task?, h]
    have hquiet : w.hears? setup n s = none := by
      cases s with
      | poll m => simp [hears?, htask]
      | _ => rfl
    have hgone : (w.step setup s).tasks[n]? = some none := by
      rcases tasks_step_or h s with hsame | hgone | ⟨-, hsome⟩
      · exact hsame
      · exact hgone
      · cases hsome
    rw [heard, hquiet, ih hgone]
    rfl

theorem heard_of_ready {steps : List (Step ρ)} {reply : Outcome (Reply ρ)} (h : w.task? n = some t)
    (hready : (t.operation.poll setup t.caller w.conn).1 = .ready reply) :
    w.heard setup n (.poll n :: steps) = [reply] := by
  have hgone := tasks_poll setup h
  rw [hready] at hgone
  rw [heard, hears?_poll h, hready, heard_of_gone hgone]
  rfl

theorem heard_of_waiting (steps : List (Step ρ)) {operation : Operation ρ} (h : w.task? n = some t)
    (hwaiting : (t.operation.poll setup t.caller w.conn).1 = .waiting operation) :
    (w.step setup (.poll n)).task? n = some ⟨t.caller, operation⟩ ∧
      w.heard setup n (.poll n :: steps) = (w.step setup (.poll n)).heard setup n steps := by
  have hafter := tasks_poll setup h
  rw [hwaiting] at hafter
  refine ⟨congrArg Option.join hafter, ?_⟩
  rw [heard, hears?_poll h, hwaiting]
  rfl

end World

/-! ## Answers that are due -/

/-- After this poll, the operation waits for `polls` more polls and answers the next one with
`reply`, whatever becomes of the connection. -/
inductive Polled.Due [Cursor κ] (setup : Setup δ κ) (caller : Caller) (reply : Outcome (Reply ρ)) :
    Nat → Polled (Operation ρ) (Outcome (Reply ρ)) → Prop
  | ready : Due setup caller reply 0 (.ready reply)
  | waiting {polls : Nat} {operation : Operation ρ}
      (h : ∀ conn, Due setup caller reply polls (operation.poll setup caller conn).1) :
      Due setup caller reply (polls + 1) (.waiting operation)

namespace World

variable [Cursor κ] {setup : Setup δ κ} {w : World δ κ ρ} {n : Nat} {t : Task ρ}
  {reply : Outcome (Reply ρ)} {polls : Nat} {steps : List (Step ρ)}

/-- Nothing that others do keeps an answer away that is due, or changes it. -/
theorem heard_of_due (h : w.task? n = some t)
    (hdue : ∀ conn, Polled.Due setup t.caller reply polls
      (t.operation.poll setup t.caller conn).1)
    (hkept : Step.drop n ∉ steps) :
    w.heard setup n steps = if steps.countP (·.polls n) ≤ polls then [] else [reply] := by
  induction steps generalizing w t polls with
  | nil => simp [heard]
  | cons s rest ih =>
    have hrest : Step.drop n ∉ rest := fun hmem => hkept (List.mem_cons_of_mem s hmem)
    have hs' : s ≠ .drop n := fun h => hkept (h ▸ List.mem_cons_self)
    cases hs : s.polls n with
    | false =>
      have htask : (w.step setup s).task? n = some t := by
        unfold task?
        rw [tasks_step (lt_of_task? h) (Step.concerns_eq_false hs hs')]
        exact h
      rw [heard, hears?_of_not_polls hs, ih htask hdue hrest]
      simp [hs]
    | true =>
      obtain ⟨m, rfl, rfl⟩ : ∃ m, s = .poll m ∧ m = n := by
        cases s with
        | poll m => exact ⟨m, rfl, by simpa [Step.polls] using hs⟩
        | _ => cases hs
      have hd := hdue w.conn
      generalize hpolled : (t.operation.poll setup t.caller w.conn).1 = polled at hd
      cases hd with
      | ready =>
        rw [heard_of_ready h hpolled]
        simp [hs]
      | waiting hnext =>
        obtain ⟨htask, hheard⟩ := heard_of_waiting rest h hpolled
        rw [hheard, ih htask hnext hrest]
        simp [hs]

/-- The same for the poll that makes the answer due. -/
theorem heard_poll (h : w.task? n = some t)
    (hdue : Polled.Due setup t.caller reply polls (t.operation.poll setup t.caller w.conn).1)
    (hkept : Step.drop n ∉ steps) :
    w.heard setup n (.poll n :: steps) =
      if steps.countP (·.polls n) < polls then [] else [reply] := by
  generalize hpolled : (t.operation.poll setup t.caller w.conn).1 = polled at hdue
  cases hdue with
  | ready =>
    rw [heard_of_ready h hpolled]
    simp
  | waiting hnext =>
    obtain ⟨htask, hheard⟩ := heard_of_waiting steps h hpolled
    rw [hheard, heard_of_due htask hnext hkept]
    simp only [Nat.lt_add_one_iff]

end World

end OneConnection
