import OneConnection.Polling

/-!
# Driving operations alone

What an operation comes to when nobody else uses the connection until it is ready.
-/

namespace OneConnection

variable {σ τ υ α β : Type}

/-- Asking again and again ends with this answer, in this state. -/
inductive Polled.ComesTo (poll : τ → σ → Polled τ α × σ) : Polled τ α × σ → α → σ → Prop
  | ready {a : α} {s : σ} : ComesTo poll (.ready a, s) a s
  | waiting {t : τ} {s s' : σ} {a : α} :
      ComesTo poll (poll t s) a s' → ComesTo poll (.waiting t, s) a s'

namespace Polled.ComesTo

variable {poll : τ → σ → Polled τ α × σ} {next : υ → σ → Polled υ β × σ} {x : Polled τ α × σ}
  {a : α} {b : β} {s s' : σ}

/-- An operation with another one inside waits as long as that one waits, and then goes on. -/
theorem through {f : Polled τ α × σ → Polled υ β × σ} (g : τ → υ)
    (hwaiting : ∀ t s, f (.waiting t, s) = (.waiting (g t), s))
    (hpoll : ∀ t s, next (g t) s = f (poll t s)) (h : ComesTo poll x a s)
    (hend : ComesTo next (f (.ready a, s)) b s') : ComesTo next (f x) b s' := by
  induction h with
  | ready => exact hend
  | waiting _ ih =>
    rw [hwaiting]
    apply waiting
    rw [hpoll]
    exact ih hend

/-- Several operations are driven by rounds, and so is a single one. -/
theorem run_single {t : τ} (h : ComesTo poll (poll t s) a s') :
    ∃ rounds, Joint.run poll rounds [.running t] s = (.ready [a], s') := by
  generalize hx : poll t s = x at h
  induction h generalizing t s with
  | ready =>
    refine ⟨1, ?_⟩
    simp [Joint.run, Joint.round, hx, Except.map, Slot.answer?]
  | @waiting t' _ _ _ _ ih =>
    obtain ⟨rounds, hrun⟩ := ih rfl
    refine ⟨rounds + 1, ?_⟩
    simp [Joint.run, Joint.round, hx, Slot.answer?, hrun]

end Polled.ComesTo

/-- An operation that is ready at once gives no other answer. -/
theorem Joint.eq_of_run_single {poll : τ → σ → Polled τ α × σ} {t : τ} {s s' : σ} {a a' : α}
    {rounds : Nat} (hready : (poll t s).1 = .ready a)
    (hrun : Joint.run poll rounds [.running t] s = (.ready [a'], s')) : a' = a := by
  obtain ⟨x, hx⟩ : ∃ x, poll t s = x := ⟨_, rfl⟩
  obtain ⟨p, s₁⟩ := x
  rw [hx] at hready
  cases hready
  cases rounds with
  | zero => cases hrun
  | succ n =>
    simp [Joint.run, Joint.round, hx, Except.map, Slot.answer?] at hrun
    exact hrun.1.symm

end OneConnection
