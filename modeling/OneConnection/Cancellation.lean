/-!
# Cancellation

Callers run in named contexts. A cancelled context carries the reason, and operations look at it
before they touch the connection.
-/

namespace OneConnection

inductive CancelKind
  | user | timeout | deadline | shutdown | raceLost | parentCancelled
  deriving DecidableEq, Repr

def CancelKind.text : CancelKind → String
  | .user => "user"
  | .timeout => "timeout"
  | .deadline => "deadline"
  | .shutdown => "shutdown"
  | .raceLost => "race lost"
  | .parentCancelled => "parent cancelled"

structure CancelReason where
  kind : CancelKind
  message : Option String := none
  deriving DecidableEq, Repr

namespace CancelReason

def user (message : String) : CancelReason := ⟨.user, some message⟩

def text (reason : CancelReason) : String :=
  match reason.message with
  | some message => s!"{reason.kind.text}: {message}"
  | none => reason.kind.text

end CancelReason

structure Context where
  name : String
  deriving DecidableEq, Repr

/-- A demand to cancel a context, with or without a reason. -/
structure CancelRequest where
  context : Context
  reason : Option CancelReason := none
  deriving DecidableEq, Repr

structure Contexts where
  cancelled : List (Context × CancelReason) := []
  deriving DecidableEq, Repr

namespace Contexts

def reason? (cs : Contexts) (x : Context) : Option CancelReason := cs.cancelled.lookup x

def set (cs : Contexts) (x : Context) (reason : CancelReason) : Contexts :=
  ⟨(x, reason) :: cs.cancelled⟩

/-- A reason replaces the one before. Without a reason, a context that is cancelled already keeps
the one that it has. -/
def cancel (cs : Contexts) (request : CancelRequest) : Contexts :=
  match request.reason, cs.reason? request.context with
  | some reason, _ => cs.set request.context reason
  | none, some _ => cs
  | none, none => cs.set request.context (.user "cancelled")

def cancelAll (cs : Contexts) (requests : List CancelRequest) : Contexts :=
  requests.foldl cancel cs

def revive (cs : Contexts) (x : Context) : Contexts := ⟨cs.cancelled.filter (·.1 ≠ x)⟩

@[simp] theorem reason?_set (cs : Contexts) (x y : Context) (reason : CancelReason) :
    (cs.set x reason).reason? y = if y = x then some reason else cs.reason? y := by
  by_cases h : y = x <;> simp [set, reason?, List.lookup_cons, h, beq_eq_false_iff_ne.2]

@[simp] theorem reason?_revive_self (cs : Contexts) (x : Context) :
    (cs.revive x).reason? x = none := by
  rw [reason?, revive, List.lookup_eq_none_iff]
  intro p hp
  have h : p.1 ≠ x := by simpa using (List.mem_filter.1 hp).2
  exact bne_iff_ne.2 h.symm

end Contexts

/-- Who waits for an operation: the thread that asked for it, or a task of a context, which can be
cancelled. -/
inductive Caller
  | blocking
  | task (context : Context)
  deriving DecidableEq, Repr

def Caller.cancelReason? (contexts : Contexts) : Caller → Option CancelReason
  | .blocking => none
  | .task x => contexts.reason? x

end OneConnection
