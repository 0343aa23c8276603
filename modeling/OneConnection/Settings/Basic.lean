import OneConnection.Duration
import OneConnection.Error

/-!
# Settings

What can be adjusted about a connection.
-/

namespace OneConnection

structure Settings where
  /-- A batch of this size is sent without being asked for. -/
  batchSize : Nat := 20
  /-- The time limit of commands that have none. -/
  commandTimeout : Option Duration := none
  /-- Announce every statement in the log. -/
  logSql : Bool := false
  /-- Lay out logged statements with one clause per line. -/
  formatSql : Bool := true
  /-- Track open readers even if the driver keeps several of them open. -/
  trackReaders : Bool := true
  /-- Fail at disposal if readers are open. -/
  strictLeaks : Bool := false
  deriving DecidableEq, Repr

namespace Settings

/-- Settings are usable when a batch can hold a command. -/
def validate (s : Settings) : Except Error Settings :=
  if s.batchSize = 0 then .error (.settings .emptyBatches) else .ok s

theorem validate_eq_ok_iff {s t : Settings} :
    s.validate = .ok t ↔ s = t ∧ 0 < s.batchSize := by
  unfold validate
  split
  · simp; omega
  · simp; omega

end Settings

end OneConnection
