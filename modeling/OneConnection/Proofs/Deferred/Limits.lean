import Mathlib.Data.ENat.Basic
import OneConnection.Proofs.Deferred.RoundTrips

/-!
# Time limits of combined commands

A combined command takes the longest of the time limits that its commands set, and the default one
if they set none. A command that leaves its limit to the default has no say.
-/

namespace OneConnection

variable {δ κ : Type}

/-- How many nanoseconds a time limit allows. Without a limit there is no end to them. -/
def Duration.allowed (limit : Option Duration) : ℕ∞ := limit.elim ⊤ fun d => d.nanos

/-- How long the driver may take for a command. -/
def Command.allowed (c : Command) : ℕ∞ := Duration.allowed c.timeout

theorem Duration.le_longer (a b : Duration) :
    a.nanos ≤ (a.longer b).nanos ∧ b.nanos ≤ (a.longer b).nanos := by
  unfold longer
  split <;> omega

theorem Duration.longer_eq (a b : Duration) : a.longer b = a ∨ a.longer b = b := by
  unfold longer
  split
  · exact .inr rfl
  · exact .inl rfl

namespace Command

variable {cs : List Command} {c : Command} {t : Duration}

/-! ## The longest limit -/

theorem longestTimeout_eq_none : longestTimeout cs = none ↔ ∀ c ∈ cs, c.timeout = none := by
  induction cs with
  | nil => simp [longestTimeout]
  | cons c rest ih =>
    rw [List.forall_mem_cons, ← ih, longestTimeout]
    cases c.timeout <;> cases longestTimeout rest <;> simp

/-- Some command sets the longest limit. -/
theorem exists_of_longestTimeout (h : longestTimeout cs = some t) :
    ∃ c ∈ cs, c.timeout = some t := by
  induction cs generalizing t with
  | nil => cases h
  | cons c rest ih =>
    rw [longestTimeout] at h
    cases hc : c.timeout with
    | none =>
      obtain ⟨c', hmem, hc'⟩ := ih (by simpa [hc] using h)
      exact ⟨c', List.mem_cons_of_mem c hmem, hc'⟩
    | some a =>
      cases hrest : longestTimeout rest with
      | none =>
        rw [hc, hrest] at h
        exact ⟨c, List.mem_cons_self, hc.trans h⟩
      | some b =>
        rw [hc, hrest] at h
        obtain rfl := Option.some.inj h
        rcases a.longer_eq b with heq | heq <;> rw [heq]
        · exact ⟨c, List.mem_cons_self, hc⟩
        · obtain ⟨c', hmem, hc'⟩ := ih hrest
          exact ⟨c', List.mem_cons_of_mem c hmem, hc'⟩

theorem le_longestTimeout (hc : c ∈ cs) (ht : c.timeout = some t) :
    ∃ longest, longestTimeout cs = some longest ∧ t.nanos ≤ longest.nanos := by
  induction cs with
  | nil => cases hc
  | cons first rest ih =>
    rw [longestTimeout]
    rcases List.mem_cons.mp hc with rfl | hmem
    · rw [ht]
      cases longestTimeout rest with
      | none => exact ⟨t, rfl, Nat.le_refl _⟩
      | some b => exact ⟨t.longer b, rfl, (t.le_longer b).1⟩
    · obtain ⟨b, hb, hle⟩ := ih hmem
      rw [hb]
      cases first.timeout with
      | none => exact ⟨b, rfl, hle⟩
      | some a => exact ⟨a.longer b, rfl, hle.trans (a.le_longer b).2⟩

/-! ## Limits as they are sent -/

theorem allowed_prepare (setup : Setup δ κ) (c : Command) :
    (setup.prepare c).allowed = match c.timeout with
      | some t => (t.nanos : ℕ∞)
      | none => Duration.allowed setup.settings.commandTimeout := by
  unfold allowed Setup.prepare withDefaultTimeout
  cases c.timeout <;> rfl

theorem allowed_prepare_of_own (setup : Setup δ κ) (ht : c.timeout = some t) :
    (setup.prepare c).allowed = t.nanos := by
  rw [allowed_prepare, ht]

theorem allowed_prepare_of_none (setup : Setup δ κ) (hc : c.timeout = none) :
    (setup.prepare c).allowed = Duration.allowed setup.settings.commandTimeout := by
  rw [allowed_prepare, hc]

/-- A command gets as long in a combined command as on its own exactly if it sets its limit itself,
or no command of them does, or one of them sets a limit that is not below the default one. -/
theorem allowed_combine_iff (setup : Setup δ κ) (cs : List Command) (hc : c ∈ cs) :
    (setup.prepare c).allowed ≤ (setup.prepare (combine cs)).allowed ↔
      c.timeout ≠ none ∨ (∀ other ∈ cs, other.timeout = none) ∨
        ∃ other ∈ cs, ∃ t, other.timeout = some t ∧
          Duration.allowed setup.settings.commandTimeout ≤ t.nanos := by
  cases hlongest : longestTimeout cs with
  | none =>
    have hnone := longestTimeout_eq_none.mp hlongest
    rw [allowed_prepare_of_none setup (hnone c hc), allowed_prepare_of_none setup hlongest]
    exact iff_of_true le_rfl (.inr (.inl hnone))
  | some longest =>
    rw [allowed_prepare_of_own setup (c := combine cs) hlongest]
    obtain ⟨setter, hmem, hsetter⟩ := exists_of_longestTimeout hlongest
    cases ht : c.timeout with
    | some t =>
      obtain ⟨longest', hlongest', hle⟩ := le_longestTimeout hc ht
      cases hlongest.symm.trans hlongest'
      rw [allowed_prepare_of_own setup ht]
      exact iff_of_true (by exact_mod_cast hle) (.inl (Option.some_ne_none t))
    | none =>
      rw [allowed_prepare_of_none setup ht]
      constructor
      · exact fun hle => .inr (.inr ⟨setter, hmem, longest, hsetter, hle⟩)
      · rintro (hown | hall | ⟨other, hother, t, ht', hle⟩)
        · exact absurd rfl hown
        · rw [hall setter hmem] at hsetter
          cases hsetter
        · obtain ⟨longest', hlongest', hle'⟩ := le_longestTimeout hother ht'
          cases hlongest.symm.trans hlongest'
          exact hle.trans (by exact_mod_cast hle')

end Command

/-- The second command gets its thirty seconds, because the third one sets a minute. -/
theorem allowed_combine_minute :
    let setup : Setup Unit Buffered :=
      { Setup.answering fun _ => [[]] with settings := { commandTimeout := some (.ofSeconds 30) } }
    let second : Command := { sql := "select 2" }
    let third : Command := { sql := "select 3", timeout := some (.ofSeconds 60) }
    let cs : List Command := [{ sql := "select 1", timeout := some (.ofSeconds 1) }, second, third]
    (setup.prepare second).allowed ≤ (setup.prepare (Command.combine cs)).allowed := by
  intro setup second third cs
  have hsecond : second ∈ cs := by simp [cs]
  have hthird : third ∈ cs := by simp [cs]
  have hlong : Duration.allowed setup.settings.commandTimeout ≤ (Duration.ofSeconds 60).nanos :=
    Nat.cast_le.mpr (by decide : (Duration.ofSeconds 30).nanos ≤ (Duration.ofSeconds 60).nanos)
  exact (Command.allowed_combine_iff setup cs hsecond).mpr
    (.inr (.inr ⟨third, hthird, _, rfl, hlong⟩))

/-- A query that may take forever, or thirty seconds by default, is sent in one command with another
one that may take a second. The driver is told that the command may take a second. -/
theorem combined_query_cut_short :
    let first : Command := { sql := "select 1", timeout := some (.ofSeconds 1) }
    let second : Command := { sql := "select 2" }
    let setup (limit : Option Duration) : Setup Unit Buffered :=
      { Setup.answering fun _ => [[], []] with settings := { commandTimeout := limit } }
    let steps : List (Step Nat) :=
      [.act (.register { command := first }), .act (.register { command := second }),
       .ask .blocking (.view 0 1 fun rows => .ok rows.length), .poll 0]
    ∀ limit ∈ [none, some (.ofSeconds 30)],
      ((World.create (setup limit) ()).run (setup limit) steps).calls.map
          (fun call => call.commands.map (·.timeout)) = [[some (.ofSeconds 1)]] ∧
        ¬ ((setup limit).prepare second).allowed ≤
          ((setup limit).prepare (Command.combine [first, second])).allowed := by
  intro first second setup steps limit hlimit
  have hcombined : ((setup limit).prepare (Command.combine [first, second])).allowed =
      (Duration.ofSeconds 1).nanos := Command.allowed_prepare_of_own (setup limit) rfl
  have hsecond : ((setup limit).prepare second).allowed = Duration.allowed limit :=
    Command.allowed_prepare_of_none (setup limit) rfl
  rw [hcombined, hsecond]
  rcases List.mem_cons.mp hlimit with rfl | hlimit
  · exact ⟨by decide +kernel, by simp [Duration.allowed]⟩
  · cases List.mem_singleton.mp hlimit
    refine ⟨by decide +kernel, fun hle => ?_⟩
    have hnanos : (Duration.ofSeconds 30).nanos ≤ (Duration.ofSeconds 1).nanos :=
      Nat.cast_le.mp hle
    exact absurd hnanos (by decide)

end OneConnection
