import OneConnection.Proofs.Deferred.RoundTrips
import OneConnection.Proofs.Failures.Calls

/-!
# Chains

Which handlers a chain holds after some were added to it, which of them a command goes to, and how
often the driver is called for it.
-/

namespace OneConnection

/-! ## Building -/

namespace Chain

/-- The chain that adding handlers one after another leads to. -/
def built (added : List Handler) : Chain := added.foldl (fun chain h => chain.add h) {}

/-- A chain as it should be: native handlers, and behind them at most one fallback. -/
def ordered (natives : List Handler) (fallback : Bool) : Chain :=
  ⟨natives ++ if fallback then [.fallback] else []⟩

variable {natives : List Handler}

theorem hasFallback_ordered (hnatives : ∀ h ∈ natives, h.isNative = true) (fallback : Bool) :
    (ordered natives fallback).hasFallback = fallback := by
  have hnone : natives.any (fun h => !h.isNative) = false := by simpa using hnatives
  rw [hasFallback, ordered, List.any_append, hnone]
  cases fallback <;> rfl

theorem add_ordered (hnatives : ∀ h ∈ natives, h.isNative = true) (fallback : Bool)
    (h : Handler) : (ordered natives fallback).add h =
      ordered (natives ++ [h].filter Handler.isNative) (fallback || !h.isNative) := by
  cases h with
  | native name accepts =>
    have hrest : (if fallback then [Handler.fallback] else []).takeWhile Handler.isNative = [] ∧
        (if fallback then [Handler.fallback] else []).dropWhile Handler.isNative =
          if fallback then [Handler.fallback] else [] := by
      cases fallback <;> exact ⟨rfl, rfl⟩
    have hkept : [Handler.native name accepts].filter Handler.isNative =
        [.native name accepts] := rfl
    simp [add, ordered, Handler.isNative, hkept, List.takeWhile_append_of_pos hnatives,
      List.dropWhile_append_of_pos hnatives, hrest]
  | fallback =>
    have hhas := hasFallback_ordered hnatives fallback
    cases fallback with
    | true => simp [add, hhas, Handler.isNative]
    | false =>
      have hlast : (ordered natives true).handlers =
          (ordered natives false).handlers ++ [.fallback] := by simp [ordered]
      simp [add, hhas, Handler.isNative, ← hlast]

/-- Every addition keeps the order. -/
theorem built_eq_ordered (added : List Handler) :
    built added = ordered (added.filter Handler.isNative) (added.any fun h => !h.isNative) := by
  induction added using List.reverseRecOn with
  | nil => rfl
  | append_singleton earlier h ih =>
    have hnatives : ∀ g ∈ earlier.filter Handler.isNative, g.isNative = true :=
      fun g hg => (List.mem_filter.mp hg).2
    have hstep : built (earlier ++ [h]) = (built earlier).add h := List.foldl_append
    rw [hstep, ih, add_ordered hnatives, List.filter_append, List.any_append, List.any_cons,
      List.any_nil, Bool.or_false]

/-! ## Selecting -/

/-- What adding these handlers lets a command come to. -/
inductive Selects (added : List Handler) (c : Command) : Except Error Handler → Prop
  | blank : (∀ d ∈ c.sql.toList, Text.isBlank d = true) →
      Selects added c (.error (.invalidArgument "command has no SQL text"))
  /-- The native handler that accepts the command and was added before all others that do. -/
  | native {earlier later : List Handler} {h : Handler} :
      (∃ d ∈ c.sql.toList, Text.isBlank d = false) → added = earlier ++ h :: later →
      h.isNative = true → h.accepts c = true →
      (∀ g ∈ earlier, g.isNative = true → g.accepts c = false) → Selects added c (.ok h)
  | fallback : (∃ d ∈ c.sql.toList, Text.isBlank d = false) →
      (∀ g ∈ added, g.isNative = true → g.accepts c = false) → .fallback ∈ added →
      Selects added c (.ok .fallback)
  | nobody : (∃ d ∈ c.sql.toList, Text.isBlank d = false) →
      (∀ g ∈ added, g.isNative = true → g.accepts c = false) → .fallback ∉ added →
      Selects added c (.error (.unsupported
        "no reader handler accepts this command and no fallback is configured" (some c.sql)))

theorem any_not_isNative (added : List Handler) :
    (added.any fun h => !h.isNative) = true ↔ .fallback ∈ added := by
  rw [List.any_eq_true]
  constructor
  · rintro ⟨_ | _, hmem, hnative⟩
    · cases hnative
    · exact hmem
  · exact fun hmem => ⟨.fallback, hmem, rfl⟩

/-- The first handler that accepts a command is a native one as long as one of them does. -/
theorem find?_built (added : List Handler) (c : Command) :
    (built added).handlers.find? (·.accepts c) =
      (added.find? fun h => h.isNative && h.accepts c).or
        (if added.any fun h => !h.isNative then some .fallback else none) := by
  have hnative : ((added.filter Handler.isNative).find? fun h => h.accepts c) =
      added.find? fun h => h.isNative && h.accepts c := by
    rw [List.find?_filter]
    simp only [Bool.decide_and, Bool.decide_eq_true]
  rw [built_eq_ordered, ordered, List.find?_append, hnative]
  congr 1
  split <;> rfl

theorem select_of_not_blank (chain : Chain) {c : Command}
    (hwords : ∃ d ∈ c.sql.toList, Text.isBlank d = false) :
    chain.select c = match chain.handlers.find? (·.accepts c) with
      | some h => .ok h
      | none => .error (.unsupported
          "no reader handler accepts this command and no fallback is configured" (some c.sql)) := by
  obtain ⟨d, hd, hblank⟩ := hwords
  rw [select, Command.isWellFormed_of_mem hd hblank]
  rfl

variable {added : List Handler} {c : Command} {answer : Except Error Handler}

theorem find?_native_eq_none :
    (added.find? fun h => h.isNative && h.accepts c) = none ↔
      ∀ g ∈ added, g.isNative = true → g.accepts c = false := by
  simp

theorem Selects.select_eq (h : Selects added c answer) : (built added).select c = answer := by
  cases h with
  | blank hblank =>
    have htrim : Text.trim c.sql.toList = [] := by
      have hnothing : ∀ d ∈ c.sql.toList.reverse, Text.isBlank d = true :=
        fun d hd => hblank d (List.mem_reverse.mp hd)
      rw [Text.trim, Text.trimEnd, Text.dropEndWhile, List.dropWhile_eq_nil_iff.mpr hnothing]
      rfl
    simp [select, Command.isWellFormed, htrim]
  | @native earlier later h hwords hadded hnative haccepts hearlier =>
    have hfind : (added.find? fun h => h.isNative && h.accepts c) = some h := by
      rw [List.find?_eq_some_iff_append]
      refine ⟨by simp [hnative, haccepts], earlier, later, hadded, fun g hg => ?_⟩
      rw [Bool.not_eq_true', Bool.and_eq_false_imp]
      exact hearlier g hg
    rw [select_of_not_blank _ hwords, find?_built, hfind]
    rfl
  | fallback hwords hnone hmem =>
    have hany := (any_not_isNative added).mpr hmem
    rw [select_of_not_blank _ hwords, find?_built, find?_native_eq_none.mpr hnone, if_pos hany]
    rfl
  | nobody hwords hnone hmem =>
    have hany := mt (any_not_isNative added).mp hmem
    rw [select_of_not_blank _ hwords, find?_built, find?_native_eq_none.mpr hnone, if_neg hany]
    rfl

/-- Every command comes to something. -/
theorem selects_total (added : List Handler) (c : Command) : ∃ answer, Selects added c answer := by
  by_cases hblank : ∀ d ∈ c.sql.toList, Text.isBlank d = true
  · exact ⟨_, .blank hblank⟩
  · have hwords : ∃ d ∈ c.sql.toList, Text.isBlank d = false := by simpa using hblank
    cases hfind : added.find? fun h => h.isNative && h.accepts c with
    | some h =>
      obtain ⟨hboth, earlier, later, hadded, hearlier⟩ := List.find?_eq_some_iff_append.mp hfind
      obtain ⟨hnative, haccepts⟩ := Bool.and_eq_true_iff.mp hboth
      refine ⟨_, .native hwords hadded hnative haccepts fun g hg => ?_⟩
      rw [← Bool.and_eq_false_imp, ← Bool.not_eq_true']
      exact hearlier g hg
    | none =>
      have hnone := find?_native_eq_none.mp hfind
      by_cases hmem : .fallback ∈ added
      · exact ⟨_, .fallback hwords hnone hmem⟩
      · exact ⟨_, .nobody hwords hnone hmem⟩

theorem select_eq_iff : (built added).select c = answer ↔ Selects added c answer := by
  constructor
  · rintro rfl
    obtain ⟨answer, hselects⟩ := selects_total added c
    rwa [hselects.select_eq]
  · exact Selects.select_eq

end Chain

/-! ## Dispatching -/

/-- What holds after the first poll of an operation, and what its later polls keep, holds however
often it is polled. `P` says which operations the later ones are. -/
theorem Joint.run_single_keeps {σ τ α : Type} {poll : τ → σ → Polled τ α × σ} {P : τ → Prop}
    {I : σ → Prop} {t : τ} {s : σ}
    (hlater : ∀ t s, P t → I s → I (poll t s).2 ∧ ∀ t', (poll t s).1 = .waiting t' → P t')
    (hfirst : I (poll t s).2 ∧ ∀ t', (poll t s).1 = .waiting t' → P t') (rounds : Nat) :
    I (Joint.run poll (rounds + 1) [.running t] s).2 := by
  induction rounds generalizing t s with
  | zero =>
    obtain ⟨⟨p, s'⟩, hx⟩ : ∃ x, poll t s = x := ⟨_, rfl⟩
    rw [hx] at hfirst
    cases p <;> simpa [Joint.run, Joint.round, hx, Except.map, Slot.answer?] using hfirst.1
  | succ n ih =>
    obtain ⟨⟨p, s'⟩, hx⟩ : ∃ x, poll t s = x := ⟨_, rfl⟩
    rw [hx] at hfirst
    cases p with
    | waiting t' =>
      have hnext := ih (hlater t' s' (hfirst.2 t' rfl) hfirst.1)
      rw [Joint.run]
      simpa [Joint.round, hx, Slot.answer?] using hnext
    | ready | crashed =>
      simpa [Joint.run, Joint.round, hx, Except.map, Slot.answer?] using hfirst.1

variable {δ κ : Type} [Cursor κ] {setup : Setup δ κ} {caller : Caller} {c : Command}
  {conn conn' : Connection δ κ} {calls : List DriverCall}

namespace Dispatching

/-- The driver has been called for the command already. -/
def IsSent (d : Dispatching) : Prop := ∃ polls place, d = .sent polls place

/-- Waiting for the driver's answer, and reading the first row, does not call it. -/
theorem answer_trail (polls : Nat) (place : Outcome Nat) (h : Trail setup conn calls conn') :
    Trail setup conn calls (answer polls place conn').2 ∧
      ∀ d, (answer polls place conn').1 = .waiting d → d.IsSent := by
  have hquiet := quiet_trail setup conn calls
  cases polls with
  | succ n =>
    refine ⟨h, ?_⟩
    rintro d ⟨⟩
    exact ⟨n, place, rfl⟩
  | zero =>
    cases place with
    | ok place =>
      refine ⟨hquiet.dropCursor _ (hquiet.fetch _ _ h), ?_⟩
      rintro d ⟨⟩
    | error | cancelled | panicked =>
      refine ⟨h, ?_⟩
      rintro d ⟨⟩

theorem poll_sent_trail (d : Dispatching) (hsent : d.IsSent) (h : Trail setup conn calls conn') :
    Trail setup conn calls (d.poll setup caller conn').2 ∧
      ∀ d', (d.poll setup caller conn').1 = .waiting d' → d'.IsSent := by
  obtain ⟨polls, place, rfl⟩ := hsent
  exact answer_trail polls place h

/-- The first poll calls the driver for the handler that accepts the command. -/
theorem poll_fresh_trail (hcaller : caller.cancelReason? conn.contexts = none) {h : Handler}
    (hselect : setup.chain.select c = .ok h) :
    Trail setup conn [⟨.reader, Dispatch.mode caller h, [c], conn.readers.openCursors⟩]
        (poll setup caller (.fresh c) conn).2 ∧
      ∀ d, (poll setup caller (.fresh c) conn).1 = .waiting d → d.IsSent := by
  have htrail := (Trail.refl setup conn).afterCall (Dispatch.mode caller h) c rfl
  rw [← Dispatch.run_eq hcaller hselect] at htrail
  simp only [poll]
  generalize Dispatch.run setup caller c conn = result at htrail
  obtain ⟨⟨polls, place⟩ | reason | why | message, conn'⟩ := result
  · exact answer_trail polls place htrail
  all_goals
    refine ⟨htrail, ?_⟩
    rintro d ⟨⟩

theorem run_trail (hcaller : caller.cancelReason? conn.contexts = none) {h : Handler}
    (hselect : setup.chain.select c = .ok h) (rounds : Nat) :
    Trail setup conn [⟨.reader, Dispatch.mode caller h, [c], conn.readers.openCursors⟩]
      (Joint.run (poll setup caller) (rounds + 1) [.running (.fresh c)] conn).2 :=
  Joint.run_single_keeps (fun d _ hsent htrail => poll_sent_trail d hsent htrail)
    (poll_fresh_trail hcaller hselect) rounds

theorem run_rejected (hcaller : caller.cancelReason? conn.contexts = none) {why : Error}
    (hselect : setup.chain.select c = .error why) (rounds : Nat) :
    Joint.run (poll setup caller) (rounds + 1) [.running (.fresh c)] conn =
      (.ready [.error why], conn) := by
  have hpoll : poll setup caller (.fresh c) conn = (.ready (.error why), conn) := by
    simp only [poll, Dispatch.run, hcaller, hselect]
  simp [Joint.run, Joint.round, hpoll, Except.map, Slot.answer?]

end Dispatching

/-- Handlers keep their order with the fallback behind them, the first one that accepts a command
gets it, and the driver is called once for a command that is accepted and not at all for another. -/
theorem Chain.built_dispatches (setup : Setup δ κ) (added : List Handler) (c : Command)
    (conn : Connection δ κ) (rounds : Nat) :
    let chain := built added
    let run := fun caller => Joint.run (Dispatching.poll { setup with chain } caller) (rounds + 1)
      [.running (.fresh c)] conn
    let called := fun mode caller => Trail setup conn
      [⟨.reader, mode, [c], conn.readers.openCursors⟩] (run caller).2
    (chain.handlers = added.filter Handler.isNative ++
      if added.any fun h => !h.isNative then [.fallback] else []) ∧
    (∀ answer, chain.select c = answer ↔ Selects added c answer) ∧
    (∀ context, conn.contexts.reason? context = none →
      (∀ h, Selects added c (.ok h) → h.isNative = true → called .async (.task context)) ∧
      (Selects added c (.ok .fallback) → called .blocking (.task context)) ∧
      ∀ why, Selects added c (.error why) → run (.task context) = (.ready [.error why], conn)) ∧
    (∀ h, Selects added c (.ok h) → called .blocking .blocking) ∧
    ∀ why, Selects added c (.error why) → run .blocking = (.ready [.error why], conn) := by
  intro chain run called
  have htrail : ∀ caller h, caller.cancelReason? conn.contexts = none →
      Selects added c (.ok h) → called (Dispatch.mode caller h) caller := by
    intro caller h hcaller hselects
    have hselect : ({ setup with chain } : Setup δ κ).chain.select c = .ok h := hselects.select_eq
    have hrun := Dispatching.run_trail hcaller hselect rounds
    exact ⟨hrun.calls, hrun.database⟩
  have hrejected : ∀ caller why, caller.cancelReason? conn.contexts = none →
      Selects added c (.error why) → run caller = (.ready [.error why], conn) := by
    intro caller why hcaller hselects
    have hselect : ({ setup with chain } : Setup δ κ).chain.select c = .error why :=
      hselects.select_eq
    exact Dispatching.run_rejected hcaller hselect rounds
  refine ⟨?_, fun answer => select_eq_iff, fun context hcontext => ⟨?_, ?_, ?_⟩, ?_, ?_⟩
  · exact congrArg Chain.handlers (built_eq_ordered added)
  · intro h hselects hnative
    have hmode : Dispatch.mode (.task context) h = .async := by simp [Dispatch.mode, hnative]
    rw [← hmode]
    exact htrail (.task context) h hcontext hselects
  · exact htrail (.task context) .fallback hcontext
  · exact fun why => hrejected (.task context) why hcontext
  · exact fun h => htrail .blocking h rfl
  · exact fun why => hrejected .blocking why rfl

/-- The fallback is added first and once more at the end. -/
theorem Chain.built_dispatches_provider :
    let added : List Handler := [.fallback, .forProvider "mssql", .fallback]
    let c : Command := { sql := "select 1", provider := some "mssql" }
    let setup := { Setup.answering fun _ => [[]] with chain := built added }
    let conn := Connection.create setup ()
    (built added).handlers.map Handler.name = ["mssql", "sync-fallback"] ∧
      conn.contexts.reason? ⟨"request"⟩ = none ∧
      Selects added c (.ok (.forProvider "mssql")) ∧
      Trail setup conn [⟨.reader, .async, [c], 0⟩] (Joint.run
        (Dispatching.poll setup (.task ⟨"request"⟩)) 3 [.running (.fresh c)] conn).2 := by
  intro added c setup conn
  have hselects : Selects added c (.ok (.forProvider "mssql")) := by
    have hadded : added = [.fallback] ++ .forProvider "mssql" :: [.fallback] := rfl
    refine .native ⟨'s', by decide, by decide⟩ hadded rfl (by decide) fun g hg hnative => ?_
    rw [List.mem_singleton.mp hg] at hnative
    cases hnative
  obtain ⟨hhandlers, -, htask, -⟩ := built_dispatches setup added c conn 2
  refine ⟨?_, rfl, hselects, (htask ⟨"request"⟩ rfl).1 _ hselects rfl⟩
  rw [hhandlers]
  rfl

end OneConnection
