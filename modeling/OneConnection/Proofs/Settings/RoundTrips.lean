import OneConnection.Proofs.Json.Reading
import OneConnection.Settings.Document

/-!
# Settings that were written and read

Usable settings come back from their document. Only what the time limit has beyond whole seconds is
lost on the way.
-/

namespace OneConnection

theorem Duration.ofSeconds_seconds (d : Duration) : ofSeconds d.seconds = d ↔ d.subsecond = 0 := by
  obtain ⟨nanos⟩ := d
  rw [ofSeconds, mk.injEq]
  show nanos / second * second = nanos ↔ nanos % second = 0
  have hdiv := Nat.div_add_mod' nanos second
  omega

namespace Settings

open Json

/-- The numbers are words. -/
structure Fits (s : Settings) : Prop where
  batchSize : s.batchSize < Text.wordLimit
  commandTimeout : ∀ d, s.commandTimeout = some d → d.seconds < Text.wordLimit

/-- The settings with a time limit in whole seconds. -/
def wholeSeconds (s : Settings) : Settings :=
  { s with commandTimeout := s.commandTimeout.map fun d => .ofSeconds d.seconds }

theorem wholeSeconds_eq_iff (s : Settings) :
    s.wholeSeconds = s ↔ ∀ d, s.commandTimeout = some d → d.subsecond = 0 := by
  obtain ⟨size, timeout, log, format, track, strict⟩ := s
  cases timeout with
  | none => simp [wholeSeconds]
  | some d => simp [wholeSeconds, Duration.ofSeconds_seconds]

namespace Field

/-- Takes one field over from other settings. -/
def copy (s : Settings) (f : Field) (t : Settings) : Settings :=
  match f with
  | .batchSize => { t with batchSize := s.batchSize }
  | .commandTimeout => { t with commandTimeout := s.commandTimeout }
  | .logSql => { t with logSql := s.logSql }
  | .formatSql => { t with formatSql := s.formatSql }
  | .trackReaders => { t with trackReaders := s.trackReaders }
  | .strictLeaks => { t with strictLeaks := s.strictLeaks }

theorem copy_all (s t : Settings) : all.foldl (fun t f => copy s f t) t = s := rfl

variable {s : Settings}

theorem reads_timeout (h : s.Fits) :
    Reader.Reads (Reader.optional Reader.natural) (toJson s .commandTimeout).write
      (s.commandTimeout.map Duration.seconds) := by
  rw [toJson]
  cases htimeout : s.commandTimeout with
  | none => exact Reader.reads_none _
  | some d =>
    obtain ⟨c, cs, htext, hdigit⟩ := Reader.head_write_whole d.seconds
    have hreads := Reader.reads_natural (h.commandTimeout d htimeout)
    have hnull : c ≠ 'n' := by
      rintro rfl
      exact absurd hdigit (by decide)
    dsimp only
    rw [htext] at hreads ⊢
    exact Reader.reads_some hreads (Reader.not_isSpace_of_isAsciiDigit hdigit) hnull

/-- Every field is read as it is written. -/
theorem fieldReads (h : s.Fits) (f : Field) :
    Reader.FieldReads name read (toJson s) (copy s.wholeSeconds) all f where
  found := by cases f <;> decide
  reads t := by
    cases f with
    | batchSize =>
      exact (Reader.reads_natural h.batchSize).map fun n => { t with batchSize := n }
    | commandTimeout =>
      have hreads := (reads_timeout h).map fun seconds =>
        { t with commandTimeout := seconds.map Duration.ofSeconds }
      rwa [Option.map_map] at hreads
    | logSql => exact (Reader.reads_bool s.logSql).map fun b => { t with logSql := b }
    | formatSql => exact (Reader.reads_bool s.formatSql).map fun b => { t with formatSql := b }
    | trackReaders =>
      exact (Reader.reads_bool s.trackReaders).map fun b => { t with trackReaders := b }
    | strictLeaks =>
      exact (Reader.reads_bool s.strictLeaks).map fun b => { t with strictLeaks := b }

end Field

variable {s : Settings}

theorem reader_reads (h : s.Fits) : Reader.Reads reader s.toJson.write s.wholeSeconds := by
  have hnodup : Field.all.Nodup := by decide
  have hall := Reader.Reads.structured (fun f _ => Field.fieldReads h f) hnodup ({} : Settings)
  rw [Field.copy_all] at hall
  exact hall.map Prod.fst

/-- What loading the document of usable settings gives. -/
theorem ofDocument_toDocument (hvalid : s.validate = .ok s) (h : s.Fits) :
    ofDocument s.toDocument = .ok s.wholeSeconds := by
  have hwhole : s.wholeSeconds.validate = .ok s.wholeSeconds :=
    validate_eq_ok_iff.mpr ⟨rfl, (validate_eq_ok_iff.mp hvalid).2⟩
  have hread : Reader.runOn reader s.toDocument = .ok s.wholeSeconds := (reader_reads h).runOn
  rw [ofDocument, hread]
  exact hwhole

/-- Settings come back from their document with their time limit in whole seconds, and so they are
the same unless it has a fraction of a second. -/
theorem document_keeps_settings (hvalid : s.validate = .ok s) (h : s.Fits) :
    ofDocument s.toDocument = .ok s.wholeSeconds ∧
      (ofDocument s.toDocument = .ok s ↔ ∀ d, s.commandTimeout = some d → d.subsecond = 0) := by
  have hread := ofDocument_toDocument hvalid h
  refine ⟨hread, ?_⟩
  rw [hread, Except.ok.injEq, wholeSeconds_eq_iff]

/-- A time limit of a minute and a half. -/
theorem document_keeps_settings_minutes :
    let s : Settings := { batchSize := 3, commandTimeout := some (.ofSeconds 90), logSql := true }
    ofDocument s.toDocument = .ok s := by
  intro s
  have hfits : s.Fits := by
    refine ⟨by decide, ?_⟩
    rintro d ⟨⟩
    decide
  refine (document_keeps_settings rfl hfits).2.mpr ?_
  rintro d ⟨⟩
  decide

/-- A time limit of half a second comes back as one of no time at all. -/
theorem document_drops_half_second :
    let s : Settings := { commandTimeout := some ⟨500000000⟩ }
    s.validate = .ok s ∧ ofDocument s.toDocument = .ok { s with commandTimeout := some ⟨0⟩ } ∧
      ofDocument s.toDocument ≠ .ok s := by
  intro s
  have hfits : s.Fits := by
    refine ⟨by decide, ?_⟩
    rintro d ⟨⟩
    decide
  have hread := ofDocument_toDocument rfl hfits
  refine ⟨rfl, hread, ?_⟩
  rw [hread, Ne, Except.ok.injEq]
  decide

end Settings

end OneConnection
