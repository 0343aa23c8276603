import Mathlib.Logic.Function.Iterate
import OneConnection.Error

/-!
# Shared and annotated errors

An error that is shared, however many times over, shows what the error inside shows. An error keeps
the first command that it is annotated with, and changes in nothing else.
-/

namespace OneConnection

/-- The same failure, with the SQL that it came with if it came with any. -/
structure QueryError.Tells (told raised : QueryError) : Prop where
  failure : told.failure = raised.failure
  message : told.message = raised.message
  source : told.source = raised.source
  kept : raised.sql ≠ none → told = raised

theorem QueryError.Tells.refl (raised : QueryError) : raised.Tells raised where
  failure := rfl
  message := rfl
  source := rfl
  kept _ := rfl

namespace Error

/-! ## Sharing -/

/-- Callers cannot tell one error from the other unless they look inside. -/
structure LooksLike (e e' : Error) : Prop where
  message : e.message = e'.message
  sql : e.sql = e'.sql
  isRetryable : e.isRetryable = e'.isRetryable
  isCancelled : e.isCancelled = e'.isCancelled
  source : e.source = e'.source

theorem LooksLike.refl (e : Error) : e.LooksLike e := ⟨rfl, rfl, rfl, rfl, rfl⟩

theorem LooksLike.trans {e e' e'' : Error} (h : e.LooksLike e') (h' : e'.LooksLike e'') :
    e.LooksLike e'' where
  message := h.message.trans h'.message
  sql := h.sql.trans h'.sql
  isRetryable := h.isRetryable.trans h'.isRetryable
  isCancelled := h.isCancelled.trans h'.isCancelled
  source := h.source.trans h'.source

theorem looksLike_shared (e : Error) : (shared e).LooksLike e := ⟨rfl, rfl, rfl, rfl, rfl⟩

theorem looksLike_root (e : Error) : e.LooksLike e.root := by
  induction e with
  | shared inner ih => exact (looksLike_shared inner).trans ih
  | _ => exact .refl _

theorem root_ne_shared (e inner : Error) : e.root ≠ .shared inner := by
  induction e with
  | shared e ih => exact ih
  | _ => exact nofun

theorem root_shared_iterate (e : Error) (n : Nat) : (shared^[n] e).root = e.root := by
  induction n with
  | zero => rfl
  | succ n ih =>
    rw [Function.iterate_succ_apply']
    exact ih

/-! ## Annotations -/

theorem withSql_query (why : QueryError) (sql : String) (params : List Value) :
    ∃ told : QueryError, (query why).withSql sql params = .query told ∧ told.Tells why ∧
      (why.sql = none → told.sql = some sql ∧ told.params = params) := by
  cases hsql : why.sql with
  | none =>
    refine ⟨{ why with sql := some sql, params }, by simp only [withSql, hsql], ?_, ?_⟩
    · exact ⟨rfl, rfl, rfl, fun hne => absurd hsql hne⟩
    · exact fun _ => ⟨rfl, rfl⟩
  | some known => exact ⟨why, by simp only [withSql, hsql], .refl why, nofun⟩

/-- Annotates an error with one command after the other. -/
def annotate (e : Error) (notes : List (String × List Value)) : Error :=
  notes.foldl (fun e note => e.withSql note.1 note.2) e

/-- The second error is the first one, annotated. Only the command can be new, and only where none
was named. -/
inductive AnnotatedWith (sql : String) (params : List Value) : Error → Error → Prop
  | query {why told : QueryError} (htells : told.Tells why)
      (hnamed : why.sql = none → told.sql = some sql ∧ told.params = params) :
      AnnotatedWith sql params (.query why) (.query told)
  | unsupported {message : String} {known : Option String} :
      AnnotatedWith sql params (.unsupported message known)
        (.unsupported message (known <|> some sql))
  | other {e : Error} (hquery : ∀ why, e ≠ .query why)
      (hunsupported : ∀ message known, e ≠ .unsupported message known) :
      AnnotatedWith sql params e e

theorem annotatedWith_withSql (e : Error) (sql : String) (params : List Value) :
    e.AnnotatedWith sql params (e.withSql sql params) := by
  cases e with
  | query why =>
    obtain ⟨told, heq, htells, hnamed⟩ := withSql_query why sql params
    rw [heq]
    exact .query htells hnamed
  | unsupported message known =>
    have heq : (unsupported message known).withSql sql params =
        .unsupported message (known <|> some sql) := by
      cases known <;> rfl
    rw [heq]
    exact .unsupported
  | _ => exact .other nofun nofun

theorem withSql_withSql (e : Error) (sql sql' : String) (params params' : List Value) :
    (e.withSql sql params).withSql sql' params' = e.withSql sql params := by
  cases e with
  | query why => cases hsql : why.sql <;> simp [withSql, hsql]
  | unsupported message known => cases known <;> rfl
  | _ => rfl

theorem annotate_cons (e : Error) (note : String × List Value)
    (notes : List (String × List Value)) :
    e.annotate (note :: notes) = e.withSql note.1 note.2 := by
  unfold annotate
  rw [List.foldl_cons]
  induction notes with
  | nil => rfl
  | cons later rest ih => rw [List.foldl_cons, withSql_withSql, ih]

/-- Below all sharing is an error that is not shared, and the shared one looks like it. Of several
annotations the first one counts. It names the command of a failure that did not name one, and
changes nothing else. -/
theorem shared_and_annotated (e : Error) (n : Nat) (sql : String) (params : List Value)
    (notes : List (String × List Value)) :
    ((∀ inner, (shared^[n] e).root ≠ .shared inner) ∧ (shared^[n] e).root = e.root ∧
      (shared^[n] e).LooksLike (shared^[n] e).root) ∧
    e.annotate ((sql, params) :: notes) = e.annotate [(sql, params)] ∧
    e.AnnotatedWith sql params (e.annotate ((sql, params) :: notes)) := by
  refine ⟨⟨root_ne_shared _, root_shared_iterate e n, looksLike_root _⟩, ?_, ?_⟩
  · rw [annotate_cons, annotate_cons]
  · rw [annotate_cons]
    exact annotatedWith_withSql e sql params

end Error

end OneConnection
