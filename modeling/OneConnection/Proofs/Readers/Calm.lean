import OneConnection.Deferred.Reading
import OneConnection.Registry

/-!
# Calm readers

A reader that can move into memory stays one while it is read from, and a cursor of the driver that
was closed is not opened again.
-/

namespace OneConnection

variable {κ : Type} [Cursor κ]

/-- Closing a cursor releases it for good. -/
structure Cursor.Releases (κ : Type) [Cursor κ] : Prop where
  close : ∀ c : κ, isClosed (close c) = true
  nextRow : ∀ c : κ, isClosed c = true → isClosed (nextRow c).cursor = true
  nextResult : ∀ c : κ, isClosed c = true → isClosed (nextResult c).cursor = true

theorem Buffered.releases : Cursor.Releases Buffered where
  close _ := rfl
  nextRow b h := by
    have h : b.closed = true := h
    simp only [Cursor.nextRow, Buffered.nextRow, h, if_true]
    exact h
  nextResult b h := by
    have h : b.closed = true := h
    simp only [Cursor.nextResult, Buffered.nextResult, h, if_true]
    exact h

/-! ## Loops -/

/-- What fetching a row keeps, reading the rest of a result set keeps. -/
theorem Cursor.collect_keeps {β : Type} {P : κ → Prop} (hrow : ∀ c, P c → P (nextRow c).cursor)
    (read : Row → Except Error β) {c : κ} (h : P c) : P (collect read c).cursor := by
  fun_induction collect read c with
  | case1 c x why hx => exact hrow c h
  | case2 c x hx => exact hrow c h
  | case3 c x row hx why hr => exact hrow c h
  | case4 c x row hx item hr ih => exact ih (hrow c h)

namespace Reading

variable {α β : Type} {P : κ → Prop}

omit [Cursor κ] in
theorem andThen_keeps {x : Reading κ α} {f : α → κ → Contexts → Reading κ β} (hx : P x.cursor)
    (hf : ∀ a cursor contexts, P cursor → P (f a cursor contexts).cursor) :
    P (x.andThen f).cursor := by
  unfold andThen
  split
  · exact hf _ _ _ hx
  · exact hx

theorem set_keeps (hrow : ∀ c, P c → P (Cursor.nextRow c).cursor) (caller : Caller) (c : Command)
    {cursor : κ} (contexts : Contexts) (h : P cursor) :
    P (set caller c cursor contexts).cursor := by
  fun_induction set caller c cursor contexts with
  | case1 cursor contexts reason hc => exact h
  | case2 cursor contexts hc x contexts' why hx => exact hrow cursor h
  | case3 cursor contexts hc x contexts' hx => exact hrow cursor h
  | case4 cursor contexts hc x contexts' row hx ih => exact ih (hrow cursor h)

theorem advance_keeps (hresult : ∀ c, P c → P (Cursor.nextResult c).cursor) (c : Command)
    (wanted got : Nat) {cursor : κ} (contexts : Contexts) (h : P cursor) :
    P (advance c wanted got cursor contexts).cursor := by
  simp only [advance]
  split <;> exact hresult cursor h

theorem others_keeps (hrow : ∀ c, P c → P (Cursor.nextRow c).cursor)
    (hresult : ∀ c, P c → P (Cursor.nextResult c).cursor) (caller : Caller) (c : Command)
    (wanted got todo : Nat) {cursor : κ} (contexts : Contexts) (h : P cursor) :
    P (others caller c wanted got todo cursor contexts).cursor := by
  induction todo generalizing got cursor contexts with
  | zero => exact h
  | succ n ih =>
    refine andThen_keeps (advance_keeps hresult c wanted got contexts h) ?_
    intro _ cursor contexts h
    refine andThen_keeps (set_keeps hrow caller c contexts h) ?_
    intro rows cursor contexts h
    exact ih (got + 1) contexts h

/-- What fetching a row and moving to the next result set keep, reading result sets keeps. -/
theorem sets_keeps (hrow : ∀ c, P c → P (Cursor.nextRow c).cursor)
    (hresult : ∀ c, P c → P (Cursor.nextResult c).cursor) (caller : Caller) (c : Command)
    (wanted : Nat) {cursor : κ} (contexts : Contexts) (h : P cursor) :
    P (sets caller c wanted cursor contexts).cursor := by
  cases wanted with
  | zero => exact h
  | succ n =>
    refine andThen_keeps (set_keeps hrow caller c contexts h) ?_
    intro rows cursor contexts h
    exact others_keeps hrow hresult caller c (n + 1) 1 n contexts h

end Reading

/-! ## Single readers -/

namespace Reader

def isHybrid : Reader κ → Bool
  | .plain _ => false
  | .hybrid _ => true

/-- If the rows come from memory, the cursor that they came from is closed. -/
def HasLetGo (r : Reader κ) : Prop :=
  ∀ source rows, r = .hybrid (.buffered source rows) → Cursor.isClosed source = true

/-- A reader that can move into memory, and has let go of its cursor if it has moved there. -/
structure Tame (r : Reader κ) : Prop where
  hybrid : r.isHybrid = true
  released : r.HasLetGo

theorem hasLetGo_plain (c : κ) : (Reader.plain c).HasLetGo := nofun

theorem tame_streaming (c : κ) : (Reader.hybrid (.streaming c)).Tame := ⟨rfl, nofun⟩

theorem tame_buffered {source : κ} (rows : Buffered) (h : Cursor.isClosed source = true) :
    (Reader.hybrid (.buffered source rows)).Tame := by
  refine ⟨rfl, fun source' rows' heq => ?_⟩
  cases heq
  exact h

/-- A tame reader has stayed one, and has not opened a cursor. -/
def Calm (r r' : Reader κ) : Prop :=
  r.Tame → r'.Tame ∧ (r'.holdsCursor = true → r.holdsCursor = true)

theorem Calm.refl (r : Reader κ) : r.Calm r := fun h => ⟨h, id⟩

theorem Calm.trans {r r' r'' : Reader κ} (h : r.Calm r') (h' : r'.Calm r'') : r.Calm r'' := by
  intro hr
  obtain ⟨hr', hopen⟩ := h hr
  obtain ⟨hr'', hopen'⟩ := h' hr'
  exact ⟨hr'', hopen ∘ hopen'⟩

/-- What happens to the rows in memory does not touch the cursor. -/
theorem calm_buffered (source : κ) (rows rows' : Buffered) :
    (Reader.hybrid (.buffered source rows)).Calm (.hybrid (.buffered source rows')) :=
  fun h => ⟨tame_buffered rows' (h.released source rows rfl), id⟩

theorem holdsCursor_of_isClosed {c : κ} (h : Cursor.isClosed c = true) :
    (Reader.hybrid (.streaming c)).holdsCursor = false := congrArg (!·) h

/-- What happens to a streaming reader leaves a closed cursor closed. -/
theorem calm_streaming {c c' : κ} (h : Cursor.isClosed c = true → Cursor.isClosed c' = true) :
    (Reader.hybrid (.streaming c)).Calm (.hybrid (.streaming c')) := by
  refine fun _ => ⟨tame_streaming c', fun hopen => ?_⟩
  cases hc : Cursor.isClosed c with
  | false => exact congrArg (!·) hc
  | true =>
    rw [holdsCursor_of_isClosed (h hc)] at hopen
    cases hopen

theorem not_holdsCursor_of_isClosed {r : Reader κ} (hgone : r.HasLetGo) (h : r.isClosed = true) :
    r.holdsCursor = false := by
  match r with
  | .plain c => exact congrArg (!·) h
  | .hybrid (.streaming c) => exact congrArg (!·) h
  | .hybrid (.buffered source rows) => exact congrArg (!·) (hgone source rows rfl)

variable (hκ : Cursor.Releases κ)
include hκ

theorem not_holdsCursor_close {r : Reader κ} (hgone : r.HasLetGo) :
    r.close.holdsCursor = false := by
  match r with
  | .plain c => exact congrArg (!·) (hκ.close c)
  | .hybrid (.streaming c) => exact congrArg (!·) (hκ.close c)
  | .hybrid (.buffered source rows) => exact congrArg (!·) (hgone source rows rfl)

theorem calm_close (r : Reader κ) : r.Calm r.close := by
  match r with
  | .plain c => exact fun h => nomatch h.hybrid
  | .hybrid (.streaming c) => exact calm_streaming fun _ => hκ.close c
  | .hybrid (.buffered source rows) => exact calm_buffered source rows rows.close

theorem calm_nextRow (r : Reader κ) : r.Calm r.nextRow.cursor := by
  match r with
  | .plain c => exact fun h => nomatch h.hybrid
  | .hybrid (.streaming c) => exact calm_streaming (hκ.nextRow c)
  | .hybrid (.buffered source rows) => exact calm_buffered source rows _

theorem calm_nextResult (r : Reader κ) : r.Calm r.nextResult.cursor := by
  match r with
  | .plain c => exact fun h => nomatch h.hybrid
  | .hybrid (.streaming c) => exact calm_streaming (hκ.nextResult c)
  | .hybrid (.buffered source rows) => exact calm_buffered source rows _

/-- The cursor of a tame reader is closed once the reader was told to move into memory, whether or
not it could. -/
theorem released_readIntoMemory {r : Reader κ} (hr : r.Tame) :
    r.readIntoMemory.cursor.Tame ∧ r.readIntoMemory.cursor.holdsCursor = false := by
  match r with
  | .plain c => cases hr.hybrid
  | .hybrid (.buffered source rows) =>
    exact ⟨hr, congrArg (!·) (hr.released source rows rfl)⟩
  | .hybrid (.streaming c) =>
    have hclosed := hκ.close (Cursor.drain c).cursor
    simp only [readIntoMemory, Hybrid.readIntoMemory]
    split
    · exact ⟨tame_streaming c, holdsCursor_of_isClosed ‹_›⟩
    · split
      · exact ⟨tame_buffered _ hclosed, congrArg (!·) hclosed⟩
      · exact ⟨tame_streaming _, holdsCursor_of_isClosed hclosed⟩

theorem calm_readIntoMemory (r : Reader κ) : r.Calm r.readIntoMemory.cursor := by
  intro hr
  obtain ⟨hr', hreleased⟩ := released_readIntoMemory hκ hr
  refine ⟨hr', fun h => ?_⟩
  rw [hreleased] at h
  cases h

end Reader

end OneConnection
