import OneConnection.Proofs.Readers.Calm

/-!
# Releasing readers

What operations do to the readers at some places: tame ones stay calm, and the readers elsewhere
stay as they are. Readers that are closed or released hold no cursor of the driver.
-/

namespace OneConnection

variable {α κ : Type} [Cursor κ]

def places (handles : List Handle) (p : Nat) : Prop := ∃ h ∈ handles, h.place = p

namespace Readers

omit [Cursor κ] in
theorem get?_update (p q : Nat) (f : Reader κ → Reader κ) (rs : Readers κ) :
    (rs.update p f).get? q = if p = q then (rs.get? q).map f else rs.get? q := by
  unfold update get?
  rw [List.getElem?_modify]
  split <;> simp

omit [Cursor κ] in
theorem ext_get? {rs rs' : Readers κ} (h : ∀ p, rs.get? p = rs'.get? p) : rs = rs' := by
  cases rs
  cases rs'
  exact congrArg Readers.mk (List.ext_getElem? h)

omit [Cursor κ] in
/-- Reading from a reader replaces it by what is left of it. -/
theorem cursor_fetch (p : Nat) (f : Reader κ → Fetch (Reader κ) α) (rs : Readers κ) :
    (rs.fetch p f).cursor = rs.update p fun r => (f r).cursor := by
  apply ext_get?
  intro q
  rw [get?_update]
  unfold fetch
  cases hr : rs.get? p with
  | none =>
    by_cases h : p = q
    · subst q
      rw [if_pos rfl, hr]
      rfl
    · rw [if_neg h]
  | some r =>
    obtain ⟨hlt, -⟩ := List.getElem?_eq_some_iff.mp hr
    show (rs.entries.set p _)[q]? = _
    rw [List.getElem?_set]
    by_cases h : p = q
    · subst q
      rw [if_pos rfl, if_pos rfl, if_pos hlt, hr]
      rfl
    · rw [if_neg h, if_neg h]
      rfl

/-! ## Settling -/

/-- Nothing has changed but at some places, where readers have stayed calm if that is asked for. -/
structure Settles (strict : Bool) (S : Nat → Prop) (rs rs' : Readers κ) : Prop where
  length : rs'.entries.length = rs.entries.length
  elsewhere : ∀ p, ¬ S p → rs'.get? p = rs.get? p
  calm : strict = true → ∀ p r r', rs.get? p = some r → rs'.get? p = some r' → r.Calm r'

namespace Settles

variable {strict : Bool} {S T : Nat → Prop} {rs rs' rs'' : Readers κ}

theorem refl (S : Nat → Prop) (rs : Readers κ) : Settles strict S rs rs where
  length := rfl
  elsewhere _ _ := rfl
  calm _ p r r' hr hr' := by
    rw [hr] at hr'
    cases hr'
    exact .refl r

theorem mono (h : Settles strict S rs rs') (hST : ∀ p, S p → T p) : Settles strict T rs rs' where
  length := h.length
  elsewhere p hp := h.elsewhere p fun hs => hp (hST p hs)
  calm := h.calm

theorem trans (h : Settles strict S rs rs') (h' : Settles strict S rs' rs'') :
    Settles strict S rs rs'' where
  length := h'.length.trans h.length
  elsewhere p hp := (h'.elsewhere p hp).trans (h.elsewhere p hp)
  calm hs p r r'' hr hr'' := by
    have hlt : p < rs'.entries.length := by
      rw [h.length]
      exact (List.getElem?_eq_some_iff.mp hr).1
    have hr' : rs'.get? p = some rs'.entries[p] := List.getElem?_eq_getElem hlt
    exact (h.calm hs p r _ hr hr').trans (h'.calm hs p _ r'' hr' hr'')

theorem update (p : Nat) {f : Reader κ → Reader κ}
    (hf : strict = true → ∀ r, rs.get? p = some r → r.Calm (f r)) :
    Settles strict (· = p) rs (rs.update p f) where
  length := List.length_modify ..
  elsewhere q hq := by rw [get?_update, if_neg (Ne.symm hq)]
  calm hs q r r' hr hr' := by
    rw [get?_update] at hr'
    split at hr'
    · subst q
      rw [hr] at hr'
      cases hr'
      exact hf hs r hr
    · rw [hr] at hr'
      cases hr'
      exact .refl r

theorem fetch (p : Nat) {f : Reader κ → Fetch (Reader κ) α}
    (hf : strict = true → ∀ r : Reader κ, r.Calm (f r).cursor) :
    Settles strict (· = p) rs (rs.fetch p f).cursor := by
  rw [cursor_fetch]
  exact update p fun hs r _ => hf hs r

end Settles

def Tame (S : Nat → Prop) (rs : Readers κ) : Prop := ∀ p r, S p → rs.get? p = some r → r.Tame

def Shut (S : Nat → Prop) (rs : Readers κ) : Prop :=
  ∀ p r, S p → rs.get? p = some r → r.holdsCursor = false

variable {strict : Bool} {S T : Nat → Prop} {rs rs' : Readers κ}

theorem Settles.before (h : Settles strict T rs rs') (hm : strict = true) {p : Nat}
    {r' : Reader κ} (hr' : rs'.get? p = some r') :
    ∃ r, rs.get? p = some r ∧ r.Calm r' := by
  have hlt : p < rs.entries.length := by
    rw [← h.length]
    exact (List.getElem?_eq_some_iff.mp hr').1
  have hr : rs.get? p = some rs.entries[p] := List.getElem?_eq_getElem hlt
  exact ⟨_, hr, h.calm hm p _ r' hr hr'⟩

theorem Settles.tame (h : Settles strict T rs rs') (hm : strict = true) (hs : Tame S rs) :
    Tame S rs' := by
  intro p r' hp hr'
  obtain ⟨r, hr, hcalm⟩ := h.before hm hr'
  exact (hcalm (hs p r hp hr)).1

theorem Settles.shut (h : Settles strict T rs rs') (hm : strict = true) (hs : Tame S rs)
    (hshut : Shut S rs) : Shut S rs' := by
  intro p r' hp hr'
  obtain ⟨r, hr, hcalm⟩ := h.before hm hr'
  have hopen := (hcalm (hs p r hp hr)).2
  rw [hshut p r hp hr] at hopen
  exact Bool.eq_false_iff.mpr fun ht => Bool.false_ne_true (hopen ht)

end Readers

namespace Registry

variable {strict : Bool} {rs : Readers κ}

/-! ## Settling handles -/

/-- What becomes of the first of several handles and then of the others becomes of all. -/
theorem settles_cons {h : Handle} {rest : List Handle} {rs rs' rs'' : Readers κ}
    (hfirst : rs.Settles strict (· = h.place) rs') (hrest : rs'.Settles strict (places rest) rs'') :
    rs.Settles strict (places (h :: rest)) rs'' := by
  refine .trans (hfirst.mono ?_) (hrest.mono ?_)
  · rintro p rfl
    exact ⟨h, List.mem_cons_self, rfl⟩
  · rintro p ⟨x, hx, rfl⟩
    exact ⟨x, List.mem_cons_of_mem _ hx, rfl⟩

section

variable (hκ : strict = true → Cursor.Releases κ)
include hκ

theorem settles_closeOpen (p : Nat) (rs : Readers κ) :
    rs.Settles strict (· = p) (closeOpen p rs) := by
  unfold closeOpen
  split
  · exact .refl _ _
  · exact .update p fun hs r _ => Reader.calm_close (hκ hs) r

theorem settles_closeAll (handles : List Handle) (rs : Readers κ) :
    rs.Settles strict (places handles) (handles.foldl (fun rs h => closeOpen h.place rs) rs) := by
  induction handles generalizing rs with
  | nil => exact .refl _ _
  | cons h rest ih => exact settles_cons (settles_closeOpen hκ h.place rs) (ih _)

/-- One reader that is released, whether or not it could be moved into memory. -/
theorem settles_kept (p : Nat) (rs : Readers κ) {kept : Readers κ}
    (hkept : kept = (rs.fetch p Reader.readIntoMemory).cursor ∨
      kept = (rs.fetch p Reader.readIntoMemory).cursor.close p) :
    rs.Settles strict (· = p) kept := by
  have hfetch : rs.Settles strict (· = p) (rs.fetch p Reader.readIntoMemory).cursor :=
    .fetch p fun hs => Reader.calm_readIntoMemory (hκ hs)
  rcases hkept with rfl | rfl
  · exact hfetch
  · exact hfetch.trans (.update p fun hs r _ => Reader.calm_close (hκ hs) r)

theorem settles_release (handles : List Handle) (rs : Readers κ) :
    rs.Settles strict (places handles) (release handles rs).readers := by
  induction handles generalizing rs with
  | nil => exact .refl _ _
  | cons h rest ih =>
    unfold release
    split
    · exact settles_cons (.refl _ rs) (ih rs)
    · refine settles_cons (settles_kept hκ h.place rs ?_) (ih _)
      split <;> simp

end

/-! ## Shutting handles -/

variable (hκ : Cursor.Releases κ)

theorem shut_cons {h : Handle} {rest : List Handle} {rs rs' rs'' : Readers κ}
    (hfirst : rs.Settles true (· = h.place) rs') (hrest : rs'.Settles true (places rest) rs'')
    (hs : rs.Tame (places (h :: rest))) (hshut : rs'.Shut (· = h.place))
    (hshut' : rs''.Shut (places rest)) : rs''.Shut (places (h :: rest)) := by
  rintro p r ⟨x, hx, rfl⟩ hr
  rcases List.mem_cons.mp hx with rfl | hx
  · refine hrest.shut rfl ?_ hshut _ r rfl hr
    refine hfirst.tame rfl fun q r hq => hs q r ?_
    exact ⟨x, List.mem_cons_self, hq.symm⟩
  · exact hshut' _ r ⟨x, hx, rfl⟩ hr

theorem tame_tail {h : Handle} {rest : List Handle} {rs rs' : Readers κ}
    (hfirst : rs.Settles true (· = h.place) rs') (hs : rs.Tame (places (h :: rest))) :
    rs'.Tame (places rest) := by
  refine hfirst.tame rfl ?_
  rintro p r ⟨x, hx, rfl⟩
  exact hs _ r ⟨x, List.mem_cons_of_mem _ hx, rfl⟩

include hκ

theorem shut_closeOpen (p : Nat) (rs : Readers κ)
    (hgone : ∀ r, rs.get? p = some r → r.HasLetGo) : (closeOpen p rs).Shut (· = p) := by
  rintro _ r rfl h
  unfold closeOpen at h
  split at h
  · rename_i hc
    rw [Readers.isClosed, h] at hc
    exact Reader.not_holdsCursor_of_isClosed (hgone r h) hc
  · rw [Readers.close, Readers.get?_update, if_pos rfl] at h
    obtain ⟨r₀, hr₀, rfl⟩ := Option.map_eq_some_iff.mp h
    exact Reader.not_holdsCursor_close hκ (hgone r₀ hr₀)

theorem shut_closeAll (handles : List Handle) (rs : Readers κ) (hs : rs.Tame (places handles)) :
    (handles.foldl (fun rs h => closeOpen h.place rs) rs).Shut (places handles) := by
  induction handles generalizing rs with
  | nil =>
    rintro p r ⟨x, hx, -⟩
    cases hx
  | cons h rest ih =>
    have hfirst : rs.Settles true (· = h.place) (closeOpen h.place rs) :=
      settles_closeOpen (fun _ => hκ) h.place rs
    have hgone : ∀ r, rs.get? h.place = some r → r.HasLetGo :=
      fun r hr => (hs _ r ⟨h, List.mem_cons_self, rfl⟩ hr).released
    exact shut_cons hfirst (settles_closeAll (fun _ => hκ) rest _) hs (shut_closeOpen hκ _ _ hgone)
      (ih _ (tame_tail hfirst hs))

theorem shut_kept (p : Nat) (rs : Readers κ) {kept : Readers κ} (hs : rs.Tame (· = p))
    (hkept : kept = (rs.fetch p Reader.readIntoMemory).cursor ∨
      kept = (rs.fetch p Reader.readIntoMemory).cursor.close p) :
    kept.Shut (· = p) := by
  rintro _ r rfl hr
  rcases hkept with rfl | rfl
  · rw [Readers.cursor_fetch, Readers.get?_update, if_pos rfl] at hr
    obtain ⟨r₀, hr₀, rfl⟩ := Option.map_eq_some_iff.mp hr
    exact (Reader.released_readIntoMemory hκ (hs _ r₀ rfl hr₀)).2
  · rw [Readers.close, Readers.get?_update, if_pos rfl, Readers.cursor_fetch, Readers.get?_update,
      if_pos rfl, Option.map_map] at hr
    obtain ⟨r₀, hr₀, rfl⟩ := Option.map_eq_some_iff.mp hr
    have htame := (Reader.released_readIntoMemory hκ (hs _ r₀ rfl hr₀)).1
    exact Reader.not_holdsCursor_close hκ htame.released

/-- Releasing leaves no cursor open, even if a reader fails on the way. -/
theorem shut_release (handles : List Handle) (rs : Readers κ) (hs : rs.Tame (places handles)) :
    (release handles rs).readers.Shut (places handles) := by
  induction handles generalizing rs with
  | nil =>
    rintro p r ⟨x, hx, -⟩
    cases hx
  | cons h rest ih =>
    unfold release
    split
    · rename_i hc
      have hfirst : rs.Settles true (· = h.place) rs := .refl _ rs
      refine shut_cons hfirst (settles_release (fun _ => hκ) rest rs) hs ?_
        (ih rs (tame_tail hfirst hs))
      rintro _ r rfl hr
      rw [Readers.isClosed, hr] at hc
      have htame := hs h.place r ⟨h, List.mem_cons_self, rfl⟩ hr
      exact Reader.not_holdsCursor_of_isClosed htame.released hc
    · -- A reader that could not be moved is closed instead, and the others come after it.
      have hkept : ∀ kept, kept = (rs.fetch h.place Reader.readIntoMemory).cursor ∨
          kept = (rs.fetch h.place Reader.readIntoMemory).cursor.close h.place →
            (release rest kept).readers.Shut (places (h :: rest)) := by
        intro kept hk
        have hfirst : rs.Settles true (· = h.place) kept :=
          settles_kept (fun _ => hκ) h.place rs hk
        refine shut_cons hfirst (settles_release (fun _ => hκ) rest _) hs
          (shut_kept hκ h.place rs ?_ hk) (ih _ (tame_tail hfirst hs))
        rintro _ r rfl
        exact hs _ r ⟨h, List.mem_cons_self, rfl⟩
      refine hkept _ ?_
      split <;> simp

end Registry

/-! ## Elsewhere -/

namespace Readers

variable {rs rs' : Readers κ} {p q : Nat}

theorem isClosed_congr (h : rs'.get? p = rs.get? p) : rs'.isClosed p = rs.isClosed p := by
  unfold isClosed
  rw [h]

theorem get?_closeOpen (h : p ≠ q) : (Registry.closeOpen q rs).get? p = rs.get? p := by
  have hs : rs.Settles false (· = q) (Registry.closeOpen q rs) := by
    apply Registry.settles_closeOpen
    nofun
  exact hs.elsewhere p h

theorem get?_release {handles : List Handle} (h : ¬ places handles p) :
    (Registry.release handles rs).readers.get? p = rs.get? p := by
  have hs : rs.Settles false (places handles) (Registry.release handles rs).readers := by
    apply Registry.settles_release
    nofun
  exact hs.elsewhere p h

theorem get?_checkReaders {registry : Registry} (h : ¬ places registry.tracked p) :
    (registry.checkReaders rs).readers.get? p = rs.get? p := by
  unfold Registry.checkReaders
  split
  · rfl
  · exact get?_release h

theorem get?_closeAll {registry : Registry} (h : ¬ places registry.tracked p) :
    (registry.closeAll rs).2.2.get? p = rs.get? p := by
  have hs : rs.Settles false (places registry.tracked) (registry.closeAll rs).2.2 := by
    apply Registry.settles_closeAll
    nofun
  exact hs.elsewhere p h

end Readers

end OneConnection
