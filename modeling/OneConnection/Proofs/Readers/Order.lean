import OneConnection.Proofs.Readers.Release

/-!
# The order of the readers

Handles have identities and places of their own. On a driver that keeps only one cursor open, every
handle belongs to a tame reader, and every open cursor is tracked or about to be handed out.
-/

namespace OneConnection

variable {κ : Type} [Cursor κ]

/-- The registry and the readers agree with each other. `all` are the handles that were ever handed
out, and `out` is the cursor that the driver has opened for a call that is on its way. `strict` asks
for what a driver needs that keeps only one cursor open. -/
structure Orderly (strict : Bool) (all : List Handle) (out : Option (Nat × κ)) (reg : Registry)
    (rs : Readers κ) : Prop where
  keeps : strict = true → reg.keepsSeveral = false
  tracks : strict = true → reg.tracking = true
  tracked : ∀ h ∈ reg.tracked, h ∈ all
  issued : ∀ h ∈ all, h.id.number ≤ reg.issued
  unique : ∀ h ∈ all, ∀ h' ∈ all, h.id = h'.id → h = h'
  placed : ∀ h ∈ all, h.place < rs.entries.length
  apart : ∀ p c, out = some (p, c) → rs.get? p = some (.plain c) ∧ ¬ places all p
  tame : strict = true → rs.Tame (places all)
  opened : strict = true → ∀ p r, rs.get? p = some r → r.holdsCursor = true →
    places reg.tracked p ∨ ∃ c, out = some (p, c)

namespace Orderly

variable {strict : Bool} {all : List Handle} {out : Option (Nat × κ)} {reg : Registry}
  {rs rs' : Readers κ}

theorem create (s : Settings) (c : Capabilities)
    (hc : strict = true → c.multipleOpenReaders = false) :
    Orderly strict [] (none : Option (Nat × κ)) (.create s c) {} where
  keeps := hc
  tracks h := by simp [Registry.create, hc h]
  tracked _ h := h
  issued _ h := nomatch h
  unique _ h := nomatch h
  placed _ h := nomatch h
  apart _ _ h := nomatch h
  tame _ _ _ _ h := nomatch h
  opened _ _ _ h := nomatch h

/-- What is done to the readers of handles keeps the order. -/
theorem settles (h : Orderly strict all out reg rs) (hs : rs.Settles strict (places all) rs') :
    Orderly strict all out reg rs' where
  keeps := h.keeps
  tracks := h.tracks
  tracked := h.tracked
  issued := h.issued
  unique := h.unique
  placed x hx := by
    rw [hs.length]
    exact h.placed x hx
  apart p c ho := by
    obtain ⟨hr, hp⟩ := h.apart p c ho
    exact ⟨(hs.elsewhere p hp).trans hr, hp⟩
  tame hm := hs.tame hm (h.tame hm)
  opened hm p r' hr' ho := by
    by_cases hp : places all p
    · obtain ⟨r, hr, hcalm⟩ := hs.before hm hr'
      exact h.opened hm p r hr ((hcalm (h.tame hm p r hp hr)).2 ho)
    · rw [hs.elsewhere p hp] at hr'
      exact h.opened hm p r' hr' ho

theorem settles_place (h : Orderly strict all out reg rs) {x : Handle} (hx : x ∈ all)
    (hs : rs.Settles strict (· = x.place) rs') : Orderly strict all out reg rs' :=
  h.settles (hs.mono fun _ hp => ⟨x, hx, hp.symm⟩)

theorem places_tracked (h : Orderly strict all out reg rs) {p : Nat} (hp : places reg.tracked p) :
    places all p := by
  obtain ⟨x, hx, rfl⟩ := hp
  exact ⟨x, h.tracked x hx, rfl⟩

theorem tame_tracked (h : Orderly strict all out reg rs) (hm : strict = true) :
    rs.Tame (places reg.tracked) :=
  fun p r hp => h.tame hm p r (h.places_tracked hp)

/-! ## Handing out -/

theorem add (h : Orderly strict all none reg rs) (c : κ) :
    Orderly strict all (some ((rs.add c).1, c)) reg (rs.add c).2 where
  keeps := h.keeps
  tracks := h.tracks
  tracked := h.tracked
  issued := h.issued
  unique := h.unique
  placed x hx := by
    have := h.placed x hx
    simp only [Readers.add, List.length_append]
    omega
  apart p c' ho := by
    cases ho
    refine ⟨by rw [Readers.get?_add, if_pos rfl], ?_⟩
    rintro ⟨x, hx, hp⟩
    exact absurd (h.placed x hx) (by simp [hp, Readers.add])
  tame hm p r hp hr := by
    obtain ⟨x, hx, rfl⟩ := hp
    rw [Readers.get?_add] at hr
    have hne : x.place ≠ (rs.add c).1 := Nat.ne_of_lt (h.placed x hx)
    rw [if_neg hne] at hr
    exact h.tame hm _ r ⟨x, hx, rfl⟩ hr
  opened hm p r hr ho := by
    rw [Readers.get?_add] at hr
    split at hr
    · subst p
      exact .inr ⟨c, rfl⟩
    · rcases h.opened hm p r hr ho with htracked | ⟨c', hc'⟩
      · exact .inl htracked
      · cases hc'

omit [Cursor κ] in
theorem length_register (p : Nat) (reg : Registry) (rs : Readers κ) :
    (reg.register p rs).2.2.entries.length = rs.entries.length := by
  simp only [Registry.register]
  split
  · rfl
  · exact List.length_modify ..

/-- A handle with a new identity is told apart from all others. -/
theorem unique_concat {new : Handle} (hunique : ∀ x ∈ all, ∀ y ∈ all, x.id = y.id → x = y)
    (hnew : ∀ x ∈ all, x.id ≠ new.id) :
    ∀ x ∈ all ++ [new], ∀ y ∈ all ++ [new], x.id = y.id → x = y := by
  intro x hx y hy hid
  rcases List.mem_append.mp hx with hx | hx <;> rcases List.mem_append.mp hy with hy | hy
  · exact hunique x hx y hy hid
  · rw [List.mem_singleton.mp hy] at hid
    exact absurd hid (hnew x hx)
  · rw [List.mem_singleton.mp hx] at hid
    exact absurd hid.symm (hnew y hy)
  · rw [List.mem_singleton.mp hx, List.mem_singleton.mp hy]

theorem tame_register {p : Nat} {c : κ} (h : Orderly strict all (some (p, c)) reg rs)
    (hm : strict = true) :
    (reg.register p rs).2.2.Tame (places (all ++ [(reg.register p rs).1])) := by
  obtain ⟨hp, hfree⟩ := h.apart p c rfl
  rintro _ r ⟨x, hx, rfl⟩ hr
  simp only [Registry.register, h.keeps, hm, Bool.false_eq_true, if_false,
    Readers.get?_update] at hr
  rcases List.mem_append.mp hx with hx | hx
  · rw [if_neg fun he => hfree ⟨x, hx, he.symm⟩] at hr
    exact h.tame hm _ r ⟨x, hx, rfl⟩ hr
  · have hplace : (reg.register p rs).1.place = p := rfl
    rw [List.mem_singleton.mp hx, hplace, if_pos rfl, hp] at hr
    cases hr
    exact Reader.tame_streaming c

theorem opened_register {p : Nat} {c : κ} (h : Orderly strict all (some (p, c)) reg rs)
    (hm : strict = true) {q : Nat} {r : Reader κ} (hr : (reg.register p rs).2.2.get? q = some r)
    (ho : r.holdsCursor = true) : places (reg.register p rs).2.1.tracked q := by
  simp only [Registry.register, h.keeps, hm, h.tracks hm, Bool.false_eq_true, if_false,
    if_true, Readers.get?_update] at hr ⊢
  by_cases hq : p = q
  · exact ⟨_, List.mem_append_right _ (List.mem_singleton_self _), hq⟩
  · rw [if_neg hq] at hr
    rcases h.opened hm q r hr ho with ⟨x, hx, hxq⟩ | ⟨c', hc⟩
    · exact ⟨x, List.mem_append_left _ hx, hxq⟩
    · cases hc
      exact absurd rfl hq

theorem register {p : Nat} {c : κ} (h : Orderly strict all (some (p, c)) reg rs) :
    Orderly strict (all ++ [(reg.register p rs).1]) none (reg.register p rs).2.1
      (reg.register p rs).2.2 where
  keeps := h.keeps
  tracks := h.tracks
  tracked x hx := by
    simp only [Registry.register] at hx ⊢
    split at hx
    · rcases List.mem_append.mp hx with hx | hx
      · exact List.mem_append_left _ (h.tracked x hx)
      · exact List.mem_append_right _ hx
    · exact List.mem_append_left _ (h.tracked x hx)
  issued x hx := by
    rcases List.mem_append.mp hx with hx | hx
    · exact Nat.le_succ_of_le (h.issued x hx)
    · rw [List.mem_singleton.mp hx]
      exact Nat.le_refl _
  unique := by
    refine unique_concat h.unique fun x hx hid => ?_
    have hissued := h.issued x hx
    rw [hid] at hissued
    exact absurd hissued (Nat.not_succ_le_self _)
  placed x hx := by
    rw [length_register]
    rcases List.mem_append.mp hx with hx | hx
    · exact h.placed x hx
    · obtain ⟨hp, -⟩ := h.apart p c rfl
      rw [List.mem_singleton.mp hx]
      exact (List.getElem?_eq_some_iff.mp hp).1
  apart _ _ ho := nomatch ho
  tame hm := h.tame_register hm
  opened hm _ _ hr ho := .inl (h.opened_register hm hr ho)

/-! ## Taking back -/

/-- Handles may be forgotten when their cursors are not open. -/
theorem forget (h : Orderly strict all out reg rs) (kept : List Handle)
    (hkept : ∀ x ∈ kept, x ∈ reg.tracked)
    (hshut : ∀ x ∈ reg.tracked, x ∉ kept → strict = true → rs.Shut (· = x.place)) :
    Orderly strict all out { reg with tracked := kept } rs where
  keeps := h.keeps
  tracks := h.tracks
  tracked x hx := h.tracked x (hkept x hx)
  issued := h.issued
  unique := h.unique
  placed := h.placed
  apart := h.apart
  tame := h.tame
  opened hm p r hr ho := by
    refine (h.opened hm p r hr ho).imp_left ?_
    rintro ⟨x, hx, rfl⟩
    by_cases hk : x ∈ kept
    · exact ⟨x, hk, rfl⟩
    · rw [hshut x hx hk hm _ r rfl hr] at ho
      cases ho

variable (hκ : strict = true → Cursor.Releases κ)
include hκ

/-- The cursor of a call that nobody waits for any more is closed. -/
theorem discard {p : Nat} {c : κ} (h : Orderly strict all (some (p, c)) reg rs) :
    Orderly strict all none reg (Registry.closeOpen p rs) := by
  have hs := Registry.settles_closeOpen hκ p rs
  refine
    { keeps := h.keeps
      tracks := h.tracks
      tracked := h.tracked
      issued := h.issued
      unique := h.unique
      placed := fun x hx => hs.length ▸ h.placed x hx
      apart := nofun
      tame := fun hm => hs.tame hm (h.tame hm)
      opened := ?_ }
  intro hm q r hr ho
  by_cases hq : q = p
  · have hgone : ∀ r, rs.get? p = some r → r.HasLetGo := by
      rw [(h.apart p c rfl).1]
      rintro _ ⟨⟩
      exact Reader.hasLetGo_plain c
    rw [Registry.shut_closeOpen (hκ hm) p rs hgone q r hq hr] at ho
    cases ho
  · rw [hs.elsewhere q hq] at hr
    rcases h.opened hm q r hr ho with ht | ⟨c', hc⟩
    · exact .inl ht
    · cases hc
      exact absurd rfl hq

theorem closeOpen (h : Orderly strict all out reg rs) {x : Handle} (hx : x ∈ all) :
    Orderly strict all out reg (Registry.closeOpen x.place rs) :=
  h.settles_place hx (Registry.settles_closeOpen hκ x.place rs)

theorem closeAndRemove (h : Orderly strict all out reg rs) {x : Handle} (hx : x ∈ all) :
    Orderly strict all out (reg.closeAndRemove x rs).1 (reg.closeAndRemove x rs).2 := by
  refine (h.closeOpen hκ hx).forget _ ?_ ?_
  · intro y hy
    exact (List.mem_filter.mp hy).1
  · intro y hy hk hm
    have hid : y.id = x.id := by
      refine Decidable.byContradiction fun hne => hk (List.mem_filter.mpr ⟨hy, ?_⟩)
      exact decide_eq_true hne
    rw [h.unique y (h.tracked y hy) x hx hid]
    refine Registry.shut_closeOpen (hκ hm) x.place rs fun r hr => ?_
    exact (h.tame hm _ r ⟨x, hx, rfl⟩ hr).released

theorem closeAll (h : Orderly strict all out reg rs) :
    Orderly strict all out (reg.closeAll rs).2.1 (reg.closeAll rs).2.2 := by
  have hs := (Registry.settles_closeAll hκ reg.tracked rs).mono fun _ => h.places_tracked
  refine (h.settles hs).forget [] nofun ?_
  rintro x hx - hm p r rfl
  exact Registry.shut_closeAll (hκ hm) reg.tracked rs (h.tame_tracked hm) _ r ⟨x, hx, rfl⟩

theorem checkReaders (h : Orderly strict all out reg rs) :
    Orderly strict all out reg (reg.checkReaders rs).readers := by
  unfold Registry.checkReaders
  split
  · exact h
  · exact h.settles ((Registry.settles_release hκ reg.tracked rs).mono fun _ => h.places_tracked)

/-- Before a call no cursor is open, if the driver keeps only one. -/
theorem openCursors_checkReaders (h : Orderly strict all none reg rs) (hm : strict = true) :
    (reg.checkReaders rs).readers.openCursors = 0 := by
  have hshut := Registry.shut_release (hκ hm) reg.tracked rs (h.tame_tracked hm)
  have hc := h.checkReaders hκ
  simp only [Registry.checkReaders, h.keeps, hm, Bool.false_eq_true, if_false] at hc ⊢
  unfold Readers.openCursors
  rw [List.countP_eq_zero]
  intro r hr ho
  obtain ⟨p, hp⟩ := List.mem_iff_getElem?.mp hr
  -- A cursor that is still open is that of a tracked handle, and these are released.
  rcases hc.opened rfl p r hp ho with ht | ⟨c, hn⟩
  · rw [hshut p r ht hp] at ho
    cases ho
  · cases hn

end Orderly

end OneConnection
