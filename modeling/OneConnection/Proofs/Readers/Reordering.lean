import Mathlib.Data.List.Basic
import OneConnection.Proofs.Readers.Release

/-!
# The order of tracked readers

A registry tracks its readers in no order. Its identities are listed in the order in which the
readers were opened, and its readers are closed and released alike whichever comes first: only the
failures and the cancellations on the way come in another order.
-/

namespace OneConnection

variable {κ : Type} [Cursor κ]

/-- An operation that changes the reader at one place, as it finds this reader, and no other. -/
structure Readers.At (p : Nat) (f : Readers κ → Readers κ) : Prop where
  elsewhere : ∀ rs q, q ≠ p → (f rs).get? q = rs.get? q
  here : ∀ rs rs', rs.get? p = rs'.get? p → (f rs).get? p = (f rs').get? p

omit [Cursor κ] in
theorem Readers.At.comm {p q : Nat} {f g : Readers κ → Readers κ} (hf : At p f) (hg : At q g)
    (h : p ≠ q) (rs : Readers κ) : f (g rs) = g (f rs) := by
  apply ext_get?
  intro x
  by_cases hp : x = p
  · subst x
    rw [hg.elsewhere _ p h, hf.here _ _ (hg.elsewhere rs p h)]
  · rw [hf.elsewhere _ x hp]
    by_cases hq : x = q
    · subst x
      rw [hg.here _ _ (hf.elsewhere rs q hp)]
    · rw [hg.elsewhere _ x hq, hg.elsewhere _ x hq, hf.elsewhere _ x hp]

namespace Registry

/-! ## Identities -/

theorem pairwise_number_ids (reg : Registry) :
    reg.ids.Pairwise fun a b => a.number ≤ b.number := by
  refine (List.pairwise_mergeSort ?_ ?_ reg.keys).imp of_decide_eq_true
  · intro a b c hab hbc
    exact decide_eq_true (Nat.le_trans (of_decide_eq_true hab) (of_decide_eq_true hbc))
  · intro a b
    simpa using Nat.le_total a.number b.number

/-- No identity is listed twice if no two readers share one. -/
theorem pairwise_ids (reg : Registry) (h : (reg.keys.map (·.number)).Nodup) :
    (reg.ids.map (·.number)).Pairwise (· < ·) := by
  have hnodup : (reg.ids.map (·.number)).Nodup :=
    ((List.mergeSort_perm reg.keys _).map _).nodup_iff.mpr h
  have hle : (reg.ids.map (·.number)).Pairwise (· ≤ ·) :=
    List.pairwise_map.mpr reg.pairwise_number_ids
  exact (hle.and hnodup).imp fun h => Nat.lt_of_le_of_ne h.1 h.2

theorem ids_perm {reg reg' : Registry} (h : reg.tracked.Perm reg'.tracked) : reg.ids = reg'.ids := by
  have hperm : reg.ids.Perm reg'.ids :=
    (List.mergeSort_perm ..).trans ((h.map _).trans (List.mergeSort_perm ..).symm)
  refine hperm.eq_of_pairwise ?_ reg.pairwise_number_ids reg'.pairwise_number_ids
  rintro ⟨a⟩ ⟨b⟩ - - hab hba
  exact congrArg ReaderId.mk (Nat.le_antisymm hab hba)

/-! ## Closing -/

theorem closeOpen_at (p : Nat) : Readers.At p (closeOpen p : Readers κ → Readers κ) where
  elsewhere _ _ h := Readers.get?_closeOpen h
  here rs rs' hsame := by
    simp only [closeOpen, Readers.isClosed_congr hsame]
    split
    · exact hsame
    · simp only [Readers.close, Readers.get?_update, hsame]

theorem closeOpen_comm (p q : Nat) (rs : Readers κ) :
    closeOpen p (closeOpen q rs) = closeOpen q (closeOpen p rs) := by
  by_cases h : p = q
  · rw [h]
  · exact (closeOpen_at p).comm (closeOpen_at q) h rs

theorem foldl_closeOpen_perm {handles handles' : List Handle} (h : handles.Perm handles')
    (rs : Readers κ) :
    handles.foldl (fun rs h => closeOpen h.place rs) rs =
      handles'.foldl (fun rs h => closeOpen h.place rs) rs :=
  h.foldl_eq' (fun x _ y _ rs => closeOpen_comm y.place x.place rs) rs

/-! ## Releasing -/

/-- The same is released, with what went wrong and what was cancelled in another order. -/
structure Release.Reorders (r r' : Release κ) : Prop where
  readers : r.readers = r'.readers
  count : r.count = r'.count
  failures : r.failures.Perm r'.failures
  cancels : r.cancels.Perm r'.cancels

/-- What two releases come to, one after the other. -/
def Release.andThen (r r' : Release κ) : Release κ where
  readers := r'.readers
  count := r.count + r'.count
  failures := r.failures ++ r'.failures
  cancels := r.cancels ++ r'.cancels

omit [Cursor κ] in
theorem Release.andThen_assoc (r r' r'' : Release κ) :
    (r.andThen r').andThen r'' = r.andThen (r'.andThen r'') := by
  simp [andThen, Nat.add_assoc]

namespace Release.Reorders

omit [Cursor κ]

variable {r r' r'' x x' : Release κ}

theorem refl (r : Release κ) : r.Reorders r := ⟨rfl, rfl, .refl _, .refl _⟩

theorem trans (h : r.Reorders r') (h' : r'.Reorders r'') : r.Reorders r'' :=
  ⟨h.readers.trans h'.readers, h.count.trans h'.count, h.failures.trans h'.failures,
    h.cancels.trans h'.cancels⟩

theorem andThen (h : r.Reorders r') (hx : x.Reorders x') :
    (r.andThen x).Reorders (r'.andThen x') where
  readers := hx.readers
  count := congrArg₂ (· + ·) h.count hx.count
  failures := h.failures.append hx.failures
  cancels := h.cancels.append hx.cancels

end Release.Reorders

theorem release_cons (h : Handle) (rest : List Handle) (rs : Readers κ) :
    release (h :: rest) rs =
      (release [h] rs).andThen (release rest (release [h] rs).readers) := by
  simp only [release, Release.andThen]
  split
  · simp
  · simp [Nat.add_comm]

/-- The release of a reader depends on nothing but this reader. -/
theorem release_congr {h : Handle} {rs rs' : Readers κ}
    (hsame : rs.get? h.place = rs'.get? h.place) :
    (release [h] rs).readers.get? h.place = (release [h] rs').readers.get? h.place ∧
      (release [h] rs).count = (release [h] rs').count ∧
      (release [h] rs).failures = (release [h] rs').failures ∧
      (release [h] rs).cancels = (release [h] rs').cancels := by
  have hresult : (rs.fetch h.place Reader.readIntoMemory).result =
      (rs'.fetch h.place Reader.readIntoMemory).result := by
    simp only [Readers.fetch, hsame]
    split <;> rfl
  have hcancels : (rs.fetch h.place Reader.readIntoMemory).cancels =
      (rs'.fetch h.place Reader.readIntoMemory).cancels := by
    simp only [Readers.fetch, hsame]
    split <;> rfl
  simp only [release, Readers.isClosed_congr hsame, hresult, hcancels]
  split
  · exact ⟨hsame, rfl, rfl, rfl⟩
  · refine ⟨?_, rfl, rfl, rfl⟩
    split <;> simp only [Readers.close, Readers.cursor_fetch, Readers.get?_update, hsame]

theorem release_at (h : Handle) :
    Readers.At h.place fun rs : Readers κ => (release [h] rs).readers where
  elsewhere rs p hne := by
    refine Readers.get?_release ?_
    rintro ⟨x, hx, rfl⟩
    rw [List.mem_singleton.mp hx] at hne
    exact hne rfl
  here _ _ hsame := (release_congr hsame).1

theorem release_swap {h x : Handle} (hne : h.place ≠ x.place) (rs : Readers κ) :
    ((release [h] rs).andThen (release [x] (release [h] rs).readers)).Reorders
      ((release [x] rs).andThen (release [h] (release [x] rs).readers)) := by
  obtain ⟨-, hcount, hfailures, hcancels⟩ :=
    release_congr ((release_at x).elsewhere rs h.place hne)
  obtain ⟨-, xcount, xfailures, xcancels⟩ :=
    release_congr ((release_at h).elsewhere rs x.place hne.symm)
  refine ⟨(release_at x).comm (release_at h) hne.symm rs, ?_, ?_, ?_⟩
  · simp only [Release.andThen, hcount, xcount, Nat.add_comm]
  · simp only [Release.andThen, hfailures, xfailures]
    exact List.perm_append_comm
  · simp only [Release.andThen, hcancels, xcancels]
    exact List.perm_append_comm

theorem release_perm {handles handles' : List Handle} (h : handles.Perm handles')
    (hdistinct : (handles.map (·.place)).Nodup) (rs : Readers κ) :
    (release handles rs).Reorders (release handles' rs) := by
  induction h generalizing rs with
  | nil => exact .refl _
  | @cons x rest rest' h ih =>
    rw [release_cons x rest, release_cons x rest']
    exact .andThen (.refl _) (ih (List.nodup_cons.mp hdistinct).2 _)
  | swap x y rest =>
    have hne : y.place ≠ x.place := by
      intro heq
      exact (List.nodup_cons.mp hdistinct).1 (List.mem_map.mpr ⟨x, List.mem_cons_self, heq.symm⟩)
    have hswap := release_swap hne rs
    have hrest : release rest (release [x] (release [y] rs).readers).readers =
        release rest (release [y] (release [x] rs).readers).readers :=
      congrArg (release rest) hswap.readers
    rw [release_cons y, release_cons x rest, ← Release.andThen_assoc, hrest,
      release_cons x (y :: rest), release_cons y rest, ← Release.andThen_assoc]
    exact hswap.andThen (.refl _)
  | trans h h' ih ih' =>
    exact (ih hdistinct rs).trans (ih' ((h.map _).nodup_iff.mp hdistinct) rs)

/-! ## Registries -/

/-- The same registry, with its readers in another order. -/
structure Reorders (reg reg' : Registry) : Prop where
  tracked : reg.tracked.Perm reg'.tracked
  issued : reg.issued = reg'.issued
  tracking : reg.tracking = reg'.tracking
  keepsSeveral : reg.keepsSeveral = reg'.keepsSeveral

variable {reg reg' : Registry} (h : reg.Reorders reg')
include h

omit [Cursor κ]

theorem Reorders.observed :
    reg.ids = reg'.ids ∧ reg.size = reg'.size ∧ reg.isEmpty = reg'.isEmpty ∧
      ∀ id, reg.contains id = reg'.contains id := by
  refine ⟨ids_perm h.tracked, h.tracked.length_eq, ?_, fun id => ?_⟩
  · exact h.tracked.isEmpty_eq
  · exact (h.tracked.map _).contains_eq

theorem Reorders.register (place : Nat) (rs : Readers κ) :
    (reg.register place rs).1 = (reg'.register place rs).1 ∧
      (reg.register place rs).2.1.Reorders (reg'.register place rs).2.1 ∧
      (reg.register place rs).2.2 = (reg'.register place rs).2.2 := by
  unfold Registry.register
  rw [h.issued, h.tracking, h.keepsSeveral]
  refine ⟨rfl, ⟨?_, rfl, rfl, rfl⟩, rfl⟩
  dsimp only
  split
  · exact h.tracked.append_right _
  · exact h.tracked

variable [Cursor κ]

theorem Reorders.closeAndRemove (x : Handle) (rs : Readers κ) :
    (reg.closeAndRemove x rs).1.Reorders (reg'.closeAndRemove x rs).1 ∧
      (reg.closeAndRemove x rs).2 = (reg'.closeAndRemove x rs).2 :=
  ⟨⟨h.tracked.filter _, h.issued, h.tracking, h.keepsSeveral⟩, rfl⟩

theorem Reorders.checkReaders (hdistinct : (reg.tracked.map (·.place)).Nodup) (rs : Readers κ) :
    (reg.checkReaders rs).Reorders (reg'.checkReaders rs) := by
  unfold Registry.checkReaders
  rw [h.keepsSeveral]
  split
  · exact .refl _
  · exact release_perm h.tracked hdistinct rs

theorem Reorders.closeAll (rs : Readers κ) :
    (reg.closeAll rs).1 = (reg'.closeAll rs).1 ∧
      (reg.closeAll rs).2.1.Reorders (reg'.closeAll rs).2.1 ∧
      (reg.closeAll rs).2.2 = (reg'.closeAll rs).2.2 := by
  refine ⟨?_, ⟨.refl _, h.issued, h.tracking, h.keepsSeveral⟩, foldl_closeOpen_perm h.tracked rs⟩
  exact h.tracked.countP_eq _

end Registry

end OneConnection
