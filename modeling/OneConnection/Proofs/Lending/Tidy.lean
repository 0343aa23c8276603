import Mathlib.Data.List.Nodup
import OneConnection.Proofs.Discipline.Sound

/-!
# Tidy connections

Every reader that is open belongs to somebody, and the registry tracks exactly the readers that were
lent to callers. What was opened for one call is not kept after it.
-/

namespace OneConnection

variable {δ κ : Type} [Cursor κ]

/-! ## Closed readers -/

theorem Reader.isClosed_close (hκ : ∀ c : κ, Cursor.isClosed (Cursor.close c) = true)
    (r : Reader κ) : r.close.isClosed = true := by
  match r with
  | .plain c => exact hκ c
  | .hybrid (.streaming c) => exact hκ c
  | .hybrid (.buffered c b) => rfl

namespace Readers

variable {rs : Readers κ} {p : Nat} (hκ : ∀ c : κ, Cursor.isClosed (Cursor.close c) = true)
include hκ

theorem isClosed_closeOpen (p : Nat) (rs : Readers κ) :
    (Registry.closeOpen p rs).isClosed p = true := by
  unfold Registry.closeOpen
  split
  · assumption
  · unfold isClosed close
    rw [get?_update, if_pos rfl]
    cases rs.get? p with
    | none => rfl
    | some r => exact Reader.isClosed_close hκ r

/-- Closing the others does not open a reader again. -/
theorem isClosed_closeAll {handles : List Handle} (h : rs.isClosed p = true ∨ places handles p) :
    (handles.foldl (fun rs h => Registry.closeOpen h.place rs) rs).isClosed p = true := by
  induction handles generalizing rs with
  | nil =>
    rcases h with h | ⟨x, hx, -⟩
    · exact h
    · cases hx
  | cons x rest ih =>
    apply ih
    by_cases hp : p = x.place
    · rw [hp]
      exact .inl (isClosed_closeOpen hκ _ rs)
    · rcases h with h | ⟨y, hy, rfl⟩
      · rw [isClosed_congr (get?_closeOpen hp)]
        exact .inl h
      · rcases List.mem_cons.mp hy with rfl | hy
        · exact absurd rfl hp
        · exact .inr ⟨y, hy, rfl⟩

end Readers

/-! ## Custody -/

/-- Who answers for the readers of a connection. -/
structure Custody where
  tracking : Bool
  /-- The readers that callers were given. -/
  given : List Handle
  /-- Those of them that are tracked. -/
  lent : List Handle
  /-- Where readers may be open. -/
  mayOpen : Nat → Prop
  kept : ∀ x ∈ lent, x ∈ given ∧ mayOpen x.place

namespace Custody

/-- Nobody was given a reader yet. -/
def start (tracking : Bool) : Custody where
  tracking := tracking
  given := []
  lent := []
  mayOpen _ := False
  kept := nofun

/-- Callers are given some more readers. -/
def give (c : Custody) (handles : List Handle) : Custody where
  tracking := c.tracking
  given := c.given ++ handles
  lent := if c.tracking then c.lent ++ handles else c.lent
  mayOpen p := c.mayOpen p ∨ places handles p
  kept x hx := by
    have hx : x ∈ c.lent ∨ x ∈ handles := by
      split at hx
      · exact List.mem_append.mp hx
      · exact .inl hx
    rcases hx with hx | hx
    · exact ⟨List.mem_append_left _ (c.kept x hx).1, .inl (c.kept x hx).2⟩
    · exact ⟨List.mem_append_right _ hx, .inr ⟨x, hx, rfl⟩⟩

@[simp] theorem give_nil (c : Custody) : c.give [] = c := by
  have hplaces : ∀ p, places [] p ↔ False := by
    intro p
    simp [places]
  simp [give, hplaces]

/-- Callers give a reader back. -/
def takeBack (c : Custody) (x : Handle) : Custody where
  tracking := c.tracking
  given := c.given
  lent := c.lent.filter (· ≠ x)
  mayOpen := c.mayOpen
  kept y hy := c.kept y (List.mem_of_mem_filter hy)

/-- Others answer for the readers. -/
def transfer (c : Custody) (mayOpen : Nat → Prop) (h : ∀ x ∈ c.lent, mayOpen x.place) :
    Custody where
  tracking := c.tracking
  given := c.given
  lent := c.lent
  mayOpen := mayOpen
  kept x hx := ⟨(c.kept x hx).1, h x hx⟩

/-- No reader is lent any more, and others answer for those that were not. -/
def dispose (c : Custody) (mayOpen : Nat → Prop) : Custody where
  tracking := c.tracking
  given := c.given
  lent := []
  mayOpen := mayOpen
  kept := nofun

end Custody

/-- The registry tracks the readers that are lent, and no reader is open but where it may be, or at
the place `out` of a call that is on its way. -/
structure Tidy (c : Custody) (out : Option Nat) (conn : Connection δ κ) : Prop where
  tracking : conn.registry.tracking = c.tracking
  tracked : conn.registry.tracked = c.lent
  issued : ∀ x ∈ c.given, x.id.number ≤ conn.registry.issued
  distinct : (c.given.map (·.id)).Nodup
  opened : ∀ p, conn.readers.isClosed p = false → c.mayOpen p ∨ out = some p

namespace Tidy

variable {c : Custody} {out out' : Option Nat} {conn conn' : Connection δ κ}

theorem congr (h : Tidy c out conn) (hregistry : conn'.registry = conn.registry)
    (hreaders : conn'.readers = conn.readers) : Tidy c out conn' := by
  obtain ⟨htracking, htracked, hissued, hdistinct, hopened⟩ := h
  refine ⟨?_, ?_, ?_, hdistinct, ?_⟩
  · rw [hregistry]
    exact htracking
  · rw [hregistry]
    exact htracked
  · rw [hregistry]
    exact hissued
  · rw [hreaders]
    exact hopened

theorem create (setup : Setup δ κ) (database : δ) :
    Tidy (.start (Registry.create setup.settings setup.driver.capabilities).tracking) none
      (.create setup database : Connection δ κ) where
  tracking := rfl
  tracked := rfl
  issued := nofun
  distinct := .nil
  opened := nofun

theorem noted : Noted (Tidy (δ := δ) (κ := κ) c out) := fun _ _ _ h => h.congr rfl rfl

theorem transfer {mayOpen : Nat → Prop} (hlent : ∀ x ∈ c.lent, mayOpen x.place)
    (hopened : ∀ p, c.mayOpen p ∨ out = some p → mayOpen p ∨ out' = some p) (h : Tidy c out conn) :
    Tidy (c.transfer mayOpen hlent) out' conn where
  tracking := h.tracking
  tracked := h.tracked
  issued := h.issued
  distinct := h.distinct
  opened p hp := hopened p (h.opened p hp)

/-- What is done to the readers where they may be open. -/
theorem settle {readers : Readers κ} (contexts : Contexts) (h : Tidy c out conn)
    (hs : ∀ p, ¬ (c.mayOpen p ∨ out = some p) → readers.get? p = conn.readers.get? p) :
    Tidy c out { conn with readers, contexts } where
  tracking := h.tracking
  tracked := h.tracked
  issued := h.issued
  distinct := h.distinct
  opened p hp := by
    by_cases hmay : c.mayOpen p ∨ out = some p
    · exact hmay
    · rw [Readers.isClosed_congr (hs p hmay)] at hp
      exact h.opened p hp

theorem fetch {α : Type} {place : Nat} (f : Reader κ → Fetch (Reader κ) α) (h : Tidy c out conn)
    (hplace : c.mayOpen place ∨ out = some place) : Tidy c out (conn.fetch place f).2 := by
  refine h.settle _ fun p hp => ?_
  have hne : place ≠ p := fun heq => hp (heq ▸ hplace)
  show (conn.readers.fetch place f).cursor.get? p = _
  rw [Readers.cursor_fetch, Readers.get?_update, if_neg hne]

theorem checkReaders (h : Tidy c out conn) : Tidy c out conn.checkReaders.2 := by
  refine noted.warnAll (fun (x : ReaderId × Error) => .bufferingFailed x.1 x.2) _ ?_
  have hsettle : ∀ p, ¬ (c.mayOpen p ∨ out = some p) →
      (conn.registry.checkReaders conn.readers).readers.get? p = conn.readers.get? p := by
    intro p hp
    refine Readers.get?_checkReaders ?_
    rintro ⟨x, hx, rfl⟩
    rw [h.tracked] at hx
    exact hp (.inl (c.kept x hx).2)
  exact h.settle _ hsettle

/-! ## Handing out -/

/-- The cursor that a call has opened gets its place. -/
theorem keep (outcome : Outcome κ) (h : Tidy c none conn) :
    Tidy c (Dispatch.keep outcome conn).1.value? (Dispatch.keep outcome conn).2 := by
  cases outcome with
  | error | cancelled | panicked => exact h
  | ok cursor =>
    refine ⟨h.tracking, h.tracked, h.issued, h.distinct, ?_⟩
    intro p hp
    by_cases hnew : p = (conn.readers.add cursor).1
    · exact .inr (congrArg some hnew.symm)
    · have hget : (conn.readers.add cursor).2.get? p = conn.readers.get? p := by
        rw [Readers.get?_add, if_neg hnew]
      have hold : conn.readers.isClosed p = false := (Readers.isClosed_congr hget).symm.trans hp
      exact .inl ((h.opened p hold).resolve_right nofun)

theorem register {place : Nat} (h : Tidy c (some place) conn) :
    Tidy (c.give [(conn.register place).1]) none (conn.register place).2 where
  tracking := h.tracking
  tracked := by
    simp only [Connection.register, Registry.register, Custody.give, h.tracking, h.tracked]
  issued x hx := by
    rcases List.mem_append.mp hx with hx | hx
    · exact Nat.le_succ_of_le (h.issued x hx)
    · rw [List.mem_singleton.mp hx]
      exact Nat.le_refl _
  distinct := by
    simp only [Custody.give, List.map_append, List.map_cons, List.map_nil]
    refine List.nodup_append.mpr ⟨h.distinct, List.nodup_singleton _, ?_⟩
    intro a ha b hb heq
    obtain ⟨x, hx, rfl⟩ := List.mem_map.mp ha
    rw [List.mem_singleton] at hb
    -- The new identity is above all that were issued.
    have hle := h.issued x hx
    rw [heq, hb] at hle
    exact Nat.not_succ_le_self _ hle
  opened p hp := by
    by_cases hplace : p = place
    · exact .inl (.inr ⟨_, List.mem_singleton_self _, hplace.symm⟩)
    · have hget : (conn.register place).2.readers.get? p = conn.readers.get? p := by
        simp only [Connection.register, Registry.register]
        split
        · rfl
        · rw [Readers.get?_update, if_neg (Ne.symm hplace)]
      rw [Readers.isClosed_congr hget] at hp
      rcases h.opened p hp with hmay | heq
      · exact .inl (.inl hmay)
      · exact absurd (Option.some.inj heq).symm hplace

/-! ## Closing -/

theorem id_eq_iff {x y : Handle} (h : Tidy c out conn) (hx : x ∈ c.given) (hy : y ∈ c.lent) :
    y.id = x.id ↔ y = x := by
  constructor
  · exact fun hid => List.inj_on_of_nodup_map h.distinct (c.kept y hy).1 hx hid
  · exact fun heq => congrArg Handle.id heq

theorem untrack {x : Handle} (h : Tidy c out conn) (hx : x ∈ c.given) :
    (conn.registry.untrack x.id).tracked = c.lent.filter (· ≠ x) := by
  simp only [Registry.untrack, h.tracked]
  apply List.filter_congr
  intro y hy
  simp [h.id_eq_iff hx hy]

theorem closeReader {x : Handle} (h : Tidy c out conn) (hx : x ∈ c.given)
    (hplace : c.mayOpen x.place) : Tidy (c.takeBack x) out (conn.closeReader x) := by
  have hsettle : ∀ p, ¬ (c.mayOpen p ∨ out = some p) →
      (Registry.closeOpen x.place conn.readers).get? p = conn.readers.get? p := by
    intro p hp
    refine Readers.get?_closeOpen ?_
    rintro rfl
    exact hp (.inl hplace)
  have hopened := (h.settle conn.contexts hsettle).opened
  exact ⟨h.tracking, h.untrack hx, h.issued, h.distinct, hopened⟩

section

variable (hκ : ∀ c : κ, Cursor.isClosed (Cursor.close c) = true)
include hκ

theorem opened_closeOpen {place : Nat} (h : Tidy c out conn) (p : Nat)
    (hp : (Registry.closeOpen place conn.readers).isClosed p = false) :
    p ≠ place ∧ (c.mayOpen p ∨ out = some p) := by
  have hne : p ≠ place := by
    rintro rfl
    rw [Readers.isClosed_closeOpen hκ] at hp
    cases hp
  rw [Readers.isClosed_congr (Readers.get?_closeOpen hne)] at hp
  exact ⟨hne, h.opened p hp⟩

/-- Nobody has to answer for a cursor that is closed. -/
theorem dropCursor {place : Nat} {mayOpen : Nat → Prop} (hlent : ∀ x ∈ c.lent, mayOpen x.place)
    (hopened : ∀ p, p ≠ place → c.mayOpen p ∨ out = some p → mayOpen p ∨ out' = some p)
    (h : Tidy c out conn) : Tidy (c.transfer mayOpen hlent) out' (conn.dropCursor place) where
  tracking := h.tracking
  tracked := h.tracked
  issued := h.issued
  distinct := h.distinct
  opened p hp := by
    obtain ⟨hne, hmay⟩ := h.opened_closeOpen hκ p hp
    exact hopened p hne hmay

theorem discard {place : Outcome Nat} (h : Tidy c place.value? conn) :
    Tidy c none (Dispatch.discard place conn) := by
  cases place with
  | error | cancelled | panicked => exact h
  | ok place =>
    refine h.dropCursor hκ (fun x hx => (c.kept x hx).2) ?_
    intro p hne hp
    exact .inl (hp.resolve_right fun heq => hne (Option.some.inj heq).symm)

/-- A reader that was just handed out and is closed again has left no trace. -/
theorem returned {x : Handle} (h : Tidy (c.give [x]) none conn) :
    Tidy c none (conn.closeReader x) := by
  have hdistinct := h.distinct
  simp only [Custody.give, List.map_append, List.map_cons, List.map_nil] at hdistinct
  have hnew : x ∉ c.given := by
    intro hx
    have hne := (List.nodup_append.mp hdistinct).2.2 x.id (List.mem_map_of_mem hx) x.id
    exact hne (List.mem_singleton_self _) rfl
  have hlent : c.lent.filter (· ≠ x) = c.lent := by
    rw [List.filter_eq_self]
    intro y hy
    exact decide_eq_true fun heq => hnew (heq ▸ (c.kept y hy).1)
  refine ⟨h.tracking, ?_, ?_, (List.nodup_append.mp hdistinct).1, ?_⟩
  · refine (h.untrack (List.mem_append_right _ (List.mem_singleton_self x))).trans ?_
    simp only [Custody.give]
    split
    · rw [List.filter_append, hlent]
      simp
    · exact hlent
  · intro y hy
    exact h.issued y (List.mem_append_left _ hy)
  · intro p hp
    obtain ⟨hne, hmay⟩ := h.opened_closeOpen hκ p hp
    rcases hmay with (hmay | ⟨y, hy, hplace⟩) | hout
    · exact .inl hmay
    · rw [List.mem_singleton.mp hy] at hplace
      exact absurd hplace.symm hne
    · cases hout

theorem closeAllReaders {mayOpen : Nat → Prop}
    (hopened : ∀ p, ¬ places c.lent p → c.mayOpen p → mayOpen p) (h : Tidy c out conn) :
    Tidy (c.dispose mayOpen) out conn.closeAllReaders.2 where
  tracking := h.tracking
  tracked := rfl
  issued := h.issued
  distinct := h.distinct
  opened p hp := by
    have hclosed : ∀ {p}, conn.readers.isClosed p = true ∨ places conn.registry.tracked p →
        conn.closeAllReaders.2.readers.isClosed p = true := Readers.isClosed_closeAll hκ
    have hopen : conn.readers.isClosed p = false := by
      refine Bool.eq_false_iff.mpr fun h => ?_
      rw [hclosed (.inl h)] at hp
      cases hp
    refine (h.opened p hopen).imp_left (hopened p ?_)
    intro hlent
    rw [← h.tracked] at hlent
    rw [hclosed (.inr hlent)] at hp
    cases hp

end

end Tidy

end OneConnection
