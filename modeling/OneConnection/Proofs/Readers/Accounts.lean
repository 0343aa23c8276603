import Mathlib.Data.List.Induction
import OneConnection.Proofs.Acts
import OneConnection.Proofs.Discipline.Runs
import OneConnection.Proofs.Readers.Reordering
import OneConnection.Proofs.Readers.Tracking

/-!
# Accounts of a registry

One registry that tracks the readers that it hands out, in any order of operations: which identities
it gives, which readers it tracks, and what its disposal finds and leaves behind.
-/

namespace OneConnection

variable {δ κ : Type} [Cursor κ]

/-! ## Closed readers stay closed -/

/-- A cursor that is closed stays closed, whatever is asked of it. -/
structure Cursor.Final (κ : Type) [Cursor κ] : Prop extends Cursor.Releases κ where
  readIntoMemory : ∀ c : κ, isClosed c = true → isClosed (readIntoMemory c).cursor = true

theorem Buffered.final : Cursor.Final Buffered where
  toReleases := Buffered.releases
  readIntoMemory _ h := h

namespace Reader

variable (hκ : Cursor.Final κ) (r : Reader κ) (h : r.isClosed = true)
include hκ h

theorem isClosed_nextRow : r.nextRow.cursor.isClosed = true := by
  match r with
  | .plain c | .hybrid (.streaming c) => exact hκ.nextRow c h
  | .hybrid (.buffered c b) => exact Buffered.releases.nextRow b h

theorem isClosed_nextResult : r.nextResult.cursor.isClosed = true := by
  match r with
  | .plain c | .hybrid (.streaming c) => exact hκ.nextResult c h
  | .hybrid (.buffered c b) => exact Buffered.releases.nextResult b h

theorem isClosed_readIntoMemory : r.readIntoMemory.cursor.isClosed = true := by
  match r with
  | .plain c => exact hκ.readIntoMemory c h
  | .hybrid (.buffered c b) => exact h
  | .hybrid (.streaming c) =>
    have hc : Cursor.isClosed c = true := h
    simp only [readIntoMemory, Hybrid.readIntoMemory, hc, if_true]
    exact hc

end Reader

namespace Readers

/-- No reader is gone or new, and none that was closed is open. -/
structure Wears (rs rs' : Readers κ) : Prop where
  length : rs'.entries.length = rs.entries.length
  closed : ∀ p, rs.isClosed p = true → rs'.isClosed p = true

namespace Wears

variable {α : Type} {rs rs' rs'' : Readers κ}

theorem refl (rs : Readers κ) : Wears rs rs := ⟨rfl, fun _ h => h⟩

theorem trans (h : Wears rs rs') (h' : Wears rs' rs'') : Wears rs rs'' :=
  ⟨h'.length.trans h.length, fun p hp => h'.closed p (h.closed p hp)⟩

theorem update (p : Nat) {f : Reader κ → Reader κ}
    (hf : ∀ r : Reader κ, r.isClosed = true → (f r).isClosed = true) :
    Wears rs (rs.update p f) where
  length := List.length_modify ..
  closed q hq := by
    by_cases hp : p = q
    · unfold isClosed at hq ⊢
      rw [get?_update, if_pos hp]
      cases hr : rs.get? q with
      | none => rfl
      | some r =>
        rw [hr] at hq
        exact hf r hq
    · have hsame : (rs.update p f).get? q = rs.get? q := by
        rw [get?_update, if_neg hp]
      rw [isClosed_congr hsame]
      exact hq

theorem fetch (p : Nat) {f : Reader κ → Fetch (Reader κ) α}
    (hf : ∀ r : Reader κ, r.isClosed = true → (f r).cursor.isClosed = true) :
    Wears rs (rs.fetch p f).cursor := by
  rw [cursor_fetch]
  exact update p hf

variable (hκ : Cursor.Final κ)
include hκ

theorem close (p : Nat) (rs : Readers κ) : Wears rs (rs.close p) :=
  update p fun r _ => Reader.isClosed_close hκ.close r

theorem use (p : Nat) (way : Use) (rs : Readers κ) : Wears rs (rs.use p way) := by
  cases way with
  | nextRow => exact fetch p (Reader.isClosed_nextRow hκ)
  | nextResult => exact fetch p (Reader.isClosed_nextResult hκ)
  | buffer => exact fetch p (Reader.isClosed_readIntoMemory hκ)
  | close => exact close hκ p rs

theorem closeOpen (p : Nat) (rs : Readers κ) : Wears rs (Registry.closeOpen p rs) := by
  unfold Registry.closeOpen
  split
  · exact refl rs
  · exact close hκ p rs

theorem release (handles : List Handle) (rs : Readers κ) :
    Wears rs (Registry.release handles rs).readers := by
  induction handles generalizing rs with
  | nil => exact refl rs
  | cons h rest ih =>
    unfold Registry.release
    have hfetch : Wears rs (rs.fetch h.place Reader.readIntoMemory).cursor :=
      fetch h.place (Reader.isClosed_readIntoMemory hκ)
    split
    · exact ih rs
    · refine trans ?_ (ih _)
      split
      · exact hfetch
      · exact hfetch.trans (close hκ h.place _)

theorem checkReaders (registry : Registry) (rs : Readers κ) :
    Wears rs (registry.checkReaders rs).readers := by
  unfold Registry.checkReaders
  split
  · exact refl rs
  · exact release hκ registry.tracked rs

theorem closeAll (registry : Registry) (rs : Readers κ) : Wears rs (registry.closeAll rs).2.2 where
  length := by
    have h : rs.Settles true (places registry.tracked) (registry.closeAll rs).2.2 :=
      Registry.settles_closeAll (fun _ => hκ.toReleases) registry.tracked rs
    exact h.length
  closed _ hp := isClosed_closeAll hκ.close (.inl hp)

end Wears

end Readers

/-! ## A registry at its desk -/

/-- A registry with all the readers that it has handed out. -/
structure Desk (κ : Type) where
  registry : Registry
  readers : Readers κ := {}
  /-- From the first reader to the last. -/
  handed : List Handle := []

namespace Desk

inductive Move (κ : Type)
  | register (cursor : κ)
  /-- Somebody reads from the `n`-th reader or closes it, past the registry. -/
  | use (n : Nat) (way : Use)
  | close (n : Nat)
  | check
  | closeAll

omit [Cursor κ] in
def Move.registers : Move κ → Bool
  | .register _ => true
  | _ => false

omit [Cursor κ] in
/-- The registry forgets the `n`-th reader, if it was handed out. -/
def Move.removes (n : Nat) : Move κ → Bool
  | .close m => m = n
  | .closeAll => true
  | _ => false

omit [Cursor κ] in
def start (settings : Settings) (capabilities : Capabilities) : Desk κ where
  registry := .create settings capabilities

def move (s : Desk κ) : Move κ → Desk κ
  | .register cursor =>
    let (place, readers) := s.readers.add cursor
    let (handle, registry, readers) := s.registry.register place readers
    { registry, readers, handed := s.handed ++ [handle] }
  | .use n way =>
    match s.handed[n]? with
    | some h => { s with readers := s.readers.use h.place way }
    | none => s
  | .close n =>
    match s.handed[n]? with
    | some h =>
      let (registry, readers) := s.registry.closeAndRemove h s.readers
      { s with registry, readers }
    | none => s
  | .check => { s with readers := (s.registry.checkReaders s.readers).readers }
  | .closeAll =>
    let (_, registry, readers) := s.registry.closeAll s.readers
    { s with registry, readers }

def run (s : Desk κ) (moves : List (Move κ)) : Desk κ := moves.foldl move s

/-- How many of the readers that were handed out are open. -/
def leaked (s : Desk κ) : Nat := s.handed.countP fun h => !s.readers.isClosed h.place

omit [Cursor κ] in
/-- The `n`-th reader was handed out, and the registry was not told to forget it since. -/
def Remains (moves : List (Move κ)) (n : Nat) : Prop :=
  ∃ earlier cursor later, moves = earlier ++ .register cursor :: later ∧
    earlier.countP Move.registers = n ∧ ∀ m ∈ later, m.removes n = false

section

omit [Cursor κ]

theorem not_remains_nil (n : Nat) : ¬ Remains ([] : List (Move κ)) n := by
  rintro ⟨earlier, cursor, later, h, -⟩
  simp at h

theorem remains_concat (moves : List (Move κ)) (m : Move κ) (n : Nat) :
    Remains (moves ++ [m]) n ↔
      (m.registers = true ∧ moves.countP Move.registers = n) ∨
        (Remains moves n ∧ m.removes n = false) := by
  constructor
  · rintro ⟨earlier, cursor, later, hmoves, hcount, hlater⟩
    rcases List.eq_nil_or_concat later with rfl | ⟨later, last, rfl⟩
    · obtain ⟨rfl, hm⟩ := List.append_inj' hmoves rfl
      rw [List.singleton_inj] at hm
      subst hm
      exact .inl ⟨rfl, hcount⟩
    · rw [List.concat_eq_append, ← List.cons_append, ← List.append_assoc] at hmoves
      obtain ⟨rfl, hm⟩ := List.append_inj' hmoves rfl
      rw [List.singleton_inj] at hm
      subst hm
      refine .inr ⟨⟨earlier, cursor, later, rfl, hcount, fun x hx => hlater x ?_⟩, hlater m ?_⟩
      · simp [hx]
      · simp
  · rintro (⟨hm, hcount⟩ | ⟨⟨earlier, cursor, later, rfl, hcount, hlater⟩, hm⟩)
    · cases m with
      | register cursor => exact ⟨moves, cursor, [], rfl, hcount, nofun⟩
      | use | close | check | closeAll => cases hm
    · refine ⟨earlier, cursor, later ++ [m], by simp, hcount, fun x hx => ?_⟩
      rcases List.mem_append.mp hx with hx | hx
      · exact hlater x hx
      · rw [List.mem_singleton.mp hx]
        exact hm

theorem Remains.lt {moves : List (Move κ)} {n : Nat} (h : Remains moves n) :
    n < moves.countP Move.registers := by
  obtain ⟨earlier, cursor, later, rfl, rfl, -⟩ := h
  rw [List.countP_append, List.countP_cons]
  simp only [Move.registers, if_true]
  omega

end

/-! ### What holds at all times -/

/-- The accounts of a registry after some moves: the `n`-th reader has its number as its identity and
its place, and the registry tracks those that remain, among them all that are open. -/
structure Accounted (moves : List (Move κ)) (s : Desk κ) : Prop where
  tracking : s.registry.tracking = true
  count : s.handed.length = moves.countP Move.registers
  issued : s.registry.issued = s.handed.length
  placed : s.readers.entries.length = s.handed.length
  handle : ∀ n (h : Handle), s.handed[n]? = some h → h = ⟨⟨n + 1⟩, n⟩
  tracked : s.registry.tracked.Sublist s.handed
  remains : ∀ n, (⟨⟨n + 1⟩, n⟩ : Handle) ∈ s.registry.tracked ↔ Remains moves n
  opened : ∀ h ∈ s.handed, s.readers.isClosed h.place = false → h ∈ s.registry.tracked

namespace Accounted

variable {moves : List (Move κ)} {s : Desk κ}

theorem start {settings : Settings} {capabilities : Capabilities}
    (htracking : (Registry.create settings capabilities).tracking = true) :
    Accounted [] (.start settings capabilities : Desk κ) where
  tracking := htracking
  count := rfl
  issued := rfl
  placed := rfl
  handle := nofun
  tracked := .refl _
  remains n := ⟨nofun, fun h => absurd h (not_remains_nil n)⟩
  opened := nofun

theorem eq_of_mem (a : Accounted moves s) {h : Handle} (hh : h ∈ s.handed) :
    ∃ n, n < s.handed.length ∧ h = ⟨⟨n + 1⟩, n⟩ := by
  obtain ⟨n, hn⟩ := List.mem_iff_getElem?.mp hh
  exact ⟨n, (List.getElem?_eq_some_iff.mp hn).1, a.handle n h hn⟩

/-- Readers wear while the registry tracks what it has tracked. -/
theorem wear (a : Accounted moves s) {readers : Readers κ} (hw : s.readers.Wears readers) {m : Move κ}
    (hregisters : m.registers = false) (hremoves : ∀ n, m.removes n = false) :
    Accounted (moves ++ [m]) { s with readers } where
  tracking := a.tracking
  count := by
    rw [List.countP_append, List.countP_singleton, hregisters]
    exact a.count
  issued := a.issued
  placed := hw.length.trans a.placed
  handle := a.handle
  tracked := a.tracked
  remains n := by
    rw [remains_concat, hregisters, hremoves n]
    simpa using a.remains n
  opened h hh hopen := by
    refine a.opened h hh (Bool.eq_false_iff.mpr fun hclosed => ?_)
    rw [hw.closed h.place hclosed] at hopen
    cases hopen

/-- The registry forgets some readers after they were closed. -/
theorem forget (a : Accounted moves s) {readers : Readers κ} (hw : s.readers.Wears readers)
    {m : Move κ} (forgets : Handle → Bool) (hregisters : m.registers = false)
    (hremoves : ∀ n, n < s.handed.length → m.removes n = forgets ⟨⟨n + 1⟩, n⟩)
    (hclosed : ∀ h ∈ s.registry.tracked, forgets h = true → readers.isClosed h.place = true) :
    Accounted (moves ++ [m])
      { s with
        registry := { s.registry with tracked := s.registry.tracked.filter (!forgets ·) }
        readers } where
  tracking := a.tracking
  count := by
    rw [List.countP_append, List.countP_singleton, hregisters]
    exact a.count
  issued := a.issued
  placed := hw.length.trans a.placed
  handle := a.handle
  tracked := List.filter_sublist.trans a.tracked
  remains n := by
    rw [remains_concat, hregisters, List.mem_filter, a.remains n]
    have hforgets : Remains moves n → m.removes n = forgets ⟨⟨n + 1⟩, n⟩ := by
      intro h
      apply hremoves
      rw [a.count]
      exact h.lt
    constructor
    · rintro ⟨h, hkept⟩
      exact .inr ⟨h, (hforgets h).trans (by simpa using hkept)⟩
    · rintro (⟨h, -⟩ | ⟨h, hkept⟩)
      · cases h
      · rw [hforgets h] at hkept
        exact ⟨h, by simp [hkept]⟩
  opened h hh hopen := by
    have hmem : h ∈ s.registry.tracked := by
      refine a.opened h hh (Bool.eq_false_iff.mpr fun hc => ?_)
      rw [hw.closed h.place hc] at hopen
      cases hopen
    refine List.mem_filter.mpr ⟨hmem, ?_⟩
    cases hf : forgets h with
    | false => rfl
    | true =>
      rw [hclosed h hmem hf] at hopen
      cases hopen

theorem register (a : Accounted moves s) (cursor : κ) :
    Accounted (moves ++ [.register cursor]) (s.move (.register cursor)) := by
  have hhandle : (s.registry.register (s.readers.add cursor).1 (s.readers.add cursor).2).1 =
      ⟨⟨s.handed.length + 1⟩, s.handed.length⟩ := by
    simp only [Registry.register, Readers.add, a.issued, a.placed]
  have htracked : (s.move (.register cursor)).registry.tracked =
      s.registry.tracked ++ [⟨⟨s.handed.length + 1⟩, s.handed.length⟩] := by
    simp only [move, Registry.register, Readers.add, a.tracking, if_true, a.issued, a.placed]
  have hhanded : (s.move (.register cursor)).handed =
      s.handed ++ [⟨⟨s.handed.length + 1⟩, s.handed.length⟩] :=
    congrArg (fun h => s.handed ++ [h]) hhandle
  refine ⟨a.tracking, ?_, ?_, ?_, ?_, ?_, ?_, ?_⟩
  · rw [hhanded, List.length_append, List.countP_append, a.count]
    rfl
  · rw [hhanded, List.length_append, ← a.issued]
    rfl
  · rw [hhanded, List.length_append, ← a.placed]
    exact Registries.length_take cursor
  · intro n h hn
    rw [hhanded, List.getElem?_append] at hn
    split at hn
    · exact a.handle n h hn
    · rw [List.getElem?_singleton] at hn
      split at hn
      · have hlast : n = s.handed.length := by omega
        rw [hlast]
        exact (Option.some.inj hn).symm
      · cases hn
  · rw [hhanded, htracked]
    exact a.tracked.append (.refl _)
  · intro n
    rw [htracked, remains_concat, List.mem_append, a.remains n, List.mem_singleton, ← a.count]
    simp [Move.registers, Move.removes, or_comm, eq_comm]
  · intro h hh hopen
    rw [htracked]
    rw [hhanded] at hh
    rcases List.mem_append.mp hh with hh | hh
    · refine List.mem_append_left _ (a.opened h hh ?_)
      obtain ⟨n, hn, rfl⟩ := a.eq_of_mem hh
      have hsame : (s.move (.register cursor)).readers.get? n = s.readers.get? n :=
        Registries.get?_take cursor (a.placed ▸ hn)
      rw [← Readers.isClosed_congr hsame]
      exact hopen
    · exact List.mem_append_right _ hh

theorem move (hκ : Cursor.Final κ) (a : Accounted moves s) (m : Move κ) :
    Accounted (moves ++ [m]) (s.move m) := by
  cases m with
  | register cursor => exact a.register cursor
  | use n way =>
    simp only [Desk.move]
    split
    · exact a.wear (.use hκ _ way s.readers) rfl fun _ => rfl
    · exact a.wear (.refl s.readers) rfl fun _ => rfl
  | close n =>
    simp only [Desk.move]
    split
    · rename_i x hx
      have hx := a.handle n x hx
      have hw : s.readers.Wears (Registry.closeOpen x.place s.readers) := .closeOpen hκ _ _
      have hkept : s.registry.untrack x.id =
          { s.registry with tracked := s.registry.tracked.filter fun h => !decide (h.id = x.id) } := by
        simp [Registry.untrack]
      simp only [Registry.closeAndRemove, hkept]
      refine a.forget (m := .close n) hw (fun h => h.id = x.id) rfl (fun k _ => ?_) fun h hh hf => ?_
      · simp [Move.removes, hx, eq_comm]
      · obtain ⟨k, -, rfl⟩ := a.eq_of_mem (a.tracked.subset hh)
        have hk : k = n := by simpa [hx] using hf
        rw [hk, hx]
        exact Readers.isClosed_closeOpen hκ.close n s.readers
    · rename_i hnone
      have hkept := a.forget (m := .close n) (.refl s.readers) (fun _ => false) rfl
        (fun k hk => ?_) fun _ _ hf => absurd hf Bool.false_ne_true
      · simpa using hkept
      · refine decide_eq_false fun heq => ?_
        rw [heq, List.getElem?_eq_getElem hk] at hnone
        cases hnone
  | check => exact a.wear (.checkReaders hκ s.registry s.readers) rfl fun _ => rfl
  | closeAll =>
    have hkept := a.forget (m := .closeAll) (.closeAll hκ s.registry s.readers)
      (fun _ => true) rfl (fun _ _ => rfl) fun h hh _ =>
        Readers.isClosed_closeAll hκ.close (.inr ⟨h, hh, rfl⟩)
    simpa [Desk.move, Registry.closeAll] using hkept

theorem run (hκ : Cursor.Final κ) {settings : Settings} {capabilities : Capabilities}
    (htracking : (Registry.create settings capabilities).tracking = true) (moves : List (Move κ)) :
    Accounted moves ((.start settings capabilities : Desk κ).run moves) := by
  induction moves using List.reverseRecOn with
  | nil => exact start htracking
  | append_singleton moves m ih =>
    unfold Desk.run at ih ⊢
    rw [List.foldl_append]
    exact ih.move hκ m

/-! ### Identities -/

theorem ids_handed (a : Accounted moves s) :
    s.handed.map (·.id.number) = List.range' 1 (moves.countP Move.registers) := by
  rw [← a.count]
  refine List.ext_getElem (by simp) fun n hn _ => ?_
  have hlt : n < s.handed.length := by simpa using hn
  rw [List.getElem_map, List.getElem_range', a.handle n _ (List.getElem?_eq_getElem hlt)]
  show n + 1 = 1 + 1 * n
  omega

theorem mem_ids (a : Accounted moves s) (id : ReaderId) :
    id ∈ s.registry.ids ↔ ∃ n, id = ⟨n + 1⟩ ∧ Remains moves n := by
  rw [Registry.mem_ids]
  constructor
  · intro h
    obtain ⟨x, hx, rfl⟩ := List.mem_map.mp h
    obtain ⟨n, -, rfl⟩ := a.eq_of_mem (a.tracked.subset hx)
    exact ⟨n, rfl, (a.remains n).mp hx⟩
  · rintro ⟨n, rfl, h⟩
    exact List.mem_map.mpr ⟨_, (a.remains n).mpr h, rfl⟩

theorem increasing (a : Accounted moves s) :
    (s.registry.ids.map (·.number)).Pairwise (· < ·) := by
  have hkeys : (s.registry.keys.map (·.number)).Nodup := by
    have hsub : (s.registry.keys.map (·.number)).Sublist (s.handed.map (·.id.number)) := by
      rw [Registry.keys, List.map_map]
      exact a.tracked.map _
    rw [a.ids_handed] at hsub
    exact hsub.nodup List.nodup_range'
  exact s.registry.pairwise_ids hkeys

/-! ### Disposal -/

theorem openCount_eq (a : Accounted moves s) :
    Registry.openCount s.registry.tracked s.readers = s.leaked := by
  have hhanded : s.handed.Nodup := by
    have h : (s.handed.map (·.id.number)).Nodup := by
      rw [a.ids_handed]
      exact List.nodup_range'
    exact List.Nodup.of_map _ h
  -- What is open is tracked, so the open readers are the same on both sides.
  have hopen : s.registry.tracked.filter (fun h => !s.readers.isClosed h.place) =
      s.handed.filter fun h => !s.readers.isClosed h.place := by
    refine (a.tracked.filter _).eq_of_length_le (List.Nodup.length_le_of_subset ?_ ?_)
    · exact hhanded.filter _
    · intro h hh
      obtain ⟨hh, hopen⟩ := List.mem_filter.mp hh
      exact List.mem_filter.mpr ⟨a.opened h hh (by simpa using hopen), hopen⟩
  rw [Registry.openCount, leaked, List.countP_eq_length_filter, List.countP_eq_length_filter, hopen]

theorem isClosed_closeAll (hκ : Cursor.Final κ) (a : Accounted moves s) {h : Handle}
    (hh : h ∈ s.handed) : (s.registry.closeAll s.readers).2.2.isClosed h.place = true := by
  cases hc : s.readers.isClosed h.place with
  | true => exact Readers.isClosed_closeAll hκ.close (.inl hc)
  | false => exact Readers.isClosed_closeAll hκ.close (.inr ⟨h, a.opened h hh hc, rfl⟩)

end Accounted

end Desk

namespace Connection

variable {setup : Setup δ κ} {conn : Connection δ κ} {s : Desk κ} {moves : List (Desk.Move κ)}

/-- What the disposal of readers comes to if some of them were open. -/
structure Disposed (strict : Bool) (s : Desk κ) (conn : Connection δ κ)
    (x : Except Error Unit × Connection δ κ) : Prop where
  result : x.1 = if strict = true ∧ 0 < s.leaked then .error (.readerLeak s.leaked) else .ok ()
  closed : ∀ h ∈ s.handed, x.2.readers.isClosed h.place = true
  emptied : x.2.registry = { s.registry with tracked := [] }
  silent : x.2.calls = conn.calls

theorem disposeReaders_of_tracked (h : conn.registry.tracked = []) (strict : Bool) :
    conn.disposeReaders strict = (.ok (), conn) := by
  obtain ⟨database, access, pending, stats, ⟨tracked, issued, tracking, several⟩, readers⟩ := conn
  have h : tracked = [] := h
  subst h
  simp [disposeReaders, closeAllReaders, Registry.closeAll, Registry.openCount, Registry.leak,
    recordAll]

omit [Cursor κ] in
theorem discardPending_of_pending (h : conn.pending = {}) : conn.discardPending = conn := by
  obtain ⟨database, access, pending⟩ := conn
  have h : pending = {} := h
  subst h
  rfl

omit [Cursor κ] in
theorem readers_discardPending : conn.discardPending.registry = conn.registry ∧
    conn.discardPending.readers = conn.readers := by
  simp only [discardPending]
  split <;> exact ⟨rfl, rfl⟩

theorem pending_disposeReaders (strict : Bool) :
    (conn.disposeReaders strict).2.pending = conn.pending := by
  simp only [disposeReaders]
  split <;> rfl

theorem calls_disposeReaders (strict : Bool) :
    (conn.disposeReaders strict).2.calls = conn.calls := by
  have h : Quiet fun c : Connection δ κ => c.calls = conn.calls :=
    { access := fun _ _ h => h
      hold := fun _ _ _ _ h => h
      note := fun _ _ he h => (calls_record he).trans h
      count := fun _ _ h => h }
  exact h.disposeReaders strict rfl

/-- Disposal closes and forgets the readers whether or not it complains. -/
theorem registry_disposeReaders (strict : Bool) :
    (conn.disposeReaders strict).2.registry = { conn.registry with tracked := [] } ∧
      (conn.disposeReaders strict).2.readers = (conn.registry.closeAll conn.readers).2.2 := by
  simp only [disposeReaders]
  split <;> exact ⟨rfl, rfl⟩

theorem disposed_disposeReaders (hκ : Cursor.Final κ) (a : s.Accounted moves) (strict : Bool)
    (hregistry : conn.registry = s.registry) (hreaders : conn.readers = s.readers) :
    Disposed strict s conn (conn.disposeReaders strict) where
  result := by
    have hcount : (conn.registry.closeAll conn.readers).1 = s.leaked := by
      rw [hregistry, hreaders]
      exact a.openCount_eq
    simp only [disposeReaders, closeAllReaders, hcount]
    cases s.leaked with
    | zero => simp [Registry.leak]
    | succ n => cases strict <;> simp [Registry.leak]
  closed h hh := by
    rw [(registry_disposeReaders strict).2, hregistry, hreaders]
    exact a.isClosed_closeAll hκ hh
  emptied := by
    rw [(registry_disposeReaders strict).1, hregistry]
  silent := calls_disposeReaders strict

end Connection

namespace Desk

/-- In every run of a registry that tracks its readers, it gives the identities 1, 2, 3 and so on,
and lists in increasing order those that it gave and was not told to forget since. No reader is open
that it does not track. So disposal, by itself or with the whole session, closes all readers and
says how many of them were open, and disposing once more finds nothing. -/
theorem registry_accounts (hκ : Cursor.Final κ) (settings : Settings) (capabilities : Capabilities)
    (htracking : (Registry.create settings capabilities).tracking = true) (moves : List (Move κ)) :
    let s := (.start settings capabilities : Desk κ).run moves
    s.handed.map (·.id.number) = List.range' 1 (moves.countP Move.registers) ∧
    (∀ id, s.registry.contains id = true ↔ ∃ n, id = ⟨n + 1⟩ ∧ Remains moves n) ∧
    (∀ id, id ∈ s.registry.ids ↔ s.registry.contains id = true) ∧
    (s.registry.ids.map (·.number)).Pairwise (· < ·) ∧
    (∀ h ∈ s.handed, s.readers.isClosed h.place = false → s.registry.contains h.id = true) ∧
    (s.move .check).registry = s.registry ∧
    ∀ (setup : Setup δ κ) (session : Session) (conn : Connection δ κ) (strict : Bool),
      conn.registry = s.registry → conn.readers = s.readers →
      let disposed := conn.disposeReaders strict
      let closed := session.close setup conn
      conn.Disposed strict s disposed ∧
      disposed.2.disposeReaders strict = (.ok (), disposed.2) ∧
      conn.Disposed setup.settings.strictLeaks s closed ∧ closed.2.pending = {} ∧
      session.close setup closed.2 = (.ok (), closed.2) := by
  intro s
  have a : Accounted moves s := .run hκ htracking moves
  have hcontains : ∀ id, id ∈ s.registry.ids ↔ s.registry.contains id = true := by
    simp [Registry.contains]
  refine ⟨a.ids_handed, fun id => ?_, hcontains, a.increasing, fun h hh hopen => ?_, rfl, ?_⟩
  · rw [← hcontains]
    exact a.mem_ids id
  · rw [← hcontains, Registry.mem_ids]
    exact List.mem_map_of_mem (a.opened h hh hopen)
  · intro setup session conn strict hregistry hreaders disposed closed
    have hdisposed : conn.Disposed strict s disposed :=
      Connection.disposed_disposeReaders hκ a strict hregistry hreaders
    have hdiscarded : conn.discardPending.Disposed setup.settings.strictLeaks s closed := by
      apply Connection.disposed_disposeReaders hκ a
      · exact Connection.readers_discardPending.1.trans hregistry
      · exact Connection.readers_discardPending.2.trans hreaders
    have hpending : closed.2.pending = {} :=
      (Connection.pending_disposeReaders _).trans Connection.pending_discardPending
    refine ⟨hdisposed, ?_, ⟨hdiscarded.result, hdiscarded.closed, hdiscarded.emptied, ?_⟩,
      hpending, ?_⟩
    · apply Connection.disposeReaders_of_tracked
      rw [hdisposed.emptied]
    · exact hdiscarded.silent.trans Connection.calls_discardPending
    · show (closed.2.discardPending).disposeReaders _ = _
      rw [Connection.discardPending_of_pending hpending]
      apply Connection.disposeReaders_of_tracked
      rw [hdiscarded.emptied]

/-- Of two readers one is closed twice through the registry, and the other one is still open when
the session is closed. -/
theorem registry_accounts_leak :
    let setup : Setup Unit Buffered := { Setup.single with settings := { strictLeaks := true } }
    let moves : List (Move Buffered) :=
      [.register { sets := [[]] }, .register { sets := [[]] }, .use 0 .nextRow, .close 1, .close 1]
    let s := (start setup.settings setup.driver.capabilities : Desk Buffered).run moves
    let conn : Connection Unit Buffered :=
      { database := (), registry := s.registry, readers := s.readers
        pending := ({} : PendingBatch).push { sql := "delete from t" } none }
    let closed := ({} : Session).close setup conn
    s.handed.map (·.id.number) = [1, 2] ∧ s.registry.ids = [⟨1⟩] ∧
      closed.1 = .error (.readerLeak 1) ∧ closed.2.pending = {} ∧
      ({} : Session).close setup closed.2 = (.ok (), closed.2) := by
  intro setup moves s conn closed
  obtain ⟨hids, -, -, -, -, -, hdispose⟩ := registry_accounts (δ := Unit) Buffered.final
    setup.settings setup.driver.capabilities rfl moves
  obtain ⟨-, -, hclosed, hpending, hagain⟩ := hdispose setup {} conn true rfl rfl
  have hleaked : s.leaked = 1 := by decide
  have hkeys : s.registry.keys = [⟨1⟩] := by decide
  refine ⟨hids, ?_, ?_, hpending, hagain⟩
  · rw [Registry.ids, hkeys, List.mergeSort_singleton]
  · rw [hclosed.result, hleaked]
    rfl

end Desk

end OneConnection
