import OneConnection.Proofs.Lending.Tidy
import OneConnection.Proofs.World

/-!
# Tracking

Registries that hand out readers side by side, in any order of operations. A reader that is tracked
stays tracked until a handle with its identity is closed through its registry, whoever gave the
handle, or all readers of the registry are closed. As long as it is tracked, its registry releases
its cursor and closes it, and from then on it leaves the reader alone, open as it may be.
-/

namespace OneConnection

variable {κ : Type} [Cursor κ]

/-! ## Releasing one reader -/

/-- How an open reader is released: it goes on from memory with all the rows that are left, or it is
closed because not all of them could be read. One that is closed or in memory stays as it is. -/
inductive Reader.MovesTo : Reader κ → Reader κ → Prop
  | stays {r : Reader κ} : r.isClosed = true → MovesTo r r
  | inMemory {c : κ} {b : Buffered} : MovesTo (.hybrid (.buffered c b)) (.hybrid (.buffered c b))
  | moves {c : κ} {sets : List ResultSet} : Cursor.isClosed c = false →
      (Cursor.drain c).result = .ok sets →
        MovesTo (.hybrid (.streaming c))
          (.hybrid (.buffered (Cursor.close (Cursor.drain c).cursor) { sets }))
  | fails {c : κ} {why : Error} {r : Reader κ} : Cursor.isClosed c = false →
      (Cursor.drain c).result = .error why → r.isClosed = true → MovesTo (.hybrid (.streaming c)) r

namespace Registry

variable {rs : Readers κ}

theorem kept_movesTo (hκ : Cursor.Releases κ) {p : Nat} {r : Reader κ} (hr : rs.get? p = some r)
    (hhybrid : r.isHybrid = true) (hopen : r.isClosed = false) :
    ∃ r', (match (rs.fetch p Reader.readIntoMemory).result with
        | .ok true => (rs.fetch p Reader.readIntoMemory).cursor
        | _ => (rs.fetch p Reader.readIntoMemory).cursor.close p).get? p = some r' ∧
      r.MovesTo r' := by
  have hresult : (rs.fetch p Reader.readIntoMemory).result = r.readIntoMemory.result := by
    unfold Readers.fetch
    rw [hr]
    rfl
  have hcursor : (rs.fetch p Reader.readIntoMemory).cursor.get? p =
      some r.readIntoMemory.cursor := by
    rw [Readers.cursor_fetch, Readers.get?_update, if_pos rfl, hr]
    rfl
  rw [hresult]
  match r with
  | .hybrid (.buffered c b) => exact ⟨_, hcursor, .inMemory⟩
  | .hybrid (.streaming c) =>
    have hc : Cursor.isClosed c = false := hopen
    cases hdrain : (Cursor.drain c).result with
    | ok sets =>
      have hread : (Reader.hybrid (.streaming c)).readIntoMemory =
          { result := .ok true
            cursor := .hybrid (.buffered (Cursor.close (Cursor.drain c).cursor) { sets })
            cancels := (Cursor.drain c).cancels } := by
        simp [Reader.readIntoMemory, Hybrid.readIntoMemory, hc, hdrain, Fetch.within]
      rw [hread] at hcursor ⊢
      exact ⟨_, hcursor, .moves hc hdrain⟩
    | error why =>
      have hread : (Reader.hybrid (.streaming c)).readIntoMemory =
          { result := .error why
            cursor := .hybrid (.streaming (Cursor.close (Cursor.drain c).cursor))
            cancels := (Cursor.drain c).cancels } := by
        simp [Reader.readIntoMemory, Hybrid.readIntoMemory, hc, hdrain, Fetch.within]
      rw [hread] at hcursor ⊢
      have hclosed : ((rs.fetch p Reader.readIntoMemory).cursor.close p).get? p =
          some (.hybrid (.streaming (Cursor.close (Cursor.close (Cursor.drain c).cursor)))) := by
        rw [Readers.close, Readers.get?_update, if_pos rfl, hcursor]
        rfl
      exact ⟨_, hclosed, .fails hc hdrain (hκ.close _)⟩

/-- Every one of several readers in different places is released. -/
theorem release_movesTo (hκ : Cursor.Releases κ) {handles : List Handle}
    (hdistinct : (handles.map (·.place)).Nodup) (hs : rs.Tame (places handles)) {h : Handle}
    (hh : h ∈ handles) {r : Reader κ} (hr : rs.get? h.place = some r) :
    ∃ r', (release handles rs).readers.get? h.place = some r' ∧ r.MovesTo r' := by
  induction handles generalizing rs r with
  | nil => cases hh
  | cons x rest ih =>
    obtain ⟨hx, hrest⟩ := List.nodup_cons.mp hdistinct
    have hapart : ¬ places rest x.place := by
      rintro ⟨y, hy, hplace⟩
      exact hx (List.mem_map.mpr ⟨y, hy, hplace⟩)
    unfold release
    rcases List.mem_cons.mp hh with rfl | hh
    · have hhybrid : r.isHybrid = true := (hs h.place r ⟨h, List.mem_cons_self, rfl⟩ hr).hybrid
      have hclosed : rs.isClosed h.place = r.isClosed := by
        unfold Readers.isClosed
        rw [hr]
      split
      · rename_i hc
        exact ⟨r, (Readers.get?_release hapart).trans hr, .stays (hclosed.symm.trans hc)⟩
      · rename_i hc
        obtain ⟨r', hr', hmoves⟩ := kept_movesTo hκ hr hhybrid (by simpa [hclosed] using hc)
        exact ⟨r', (Readers.get?_release hapart).trans hr', hmoves⟩
    · have hne : h.place ≠ x.place := by
        intro heq
        exact hapart ⟨h, hh, heq⟩
      split
      · refine ih hrest ?_ hh hr
        rintro p r ⟨y, hy, rfl⟩
        exact hs _ r ⟨y, List.mem_cons_of_mem _ hy, rfl⟩
      · have hgoes : ∀ kept, rs.Settles true (· = x.place) kept →
            ∃ r', (release rest kept).readers.get? h.place = some r' ∧ r.MovesTo r' := by
          intro kept hkept
          exact ih hrest (tame_tail hkept hs) hh ((hkept.elsewhere _ hne).trans hr)
        refine hgoes _ (settles_kept (fun _ => hκ) x.place rs ?_)
        split <;> simp

end Registry

/-! ## Registries side by side -/

/-- Several registries, with all the readers that they have handed out. -/
structure Registries (κ : Type) where
  all : List Registry := []
  readers : Readers κ := {}

inductive Registries.Move (κ : Type)
  | create (settings : Settings) (capabilities : Capabilities)
  /-- A registry takes a cursor and hands out its reader. -/
  | register (registry : Nat) (cursor : κ)
  | use (reader : Handle) (way : Use)
  /-- Closes a reader through a registry, whether or not the registry handed it out. -/
  | close (registry : Nat) (reader : Handle)
  | check (registry : Nat)
  /-- Closes all readers of a registry, as its disposal does. -/
  | closeAll (registry : Nat)

def Readers.use (place : Nat) (way : Use) (rs : Readers κ) : Readers κ :=
  match way with
  | .nextRow => (rs.fetch place Reader.nextRow).cursor
  | .nextResult => (rs.fetch place Reader.nextResult).cursor
  | .buffer => (rs.fetch place Reader.readIntoMemory).cursor
  | .close => rs.close place

theorem Readers.settles_use (hκ : Cursor.Releases κ) (place : Nat) (way : Use) (rs : Readers κ) :
    rs.Settles true (· = place) (rs.use place way) := by
  cases way with
  | nextRow => exact .fetch place fun _ => Reader.calm_nextRow hκ
  | nextResult => exact .fetch place fun _ => Reader.calm_nextResult hκ
  | buffer => exact .fetch place fun _ => Reader.calm_readIntoMemory hκ
  | close => exact .update place fun _ r _ => Reader.calm_close hκ r

namespace Registries

omit [Cursor κ] in
/-- One of the registries does something to the readers. -/
def change (a : Nat) (f : Registry → Readers κ → Registry × Readers κ) (s : Registries κ) :
    Registries κ :=
  match s.all[a]? with
  | some reg => ⟨s.all.set a (f reg s.readers).1, (f reg s.readers).2⟩
  | none => s

def take (cursor : κ) (reg : Registry) (rs : Readers κ) : Registry × Readers κ :=
  (reg.register (rs.add cursor).1 (rs.add cursor).2).2

def move (s : Registries κ) : Move κ → Registries κ
  | .create settings capabilities => { s with all := s.all ++ [.create settings capabilities] }
  | .register a cursor => s.change a (take cursor)
  | .use h way => { s with readers := s.readers.use h.place way }
  | .close a h => s.change a fun reg rs => reg.closeAndRemove h rs
  | .check a => s.change a fun reg rs => (reg, (reg.checkReaders rs).readers)
  | .closeAll a => s.change a fun reg rs => (reg.closeAll rs).2

def run (s : Registries κ) (moves : List (Move κ)) : Registries κ := moves.foldl move s

/-- The handle that a registry gives for the next reader. -/
def next (reg : Registry) (s : Registries κ) : Handle :=
  ⟨⟨reg.issued + 1⟩, s.readers.entries.length⟩

omit [Cursor κ]

/-- A move that closes no reader with this identity through this registry. -/
def Move.spares (a : Nat) (id : ReaderId) : Move κ → Bool
  | .close b h => b ≠ a || h.id ≠ id
  | .closeAll b => b ≠ a
  | _ => true

end Registries

/-! ### What holds at all times -/

/-- The tracked readers of a registry have identities and places of their own, and can move into
memory if the driver keeps only one cursor open. -/
structure Registry.Sound (reg : Registry) (rs : Readers κ) : Prop where
  issued : ∀ h ∈ reg.tracked, h.id.number ≤ reg.issued
  numbered : reg.keys.Nodup
  there : ∀ h ∈ reg.tracked, h.place < rs.entries.length
  distinct : (reg.tracked.map (·.place)).Nodup
  tame : reg.keepsSeveral = false → rs.Tame (places reg.tracked)

namespace Registry.Sound

variable {reg reg' : Registry} {rs rs' : Readers κ} {S : Nat → Prop}

/-- Readers change, and perhaps fewer of them are tracked. -/
theorem settle (h : reg.Sound rs) (hs : rs.Settles true S rs')
    (hsub : reg'.tracked.Sublist reg.tracked) (hissued : reg'.issued = reg.issued)
    (hseveral : reg'.keepsSeveral = reg.keepsSeveral) : reg'.Sound rs' where
  issued x hx := by
    rw [hissued]
    exact h.issued x (hsub.subset hx)
  numbered := (hsub.map _).nodup h.numbered
  there x hx := by
    rw [hs.length]
    exact h.there x (hsub.subset hx)
  distinct := (hsub.map _).nodup h.distinct
  tame hone := by
    refine hs.tame rfl ?_
    rintro p r ⟨x, hx, rfl⟩
    exact h.tame (hseveral.symm.trans hone) _ r ⟨x, hsub.subset hx, rfl⟩

/-- New readers get places behind the others. -/
theorem grow (h : reg.Sound rs) (hlength : rs.entries.length ≤ rs'.entries.length)
    (hsame : ∀ p, p < rs.entries.length → rs'.get? p = rs.get? p) : reg.Sound rs' where
  issued := h.issued
  numbered := h.numbered
  there x hx := Nat.lt_of_lt_of_le (h.there x hx) hlength
  distinct := h.distinct
  tame hone := by
    rintro p r ⟨x, hx, rfl⟩ hr
    rw [hsame x.place (h.there x hx)] at hr
    exact h.tame hone _ r ⟨x, hx, rfl⟩ hr

end Registry.Sound

namespace Registries

section

variable {reg : Registry} {rs : Readers κ} (cursor : κ)

omit [Cursor κ] in
theorem length_take : (take cursor reg rs).2.entries.length = rs.entries.length + 1 := by
  have hadd : (rs.add cursor).2.entries.length = rs.entries.length + 1 :=
    List.length_append
  simp only [take, Registry.register]
  split
  · exact hadd
  · exact (List.length_modify ..).trans hadd

omit [Cursor κ] in
theorem get?_take {p : Nat} (hp : p < rs.entries.length) :
    (take cursor reg rs).2.get? p = rs.get? p := by
  have hadd : (rs.add cursor).2.get? p = rs.get? p := by
    have hnew : p ≠ (rs.add cursor).1 := Nat.ne_of_lt hp
    rw [Readers.get?_add, if_neg hnew]
  simp only [take, Registry.register]
  split
  · exact hadd
  · have hnew : (rs.add cursor).1 ≠ p := (Nat.ne_of_lt hp).symm
    rw [Readers.get?_update, if_neg hnew, hadd]

theorem sound_take (h : reg.Sound rs) : (take cursor reg rs).1.Sound (take cursor reg rs).2 := by
  have hold : reg.Sound (take cursor reg rs).2 :=
    h.grow (by rw [length_take]; exact Nat.le_succ _) fun p => get?_take cursor
  cases htracking : reg.tracking with
  | false =>
    have htracked : (take cursor reg rs).1.tracked = reg.tracked := if_neg (by simp [htracking])
    constructor
    · rw [htracked]
      exact fun x hx => Nat.le_succ_of_le (hold.issued x hx)
    · rw [Registry.keys, htracked]
      exact hold.numbered
    · rw [htracked]
      exact hold.there
    · rw [htracked]
      exact hold.distinct
    · rw [htracked]
      exact hold.tame
  | true =>
    have htracked : (take cursor reg rs).1.tracked =
        reg.tracked ++ [⟨⟨reg.issued + 1⟩, rs.entries.length⟩] := if_pos htracking
    constructor
    · intro x hx
      rw [htracked] at hx
      rcases List.mem_append.mp hx with hx | hx
      · exact Nat.le_succ_of_le (hold.issued x hx)
      · rw [List.mem_singleton.mp hx]
        exact Nat.le_refl _
    · rw [Registry.keys, htracked, List.map_append, List.map_singleton]
      refine List.nodup_append.mpr ⟨h.numbered, List.nodup_singleton _, ?_⟩
      rintro id hid _ hnew rfl
      obtain ⟨x, hx, hsame⟩ := List.mem_map.mp hid
      have hissued := h.issued x hx
      rw [hsame, List.mem_singleton.mp hnew] at hissued
      exact absurd hissued (Nat.not_succ_le_self _)
    · intro x hx
      rw [htracked] at hx
      rcases List.mem_append.mp hx with hx | hx
      · exact hold.there x hx
      · rw [List.mem_singleton.mp hx, length_take]
        exact Nat.lt_succ_self _
    · rw [htracked, List.map_append, List.map_singleton]
      refine List.nodup_append.mpr ⟨h.distinct, List.nodup_singleton _, ?_⟩
      intro p hp q hq
      obtain ⟨x, hx, rfl⟩ := List.mem_map.mp hp
      rw [List.mem_singleton.mp hq]
      exact Nat.ne_of_lt (h.there x hx)
    · intro hone
      have hone' : reg.keepsSeveral = false := hone
      rintro p r ⟨x, hx, rfl⟩ hr
      rw [htracked] at hx
      rcases List.mem_append.mp hx with hx | hx
      · exact hold.tame hone' _ r ⟨x, hx, rfl⟩ hr
      · -- The new reader has just been made a streaming one.
        have hplace : (rs.add cursor).1 = rs.entries.length := rfl
        rw [List.mem_singleton.mp hx] at hr
        simp only [take, Registry.register, hone', Bool.false_eq_true, if_false] at hr
        rw [Readers.get?_update, if_pos hplace, Readers.get?_add, if_pos hplace.symm] at hr
        cases hr
        exact Reader.tame_streaming cursor

end

variable {s : Registries κ} {a b : Nat} {f : Registry → Readers κ → Registry × Readers κ}

def Sound (s : Registries κ) : Prop := ∀ reg ∈ s.all, reg.Sound s.readers

theorem Sound.change (h : s.Sound)
    (hf : ∀ reg, s.all[a]? = some reg → (f reg s.readers).1.Sound (f reg s.readers).2 ∧
      ∀ other ∈ s.all, other.Sound (f reg s.readers).2) : (s.change a f).Sound := by
  unfold Registries.change
  split
  · rename_i reg hreg
    obtain ⟨hmine, hothers⟩ := hf reg hreg
    intro reg' hreg'
    rcases List.mem_or_eq_of_mem_set hreg' with hmem | rfl
    · exact hothers reg' hmem
    · exact hmine
  · exact h

/-- A registry that settles its readers leaves those of the others in order. -/
theorem Sound.change_settles {S : Registry → Nat → Prop} (h : s.Sound)
    (hf : ∀ reg, s.readers.Settles true (S reg) (f reg s.readers).2 ∧
      (f reg s.readers).1.tracked.Sublist reg.tracked ∧
      (f reg s.readers).1.issued = reg.issued ∧
      (f reg s.readers).1.keepsSeveral = reg.keepsSeveral) : (s.change a f).Sound := by
  refine h.change fun reg hreg => ?_
  obtain ⟨hs, hsub, hissued, hseveral⟩ := hf reg
  refine ⟨(h reg (List.mem_of_getElem? hreg)).settle hs hsub hissued hseveral, ?_⟩
  intro other hother
  exact (h other hother).settle hs (List.Sublist.refl _) rfl rfl

theorem Sound.move (hκ : Cursor.Releases κ) (h : s.Sound) (m : Move κ) : (s.move m).Sound := by
  have hκ' : true = true → Cursor.Releases κ := fun _ => hκ
  cases m with
  | create settings capabilities =>
    intro reg hreg
    rcases List.mem_append.mp hreg with hreg | hreg
    · exact h reg hreg
    · rw [List.mem_singleton.mp hreg]
      exact ⟨nofun, .nil, nofun, .nil, fun _ p r hp => by obtain ⟨x, hx, -⟩ := hp; cases hx⟩
  | register b cursor =>
    refine Sound.change h fun reg hreg => ?_
    refine ⟨sound_take cursor (h reg (List.mem_of_getElem? hreg)), fun other hother => ?_⟩
    refine (h other hother).grow ?_ fun p => get?_take cursor
    rw [length_take]
    exact Nat.le_succ _
  | use x way =>
    intro reg hreg
    exact (h reg hreg).settle (Readers.settles_use hκ x.place way s.readers) (.refl _) rfl rfl
  | close b x =>
    exact Sound.change_settles h fun reg =>
      ⟨Registry.settles_closeOpen hκ' x.place s.readers, List.filter_sublist, rfl, rfl⟩
  | check b =>
    refine Sound.change_settles (S := fun reg => places reg.tracked) h fun reg =>
      ⟨?_, .refl _, rfl, rfl⟩
    dsimp only [Registry.checkReaders]
    split
    · exact .refl _ _
    · exact Registry.settles_release hκ' reg.tracked s.readers
  | closeAll b =>
    exact Sound.change_settles h fun reg =>
      ⟨Registry.settles_closeAll hκ' reg.tracked s.readers, List.nil_sublist _, rfl, rfl⟩

/-- What each move keeps, a run keeps. -/
theorem run_induction {P : Registries κ → Prop} {moves : List (Move κ)}
    (hmove : ∀ s, ∀ m ∈ moves, P s → P (s.move m)) (hs : P s) : P (s.run moves) := by
  induction moves generalizing s with
  | nil => exact hs
  | cons m rest ih =>
    exact ih (fun s x hx => hmove s x (List.mem_cons_of_mem _ hx)) (hmove s m List.mem_cons_self hs)

theorem Sound.run (hκ : Cursor.Releases κ) (h : s.Sound) (moves : List (Move κ)) :
    (s.run moves).Sound :=
  run_induction (fun _ m _ h => h.move hκ m) h

/-! ### One reader -/

/-- The registry tracks the reader. -/
def Tracks (a : Nat) (h : Handle) (s : Registries κ) : Prop :=
  ∃ reg, s.all[a]? = some reg ∧ h ∈ reg.tracked

variable {h : Handle}

omit [Cursor κ] in
theorem Tracks.change (ht : s.Tracks a h)
    (hf : b = a → ∀ reg : Registry, h ∈ reg.tracked → h ∈ (f reg s.readers).1.tracked) :
    (s.change b f).Tracks a h := by
  obtain ⟨reg, hreg, hmem⟩ := ht
  unfold Registries.change
  split
  · rename_i reg' hreg'
    by_cases hb : b = a
    · subst hb
      rw [hreg] at hreg'
      cases hreg'
      refine ⟨_, List.getElem?_set_self ?_, hf rfl reg hmem⟩
      exact (List.getElem?_eq_some_iff.mp hreg).1
    · exact ⟨reg, (List.getElem?_set_ne hb).trans hreg, hmem⟩
  · exact ⟨reg, hreg, hmem⟩

/-- No move but the closing of a reader with its identity, or of all, makes a registry forget a
reader. -/
theorem Tracks.move (ht : s.Tracks a h) {m : Move κ} (hm : m.spares a h.id = true) :
    (s.move m).Tracks a h := by
  cases m with
  | create settings capabilities =>
    obtain ⟨reg, hreg, hmem⟩ := ht
    have hlt := (List.getElem?_eq_some_iff.mp hreg).1
    exact ⟨reg, (List.getElem?_append_left hlt).trans hreg, hmem⟩
  | register b cursor =>
    refine Tracks.change ht fun _ reg hmem => ?_
    show h ∈ if reg.tracking then reg.tracked ++ [_] else reg.tracked
    split
    · exact List.mem_append_left _ hmem
    · exact hmem
  | use x way => exact ht
  | close b x =>
    refine Tracks.change ht fun hb reg hmem => List.mem_filter.mpr ⟨hmem, ?_⟩
    rcases Bool.or_eq_true_iff.mp hm with hm | hm
    · exact absurd hb (of_decide_eq_true hm)
    · exact decide_eq_true (of_decide_eq_true hm).symm
  | check b => exact Tracks.change ht fun _ _ hmem => hmem
  | closeAll b =>
    refine Tracks.change ht fun hb => ?_
    simp [Move.spares, hb] at hm

omit [Cursor κ] in
theorem tracks_register {reg : Registry} (hreg : s.all[a]? = some reg)
    (htracking : reg.tracking = true) (cursor : κ) :
    (s.change a (take cursor)).Tracks a (next reg s) := by
  have hlt := (List.getElem?_eq_some_iff.mp hreg).1
  unfold Registries.change
  rw [hreg]
  refine ⟨_, List.getElem?_set_self hlt, ?_⟩
  show next reg s ∈ if reg.tracking then reg.tracked ++ [next reg s] else reg.tracked
  rw [if_pos htracking]
  exact List.mem_append_right _ List.mem_cons_self

end Registries

namespace Registry

variable {reg : Registry} {rs : Readers κ} {h : Handle}

/-- The registry answers for a reader: it releases the reader's cursor before a command if only one
may be open, and it closes the reader with all others, counting it if it was open. -/
structure AnswersFor (reg : Registry) (rs : Readers κ) (h : Handle) : Prop where
  tracked : h ∈ reg.tracked
  released : reg.keepsSeveral = false → ∃ r r', rs.get? h.place = some r ∧
    (reg.checkReaders rs).readers.get? h.place = some r' ∧ r.MovesTo r'
  closed : (reg.closeAll rs).2.2.isClosed h.place = true
  counted : (reg.closeAll rs).1 =
    openCount (reg.tracked.erase h) rs + (!rs.isClosed h.place).toNat
  leaks : rs.isClosed h.place = false →
    leak true (reg.closeAll rs).1 = .error (.readerLeak (openCount (reg.tracked.erase h) rs + 1)) ∧
    leak false (reg.closeAll rs).1 = .ok [.readersLeaked (openCount (reg.tracked.erase h) rs + 1)]

theorem untrack_of_not_mem {id : ReaderId} (hid : id ∉ reg.ids) : reg.untrack id = reg := by
  have hall : reg.tracked.filter (·.id ≠ id) = reg.tracked := by
    rw [List.filter_eq_self]
    intro x hx
    refine decide_eq_true fun heq => hid ?_
    rw [← heq, mem_ids]
    exact List.mem_map_of_mem hx
  unfold untrack
  rw [hall]

/-- The registry forgets a reader when this handle is closed through it. Unless the handle is of the
reader itself, the reader is left as it is, then and in whatever the registry does afterwards. -/
structure Forgets (reg : Registry) (rs : Readers κ) (h x : Handle) : Prop where
  untracked : (reg.closeAndRemove x rs).1.tracked = reg.tracked.erase h
  leftAlone : x.place ≠ h.place →
    let (reg', rs') := reg.closeAndRemove x rs
    rs'.get? h.place = rs.get? h.place ∧
      (reg'.checkReaders rs').readers.get? h.place = rs.get? h.place ∧
      (reg'.closeAll rs').2.2.get? h.place = rs.get? h.place

theorem Sound.untrack_eq_erase (hsound : reg.Sound rs) (hh : h ∈ reg.tracked) :
    (reg.untrack h.id).tracked = reg.tracked.erase h := by
  have hdistinct : reg.tracked.Nodup := hsound.numbered.of_map _
  rw [hdistinct.erase_eq_filter]
  refine List.filter_congr fun y hy => ?_
  have hsame : y.id = h.id ↔ y = h :=
    ⟨fun hid => List.inj_on_of_nodup_map hsound.numbered hy hh hid, fun heq => heq ▸ rfl⟩
  by_cases heq : y = h <;> simp [hsame, heq]

theorem Sound.not_places_erase (hsound : reg.Sound rs) (hh : h ∈ reg.tracked) :
    ¬ places (reg.tracked.erase h) h.place := by
  rintro ⟨y, hy, hplace⟩
  have hdistinct : reg.tracked.Nodup := hsound.numbered.of_map _
  obtain ⟨hne, hy⟩ := hdistinct.mem_erase_iff.mp hy
  exact hne (List.inj_on_of_nodup_map hsound.distinct hy hh hplace)

theorem Sound.forgets (hsound : reg.Sound rs) (hh : h ∈ reg.tracked) {x : Handle}
    (hx : x.id = h.id) : reg.Forgets rs h x := by
  have htracked : (reg.untrack x.id).tracked = reg.tracked.erase h := by
    rw [hx, hsound.untrack_eq_erase hh]
  refine ⟨htracked, fun hne => ?_⟩
  have hclose : (closeOpen x.place rs).get? h.place = rs.get? h.place :=
    Readers.get?_closeOpen hne.symm
  have hnot : ¬ places (reg.untrack x.id).tracked h.place := by
    rw [htracked]
    exact hsound.not_places_erase hh
  exact ⟨hclose, (Readers.get?_checkReaders hnot).trans hclose,
    (Readers.get?_closeAll hnot).trans hclose⟩

theorem openCount_of_mem (hh : h ∈ reg.tracked) :
    (reg.closeAll rs).1 = openCount (reg.tracked.erase h) rs + (!rs.isClosed h.place).toNat := by
  show reg.tracked.countP _ = _
  rw [(List.perm_cons_erase hh).countP_eq, List.countP_cons, openCount]
  cases rs.isClosed h.place <;> rfl

theorem Sound.answersFor (hκ : Cursor.Releases κ) (hsound : reg.Sound rs) (hh : h ∈ reg.tracked) :
    reg.AnswersFor rs h where
  tracked := hh
  released hone := by
    have hr := List.getElem?_eq_getElem (hsound.there h hh)
    obtain ⟨r', hr', hmoves⟩ := release_movesTo hκ hsound.distinct (hsound.tame hone) hh hr
    refine ⟨_, r', hr, ?_, hmoves⟩
    rwa [checkReaders, hone, if_neg Bool.false_ne_true]
  closed := Readers.isClosed_closeAll hκ.close (.inr ⟨h, hh, rfl⟩)
  counted := openCount_of_mem hh
  leaks hopen := by
    rw [openCount_of_mem hh, hopen]
    exact ⟨rfl, rfl⟩

end Registry

namespace Registries

variable {a : Nat} {reg : Registry}

/-- In every run over any number of registries, a handle that a registry does not track by its
identity changes nothing about what the registry tracks, and one that it does makes it forget the
one reader with this identity, whether or not the handle is of this reader. A registry answers for a
reader that it has tracked from the beginning, until a handle with the identity of this reader is
closed through it or all its readers are closed. -/
theorem readers_stay_tracked (hκ : Cursor.Releases κ) (earlier later : List (Move κ)) (cursor : κ)
    (hreg : (({} : Registries κ).run earlier).all[a]? = some reg) (htracking : reg.tracking = true)
    (hlater : ∀ m ∈ later, m.spares a ⟨reg.issued + 1⟩ = true) :
    let s := ({} : Registries κ).run (earlier ++ .register a cursor :: later)
    (∀ reg' ∈ s.all, ∀ x : Handle, x.id ∉ reg'.ids →
      (reg'.closeAndRemove x s.readers).1.tracked = reg'.tracked) ∧
    (∀ reg' ∈ s.all, ∀ h ∈ reg'.tracked, ∀ x : Handle, x.id = h.id →
      reg'.Forgets s.readers h x) ∧
    ∃ reg', s.all[a]? = some reg' ∧
      reg'.AnswersFor s.readers (next reg (({} : Registries κ).run earlier)) := by
  intro s
  have hsound : s.Sound := Sound.run hκ (fun reg hreg => by cases hreg) _
  refine ⟨?_, ?_, ?_⟩
  · intro reg' _ x hx
    exact congrArg Registry.tracked (Registry.untrack_of_not_mem hx)
  · intro reg' hreg' h hh x hx
    exact (hsound reg' hreg').forgets hh hx
  · have hs : s = ((({} : Registries κ).run earlier).change a (take cursor)).run later :=
      List.foldl_append
    have htracks : s.Tracks a (next reg (({} : Registries κ).run earlier)) := by
      rw [hs]
      exact run_induction (fun _ m hm h => Tracks.move h (hlater m hm))
        (tracks_register hreg htracking cursor)
    obtain ⟨reg', hreg', hmem⟩ := htracks
    exact ⟨reg', hreg', (hsound reg' (List.mem_of_getElem? hreg')).answersFor hκ hmem⟩

/-- The first of two registries still answers for its only reader after a reader with the same
identity was closed through the other one. -/
theorem readers_stay_tracked_apart :
    let several : Capabilities := {}
    let one : Capabilities := { several with multipleOpenReaders := false }
    let s := ({} : Registries Buffered).run ([.create {} one, .create {} several] ++
      .register 0 { sets := [[]] } :: [.register 1 {}, .close 1 ⟨⟨1⟩, 1⟩, .use ⟨⟨1⟩, 0⟩ .nextRow])
    ∃ reg, s.all[0]? = some reg ∧ reg.AnswersFor s.readers ⟨⟨1⟩, 0⟩ := by
  intro several one s
  have hreg : (({} : Registries Buffered).run [.create {} one, .create {} several]).all[0]? =
      some (.create {} one) := rfl
  exact (readers_stay_tracked Buffered.releases [.create {} one, .create {} several]
    [.register 1 {}, .close 1 ⟨⟨1⟩, 1⟩, .use ⟨⟨1⟩, 0⟩ .nextRow] { sets := [[]] } hreg rfl
    (by decide)).2.2

/-- Two registries, each with an open reader of its own and a driver that keeps one cursor open. The
handle of the second one's reader is closed through the first. The first has then forgotten its own
reader, which stays open: its cursor is not released before the next command, and when all readers
of the registry are closed, it is neither closed nor counted. -/
theorem foreign_handle_untracks :
    let several : Capabilities := {}
    let one : Capabilities := { several with multipleOpenReaders := false }
    let start : Registries Buffered := ({} : Registries Buffered).run
      [.create {} one, .create {} one, .register 0 { sets := [[]] }, .register 1 { sets := [[]] }]
    let closed := start.move (.close 0 ⟨⟨1⟩, 1⟩)
    let checked := closed.move (.check 0)
    start.all.map (·.tracked) = [[⟨⟨1⟩, 0⟩], [⟨⟨1⟩, 1⟩]] ∧
      closed.all.map (·.tracked) = [[], [⟨⟨1⟩, 1⟩]] ∧
      closed.readers.isClosed 0 = false ∧ closed.readers.isClosed 1 = true ∧
      checked.readers.openCursors = 1 ∧
      checked.all[0]?.map (fun reg => (reg.closeAll checked.readers).1) = some 0 ∧
      (checked.move (.closeAll 0)).readers.isClosed 0 = false := by
  decide

end Registries

end OneConnection
