import OneConnection.Proofs.Endurance
import OneConnection.Proofs.Readers.Order

/-!
# Sound connections

What holds of a connection between any two small steps: its readers are in order, and no cursor was
open at a call if the driver keeps only one.
-/

namespace OneConnection

variable {δ κ : Type} [Cursor κ] {setup : Setup δ κ}

/-- `held` are the handles that callers have, `busy` says whether a call is on its way, and `out` is
the cursor that it has opened. -/
structure Sound (strict : Bool) (held : List Handle) (busy : Bool) (out : Option (Nat × κ))
    (conn : Connection δ κ) : Prop where
  access : conn.isBusy = busy
  order : ∃ all, (∀ h ∈ held, h ∈ all) ∧ Orderly strict all out conn.registry conn.readers
  alone : strict = true → ∀ call, .called call ∈ conn.history → call.openBefore = 0

namespace Sound

variable {strict busy : Bool} {held : List Handle} {out : Option (Nat × κ)}
  {conn : Connection δ κ}

theorem create (setup : Setup δ κ) (database : δ)
    (hs : strict = true → setup.driver.capabilities.multipleOpenReaders = false) :
    Sound strict [] false none (.create setup database : Connection δ κ) where
  access := rfl
  order := ⟨[], nofun, Orderly.create _ _ hs⟩
  alone _ _ h := nomatch h

/-! ## Small steps -/

theorem setAccess (access : Access) (h : Sound strict held busy out conn) :
    Sound strict held (access = .held) out (conn.setAccess access) :=
  ⟨rfl, h.order, h.alone⟩

theorem count (f : Stats → Stats) (h : Sound strict held busy out conn) :
    Sound strict held busy out (conn.count f) :=
  ⟨h.access, h.order, h.alone⟩

theorem noted : Noted (Sound (δ := δ) strict held busy out) := by
  intro conn event he h
  refine ⟨h.access, h.order, ?_⟩
  intro hm call hc
  rcases List.mem_append.mp hc with hc | hc
  · exact h.alone hm call hc
  · rw [← List.mem_singleton.mp hc] at he
    cases he

/-- Steps on the readers that keep their order. -/
theorem hold {reg : Registry} {rs : Readers κ} (h : Sound strict held busy out conn)
    (out' : Option (Nat × κ)) (contexts : Contexts)
    (horder : ∀ all, (∀ x ∈ held, x ∈ all) → Orderly strict all out conn.registry conn.readers →
      Orderly strict all out' reg rs) :
    Sound strict held busy out' { conn with registry := reg, readers := rs, contexts } := by
  obtain ⟨all, hheld, ho⟩ := h.order
  exact ⟨h.access, ⟨all, hheld, horder all hheld ho⟩, h.alone⟩

theorem forget (h : Sound strict held busy out conn) {fewer : List Handle}
    (hf : ∀ x ∈ fewer, x ∈ held) : Sound strict fewer busy out conn := by
  obtain ⟨all, hheld, ho⟩ := h.order
  exact ⟨h.access, ⟨all, fun x hx => hheld x (hf x hx), ho⟩, h.alone⟩

theorem fetch {α : Type} {x : Handle} (hx : x ∈ held) {f : Reader κ → Fetch (Reader κ) α}
    (hf : strict = true → ∀ r : Reader κ, r.Calm (f r).cursor)
    (h : Sound strict held busy out conn) :
    Sound strict held busy out (conn.fetch x.place f).2 :=
  h.hold out _ fun _ hheld ho => ho.settles_place (hheld x hx) (.fetch x.place hf)

theorem register {p : Nat} {c : κ} (h : Sound strict held busy (some (p, c)) conn) :
    Sound strict (held ++ [(conn.register p).1]) busy none (conn.register p).2 := by
  obtain ⟨all, hheld, ho⟩ := h.order
  refine ⟨h.access, ⟨_, ?_, ho.register⟩, h.alone⟩
  intro x hx
  rcases List.mem_append.mp hx with hx | hx
  · exact List.mem_append_left _ (hheld x hx)
  · exact List.mem_append_right _ hx

theorem keep (outcome : Outcome κ) (h : Sound strict held busy none conn) :
    ∃ out, out.map Prod.fst = (Dispatch.keep outcome conn).1.value? ∧
      out.map Prod.snd = outcome.value? ∧
      Sound strict held busy out (Dispatch.keep outcome conn).2 := by
  cases outcome with
  | ok cursor => exact ⟨some (_, cursor), rfl, rfl, h.hold _ _ fun _ _ ho => ho.add cursor⟩
  | error | cancelled | panicked => exact ⟨none, rfl, rfl, h⟩

section

variable (hκ : strict = true → Cursor.Releases κ)
include hκ

theorem discard {p : Nat} {c : κ} (h : Sound strict held busy (some (p, c)) conn) :
    Sound strict held busy none (conn.dropCursor p) :=
  h.hold none _ fun _ _ ho => ho.discard hκ

theorem closeReader {x : Handle} (hx : x ∈ held) (h : Sound strict held busy out conn) :
    Sound strict held busy out (conn.closeReader x) :=
  h.hold out _ fun _ hheld ho => ho.closeAndRemove hκ (hheld x hx)

theorem dropReader {x : Handle} (hx : x ∈ held) (h : Sound strict held busy out conn) :
    Sound strict held busy out (conn.dropReader x) := by
  unfold Connection.dropReader
  split
  · exact h
  · exact h.hold out _ fun _ hheld ho => ho.closeOpen hκ (hheld x hx)

theorem use {x : Handle} (hx : x ∈ held) (way : Use) (h : Sound strict held busy out conn) :
    Sound strict held busy out (conn.use x.place way) := by
  cases way with
  | nextRow => exact h.fetch hx fun hs => Reader.calm_nextRow (hκ hs)
  | nextResult => exact h.fetch hx fun hs => Reader.calm_nextResult (hκ hs)
  | buffer => exact h.fetch hx fun hs => Reader.calm_readIntoMemory (hκ hs)
  | close =>
    refine h.hold out _ fun _ hheld ho => ho.settles_place (hheld x hx) ?_
    exact .update x.place fun hs r _ => Reader.calm_close (hκ hs) r

theorem closeAllReaders (h : Sound strict held busy out conn) :
    Sound strict held busy out conn.closeAllReaders.2 :=
  h.hold out _ fun _ _ ho => ho.closeAll hκ

theorem checkReaders (h : Sound strict held busy out conn) :
    Sound strict held busy out conn.checkReaders.2 := by
  apply noted.warnAll fun (x : ReaderId × Error) => .bufferingFailed x.1 x.2
  exact h.hold out _ fun _ _ ho => ho.checkReaders hκ

end

end Sound

end OneConnection
