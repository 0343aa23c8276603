import Mathlib.Algebra.Ring.Nat
import Mathlib.Data.List.Basic
import Mathlib.Data.List.Induction
import OneConnection.Proofs.Sql.Binding

/-!
# Values across the statements of a combined command

A numbered placeholder of a statement reads from the values of its own statement and of the
statements after it, unless its number is zero or gets too large for a word. A bare one takes the
next value of the whole text.
-/

namespace OneConnection

namespace Sql

open Text

/-! ## Values of places -/

namespace Piece

def isPlaceholder : Piece → Bool
  | .numbered .. | .bare => true
  | _ => false

/-- The index of the value that a numbered placeholder stands for. -/
def index? : Piece → Option Nat
  | .numbered style digits => (natural? digits).bind style.index?
  | _ => none

end Piece

/-- The value that the piece at a place of a text stands for. -/
def valueIn? (params : List Value) (ps : List Piece) (place : Nat) : Option Value :=
  ps[place]?.bind (·.valueAt? params ((ps.take place).count .bare))

/-- Expanding a text puts the literal of its value at each place, or leaves the piece there. -/
theorem expandPieces_eq_flatMap (params : List Value) (ps : List Piece) :
    expandPieces params 0 ps = (List.range ps.length).flatMap fun place =>
      (valueIn? params ps place).elim (spell ps[place]?.toList) Value.literal := by
  -- From the last piece on, since what comes before it stays what it is.
  induction ps using List.reverseRecOn with
  | nil => rfl
  | append_singleton ps p ih =>
    rw [expandPieces_append, ih, List.length_append, List.length_singleton, List.range_succ,
      List.flatMap_append, List.flatMap_singleton]
    congr 1
    · refine List.flatMap_congr fun place hplace => ?_
      have hlt : place < ps.length := List.mem_range.mp hplace
      rw [valueIn?, valueIn?, List.getElem?_append_left hlt,
        List.take_append_of_le_length (Nat.le_of_lt hlt)]
    · rw [valueIn?, List.getElem?_concat_length, List.take_left, Nat.zero_add, Option.bind_some]
      simp only [expandPieces, List.append_nil, Piece.expanded]
      cases p.valueAt? params (ps.count .bare) with
      | some v => rfl
      | none => exact (List.append_nil _).symm

theorem isPlaceholder_renumber (offset : Nat) (p : Piece) :
    (renumber offset p).isPlaceholder = p.isPlaceholder := by
  have h := respells_renumber offset
  cases p with
  | plain c => rw [h.plain]
  | literal text => rw [h.literal]
  | bare => rw [h.bare]
  | numbered style digits =>
    obtain ⟨digits', heq, -⟩ := h.numbered style digits
    rw [heq]
    rfl

/-- A number that cannot be read stands for nothing. -/
theorem valueAt?_of_unread {offset next : Nat} {all : List Value} {p : Piece} (hp : p ≠ .bare)
    (hnumber : p.number? = none) : (renumber offset p).valueAt? all next = none := by
  rw [renumber_of_unread hnumber]
  cases p with
  | plain | literal => rfl
  | bare => exact absurd rfl hp
  | numbered style digits =>
    have hread : natural? digits = none := hnumber
    simp [Piece.valueAt?, hread]

end Sql

namespace Command

open Sql Text

/-! ## Statements in their places -/

/-- How many pieces of a combined command come before a statement. -/
def piecesBefore (cs : List Command) (k : Nat) : Nat :=
  ((cs.take k).map fun c => (pieces c.statement).length + separator.length).sum

/-- How many bare placeholders of a combined command come before a statement. -/
def baresBefore (cs : List Command) (k : Nat) : Nat :=
  ((cs.take k).map fun c => (pieces c.statement).count .bare).sum

/-- How many values of a combined command come before those of a statement. -/
def valuesBefore (cs : List Command) (k : Nat) : Nat := ((cs.take k).flatMap params).length

/-- The cut part of a text holds no quote. -/
theorem count_quote_statement (c : Command) :
    c.statement.count '\'' = c.sql.toList.count '\'' := by
  obtain ⟨rest, htext, hcut⟩ := c.statement_append
  have hnone : rest.count '\'' = 0 := by
    rw [List.count_eq_zero]
    intro hmem
    exact absurd (hcut _ hmem) (by decide)
  rw [htext, List.count_append, hnone, Nat.add_zero]

theorem pieces_statements_singleton (offset : Nat) (c : Command) :
    pieces (separator.intercalate (statements offset [c])) =
      (pieces c.statement).map (renumber offset) := by
  rw [statements, statements, List.intercalate_singleton, pieces_shiftPlaceholders]

theorem pieces_statements_cons {c : Command} {rest : List Command}
    (heven : c.statement.count '\'' % 2 = 0) (offset : Nat) (hrest : rest ≠ []) :
    pieces (separator.intercalate (statements offset (c :: rest))) =
      (pieces c.statement).map (renumber offset) ++ (separator.map .plain ++
        pieces (separator.intercalate (statements (offset + c.params.length) rest))) := by
  obtain ⟨d, rest, rfl⟩ := List.exists_cons_of_ne_nil hrest
  have hjoined : separator.intercalate (statements offset (c :: d :: rest)) =
      shiftPlaceholders offset c.statement ++ (separator ++
        separator.intercalate (statements (offset + c.params.length) (d :: rest))) := by
    rw [← List.append_assoc]
    exact List.intercalate_cons_cons
  rw [hjoined, shiftPlaceholders_eq,
    pieces_respell_append (respells_renumber offset) (separates_separator _) (.inl heven),
    pieces_separator]

/-- The pieces of a combined command, with those of one statement in their place. -/
theorem pieces_statements_split {cs : List Command}
    (heven : ∀ c ∈ cs, c.statement.count '\'' % 2 = 0) {k : Nat} {c : Command}
    (hk : cs[k]? = some c) (offset : Nat) :
    ∃ before after, pieces (separator.intercalate (statements offset cs)) =
        before ++ ((pieces c.statement).map (renumber (offset + valuesBefore cs k)) ++ after) ∧
      before.length = piecesBefore cs k ∧ before.count .bare = baresBefore cs k := by
  induction cs generalizing k offset with
  | nil => cases hk
  | cons d rest ih =>
    have hd := heven d List.mem_cons_self
    cases k with
    | zero =>
      cases hk
      refine ⟨[], ?_⟩
      by_cases hrest : rest = []
      · subst hrest
        exact ⟨[], by rw [pieces_statements_singleton]; simp [valuesBefore], rfl, rfl⟩
      · exact ⟨_, pieces_statements_cons hd offset hrest, rfl, rfl⟩
    | succ k =>
      have hrest : rest ≠ [] := by
        rintro rfl
        cases hk
      obtain ⟨before, after, hpieces, hlength, hbare⟩ :=
        ih (fun x hx => heven x (List.mem_cons_of_mem d hx)) hk (offset + d.params.length)
      refine ⟨(pieces d.statement).map (renumber offset) ++ (separator.map .plain ++ before), after,
        ?_, ?_, ?_⟩
      · have hvalues : offset + d.params.length + valuesBefore rest k =
            offset + valuesBefore (d :: rest) (k + 1) := by
          simp [valuesBefore, Nat.add_assoc]
        rw [pieces_statements_cons hd offset hrest, hpieces, hvalues]
        simp only [List.append_assoc]
      · simp [hlength, piecesBefore, Nat.add_assoc]
      · have hplain : (separator.map Piece.plain).count .bare = 0 := by decide
        rw [List.count_append, List.count_append, count_bare_renumber, hplain, hbare]
        simp [baresBefore]

/-- A piece of a statement is in the place behind the statements before it. -/
theorem getElem?_pieces_statements {cs : List Command}
    (heven : ∀ c ∈ cs, c.statement.count '\'' % 2 = 0) {k j : Nat} {c : Command} {p : Piece}
    (hk : cs[k]? = some c) (hj : (pieces c.statement)[j]? = some p) :
    (pieces (separator.intercalate (statements 0 cs)))[piecesBefore cs k + j]? =
        some (renumber (valuesBefore cs k) p) ∧
      ((pieces (separator.intercalate (statements 0 cs))).take
        (piecesBefore cs k + j)).count .bare =
        baresBefore cs k + ((pieces c.statement).take j).count .bare := by
  obtain ⟨before, after, hpieces, hlength, hbare⟩ := pieces_statements_split heven hk 0
  rw [Nat.zero_add] at hpieces
  have hlt : j < (pieces c.statement).length := (List.getElem?_eq_some_iff.mp hj).1
  rw [← List.length_map (renumber (valuesBefore cs k))] at hlt
  rw [hpieces, ← hlength, ← hbare]
  constructor
  · rw [List.getElem?_append_right (Nat.le_add_right ..), Nat.add_sub_cancel_left,
      List.getElem?_append_left hlt, List.getElem?_map, hj]
    rfl
  · rw [List.take_length_add_append, List.take_append_of_le_length (Nat.le_of_lt hlt),
      ← List.map_take, List.count_append, count_bare_renumber]

/-- Every placeholder of a combined command is one of a statement. -/
theorem exists_statement_of_placeholder {cs : List Command}
    (heven : ∀ c ∈ cs, c.statement.count '\'' % 2 = 0) {offset place : Nat} {p : Piece}
    (hp : (pieces (separator.intercalate (statements offset cs)))[place]? = some p)
    (hplaceholder : p.isPlaceholder = true) :
    ∃ k c j own, cs[k]? = some c ∧ (pieces c.statement)[j]? = some own ∧
      own.isPlaceholder = true ∧ place = piecesBefore cs k + j := by
  induction cs generalizing offset place with
  | nil =>
    rw [statements, List.intercalate_nil, pieces_nil] at hp
    cases hp
  | cons d rest ih =>
    have hd := heven d List.mem_cons_self
    have hfirst : ((pieces d.statement).map (renumber offset))[place]? = some p →
        ∃ k c j own, (d :: rest)[k]? = some c ∧ (pieces c.statement)[j]? = some own ∧
          own.isPlaceholder = true ∧ place = piecesBefore (d :: rest) k + j := by
      intro h
      rw [List.getElem?_map, Option.map_eq_some_iff] at h
      obtain ⟨own, hown, rfl⟩ := h
      rw [isPlaceholder_renumber] at hplaceholder
      exact ⟨0, d, place, own, rfl, hown, hplaceholder, (Nat.zero_add _).symm⟩
    by_cases hrest : rest = []
    · subst hrest
      rw [pieces_statements_singleton] at hp
      exact hfirst hp
    · rw [pieces_statements_cons hd offset hrest] at hp
      rcases Nat.lt_or_ge place ((pieces d.statement).map (renumber offset)).length with hlt | hge
      · rw [List.getElem?_append_left hlt] at hp
        exact hfirst hp
      · rw [List.getElem?_append_right hge] at hp
        rcases Nat.lt_or_ge (place - ((pieces d.statement).map (renumber offset)).length)
          (separator.map Piece.plain).length with hlt' | hge'
        · -- The separator has no placeholder.
          rw [List.getElem?_append_left hlt', List.getElem?_map, Option.map_eq_some_iff] at hp
          obtain ⟨c, -, rfl⟩ := hp
          cases hplaceholder
        · rw [List.getElem?_append_right hge'] at hp
          obtain ⟨k, c, j, own, hk, hj, hown, hplace⟩ :=
            ih (fun x hx => heven x (List.mem_cons_of_mem d hx)) hp
          refine ⟨k + 1, c, j, own, hk, hj, hown, ?_⟩
          simp only [List.length_map] at hge hge' hplace
          simp only [piecesBefore, List.take_succ_cons, List.map_cons, List.sum_cons] at hplace ⊢
          omega

/-- The placeholders of a command and of its statement have the same places. -/
theorem getElem?_pieces_sql {c : Command} (heven : c.statement.count '\'' % 2 = 0) {j : Nat}
    {p : Piece} (hp : p.isPlaceholder = true) :
    (pieces c.sql.toList)[j]? = some p ↔ (pieces c.statement)[j]? = some p := by
  obtain ⟨rest, hpieces⟩ := c.pieces_sql heven
  rw [hpieces]
  rcases Nat.lt_or_ge j (pieces c.statement).length with hlt | hge
  · rw [List.getElem?_append_left hlt]
  · rw [List.getElem?_append_right hge, List.getElem?_eq_none hge, List.getElem?_map]
    constructor
    · intro h
      obtain ⟨d, -, rfl⟩ := Option.map_eq_some_iff.mp h
      cases hp
    · exact nofun

theorem take_pieces_sql {c : Command} (heven : c.statement.count '\'' % 2 = 0) {j : Nat}
    (hj : j < (pieces c.statement).length) :
    (pieces c.sql.toList).take j = (pieces c.statement).take j := by
  obtain ⟨rest, hpieces⟩ := c.pieces_sql heven
  rw [hpieces, List.take_append_of_le_length (Nat.le_of_lt hj)]

/-! ## Values -/

/-- What the placeholder `p` at place `j` of a command stands for when the command is combined with
others as their `k`-th. A number that names a value of its own command goes on naming it, and one
past these names a value of a later command. Of the numbers only two kinds name an earlier value:
zero, where numbers count from one, and a number that gets too large for a word. -/
structure Resolves (cs : List Command) (k : Nat) (c : Command) (j : Nat) (p : Piece)
    (value : Option Value) : Prop where
  own : ∀ i, p.index? = some i → i < c.params.length → value = c.params[i]?
  later : ∀ n i, p.number? = some n → n + valuesBefore cs k < wordLimit → p.index? = some i →
    c.params.length ≤ i → value = ((cs.drop (k + 1)).flatMap params)[i - c.params.length]?
  zero : p.number? = some 0 → p.index? = none → value = ((cs.take k).flatMap params).getLast?
  wrapped : ∀ style digits n, p = .numbered style digits → natural? digits = some n →
    wordLimit ≤ n + valuesBefore cs k →
      value = (style.index? (n + valuesBefore cs k - wordLimit)).bind ((cs.flatMap params)[·]?)
  unread : p ≠ .bare → p.number? = none → value = none
  bare : p = .bare → value =
    (cs.flatMap params)[baresBefore cs k + ((pieces c.sql.toList).take j).count .bare]?

theorem flatMap_params_split {cs : List Command} {k : Nat} {c : Command} (hk : cs[k]? = some c) :
    cs.flatMap params =
      (cs.take k).flatMap params ++ (c.params ++ (cs.drop (k + 1)).flatMap params) := by
  obtain ⟨hlt, rfl⟩ := List.getElem?_eq_some_iff.mp hk
  rw [← List.flatMap_cons, List.getElem_cons_drop hlt, ← List.flatMap_append, List.take_append_drop]

/-- The values of a statement and of those after it are the values of the whole from a place on. -/
theorem getElem?_flatMap_params {cs : List Command} {k : Nat} {c : Command} (hk : cs[k]? = some c)
    (i : Nat) : (cs.flatMap params)[i + valuesBefore cs k]? =
      (c.params ++ (cs.drop (k + 1)).flatMap params)[i]? := by
  rw [flatMap_params_split hk, valuesBefore, List.getElem?_append_right (Nat.le_add_left ..),
    Nat.add_sub_cancel]

/-- The number zero is counted on to the number of the last value before the statement. -/
theorem getElem?_index?_valuesBefore {cs : List Command} {k : Nat} {style : Style}
    (hzero : style.index? 0 = none) :
    (style.index? (valuesBefore cs k)).bind ((cs.flatMap params)[·]?) =
      ((cs.take k).flatMap params).getLast? := by
  have hindex : style.index? (valuesBefore cs k) =
      if valuesBefore cs k = 0 then none else some (valuesBefore cs k - 1) := by
    cases style with
    | dollar | question => rfl
    | «at» | colon => cases hzero
  rw [hindex, List.getLast?_eq_getElem?]
  unfold valuesBefore
  split
  · rename_i hnone
    rw [hnone, List.length_eq_zero_iff.mp hnone]
    rfl
  · rename_i hsome
    have hsplit : cs.flatMap params =
        (cs.take k).flatMap params ++ (cs.drop k).flatMap params := by
      rw [← List.flatMap_append, List.take_append_drop]
    rw [Option.bind_some, hsplit, List.getElem?_append_left (by omega)]

theorem resolves_renumber {cs : List Command} (hfits : (cs.flatMap params).length < wordLimit)
    {k j : Nat} {c : Command} {p : Piece} (hk : cs[k]? = some c) :
    Resolves cs k c j p ((renumber (valuesBefore cs k) p).valueAt? (cs.flatMap params)
      (baresBefore cs k + ((pieces c.sql.toList).take j).count .bare)) := by
  have hlength : valuesBefore cs k + c.params.length ≤ (cs.flatMap params).length := by
    rw [flatMap_params_split hk, List.length_append, List.length_append, valuesBefore]
    omega
  have hnamed : ∀ next n i, p.number? = some n → n + valuesBefore cs k < wordLimit →
      p.index? = some i → (renumber (valuesBefore cs k) p).valueAt? (cs.flatMap params) next =
        (c.params ++ (cs.drop (k + 1)).flatMap params)[i]? := by
    intro next n i hn hlt hi
    rw [← getElem?_flatMap_params hk]
    cases p with
    | numbered style digits =>
      obtain ⟨n', hn', hi⟩ := Option.bind_eq_some_iff.mp hi
      obtain rfl : n' = n := Option.some.inj (hn'.symm.trans hn)
      exact valueAt?_renumber_of_fits hlt hn hi
    | plain | literal | bare => cases hi
  constructor
  · intro i hi hlt
    cases p with
    | numbered style digits =>
      obtain ⟨n, hn, hindex⟩ := Option.bind_eq_some_iff.mp hi
      have hle := (style.index?_add hindex 0).2
      rw [hnamed _ n i hn (by omega) hi, List.getElem?_append_left hlt]
    | plain | literal | bare => cases hi
  · intro n i hn hfits hi hle
    rw [hnamed _ n i hn hfits hi, List.getElem?_append_right hle]
  · intro hn hnone
    cases p with
    | numbered style digits =>
      have hn : natural? digits = some 0 := hn
      have hzero : style.index? 0 = none := by simpa [Piece.index?, hn] using hnone
      rw [valueAt?_renumber hn, Nat.zero_add, Nat.mod_eq_of_lt (by omega),
        getElem?_index?_valuesBefore hzero]
    | plain | literal | bare => cases hn
  · rintro style digits n rfl hn hwraps
    have hlt := natural?_lt hn
    rw [valueAt?_renumber hn, Nat.mod_eq_sub_mod hwraps, Nat.mod_eq_of_lt (by omega)]
  · exact valueAt?_of_unread
  · rintro rfl
    rw [(respells_renumber _).bare]
    rfl

/-- The placeholders of a combined command are those of its commands, renumbered, and expanding it
puts the value that each of them stands for in its place. But for the number zero and for numbers
that get too large, a numbered one never stands for a value of an earlier command; a bare one counts
the bare ones of the whole. -/
theorem placeholders_combine {cs : List Command}
    (hquotes : ∀ c ∈ cs, c.sql.toList.count '\'' % 2 = 0)
    (hfits : (cs.flatMap params).length < wordLimit) :
    let ps := pieces (combine cs).sql.toList
    (expandParameters (combine cs).params (combine cs).sql.toList =
      (List.range ps.length).flatMap fun place =>
        (valueIn? (combine cs).params ps place).elim (spell ps[place]?.toList) Value.literal) ∧
    (∀ place p, ps[place]? = some p → p.isPlaceholder = true →
      ∃ k c j own, cs[k]? = some c ∧ (pieces c.sql.toList)[j]? = some own ∧
        own.isPlaceholder = true ∧ place = piecesBefore cs k + j) ∧
    ∀ k c j own, cs[k]? = some c → (pieces c.sql.toList)[j]? = some own →
      own.isPlaceholder = true →
      ps[piecesBefore cs k + j]? = some (renumber (valuesBefore cs k) own) ∧
      Resolves cs k c j own (valueIn? (combine cs).params ps (piecesBefore cs k + j)) := by
  intro ps
  have heven : ∀ c ∈ cs, c.statement.count '\'' % 2 = 0 := by
    intro c hc
    rw [count_quote_statement]
    exact hquotes c hc
  have hps : ps = pieces (separator.intercalate (statements 0 cs)) :=
    congrArg pieces String.toList_ofList
  refine ⟨expandPieces_eq_flatMap (combine cs).params ps, ?_, ?_⟩
  · intro place p hp hplaceholder
    rw [hps] at hp
    obtain ⟨k, c, j, own, hk, hj, hown, hplace⟩ :=
      exists_statement_of_placeholder heven hp hplaceholder
    have hc := heven c (List.mem_of_getElem? hk)
    exact ⟨k, c, j, own, hk, (getElem?_pieces_sql hc hown).mpr hj, hown, hplace⟩
  · intro k c j own hk hsqlj hown
    have hc := heven c (List.mem_of_getElem? hk)
    have hj := (getElem?_pieces_sql hc hown).mp hsqlj
    have hlt : j < (pieces c.statement).length := (List.getElem?_eq_some_iff.mp hj).1
    obtain ⟨hpiece, hcount⟩ := getElem?_pieces_statements heven hk hj
    rw [← hps] at hpiece hcount
    refine ⟨hpiece, ?_⟩
    rw [valueIn?, hpiece, hcount, ← take_pieces_sql hc hlt, Option.bind_some]
    exact resolves_renumber hfits hk

/-- Two statements that both count from one. The second one's placeholder is in place 11. -/
theorem placeholders_combine_pair :
    let cs : List Command := [{ sql := "a = $1", params := [.bool true] },
      { sql := "b = $1", params := [.null] }]
    (pieces (combine cs).sql.toList)[11]? = some (.numbered .dollar ['2']) ∧
      valueIn? (combine cs).params (pieces (combine cs).sql.toList) 11 = some .null := by
  intro cs
  have hquotes : ∀ c ∈ cs, c.sql.toList.count '\'' % 2 = 0 := by decide +kernel
  have hfits : (cs.flatMap params).length < wordLimit := by decide
  have hpiece : (pieces "b = $1".toList)[4]? = some (.numbered .dollar ['1']) := by decide +kernel
  have hplace : piecesBefore cs 1 + 4 = 11 := by decide +kernel
  have h := (placeholders_combine hquotes hfits).2.2 1 _ 4 _ rfl hpiece rfl
  rw [hplace] at h
  exact ⟨h.1.trans (by decide +kernel), h.2.own 0 (by decide +kernel) (by decide)⟩

/-- In the combined command, the placeholders of each command stand for its own values only. -/
def KeepsApart (cs : List Command) : Prop :=
  ∀ k c j p, cs[k]? = some c → (pieces c.sql.toList)[j]? = some p → p.isPlaceholder = true →
    ∀ v, valueIn? (combine cs).params (pieces (combine cs).sql.toList) (piecesBefore cs k + j) =
      some v → v ∈ c.params

/-- Values are read across statements by a bare placeholder behind a numbered one, by a number past
the values of its own command, by the number zero where numbers count from one, and by a number that
gets too large for a word. -/
theorem not_keepsApart :
    ¬ KeepsApart [{ sql := "a = $1", params := [.bool true] },
        { sql := "b = ?", params := [.null] }] ∧
      ¬ KeepsApart [{ sql := "a = $2", params := [.bool true] },
        { sql := "b = $1", params := [.null] }] ∧
      ¬ KeepsApart [{ sql := "a = $1", params := [.bool true] },
        { sql := "b = $0", params := [.null] }] ∧
      ¬ KeepsApart [{ sql := "a = $1", params := [.bool true, .null] },
        { sql := "b = $18446744073709551615", params := [.null] }] := by
  refine ⟨fun h => ?_, fun h => ?_, fun h => ?_, fun h => ?_⟩
  · have hbare : (pieces "b = ?".toList)[4]? = some .bare := by decide +kernel
    have hmem := h 1 _ 4 _ rfl hbare rfl (.bool true) (by with_unfolding_all rfl)
    simp at hmem
  · have hpast : (pieces "a = $2".toList)[4]? = some (.numbered .dollar ['2']) := by decide +kernel
    have hmem := h 0 _ 4 _ rfl hpast rfl .null (by with_unfolding_all rfl)
    simp at hmem
  · have hzero : (pieces "b = $0".toList)[4]? = some (.numbered .dollar ['0']) := by decide +kernel
    have hmem := h 1 _ 4 _ rfl hzero rfl (.bool true) (by with_unfolding_all rfl)
    simp at hmem
  · have hlarge : (pieces "b = $18446744073709551615".toList)[4]? =
        some (.numbered .dollar "18446744073709551615".toList) := by decide +kernel
    have hmem := h 1 _ 4 _ rfl hlarge rfl (.bool true) (by with_unfolding_all rfl)
    simp at hmem

end Command

end OneConnection
