import Mathlib.Data.List.Forall2
import OneConnection.Proofs.Sql.Binding

/-!
# Renumbering

Counting the placeholders of a text further on changes their numbers and nothing else, also where a
quote is never closed. Counting on twice is counting on once, by both offsets.
-/

namespace OneConnection.Sql

open Text

/-- The second piece is the first one, counted `offset` places further on. What has no number that
can be read is the same in both. -/
inductive Piece.CountedOn (offset : Nat) : Piece → Piece → Prop
  | kept {p : Piece} (hunread : p.number? = none) : CountedOn offset p p
  | number {style : Style} {digits digits' : List Char} {n : Nat}
      (hbefore : natural? digits = some n) (hafter : natural? digits' = some (n + offset))
      (hwritten : digits' = if offset = 0 then digits else Nat.toDigits 10 (n + offset)) :
      CountedOn offset (.numbered style digits) (.numbered style digits')

variable {offset : Nat} {p : Piece}

theorem countedOn_renumber (hfits : ∀ n, p.number? = some n → n + offset < wordLimit) :
    p.CountedOn offset (renumber offset p) := by
  cases hnumber : p.number? with
  | none =>
    rw [renumber_of_unread hnumber]
    exact .kept hnumber
  | some n =>
    cases p with
    | numbered style digits =>
      have hafter := natural?_renumbered offset hnumber
      rw [renumber_of_read hnumber]
      rw [Nat.mod_eq_of_lt (hfits n hnumber)] at hafter ⊢
      exact .number hnumber hafter rfl
    | plain | literal | bare => cases hnumber

theorem renumber_renumber (a b : Nat) (p : Piece) :
    renumber b (renumber a p) = renumber (a + b) p := by
  cases hnumber : p.number? with
  | none => rw [renumber_of_unread hnumber, renumber_of_unread hnumber, renumber_of_unread hnumber]
  | some n =>
    cases p with
    | numbered style digits =>
      rw [renumber_of_read hnumber, renumber_of_read (natural?_renumbered a hnumber),
        renumber_of_read hnumber]
      by_cases hb : b = 0
      · subst b
        rfl
      · simp only [hb, if_false, Nat.add_eq_zero_iff, and_false, Nat.mod_add_mod, Nat.add_assoc]
    | plain | literal | bare => cases hnumber

/-- In a text whose placeholders are counted on, every piece is the piece in its place, counted on:
placeholders have their new numbers, and literals and all that stands in between are as before. To
count on by two offsets, one after the other, is to count on by their sum. -/
theorem shifted_placeholders {a b : Nat} {cs : List Char}
    (hfits : ∀ p ∈ pieces cs, ∀ n, p.number? = some n → n + a + b < wordLimit) :
    List.Forall₂ (Piece.CountedOn a) (pieces cs) (pieces (shiftPlaceholders a cs)) ∧
      shiftPlaceholders b (shiftPlaceholders a cs) = shiftPlaceholders (a + b) cs := by
  have hfirst : ∀ p ∈ pieces cs, ∀ n, p.number? = some n → n + a < wordLimit :=
    fun p hp n hn => Nat.lt_of_le_of_lt (Nat.le_add_right ..) (hfits p hp n hn)
  constructor
  · rw [pieces_shiftPlaceholders, List.forall₂_map_right_iff, List.forall₂_same]
    exact fun p hp => countedOn_renumber (hfirst p hp)
  · rw [shiftPlaceholders_eq b, pieces_shiftPlaceholders, List.map_map,
      shiftPlaceholders_eq (a + b)]
    congr 1
    exact List.map_congr_left fun p _ => renumber_renumber a b p

/-- Numbers with zeros in front, in a literal, in digits of another script, too large for a word, and
behind a quote that is never closed. -/
theorem shifted_placeholders_unclosed :
    let cs := "a = $007 AND b = '$1' AND c = @p٣ AND d = :p99999999999999999999 OR e = '?9".toList
    (∀ p ∈ pieces cs, ∀ n, p.number? = some n → n + 3 + 90 < wordLimit) ∧
      List.Forall₂ (Piece.CountedOn 3) (pieces cs) (pieces
        "a = $10 AND b = '$1' AND c = @p٣ AND d = :p99999999999999999999 OR e = '?12".toList) ∧
      shiftPlaceholders 90 (shiftPlaceholders 3 cs) =
        "a = $100 AND b = '$1' AND c = @p٣ AND d = :p99999999999999999999 OR e = '?102".toList := by
  intro cs
  have hfits : ∀ p ∈ pieces cs, ∀ n, p.number? = some n → n + 3 + 90 < wordLimit := by
    have hnumbers : (pieces cs).filterMap Piece.number? = [7, 9] := by decide +kernel
    intro p hp n hn
    have hmem : n ∈ (pieces cs).filterMap Piece.number? := List.mem_filterMap.mpr ⟨p, hp, hn⟩
    have hcases : n = 7 ∨ n = 9 := by simpa [hnumbers] using hmem
    have hlimit : 102 < wordLimit := by decide
    omega
  obtain ⟨hpieces, htwice⟩ := shifted_placeholders hfits
  have honce : shiftPlaceholders 3 cs =
      "a = $10 AND b = '$1' AND c = @p٣ AND d = :p99999999999999999999 OR e = '?12".toList := by
    decide +kernel
  rw [honce] at hpieces
  exact ⟨hfits, hpieces, htwice.trans (by decide +kernel)⟩

end OneConnection.Sql
