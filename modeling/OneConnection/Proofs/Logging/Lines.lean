import OneConnection.Proofs.Sql.Layout
import OneConnection.Proofs.Sql.Placing
import OneConnection.StatementLog

/-!
# Logged lines

What becomes of a statement in the log: its values are put in place, and it is broken into lines
without touching a quoted literal. Main statement: `StatementLog.line_breaks_outside`.
-/

namespace OneConnection

/-! ## Numbers without quotes -/

theorem quote_not_mem_toDigits (n : Nat) : '\'' ∉ Nat.toDigits 10 n := by
  intro hmem
  exact absurd (Sql.isAsciiDigit_of_mem_toDigits hmem) (by decide)

theorem quote_not_mem_toString (n : Int) : '\'' ∉ (toString n).toList := by
  cases n with
  | ofNat m =>
    have htext : toString (Int.ofNat m) = toString m := rfl
    rw [htext, Nat.toString_eq_ofList_toDigits, String.toList_ofList]
    exact quote_not_mem_toDigits m
  | negSucc m =>
    have htext : toString (Int.negSucc m) = "-" ++ toString (m + 1) := rfl
    rw [htext, Nat.toString_eq_ofList_toDigits, String.toList_append, List.mem_append, not_or]
    refine ⟨by decide, ?_⟩
    rw [String.toList_ofList]
    exact quote_not_mem_toDigits (m + 1)

namespace Binary64

theorem quote_not_mem_withoutZeros (n : Nat) : '\'' ∉ (withoutZeros n).1 := by
  unfold withoutZeros
  dsimp only
  split
  · exact quote_not_mem_toDigits n
  · exact fun hmem => quote_not_mem_toDigits n (List.mem_of_mem_take hmem)

variable {digits : List Char}

theorem quote_not_mem_writePositional (h : '\'' ∉ digits) (markWhole : Bool) (exponent : Int) :
    '\'' ∉ writePositional markWhole digits exponent := by
  have htake : ∀ n, '\'' ∉ digits.take n := fun n hmem => h (List.mem_of_mem_take hmem)
  have hdrop : ∀ n, '\'' ∉ digits.drop n := fun n hmem => h (List.mem_of_mem_drop hmem)
  unfold writePositional
  split
  · cases markWhole <;> simp [h]
  · dsimp only
    split <;> simp [h, htake, hdrop]

theorem quote_not_mem_writeScientific (h : '\'' ∉ digits) (leading : Int) :
    '\'' ∉ writeScientific digits leading := by
  have htake : '\'' ∉ digits.take 1 := fun hmem => h (List.mem_of_mem_take hmem)
  have htail : '\'' ∉ digits.tail := fun hmem => h (List.mem_of_mem_tail hmem)
  unfold writeScientific
  split <;> split <;> simp [htake, htail, quote_not_mem_toDigits]

theorem Layout.quote_not_mem_write (layout : Layout) (negative : Bool) (significand : Nat)
    (exponent : Int) : '\'' ∉ layout.write negative significand exponent := by
  have hdigits := quote_not_mem_withoutZeros (shortest layout.tie significand exponent).digits
  unfold write
  dsimp only
  rw [List.mem_append, not_or]
  constructor
  · split <;> decide
  · split
    · exact quote_not_mem_writePositional hdigits _ _
    · exact quote_not_mem_writeScientific hdigits _

end Binary64

open Sql Text

/-! ## Literals of values -/

namespace Value

theorem count_quote_doubleQuotes (cs : List Char) :
    (doubleQuotes cs).count '\'' = 2 * cs.count '\'' := by
  induction cs with
  | nil => rfl
  | cons c cs ih =>
    have hstep : doubleQuotes (c :: cs) =
        (if c = '\'' then ['\'', '\''] else [c]) ++ doubleQuotes cs := rfl
    rw [hstep, List.count_append, ih]
    by_cases hc : c = '\''
    · subst hc
      simp
      omega
    · simp [hc]

theorem doubleQuotes_of_not_mem {cs : List Char} (h : '\'' ∉ cs) : doubleQuotes cs = cs := by
  have hsame : ∀ c ∈ cs, (if c = '\'' then ['\'', '\''] else [c]) = [c] := by
    intro c hc
    rw [if_neg]
    rintro rfl
    exact h hc
  rw [doubleQuotes, List.flatMap_congr hsame]
  exact List.flatMap_singleton' cs

theorem quote_not_mem_hexByte (b : UInt8) : '\'' ∉ hexByte b := by
  have hdigit : ∀ d < 16, '\'' ≠ (Nat.digitChar d).toUpper := by decide
  have hhigh : b.toNat / 16 < 16 := by
    have := b.toNat_lt
    omega
  simp [hexByte, hdigit _ hhigh, hdigit _ (Nat.mod_lt b.toNat (by decide))]

/-- Bytes are written in quotes too. -/
theorem literal_bytes (b : List UInt8) :
    (Value.bytes b).literal = 'X' :: quotedLiteral (b.flatMap hexByte) := by
  have hplain : '\'' ∉ b.flatMap hexByte := by
    intro hmem
    obtain ⟨x, -, hx⟩ := List.mem_flatMap.mp hmem
    exact quote_not_mem_hexByte x hx
  rw [quotedLiteral, doubleQuotes_of_not_mem hplain]
  rfl

theorem count_quote_quotedLiteral (cs : List Char) :
    (quotedLiteral cs).count '\'' = 2 * cs.count '\'' + 2 := by
  rw [quotedLiteral, List.count_append, List.count_cons_self, count_quote_doubleQuotes]
  rfl

/-- The quotes of a literal pair up. Only decimals are shown as they are. -/
theorem count_quote_literal {v : Value} (h : ∀ digits, v = .decimal digits → '\'' ∉ digits.toList) :
    v.literal.count '\'' % 2 = 0 := by
  have hnone : ∀ cs : List Char, '\'' ∉ cs → cs.count '\'' % 2 = 0 := fun cs hcs => by
    rw [List.count_eq_zero.mpr hcs]
  cases v with
  | null => decide
  | bool b => cases b <;> decide
  | int n => exact hnone _ (quote_not_mem_toString _)
  | bigInt n => exact hnone _ (quote_not_mem_toString _)
  | timestamp n => exact hnone _ (quote_not_mem_toString _)
  | double x =>
    rw [literal, doubleLiteral]
    split
    · decide
    · split <;> decide
    · exact hnone _ (Binary64.Layout.quote_not_mem_write _ _ _ _)
  | decimal digits => exact hnone _ (h digits rfl)
  | text s =>
    rw [literal, count_quote_quotedLiteral]
    omega
  | json j =>
    rw [literal, count_quote_quotedLiteral]
    omega
  | bytes b =>
    rw [literal_bytes, List.count_cons_of_ne (by decide), count_quote_quotedLiteral]
    omega

/-- Values whose literal stands in quotes. -/
inductive IsQuoted : Value → Prop
  | text (s : String) : IsQuoted (.text s)
  | json (j : Json) : IsQuoted (.json j)
  | bytes (b : List UInt8) : IsQuoted (.bytes b)

theorem sealed_doubleQuotes (cs : List Char) : Sealed true (doubleQuotes cs) := by
  induction cs with
  | nil => trivial
  | cons c cs ih =>
    have hstep : doubleQuotes (c :: cs) =
        (if c = '\'' then ['\'', '\''] else [c]) ++ doubleQuotes cs := rfl
    rw [hstep]
    by_cases hc : c = '\''
    · rw [if_pos hc]
      exact ⟨.inl rfl, .inr (by decide +kernel), ih⟩
    · rw [if_neg hc]
      refine ⟨.inl rfl, ?_⟩
      rw [if_neg hc]
      exact ih

theorem sealed_quotedLiteral (cs : List Char) : Sealed false (quotedLiteral cs) := by
  have heven : insideAfter true (doubleQuotes cs) = true :=
    insideAfter_of_even (by rw [count_quote_doubleQuotes]; omega) true
  refine ⟨.inr (by decide +kernel), (sealed_doubleQuotes cs).append ?_⟩
  rw [heven]
  exact ⟨.inl rfl, trivial⟩

theorem IsQuoted.sealed {v : Value} (h : v.IsQuoted) : Sealed false v.literal := by
  cases h with
  | text s => exact sealed_quotedLiteral _
  | json j => exact sealed_quotedLiteral _
  | bytes b =>
    rw [literal_bytes]
    exact ⟨.inr (by decide +kernel), sealed_quotedLiteral _⟩

theorem IsQuoted.not_decimal {v : Value} (h : v.IsQuoted) (digits : String) :
    v ≠ .decimal digits := by
  rintro rfl
  cases h

theorem getLast?_quotedLiteral (cs : List Char) : (quotedLiteral cs).getLast? = some '\'' :=
  List.getLast?_concat

/-- No blank space is cut off from a literal in quotes. -/
theorem IsQuoted.trim_append {v : Value} (h : v.IsQuoted) (cs ds : List Char) :
    trim (cs ++ (v.literal ++ ds)) = trimStart cs ++ (v.literal ++ trimEnd ds) := by
  have hlast : v.literal.getLast? = some '\'' := by
    cases h with
    | text s => exact getLast?_quotedLiteral _
    | json j => exact getLast?_quotedLiteral _
    | bytes b => exact List.getLast?_concat
  cases h with
  | text s => exact Sql.trim_append rfl hlast (by decide) (by decide) cs ds
  | json j => exact Sql.trim_append rfl hlast (by decide) (by decide) cs ds
  | bytes b => exact Sql.trim_append rfl hlast (by decide) (by decide) cs ds

end Value

/-! ## Expanded statements -/

namespace Sql

/-- In a text whose quotes pair up they pair up in every piece. -/
theorem count_quote_text {cs : List Char} (heven : cs.count '\'' % 2 = 0) :
    ∀ p ∈ pieces cs, p.text.count '\'' % 2 = 0 := by
  fun_induction pieces cs with
  | case1 => exact List.forall_mem_nil _
  | case2 c rest ih =>
    have hapart : QuotesApart (c :: rest) ['\''] := .inl heven
    have hrest := hapart.nextPiece.resolve_right (by simp)
    have htext := congrArg (List.count '\'') (text_nextPiece c rest)
    rw [List.count_append] at htext
    exact List.forall_mem_cons.mpr ⟨by omega, ih hrest⟩

variable {params : List Value}

theorem mem_of_valueAt? {next : Nat} {p : Piece} {v : Value}
    (h : p.valueAt? params next = some v) : v ∈ params := by
  cases p with
  | plain | literal => cases h
  | bare => exact List.mem_of_getElem? h
  | numbered style digits =>
    obtain ⟨n, -, h⟩ := Option.bind_eq_some_iff.mp h
    obtain ⟨i, -, h⟩ := Option.bind_eq_some_iff.mp h
    exact List.mem_of_getElem? h

variable (hdecimals : ∀ digits, .decimal digits ∈ params → '\'' ∉ digits.toList)

include hdecimals

theorem count_quote_expanded {p : Piece} (hp : p.text.count '\'' % 2 = 0) (next : Nat) :
    (p.expanded params next).count '\'' % 2 = 0 := by
  unfold Piece.expanded
  split
  · rename_i v hv
    refine Value.count_quote_literal ?_
    rintro digits rfl
    exact hdecimals digits (mem_of_valueAt? hv)
  · exact hp

theorem count_quote_expandPieces {ps : List Piece} (hps : ∀ p ∈ ps, p.text.count '\'' % 2 = 0)
    (next : Nat) : (expandPieces params next ps).count '\'' % 2 = 0 := by
  induction ps generalizing next with
  | nil => rfl
  | cons p ps ih =>
    obtain ⟨hp, hps⟩ := List.forall_mem_cons.mp hps
    have hfirst := count_quote_expanded hdecimals hp next
    have hrest := ih hps (if p = .bare then next + 1 else next)
    rw [expandPieces, List.count_append]
    omega

omit hdecimals in
/-- A text is expanded around a place, with the literal of its value there. -/
theorem expandPieces_around {ps : List Piece} {place : Nat} {v : Value}
    (h : valueIn? params ps place = some v) :
    expandPieces params 0 ps = expandPieces params 0 (ps.take place) ++ (v.literal ++
      expandPieces params ((ps.take (place + 1)).count .bare) (ps.drop (place + 1))) := by
  obtain ⟨p, hp, hv⟩ := Option.bind_eq_some_iff.mp h
  have htake : ps.take (place + 1) = ps.take place ++ [p] := by
    rw [List.take_add_one, hp]
    rfl
  have hliteral : expandPieces params (0 + (ps.take place).count .bare) [p] = v.literal := by
    rw [expandPieces, Piece.expanded, Nat.zero_add, hv]
    exact List.append_nil _
  conv_lhs => rw [← List.take_append_drop (place + 1) ps]
  rw [expandPieces_append, Nat.zero_add, ← List.append_assoc]
  congr 1
  rw [htake, expandPieces_append, hliteral]

end Sql

/-- A logged line is the statement with its values, behind a break and with further breaks in front
of clauses, all of them outside of quotes. The literal of a text, document or binary value stands
unbroken where the placeholder was. -/
theorem StatementLog.line_breaks_outside {log : StatementLog} {c : Command}
    (hstyle : log.style = .clauses) (heven : c.sql.toList.count '\'' % 2 = 0)
    (hdecimals : ∀ digits, .decimal digits ∈ c.params → '\'' ∉ digits.toList) :
    let ps := pieces c.sql.toList
    let text := trim (expandParameters c.params c.sql.toList)
    ∃ body, (log.line c).toList = clauseBreak ++ body ∧ Broken [] false text body ∧
      body.head? = text.head? ∧
      ∀ place v, valueIn? c.params ps place = some v → v.IsQuoted →
        let before := trimStart (expandPieces c.params 0 (ps.take place))
        let after := trimEnd
          (expandPieces c.params ((ps.take (place + 1)).count .bare) (ps.drop (place + 1)))
        text = before ++ (v.literal ++ after) ∧
          ∃ front back, body = front ++ (v.literal ++ back) ∧
            Broken (v.literal ++ after) false before front ∧ Broken [] false after back := by
  intro ps text
  have hpieces : ∀ p ∈ ps, p.text.count '\'' % 2 = 0 := count_quote_text heven
  obtain ⟨body, hbody, hbroken, hhead⟩ :=
    layOut_broken (count_quote_expandPieces hdecimals hpieces 0)
  refine ⟨body, ?_, hbroken, hhead, fun place v hv hquoted => ?_⟩
  · rw [StatementLog.line, hstyle, String.toList_ofList]
    exact hbody
  · intro before after
    have htext : text = before ++ (v.literal ++ after) := by
      have haround := expandPieces_around hv
      exact (congrArg trim haround).trans (hquoted.trim_append _ _)
    have hbefore : before.count '\'' % 2 = 0 := by
      rw [count_quote_trimStart]
      exact count_quote_expandPieces hdecimals (fun p hp => hpieces p (List.mem_of_mem_take hp)) 0
    have hliteral : v.literal.count '\'' % 2 = 0 :=
      Value.count_quote_literal fun digits hdigits => absurd hdigits (hquoted.not_decimal digits)
    refine ⟨htext, ?_⟩
    have hparts : Broken [] false (before ++ (v.literal ++ after)) body := htext ▸ hbroken
    obtain ⟨front, rest, rfl, hfront, hrest⟩ := hparts.split
    rw [insideAfter_of_even hbefore] at hrest
    obtain ⟨middle, back, rfl, hmiddle, hback⟩ := hrest.split
    rw [insideAfter_of_even hliteral] at hback
    rw [hmiddle.eq_of_sealed hquoted.sealed]
    rw [List.append_nil] at hfront
    exact ⟨front, back, rfl, hfront, hback⟩

/-- A value with a quote, a keyword and something like a placeholder in it. -/
theorem StatementLog.line_breaks_outside_name :
    let name : Value := .text "O'Hara from $1"
    let c : Command := { sql := "select * from t where a = $1", params := [name] }
    let log : StatementLog := { announces := true, style := .clauses }
    log.line c = "\n    select * \n    from t \n    where a = 'O''Hara from $1'" ∧
      ∃ front back, (log.line c).toList = clauseBreak ++ (front ++ (name.literal ++ back)) ∧
        Broken name.literal false "select * from t where a = ".toList front ∧
        Broken [] false [] back := by
  intro name c log
  have hline : log.line c = "\n    select * \n    from t \n    where a = 'O''Hara from $1'" := by
    decide +kernel
  have hdecimals : ∀ digits, .decimal digits ∈ c.params → '\'' ∉ digits.toList := by
    intro digits hmem
    exact absurd (List.mem_singleton.mp hmem).symm ((Value.IsQuoted.text _).not_decimal digits)
  have hpiece : (pieces c.sql.toList)[26]? = some (.numbered .dollar ['1']) := by decide +kernel
  have hvalue : valueIn? c.params (pieces c.sql.toList) 26 = some name := by
    rw [valueIn?, hpiece]
    rfl
  obtain ⟨body, hbody, -, -, hplaces⟩ := @line_breaks_outside log c rfl
    (by decide +kernel) hdecimals
  obtain ⟨-, front, back, rfl, hfront, hback⟩ := hplaces 26 name hvalue (.text _)
  have hbefore : trimStart (expandPieces c.params 0 ((pieces c.sql.toList).take 26)) =
      "select * from t where a = ".toList := by decide +kernel
  have hafter : trimEnd (expandPieces c.params (((pieces c.sql.toList).take 27).count .bare)
      ((pieces c.sql.toList).drop 27)) = [] := by decide +kernel
  rw [hbefore, hafter, List.append_nil] at hfront
  rw [hafter] at hback
  exact ⟨hline, front, back, hbody, hfront, hback⟩

end OneConnection
