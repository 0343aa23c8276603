import OneConnection.Sql.Literal
import OneConnection.Text.Blank
import OneConnection.Text.Word

/-!
# Clause layout

Breaking a statement into lines, one for each major clause. Keywords inside quoted literals and
inside longer words do not count.
-/

namespace OneConnection.Sql

open Text (isBoundary)

/-- The keywords that start a clause. A keyword that begins another one comes after it. -/
def clauseKeywords : List (List Char) :=
  ["LEFT OUTER JOIN", "RIGHT OUTER JOIN", "LEFT JOIN", "RIGHT JOIN", "INNER JOIN", "CROSS JOIN",
    "GROUP BY", "ORDER BY", "UNION ALL", "UNION", "FROM", "WHERE", "HAVING", "VALUES", "SET",
    "LIMIT", "OFFSET"].map String.toList

/-- Whether `c` is the letter `k` in some case. The long s is a form of the letter s. -/
def isSameLetter (k c : Char) : Bool := c.toUpper = k || (k = 'S' && c = 'ſ')

/-- Splits a text behind `keyword`, if it starts with it. -/
def splitKeyword : (keyword : List Char) → List Char → Option (List Char × List Char)
  | [], cs => some ([], cs)
  | _ :: _, [] => none
  | k :: keyword, c :: cs =>
    if isSameLetter k c then
      match splitKeyword keyword cs with
      | some (taken, rest) => some (c :: taken, rest)
      | none => none
    else none

/-- Splits a text behind the first keyword that stands at its front as a word. -/
def clauseAt (before : Option Char) (cs : List Char) : Option (List Char × List Char) :=
  if isBoundary before cs.head? then
    clauseKeywords.findSome? fun keyword =>
      (splitKeyword keyword cs).filter fun (taken, rest) => isBoundary taken.getLast? rest.head?
  else none

theorem append_of_splitKeyword {keyword cs taken rest : List Char}
    (h : splitKeyword keyword cs = some (taken, rest)) : taken ++ rest = cs := by
  fun_induction splitKeyword keyword cs generalizing taken with
  | case1 cs =>
    simp only [Option.some.injEq, Prod.mk.injEq] at h
    obtain ⟨rfl, rfl⟩ := h
    rfl
  | case2 => simp at h
  | case3 k keyword c cs _ inner tail hsplit ih =>
    simp only [Option.some.injEq, Prod.mk.injEq] at h
    obtain ⟨rfl, rfl⟩ := h
    simp [ih hsplit]
  | case4 => simp at h
  | case5 => simp at h

theorem append_of_clauseAt {before : Option Char} {cs taken rest : List Char}
    (h : clauseAt before cs = some (taken, rest)) : taken ++ rest = cs := by
  unfold clauseAt at h
  split at h
  · obtain ⟨keyword, _, hk⟩ := List.exists_of_findSome?_eq_some h
    rw [Option.filter_eq_some_iff] at hk
    exact append_of_splitKeyword hk.1
  · simp at h

def clauseBreak : List Char := ['\n', ' ', ' ', ' ', ' ']

/-- Puts a line break in front of every clause after the first character. The character in front of
the text decides whether a word starts there. -/
def breakClauses (before : Option Char) : List Char → List Char
  | [] => []
  | c :: rest =>
    if c = '\'' then
      match _hsplit : splitLiteral rest with
      | some (body, after) => c :: body ++ breakClauses body.getLast? after
      | none => c :: breakClauses (some c) rest
    else match _hclause : clauseAt before (c :: rest) with
      | some ([], _) => c :: breakClauses (some c) rest
      | some (d :: taken, after) =>
        clauseBreak ++ d :: taken ++ breakClauses (d :: taken).getLast? after
      | none => c :: breakClauses (some c) rest
termination_by cs => cs.length
decreasing_by
  all_goals simp_wf
  · have := length_of_splitLiteral _hsplit
    omega
  · have := congrArg List.length (append_of_clauseAt _hclause)
    simp only [List.length_append, List.length_cons] at this
    omega

/-- A statement with every major clause on a line of its own. -/
def layOut (cs : List Char) : List Char :=
  clauseBreak ++ Text.trimStart (breakClauses none (Text.trim cs))

end OneConnection.Sql
