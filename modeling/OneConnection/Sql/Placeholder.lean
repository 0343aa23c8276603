import OneConnection.Sql.Literal
import OneConnection.Text.Natural

/-!
# Placeholders

The places of a statement that stand for bound values: `$N` and `?N`, which count from one, `@pN`
and `:pN`, which count from zero, and a bare `?`, which stands for the next value. Nothing inside a
quoted literal is a placeholder. Main statement: the pieces of a text spell the text.
-/

namespace OneConnection.Sql

inductive Style
  | dollar
  | question
  | at
  | colon
  deriving DecidableEq, Repr

namespace Style

def mark : Style → List Char
  | .dollar => ['$']
  | .question => ['?']
  | .at => ['@', 'p']
  | .colon => [':', 'p']

/-- The index of the value that number `n` stands for. -/
def index? (style : Style) (n : Nat) : Option Nat :=
  match style with
  | .dollar | .question => if n = 0 then none else some (n - 1)
  | .at | .colon => some n

end Style

inductive Piece
  | plain (c : Char)
  /-- A literal with its quotes. -/
  | literal (text : List Char)
  | numbered (style : Style) (digits : List Char)
  | bare
  deriving DecidableEq, Repr

namespace Piece

def text : Piece → List Char
  | .plain c => [c]
  | .literal text => text
  | .numbered style digits => style.mark ++ digits
  | .bare => ['?']

/-- The number of a placeholder, if its digits are ASCII and fit into a word. -/
def number? : Piece → Option Nat
  | .numbered _ digits => Text.natural? digits
  | _ => none

def isPlain : Piece → Bool
  | .plain _ => true
  | _ => false

end Piece

open Text (isDecimalDigit)

/-- A placeholder whose mark `c` started, if digits follow the mark in `rest`. -/
def numberedOr (style : Style) (rest : List Char) (otherwise : Piece × List Char) :
    Piece × List Char :=
  if (rest.takeWhile isDecimalDigit).isEmpty then otherwise
  else (.numbered style (rest.takeWhile isDecimalDigit), rest.dropWhile isDecimalDigit)

/-- The piece at the front of a text, and what follows it. -/
def nextPiece : (c : Char) → (rest : List Char) → Piece × List Char
  | '\'', rest =>
    match splitLiteral rest with
    | some (body, after) => (.literal ('\'' :: body), after)
    | none => (.plain '\'', rest)
  | '$', rest => numberedOr .dollar rest (.plain '$', rest)
  | '?', rest => numberedOr .question rest (.bare, rest)
  | '@', 'p' :: rest => numberedOr .at rest (.plain '@', 'p' :: rest)
  | ':', 'p' :: rest => numberedOr .colon rest (.plain ':', 'p' :: rest)
  | c, rest => (.plain c, rest)

theorem text_numberedOr (style : Style) (rest : List Char) (otherwise : Piece × List Char)
    (h : otherwise.1.text ++ otherwise.2 = style.mark ++ rest) :
    (numberedOr style rest otherwise).1.text ++ (numberedOr style rest otherwise).2
      = style.mark ++ rest := by
  unfold numberedOr
  split
  · exact h
  · simp [Piece.text, List.append_assoc, List.takeWhile_append_dropWhile]

/-- A piece and what follows it spell the text that they came from. -/
theorem text_nextPiece (c : Char) (rest : List Char) :
    (nextPiece c rest).1.text ++ (nextPiece c rest).2 = c :: rest := by
  fun_cases nextPiece c rest with
  | case1 rest body after hsplit => simp [Piece.text, append_of_splitLiteral hsplit]
  | case2 => rfl
  | case3 => exact text_numberedOr .dollar rest _ rfl
  | case4 => exact text_numberedOr .question rest _ rfl
  | case5 rest => exact text_numberedOr .at rest _ rfl
  | case6 rest => exact text_numberedOr .colon rest _ rfl
  | case7 => rfl

theorem text_numberedOr_ne_nil (style : Style) (rest : List Char) (otherwise : Piece × List Char)
    (h : otherwise.1.text ≠ []) : (numberedOr style rest otherwise).1.text ≠ [] := by
  unfold numberedOr
  split
  · exact h
  · cases style <;> simp [Piece.text, Style.mark]

theorem text_nextPiece_ne_nil (c : Char) (rest : List Char) :
    (nextPiece c rest).1.text ≠ [] := by
  fun_cases nextPiece c rest with
  | case1 | case2 | case7 => simp [Piece.text]
  | case3 | case4 | case5 | case6 => exact text_numberedOr_ne_nil _ _ _ (by simp [Piece.text])

theorem length_nextPiece (c : Char) (rest : List Char) :
    (nextPiece c rest).2.length < (c :: rest).length := by
  have hpos := List.length_pos_iff.2 (text_nextPiece_ne_nil c rest)
  have hlen := congrArg List.length (text_nextPiece c rest)
  rw [List.length_append] at hlen
  omega

def pieces : List Char → List Piece
  | [] => []
  | c :: rest => (nextPiece c rest).1 :: pieces (nextPiece c rest).2
termination_by cs => cs.length
decreasing_by exact length_nextPiece c rest

@[simp] theorem pieces_nil : pieces [] = [] := by rw [pieces]

theorem pieces_cons (c : Char) (rest : List Char) :
    pieces (c :: rest) = (nextPiece c rest).1 :: pieces (nextPiece c rest).2 := by
  rw [pieces]

def spell (ps : List Piece) : List Char := ps.flatMap Piece.text

@[simp] theorem spell_nil : spell [] = [] := rfl

@[simp] theorem spell_cons (p : Piece) (ps : List Piece) : spell (p :: ps) = p.text ++ spell ps :=
  rfl

theorem spell_pieces (cs : List Char) : spell (pieces cs) = cs := by
  fun_induction pieces cs with
  | case1 => rfl
  | case2 c rest ih => rw [spell_cons, ih, text_nextPiece]

/-! ## Renumbering -/

/-- A placeholder counted `offset` places further on. A number that cannot be read stays, and one
that gets too large for a word starts again from zero. -/
def Piece.shift (offset : Nat) : Piece → Piece
  | .numbered style digits =>
    match Text.natural? digits with
    | some n => .numbered style (Nat.toDigits 10 ((n + offset) % Text.wordLimit))
    | none => .numbered style digits
  | other => other

/-- A statement whose numbered placeholders are counted `offset` places further on. -/
def shiftPlaceholders (offset : Nat) (cs : List Char) : List Char :=
  if offset = 0 then cs else spell ((pieces cs).map (Piece.shift offset))

end OneConnection.Sql
