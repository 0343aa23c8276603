import OneConnection.Sql.Placeholder
import OneConnection.Value.Literal

/-!
# Expanded statements

A statement with the literals of its bound values in place of the placeholders. A placeholder
without a bound value stays.
-/

namespace OneConnection.Sql

/-- The value that a piece stands for, when `next` bare placeholders came before it. -/
def Piece.valueAt? (params : List Value) (next : Nat) : Piece → Option Value
  | .numbered style digits => do
    let n ← Text.natural? digits
    let i ← style.index? n
    params[i]?
  | .bare => params[next]?
  | _ => none

/-- A piece with the literal of its value in its place. -/
def Piece.expanded (params : List Value) (next : Nat) (p : Piece) : List Char :=
  match p.valueAt? params next with
  | some v => v.literal
  | none => p.text

def expandPieces (params : List Value) : (next : Nat) → List Piece → List Char
  | _, [] => []
  | next, p :: rest =>
    p.expanded params next ++ expandPieces params (if p = .bare then next + 1 else next) rest

def expandParameters (params : List Value) (cs : List Char) : List Char :=
  expandPieces params 0 (pieces cs)

end OneConnection.Sql
