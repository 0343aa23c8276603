import OneConnection.Value.Basic

/-!
# Rows

The values of one row of a result set, under the names of its columns.
-/

namespace OneConnection

structure Row where
  columns : List String
  values : List Value

abbrev ResultSet := List Row

namespace Row

/-- The last place of `name` in a list of names. -/
def lastIndex? (name : String) : List String → Option Nat
  | [] => none
  | column :: rest =>
    match lastIndex? name rest with
    | some i => some (i + 1)
    | none => if column = name then some 0 else none

/-- The index of a column. Of several columns with one name the last one counts. -/
def indexOf? (row : Row) (name : String) : Option Nat := lastIndex? name row.columns

def get? (row : Row) (index : Nat) : Option Value := row.values[index]?

def named? (row : Row) (name : String) : Option Value := (row.indexOf? name).bind row.get?

def width (row : Row) : Nat := row.values.length

end Row

end OneConnection
