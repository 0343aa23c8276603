import OneConnection.Row.Basic
import OneConnection.Error

/-!
# Decoding rows

Reading a value, a column or a whole row as a type of the program.
-/

namespace OneConnection

class FromValue (α : Type) where
  /-- The name of the type in messages about missing values. -/
  typeName : String
  ofValue : Value → Except Error α

namespace FromValue

def unexpected (expected : String) (v : Value) : Error :=
  .decoding { expected, actual := v.typeName, column := none }

/-- The error for an integer that the wanted type cannot hold. -/
def outOfRange (expected : String) (n : Int64) : Error :=
  .decoding { expected, actual := s!"value {n.toInt} out of range", column := none }

/-- A conversion that may not apply. -/
def orUnexpected {α : Type} (expected : String) (v : Value) : Option α → Except Error α
  | some a => .ok a
  | none => .error (unexpected expected v)

instance : FromValue Bool where
  typeName := "bool"
  ofValue v := orUnexpected "bool" v v.toBool?

instance : FromValue Int32 where
  typeName := "i32"
  ofValue v := do
    let n ← orUnexpected "i32" v v.toInt64?
    if Int32.minValue.toInt ≤ n.toInt ∧ n.toInt ≤ Int32.maxValue.toInt then
      return n.toInt32
    else throw (outOfRange "i32" n)

instance : FromValue Int64 where
  typeName := "i64"
  ofValue v := orUnexpected "i64" v v.toInt64?

instance : FromValue UInt64 where
  typeName := "u64"
  ofValue v := do
    let n ← orUnexpected "u64" v v.toInt64?
    if 0 ≤ n.toInt then return UInt64.ofNat n.toInt.toNat else throw (outOfRange "u64" n)

instance : FromValue Binary64 where
  typeName := "f64"
  ofValue v := orUnexpected "f64" v v.toBinary64?

instance : FromValue String where
  typeName := "alloc::string::String"
  ofValue v := match v with
    | .text s => .ok s
    | .decimal digits => .ok digits
    | .json j => .ok j.compact
    | _ => .error (unexpected "String" v)

instance : FromValue (List UInt8) where
  typeName := "alloc::vec::Vec<u8>"
  ofValue v := orUnexpected "Vec<u8>" v v.toBytes?

instance : FromValue Value where
  typeName := "sqlbatch_core::value::Value"
  ofValue := .ok

instance {α : Type} [FromValue α] : FromValue (Option α) where
  typeName := s!"core::option::Option<{typeName α}>"
  ofValue v := if v.isNull then .ok none else (ofValue v).map some

end FromValue

namespace Row

variable {α : Type} [FromValue α]

def getAs (α : Type) [FromValue α] (row : Row) (index : Nat) : Except Error α :=
  match row.get? index with
  | some v => FromValue.ofValue v
  | none => .error (.decoding {
      expected := FromValue.typeName α
      actual := s!"index {index} out of bounds (row has {row.width} columns)"
      column := none })

/-- Names the column in the error of a failed conversion. -/
def nameColumn (name : String) : Error → Error
  | .decoding why => .decoding { why with column := some name }
  | other => other

def getNamed (α : Type) [FromValue α] (row : Row) (name : String) : Except Error α :=
  match row.named? name with
  | some v => (FromValue.ofValue v).mapError (nameColumn name)
  | none => .error (.decoding {
      expected := FromValue.typeName α
      actual := s!"column '{name}' not found"
      column := some name })

end Row

/-- A way to read whole rows as elements of a type. -/
structure RowDecoder (α : Type) where
  /-- The name of the type in descriptions. -/
  typeName : String
  decode : Row → Except Error α

namespace RowDecoder

def firstColumn (α : Type) [FromValue α] : RowDecoder α where
  typeName := FromValue.typeName α
  decode row := row.getAs α 0

def whole : RowDecoder Row where
  typeName := "sqlbatch_core::row::Row"
  decode := .ok

def map {α β : Type} (d : RowDecoder α) (f : α → β) : RowDecoder β where
  typeName := d.typeName
  decode row := (d.decode row).map f

/-- Reads rows in order, up to the first that cannot be read. -/
def decodeAll {α : Type} (d : RowDecoder α) (rows : List Row) : Except Error (List α) :=
  rows.mapM d.decode

end RowDecoder

end OneConnection
