import OneConnection.Json.Basic
import OneConnection.Binary64.Reading

/-!
# SQL values

The values bound to commands and found in rows, and the conversions that a column may be read by.
-/

namespace OneConnection

inductive Value
  | null
  | bool (value : Bool)
  | int (value : Int32)
  | bigInt (value : Int64)
  | double (value : Binary64)
  /-- A decimal number of any precision, kept as its text. -/
  | decimal (digits : String)
  | text (value : String)
  | bytes (value : List UInt8)
  /-- Microseconds since the epoch. -/
  | timestamp (micros : Int64)
  | json (value : Json)

namespace Value

def isNull : Value → Bool
  | .null => true
  | _ => false

def typeName : Value → String
  | .null => "NULL"
  | .bool _ => "BOOLEAN"
  | .int _ => "INTEGER"
  | .bigInt _ => "BIGINT"
  | .double _ => "DOUBLE"
  | .decimal _ => "DECIMAL"
  | .text _ => "TEXT"
  | .bytes _ => "BLOB"
  | .timestamp _ => "TIMESTAMP"
  | .json _ => "JSON"

/-! ## Conversions -/

/-- Integers are true unless they are zero. -/
def toBool? : Value → Option Bool
  | .bool b => some b
  | .int n => some (n != 0)
  | .bigInt n => some (n != 0)
  | _ => none

def toInt64? : Value → Option Int64
  | .bool b => some (if b then 1 else 0)
  | .int n => some n.toInt64
  | .bigInt n => some n
  | .timestamp n => some n
  | _ => none

/-- Integers are rounded to the next double, and decimals are read as doubles. -/
def toBinary64? : Value → Option Binary64
  | .double x => some x
  | .int n => some (Binary64.ofInt n.toInt)
  | .bigInt n => some (Binary64.ofInt n.toInt)
  | .decimal digits => Binary64.ofText? digits
  | _ => none

def toText? : Value → Option String
  | .text s => some s
  | .decimal digits => some digits
  | _ => none

/-- The bytes of a binary value, or of a text in UTF-8. -/
def toBytes? : Value → Option (List UInt8)
  | .bytes b => some b
  | .text s => some s.toUTF8.toList
  | _ => none

/-- Equality of values of one type. Doubles are compared as numbers, so a NaN differs from
itself. -/
def equal : Value → Value → Bool
  | .null, .null => true
  | .bool a, .bool b => a == b
  | .int a, .int b => a == b
  | .bigInt a, .bigInt b => a == b
  | .double a, .double b => a.equal b
  | .decimal a, .decimal b => a == b
  | .text a, .text b => a == b
  | .bytes a, .bytes b => a == b
  | .timestamp a, .timestamp b => a == b
  | .json a, .json b => a.equal b
  | _, _ => false

/-- Equality of two lists of values, place by place. -/
def equalAll : List Value → List Value → Bool
  | [], [] => true
  | a :: as, b :: bs => a.equal b && equalAll as bs
  | _, _ => false

end Value

end OneConnection
