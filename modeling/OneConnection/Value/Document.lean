import OneConnection.Value.Basic
import OneConnection.Json.Reader

/-!
# Values as JSON documents

A value is an object with one member, whose key names the kind of the value. The null value is its
name alone.
-/

namespace OneConnection

namespace Value

/-- The kinds of values, by the names that documents use. -/
inductive Kind
  | null | bool | int | bigInt | double | decimal | text | bytes | timestamp | json
  deriving DecidableEq, Repr

namespace Kind

def all : List Kind :=
  [.null, .bool, .int, .bigInt, .double, .decimal, .text, .bytes, .timestamp, .json]

def name : Kind → String
  | .null => "Null"
  | .bool => "Bool"
  | .int => "Int"
  | .bigInt => "BigInt"
  | .double => "Double"
  | .decimal => "Decimal"
  | .text => "Text"
  | .bytes => "Bytes"
  | .timestamp => "Timestamp"
  | .json => "Json"

def named? (name : String) : Option Kind := all.find? (·.name = name)

end Kind

def tagged (kind : Kind) (content : Json) : Json := .object [(kind.name, content)]

def toJson : Value → Json
  | .null => .text Kind.null.name
  | .bool b => tagged .bool (.bool b)
  | .int n => tagged .int (.whole n.toInt)
  | .bigInt n => tagged .bigInt (.whole n.toInt)
  | .double x => tagged .double (.real x)
  | .decimal digits => tagged .decimal (.text digits)
  | .text s => tagged .text (.text s)
  | .bytes b => tagged .bytes (.list (b.map fun byte => .whole byte.toNat))
  | .timestamp n => tagged .timestamp (.whole n.toInt)
  | .json j => tagged .json j

open Json
open Json.Reader (require skipChar colon depthLimit)

def int64 : Json.Reader Int64 :=
  return Int64.ofInt (← Json.Reader.whole Int64.minValue.toInt Int64.maxValue.toInt)

/-- What follows the name of a kind in a document, inside its object. -/
def contentReader (depth : Nat) : Kind → Json.Reader Value
  | .null => do
    Json.Reader.unit
    return .null
  | .bool => return .bool (← Json.Reader.bool)
  | .int =>
    return .int (Int32.ofInt (← Json.Reader.whole Int32.minValue.toInt Int32.maxValue.toInt))
  | .bigInt => return .bigInt (← int64)
  | .double => return .double (← Json.Reader.real)
  | .decimal => return .decimal (← Json.Reader.text)
  | .text => return .text (← Json.Reader.text)
  | .bytes =>
    return .bytes
      ((← Json.Reader.list (Json.Reader.whole 0 255)).map fun n => UInt8.ofNat n.toNat)
  | .timestamp => return .timestamp (← int64)
  | .json => return .json (← Json.Reader.document depth)

def kindReader : Json.Reader Kind := do
  match Kind.named? (← Json.Reader.text) with
  | none => throw .mismatched
  | some kind => return kind

def reader : Json.Reader Value := do
  let c ← require
  if c = '\x7b' then
    skipChar
    let kind ← kindReader
    colon
    let value ← contentReader (depthLimit - 1) kind
    if (← require) = '\x7d' then skipChar else throw .malformed
    return value
  else if c = '"' then
    match ← kindReader with
    | .null => return .null
    | _ => throw .mismatched
  else throw .malformed

def ofDocument (text : String) : Except Problem Value := Json.Reader.runOn reader text

end Value

end OneConnection
