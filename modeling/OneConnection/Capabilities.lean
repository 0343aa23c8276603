import OneConnection.Json.Reader

/-!
# Driver capabilities

What a driver says that it can do, and how that is written as a document.
-/

namespace OneConnection

structure Capabilities where
  /-- Several readers may be open at once. -/
  multipleOpenReaders : Bool := true
  /-- The driver runs commands asynchronously by itself. -/
  nativeAsync : Bool := false
  /-- Several statements may travel together. -/
  multipleQueries : Bool := true
  deriving DecidableEq, Repr

namespace Capabilities

open Json

inductive Field
  | multipleOpenReaders | nativeAsync | multipleQueries
  deriving DecidableEq, Repr

namespace Field

def all : List Field := [.multipleOpenReaders, .nativeAsync, .multipleQueries]

def name : Field → String
  | .multipleOpenReaders => "multiple_open_readers"
  | .nativeAsync => "native_async"
  | .multipleQueries => "multiple_queries"

def get (c : Capabilities) : Field → Bool
  | .multipleOpenReaders => c.multipleOpenReaders
  | .nativeAsync => c.nativeAsync
  | .multipleQueries => c.multipleQueries

def set (c : Capabilities) (value : Bool) : Field → Capabilities
  | .multipleOpenReaders => { c with multipleOpenReaders := value }
  | .nativeAsync => { c with nativeAsync := value }
  | .multipleQueries => { c with multipleQueries := value }

def read (field : Field) (c : Capabilities) : Json.Reader Capabilities :=
  return field.set c (← Json.Reader.bool)

end Field

def toJson (c : Capabilities) : Json := .object (Field.all.map fun f => (f.name, .bool (f.get c)))

/-- All fields are needed. -/
def reader : Json.Reader Capabilities := do
  let (result, missing) ← Json.Reader.structured Field.name Field.read Field.all {}
  if missing.isEmpty then return result else throw .mismatched

def ofDocument (text : String) : Except Problem Capabilities := Json.Reader.runOn reader text

end Capabilities

end OneConnection
