/-!
# Durations

Spans of time in whole nanoseconds.
-/

namespace OneConnection

structure Duration where
  nanos : Nat
  deriving DecidableEq, Repr

namespace Duration

def second : Nat := 1000000000

def ofSeconds (seconds : Nat) : Duration := ⟨seconds * second⟩

def seconds (d : Duration) : Nat := d.nanos / second

def subsecond (d : Duration) : Nat := d.nanos % second

def longer (a b : Duration) : Duration := if a.nanos ≤ b.nanos then b else a

/-! ## Text -/

/-- `count / unit` in decimal, with as many places as it needs. -/
def decimalText (count unit : Nat) : String :=
  let width := (Nat.toDigits 10 unit).length - 1
  let digits := Nat.toDigits 10 (count % unit)
  let places := List.replicate (width - digits.length) '0' ++ digits
  let kept := (places.reverse.dropWhile (· = '0')).reverse
  toString (count / unit) ++ (if kept.isEmpty then "" else String.ofList ('.' :: kept))

/-- A duration in the largest unit that leaves a whole part. -/
def describe (d : Duration) : String :=
  if second ≤ d.nanos then decimalText d.nanos second ++ "s"
  else if 1000000 ≤ d.nanos then decimalText d.nanos 1000000 ++ "ms"
  else if 1000 ≤ d.nanos then decimalText d.nanos 1000 ++ "µs"
  else decimalText d.nanos 1 ++ "ns"

end Duration

end OneConnection
