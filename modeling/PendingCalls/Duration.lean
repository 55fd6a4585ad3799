-- Lengths of time, exact to the nanosecond.

namespace PendingCalls

structure Duration where
  ns : Nat
deriving DecidableEq, Inhabited

namespace Duration

def ofMillis (ms : Nat) : Duration := ⟨ms * 1000000⟩

def ofMicros (us : Nat) : Duration := ⟨us * 1000⟩

-- Whole seconds fit 64 bits; a duration with more of them is none.
def ofParts? (secs nanos : Nat) : Option Duration :=
  if secs + nanos / 1000000000 < UInt64.size then some ⟨secs * 1000000000 + nanos⟩ else none

-- The digits of a remainder below 10 ^ places, without zeros at the end.
def fraction (places remainder : Nat) : List Char :=
  let digits := Nat.toDigits 10 remainder
  let padded := List.replicate (places - digits.length) '0' ++ digits
  (padded.reverse.dropWhile (· = '0')).reverse

-- A number of units of 10 ^ places nanoseconds, with its exact fraction.
def inUnits (places ns : Nat) (unit : String) : String :=
  let rest := fraction places (ns % Nat.pow 10 places)
  let whole := toString (ns / Nat.pow 10 places)
  if rest.isEmpty then whole ++ unit else whole ++ "." ++ String.ofList rest ++ unit

-- In the largest unit that is not larger than the duration.
def text (d : Duration) : String :=
  if 1000000000 ≤ d.ns then inUnits 9 d.ns "s"
  else if 1000000 ≤ d.ns then inUnits 6 d.ns "ms"
  else if 1000 ≤ d.ns then inUnits 3 d.ns "\u00b5s"
  else inUnits 0 d.ns "ns"

end Duration

end PendingCalls
