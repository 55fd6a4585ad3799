-- Binary floating point numbers in the fewest decimal digits that read back as
-- the same number.

namespace PendingCalls.Text

-- A positive binary number m * 2 ^ q. The gap to the number below it is half
-- as wide when `narrow` holds, as it is at a power of two.
structure Binary where
  m : Nat
  q : Int
  narrow : Bool

namespace Binary

-- Numerators over one denominator for the number itself and for the two ends of
-- the interval that rounds to it, in units of 10 ^ k.
structure Scaled where
  low : Nat
  value : Nat
  high : Nat
  den : Nat

def scaled (b : Binary) (k : Int) : Scaled :=
  let up := Nat.pow 2 (b.q - 2).toNat * Nat.pow 10 (-k).toNat
  let low := if b.narrow then 4 * b.m - 1 else 4 * b.m - 2
  { low := low * up
    value := 4 * b.m * up
    high := (4 * b.m + 2) * up
    den := Nat.pow 2 (2 - b.q).toNat * Nat.pow 10 k.toNat }

-- Whether d units lie in the interval; its ends belong to it when m is even.
def reads (b : Binary) (s : Scaled) (d : Nat) : Bool :=
  if b.m % 2 = 0 then s.low ≤ d * s.den && d * s.den ≤ s.high
  else s.low < d * s.den && d * s.den < s.high

-- The multiple of 10 ^ k next to the number that reads back, the nearer of two.
def onGrid (b : Binary) (k : Int) : Option Nat :=
  let s := b.scaled k
  let below := s.value / s.den
  let above := below + 1
  match b.reads s below && 0 < below, b.reads s above with
  | true, true =>
      let left := s.value - below * s.den
      let right := above * s.den - s.value
      if left < right || (left = right && below % 2 = 0) then some below else some above
  | true, false => some below
  | false, true => some above
  | false, false => none

-- Grids from coarse to fine; the first that holds a reading decides.
def search (b : Binary) : Nat → Int → Nat × Int
  | 0, k => (0, k)
  | steps + 1, k =>
      match b.onGrid k with
      | some d => (d, k)
      | none => search b steps (k - 1)

-- Digits d and exponent k of the shortest decimal d * 10 ^ k.
def shortest (b : Binary) : Nat × Int := b.search 700 310

end Binary

-- Where positional notation ends: the exponents of the leading digit for which
-- no power of ten is written.
structure FloatLayout where
  leastPositional : Int
  greatestPositional : Int

namespace FloatLayout

-- The digits d * 10 ^ k under a layout. A decimal point or a power of ten is
-- always shown.
def render (l : FloatLayout) (d : Nat) (k : Int) : List Char :=
  let digits := Nat.toDigits 10 d
  let e := k + digits.length - 1
  if l.leastPositional ≤ e && e ≤ l.greatestPositional then
    if e < 0 then '0' :: '.' :: List.replicate (-e - 1).toNat '0' ++ digits
    else
      let whole := digits.take (e + 1).toNat
      let fraction := digits.drop (e + 1).toNat
      whole ++ List.replicate ((e + 1).toNat - digits.length) '0' ++
        '.' :: (if fraction.isEmpty then ['0'] else fraction)
  else
    let fraction := digits.drop 1
    digits.take 1 ++ (if fraction.isEmpty then [] else '.' :: fraction) ++
      ['e', if e < 0 then '-' else '+'] ++ Nat.toDigits 10 e.natAbs

end FloatLayout

-- The finite number with the given bits of its 64-bit form, without its sign.
def binaryOfBits (bits : Nat) : Option Binary :=
  let fraction : Nat := bits % Nat.pow 2 52
  let exponent : Nat := bits / Nat.pow 2 52 % Nat.pow 2 11
  if exponent = 0 then
    if fraction = 0 then none else some ⟨fraction, -1074, false⟩
  else some ⟨Nat.pow 2 52 + fraction, (exponent : Int) - 1075, fraction = 0 && 1 < exponent⟩

-- Sign first; zero keeps its sign.
def floatText (l : FloatLayout) (x : Float) : List Char :=
  let bits := x.toBits.toNat
  let sign := if bits / Nat.pow 2 63 = 1 then ['-'] else []
  match binaryOfBits (bits % Nat.pow 2 63) with
  | none => sign ++ ['0', '.', '0']
  | some b =>
      let (d, k) := b.shortest
      sign ++ l.render d k

end PendingCalls.Text
