import PendingCalls.Json.Fault

-- Numbers of a JSON text. An integer that fits 64 bits stays an integer; every
-- other number becomes a binary floating point number, from its leading digits
-- and a power of ten.

namespace PendingCalls.Json

inductive Number where
  | integer (n : Int)
  | float (x : Float)

namespace Number

def found : Number → Found
  | .integer n => .integer n
  | .float x => .float x

def greatest : Nat := UInt64.size - 1

def greatestExponent : Nat := Int32.maxValue.toInt.toNat

def digit (c : Char) : Nat := c.toNat - '0'.toNat

def startsWithDigit : List Char → Bool
  | c :: _ => c.isDigit
  | [] => false

-- Appends leading digits to a number while it stays within the bound. Gives the
-- number, how many digits it took, and the rest.
def takeDigits (bound : Nat) : Nat → Nat → List Char → Nat × Nat × List Char
  | n, taken, c :: rest =>
      if c.isDigit && n * 10 + digit c ≤ bound then
        takeDigits bound (n * 10 + digit c) (taken + 1) rest
      else (n, taken, c :: rest)
  | n, taken, [] => (n, taken, [])

def dropDigits : Nat → List Char → Nat × List Char
  | dropped, c :: rest => if c.isDigit then dropDigits (dropped + 1) rest else (dropped, c :: rest)
  | dropped, [] => (dropped, [])

def signed (negative : Bool) (x : Float) : Number := .float (if negative then -x else x)

def tenTo (k : Nat) : Float := Float.ofScientific 1 false k

-- Division by a power of ten beyond the largest representable one goes in steps
-- of the largest one, until nothing is left.
def shrink (x : Float) (k : Nat) : Float :=
  if k ≤ 308 then x / tenTo k
  else if x == 0 then x
  else shrink (x / tenTo 308) (k - 308)
termination_by k

-- The number digits * 10 ^ exponent, faulty if it is too large.
def ofParts (negative : Bool) (digits : Nat) (exponent : Int) (rest : List Char) :
    Except Fault (Number × List Char) :=
  let x := digits.toUInt64.toFloat
  if exponent < 0 then .ok (signed negative (shrink x exponent.natAbs), rest)
  else if 308 < exponent then
    if x == 0 then .ok (signed negative x, rest) else fault .numberOutOfRange rest
  else
    let y := x * tenTo exponent.natAbs
    if y.isInf then fault .numberOutOfRange rest else .ok (signed negative y, rest)

-- An exponent too large to count: zero if the number is zero or the exponent is
-- negative, otherwise a fault behind the digit that is too much.
def hugeExponent (negative zero up : Bool) (rest : List Char) : Except Fault (Number × List Char) :=
  if !zero && up then fault .numberOutOfRange rest
  else .ok (signed negative 0, (dropDigits 0 rest).2)

def exponentPart (negative : Bool) (digits : Nat) (before : Int) (cs : List Char) :
    Except Fault (Number × List Char) :=
  let (up, cs) := match cs with
    | '+' :: rest => (true, rest)
    | '-' :: rest => (false, rest)
    | rest => (true, rest)
  match cs with
  | [] => fault .eofValue []
  | c :: rest =>
      if c.isDigit then
        let (exponent, _, rest) := takeDigits greatestExponent (digit c) 0 rest
        match rest with
        | d :: beyond =>
            if d.isDigit then hugeExponent negative (digits = 0) up beyond
            else ofParts negative digits (if up then before + exponent else before - exponent) (d :: beyond)
        | [] => ofParts negative digits (if up then before + exponent else before - exponent) []
      else faultInto .invalidNumber (c :: rest)

-- After the digits of a number with a fraction or with too many digits.
def afterDigits (negative : Bool) (digits : Nat) (exponent : Int) (cs : List Char) :
    Except Fault (Number × List Char) :=
  match cs with
  | 'e' :: rest => exponentPart negative digits exponent rest
  | 'E' :: rest => exponentPart negative digits exponent rest
  | rest => ofParts negative digits exponent rest

-- After the decimal point. Digits that no longer fit are passed over.
def fractionPart (negative : Bool) (whole : Nat) (before : Int) (cs : List Char) :
    Except Fault (Number × List Char) :=
  let (digits, taken, rest) := takeDigits greatest whole 0 cs
  if startsWithDigit rest then
    afterDigits negative digits (before - taken) (dropDigits 0 rest).2
  else if taken = 0 then
    if rest.isEmpty then fault .eofValue [] else faultInto .invalidNumber rest
  else afterDigits negative digits (before - taken) rest

-- A whole number. Minus zero and negative numbers below 64 bits are floating.
def ofWhole (negative : Bool) (n : Nat) : Number :=
  if negative then
    if n = 0 || Nat.pow 2 63 < n then signed true n.toUInt64.toFloat else .integer (-n)
  else .integer n

def afterWhole (negative : Bool) (n : Nat) (cs : List Char) : Except Fault (Number × List Char) :=
  match cs with
  | '.' :: rest => fractionPart negative n 0 rest
  | 'e' :: rest => exponentPart negative n 0 rest
  | 'E' :: rest => exponentPart negative n 0 rest
  | rest =>
      if startsWithDigit rest then
        let (more, rest) := dropDigits 0 rest
        match rest with
        | '.' :: fraction => fractionPart negative n more fraction
        | rest => afterDigits negative n more rest
      else .ok (ofWhole negative n, rest)

-- A number behind its sign. A leading zero stands alone.
def unsigned (negative : Bool) : List Char → Except Fault (Number × List Char)
  | [] => fault .eofValue []
  | '0' :: rest =>
      if startsWithDigit rest then faultInto .invalidNumber rest else afterWhole negative 0 rest
  | c :: rest =>
      if c.isDigit then
        let (n, _, rest) := takeDigits greatest (digit c) 0 rest
        afterWhole negative n rest
      else faultInto .invalidNumber (c :: rest)

def read : List Char → Except Fault (Number × List Char)
  | '-' :: rest => unsigned true rest
  | cs => unsigned false cs

end Number

end PendingCalls.Json
