-- Text as bytes. Reading either demands well-formed bytes or puts one
-- replacement character in place of each longest piece that could have begun a
-- character and did not.

namespace PendingCalls.Text

def encodeChar (c : Char) : List UInt8 :=
  let n := c.toNat
  if n < 0x80 then [n.toUInt8]
  else if n < 0x800 then [(0xC0 + n / 0x40).toUInt8, (0x80 + n % 0x40).toUInt8]
  else if n < 0x10000 then
    [(0xE0 + n / 0x1000).toUInt8, (0x80 + n / 0x40 % 0x40).toUInt8, (0x80 + n % 0x40).toUInt8]
  else
    [(0xF0 + n / 0x40000).toUInt8, (0x80 + n / 0x1000 % 0x40).toUInt8,
      (0x80 + n / 0x40 % 0x40).toUInt8, (0x80 + n % 0x40).toUInt8]

def encode (cs : List Char) : List UInt8 := cs.flatMap encodeChar

-- What a first byte announces: the bits it contributes, the bounds of the second
-- byte, and how many bytes follow the second one.
structure Lead where
  bits : Nat
  low : Nat
  high : Nat
  more : Nat

-- The bounds of the second byte leave out overlong forms, surrogates and numbers
-- beyond the last character.
def lead? (b : Nat) : Option Lead :=
  if b < 0xC2 then none
  else if b < 0xE0 then some ⟨b - 0xC0, 0x80, 0xBF, 0⟩
  else if b = 0xE0 then some ⟨0, 0xA0, 0xBF, 1⟩
  else if b = 0xED then some ⟨0xD, 0x80, 0x9F, 1⟩
  else if b < 0xF0 then some ⟨b - 0xE0, 0x80, 0xBF, 1⟩
  else if b = 0xF0 then some ⟨0, 0x90, 0xBF, 2⟩
  else if b < 0xF4 then some ⟨b - 0xF0, 0x80, 0xBF, 2⟩
  else if b = 0xF4 then some ⟨4, 0x80, 0x8F, 2⟩
  else none

-- Continuation bytes: the number they complete, or nothing if one is missing;
-- and the bytes behind those that fit.
def continuation : Nat → Nat → List UInt8 → Option Nat × List UInt8
  | 0, n, bytes => (some n, bytes)
  | _ + 1, _, [] => (none, [])
  | more + 1, n, b :: rest =>
      if 0x80 ≤ b.toNat && b.toNat ≤ 0xBF then continuation more (n * 0x40 + (b.toNat - 0x80)) rest
      else (none, b :: rest)

-- The character at the front, or nothing if the bytes are broken there.
def frontChar (first : UInt8) (rest : List UInt8) : Option Char × List UInt8 :=
  let b := first.toNat
  if b < 0x80 then (some (Char.ofNat b), rest)
  else
    match lead? b with
    | none => (none, rest)
    | some l =>
        match rest with
        | [] => (none, [])
        | second :: beyond =>
            if l.low ≤ second.toNat && second.toNat ≤ l.high then
              let (n?, rest) := continuation l.more (l.bits * 0x40 + (second.toNat - 0x80)) beyond
              (n?.map Char.ofNat, rest)
            else (none, second :: beyond)

theorem continuation_length (more n : Nat) (bytes : List UInt8) :
    (continuation more n bytes).2.length ≤ bytes.length := by
  induction more generalizing n bytes with
  | zero => exact Nat.le_refl _
  | succ more ih =>
      cases bytes with
      | nil => exact Nat.le_refl _
      | cons b rest =>
          unfold continuation
          split
          · exact Nat.le_succ_of_le (ih _ rest)
          · exact Nat.le_refl _

theorem frontChar_length (first : UInt8) (rest : List UInt8) :
    (frontChar first rest).2.length ≤ rest.length := by
  unfold frontChar
  simp only
  split
  · exact Nat.le_refl _
  · split
    · exact Nat.le_refl _
    · split
      · exact Nat.le_refl _
      · split
        · exact Nat.le_succ_of_le (continuation_length _ _ _)
        · exact Nat.le_refl _

def pieces : List UInt8 → List (Option Char)
  | [] => []
  | b :: rest => (frontChar b rest).1 :: pieces (frontChar b rest).2
termination_by bytes => bytes.length
decreasing_by exact Nat.lt_succ_of_le (frontChar_length _ _)

def replacement : Char := '\uFFFD'

def decodeLossy (bytes : List UInt8) : List Char := (pieces bytes).map (·.getD replacement)

def decode? (bytes : List UInt8) : Option (List Char) := (pieces bytes).mapM id

def untilNul (bytes : List UInt8) : List UInt8 := bytes.takeWhile (· ≠ 0)

def nulPosition? (bytes : List UInt8) : Option Nat := bytes.findIdx? (· = 0)

def hexBytes (bytes : List UInt8) : List Char :=
  bytes.flatMap (fun b => [Nat.digitChar (b.toNat / 16), Nat.digitChar (b.toNat % 16)])

end PendingCalls.Text
