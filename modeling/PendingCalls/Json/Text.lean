import PendingCalls.Json.Fault

-- Strings of a JSON text, behind their opening quote.

namespace PendingCalls.Json

def hexValue (c : Char) : Option Nat :=
  if c.isDigit then some (c.toNat - '0'.toNat)
  else if 'a' ≤ c && c ≤ 'f' then some (c.toNat - 'a'.toNat + 10)
  else if 'A' ≤ c && c ≤ 'F' then some (c.toNat - 'A'.toNat + 10)
  else none

-- Four hexadecimal digits. Four bytes are looked at, whatever they are.
def hexQuad (cs : List Char) : Except Fault (Nat × List Char) :=
  if width (cs.take 4) < 4 then fault .eofString []
  else
    match cs with
    | a :: b :: c :: d :: rest =>
        match hexValue a, hexValue b, hexValue c, hexValue d with
        | some a, some b, some c, some d => .ok (((a * 16 + b) * 16 + c) * 16 + d, rest)
        | _, _, _, _ => .error ⟨.invalidEscape, width cs - 4⟩
    | _ => .error ⟨.invalidEscape, width cs - 4⟩

theorem hexQuad_length (h : hexQuad cs = .ok (n,rest)) : rest.length < cs.length := by
  unfold hexQuad fault at h
  split at h
  · cases h
  · split at h
    · split at h
      · cases h; simp only [List.length_cons]; omega
      · cases h
    · cases h

def isHighSurrogate (n : Nat) : Bool := 0xD800 ≤ n && n ≤ 0xDBFF

def isLowSurrogate (n : Nat) : Bool := 0xDC00 ≤ n && n ≤ 0xDFFF

-- The second half of a surrogate pair, behind the first one.
def lowSurrogate (cs : List Char) : Except Fault (Nat × List Char) :=
  match expect .eofString .unfinishedSurrogate ['\\', 'u'] cs with
  | .error f => .error f
  | .ok second =>
      match hexQuad second with
      | .error f => .error f
      | .ok (m, rest) => if isLowSurrogate m then .ok (m, rest) else fault .loneSurrogate rest

theorem lowSurrogate_length (h : lowSurrogate cs = .ok (m,rest)) : rest.length < cs.length := by
  unfold lowSurrogate at h
  split at h
  · cases h
  · rename_i second passed
    have opened := expect_length passed
    split at h
    · cases h
    · rename_i n last quad
      have short := hexQuad_length quad
      split at h
      · cases h; omega
      · cases h

def pairChar (high low : Nat) : Char :=
  Char.ofNat (0x10000 + (high - 0xD800) * 0x400 + (low - 0xDC00))

-- A character by its code. The two halves of a surrogate pair come together.
def codeEscape (cs : List Char) : Except Fault (Char × List Char) :=
  match hexQuad cs with
  | .error f => .error f
  | .ok (n, rest) =>
      if isLowSurrogate n then fault .loneSurrogate rest
      else if isHighSurrogate n then
        match lowSurrogate rest with
        | .error f => .error f
        | .ok (m, rest) => .ok (pairChar n m, rest)
      else .ok (Char.ofNat n, rest)

theorem codeEscape_length (h : codeEscape cs = .ok (c,rest)) : rest.length < cs.length := by
  unfold codeEscape at h
  split at h
  · cases h
  · rename_i n first quad
    have short := hexQuad_length quad
    split at h
    · cases h
    · split at h
      · split at h
        · cases h
        · rename_i m last half
          have shorter := lowSurrogate_length half
          simp only [Except.ok.injEq, Prod.mk.injEq] at h
          rw [← h.2]; omega
      · simp only [Except.ok.injEq, Prod.mk.injEq] at h
        rw [← h.2]; exact short

def shortEscape : Char → Option Char
  | '"' => some '"'
  | '\\' => some '\\'
  | '/' => some '/'
  | 'b' => some '\x08'
  | 'f' => some '\x0c'
  | 'n' => some '\n'
  | 'r' => some '\r'
  | 't' => some '\t'
  | _ => none

def escape : List Char → Except Fault (Char × List Char)
  | [] => fault .eofString []
  | c :: rest =>
      match shortEscape c with
      | some d => .ok (d, rest)
      | none => if c = 'u' then codeEscape rest else faultInto .invalidEscape (c :: rest)

theorem escape_length (h : escape cs = .ok (c,rest)) : rest.length < cs.length := by
  cases cs with
  | nil => cases h
  | cons e cs =>
      simp only [escape] at h
      split at h
      · cases h; exact Nat.lt_succ_self _
      · split at h
        · exact Nat.lt_succ_of_lt (codeEscape_length h)
        · cases h

def stringBody (collected : List Char) (cs : List Char) : Except Fault (String × List Char) :=
  match cs with
  | [] => fault .eofString []
  | c :: rest =>
      if c = '"' then .ok (String.ofList collected.reverse, rest)
      else if c = '\\' then
        match _escaped : escape rest with
        | .error f => .error f
        | .ok (d, rest) => stringBody (d :: collected) rest
      else if c.toNat < 0x20 then fault .controlCharacter rest
      else stringBody (c :: collected) rest
termination_by cs.length
decreasing_by
  · have := escape_length _escaped
    simp only [List.length_cons]; omega
  · simp only [List.length_cons]; omega

end PendingCalls.Json
