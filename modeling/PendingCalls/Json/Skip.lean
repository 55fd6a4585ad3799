import PendingCalls.Json.Number
import PendingCalls.Json.Punctuation

-- Passing over a value that nobody asked for. It is only scanned: numbers have
-- no range, codes in strings are not paired, and nesting has no limit.

namespace PendingCalls.Json.Skip

-- What encloses the place that is scanned.
inductive Frame where
  | list | object
deriving DecidableEq

def skipDigits (cs : List Char) : List Char := (Number.dropDigits 0 cs).2

def skipEscape (cs : List Char) : Except Fault (List Char) :=
  match cs with
  | [] => fault .eofString []
  | c :: rest =>
      if (shortEscape c).isSome then .ok rest
      else if c = 'u' then (hexQuad rest).map (·.2)
      else faultInto .invalidEscape (c :: rest)

theorem skipEscape_length (h : skipEscape cs = .ok rest) : rest.length < cs.length := by
  unfold skipEscape at h
  cases cs with
  | nil => cases h
  | cons c cs =>
      simp only at h
      split at h
      · cases h; exact Nat.lt_succ_self _
      · split at h
        · cases quad : hexQuad cs with
          | error f => rw [quad] at h; cases h
          | ok r =>
              rw [quad] at h
              cases h
              exact Nat.lt_succ_of_lt (hexQuad_length (n := r.1) (by rw [quad]))
        · cases h

-- Up to the closing quote. A control character does not count as read here.
def skipString (cs : List Char) : Except Fault (List Char) :=
  match cs with
  | [] => fault .eofString []
  | c :: rest =>
      if c = '"' then .ok rest
      else if c = '\\' then
        match _escaped : skipEscape rest with
        | .error f => .error f
        | .ok rest => skipString rest
      else if c.toNat < 0x20 then fault .controlCharacter (c :: rest)
      else skipString rest
termination_by cs.length
decreasing_by
  · have := skipEscape_length _escaped
    simp only [List.length_cons]; omega
  · simp only [List.length_cons]; omega

def skipExponent (cs : List Char) : Except Fault (List Char) :=
  let cs := match cs with
    | '+' :: rest => rest
    | '-' :: rest => rest
    | rest => rest
  match cs with
  | [] => fault .invalidNumber []
  | c :: rest =>
      if c.isDigit then .ok (skipDigits rest) else faultInto .invalidNumber (c :: rest)

def skipFraction (cs : List Char) : Except Fault (List Char) :=
  if Number.startsWithDigit cs then
    match skipDigits cs with
    | 'e' :: rest => skipExponent rest
    | 'E' :: rest => skipExponent rest
    | rest => .ok rest
  else faultInto .invalidNumber cs

def skipAfterWhole : List Char → Except Fault (List Char)
  | '.' :: rest => skipFraction rest
  | 'e' :: rest => skipExponent rest
  | 'E' :: rest => skipExponent rest
  | rest => .ok rest

def skipNumber : List Char → Except Fault (List Char)
  | [] => fault .invalidNumber []
  | '0' :: rest =>
      if Number.startsWithDigit rest then faultInto .invalidNumber rest else skipAfterWhole rest
  | c :: rest =>
      if c.isDigit then skipAfterWhole (skipDigits rest) else faultInto .invalidNumber (c :: rest)

def skipScalar? (c : Char) (rest : List Char) : Option (Except Fault (List Char)) :=
  if c = 'n' then some (expect .eofValue .expectedIdent ['u', 'l', 'l'] rest)
  else if c = 't' then some (expect .eofValue .expectedIdent ['r', 'u', 'e'] rest)
  else if c = 'f' then some (expect .eofValue .expectedIdent ['a', 'l', 's', 'e'] rest)
  else if c = '-' then some (skipNumber rest)
  else if c.isDigit then some (skipNumber (c :: rest))
  else if c = '"' then some (skipString rest)
  else none

-- A key with its colon, or nothing in a list.
def skipKey (frame : Frame) (cs : List Char) : Except Fault (List Char) :=
  match frame with
  | .list => .ok cs
  | .object =>
      match skipBlank cs with
      | [] => fault .eofObject []
      | c :: rest =>
          if c = '"' then
            match skipString rest with
            | .error f => .error f
            | .ok rest => colon rest
          else faultInto .keyMustBeString (c :: rest)

def Frame.closer : Frame → Char
  | .list => ']'
  | .object => '\x7d'

def Frame.ended : Frame → Cause
  | .list => .eofList
  | .object => .eofObject

def Frame.commaMissing : Frame → Cause
  | .list => .expectedListComma
  | .object => .expectedObjectComma

-- Behind an opener or behind a value: closes what ends here, innermost first.
-- Gives what still encloses the place of the next value and the text from
-- there, or nothing enclosing when the whole value is over.
def settle : Bool → List Frame → List Char → Except Fault (List Frame × List Char)
  | _, [], cs => .ok ([], cs)
  | afterValue, frame :: outer, cs =>
      match skipBlank cs with
      | [] => fault frame.ended []
      | c :: rest =>
          if c = frame.closer then settle true outer rest
          else if afterValue then
            if c = ',' then (skipKey frame rest).map (frame :: outer, ·)
            else faultInto frame.commaMissing (c :: rest)
          else (skipKey frame (c :: rest)).map (frame :: outer, ·)

-- Value by value until nothing encloses the place any more. Every value reads at
-- least one character, so the characters from the start bound the number of turns.
def scan : (turns : List Char) → List Frame → List Char → Except Fault (List Char)
  | [], _, cs => fault .eofValue cs
  | _ :: turns, frames, cs =>
      match skipBlank cs with
      | [] => fault .eofValue []
      | c :: rest =>
          let behind :=
            if c = '[' then settle false (.list :: frames) rest
            else if c = '\x7b' then settle false (.object :: frames) rest
            else
              match skipScalar? c rest with
              | none => faultInto .expectedValue (c :: rest)
              | some (.error f) => .error f
              | some (.ok rest) => settle true frames rest
          match behind with
          | .error f => .error f
          | .ok ([], rest) => .ok rest
          | .ok (frames, rest) => scan turns frames rest

end Skip

def skipValue (cs : List Char) : Except Fault (List Char) := Skip.scan cs [] cs

end PendingCalls.Json
