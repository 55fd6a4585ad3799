import PendingCalls.Text.Quoted
import PendingCalls.Text.Shortest

-- What can be wrong with a JSON text, and where. A fault is measured from the
-- end of the text, in unread bytes, so that readers need not carry a position.

namespace PendingCalls.Json

-- A value that stands where another kind of value is expected.
inductive Found where
  | null
  | boolean (b : Bool)
  | integer (n : Int)
  | float (x : Float)
  | text (s : String)
  | sequence
  | map

inductive Cause where
  | eofList | eofObject | eofString | eofValue
  | expectedColon | expectedListComma | expectedObjectComma
  | expectedIdent | expectedValue
  | invalidEscape | invalidNumber | numberOutOfRange
  | loneSurrogate | unfinishedSurrogate
  | controlCharacter | keyMustBeString
  | trailingComma | trailingCharacters
  | recursionLimit
  | invalidType (found : Found) (expected : String)
  | invalidValue (found : Found) (expected : String)
  | invalidLength (length : Nat) (expected : String)
  | unknownVariant (name : String) (expected : List String)
  | missingField (name : String)
  | duplicateField (name : String)

-- The text ended early, does not fit the expected type, or is no JSON.
inductive FaultKind where
  | ended | data | malformed
deriving DecidableEq

namespace Found

-- Numbers in messages are positional from 0.00001 up to sixteen digits.
def layout : Text.FloatLayout := ⟨-5, 15⟩

def describe : Found → String
  | .null => "null"
  | .boolean b => "boolean `" ++ (if b then "true" else "false") ++ "`"
  | .integer n => "integer `" ++ toString n ++ "`"
  | .float x => "floating point `" ++ String.ofList (Text.floatText layout x) ++ "`"
  | .text s => "string " ++ Text.quoted s
  | .sequence => "sequence"
  | .map => "map"

end Found

namespace Cause

def kind : Cause → FaultKind
  | .eofList | .eofObject | .eofString | .eofValue => .ended
  | .invalidType .. | .invalidValue .. | .invalidLength .. | .unknownVariant ..
  | .missingField _ | .duplicateField _ => .data
  | _ => .malformed

-- The names that could have stood in place of an unknown one.
def alternatives (names : List String) : String :=
  ", ".intercalate (names.map (fun n => "`" ++ n ++ "`"))

def message : Cause → String
  | .eofList => "EOF while parsing a list"
  | .eofObject => "EOF while parsing an object"
  | .eofString => "EOF while parsing a string"
  | .eofValue => "EOF while parsing a value"
  | .expectedColon => "expected `:`"
  | .expectedListComma => "expected `,` or `]`"
  | .expectedObjectComma => "expected `,` or `\x7d`"
  | .expectedIdent => "expected ident"
  | .expectedValue => "expected value"
  | .invalidEscape => "invalid escape"
  | .invalidNumber => "invalid number"
  | .numberOutOfRange => "number out of range"
  | .loneSurrogate => "lone leading surrogate in hex escape"
  | .unfinishedSurrogate => "unexpected end of hex escape"
  | .controlCharacter => "control character (\\u0000-\\u001F) found while parsing a string"
  | .keyMustBeString => "key must be a string"
  | .trailingComma => "trailing comma"
  | .trailingCharacters => "trailing characters"
  | .recursionLimit => "recursion limit exceeded"
  | .invalidType found expected => "invalid type: " ++ found.describe ++ ", expected " ++ expected
  | .invalidValue found expected => "invalid value: " ++ found.describe ++ ", expected " ++ expected
  | .invalidLength n expected => "invalid length " ++ toString n ++ ", expected " ++ expected
  | .unknownVariant name expected =>
      "unknown variant `" ++ name ++ "`, expected one of " ++ alternatives expected
  | .missingField name => "missing field `" ++ name ++ "`"
  | .duplicateField name => "duplicate field `" ++ name ++ "`"

end Cause

structure Fault where
  cause : Cause
  left : Nat

-- Length in bytes.
def width (cs : List Char) : Nat := cs.foldr (fun c n => c.utf8Size + n) 0

def fault (cause : Cause) (unread : List Char) : Except Fault α :=
  .error ⟨cause, width unread⟩

-- A fault that points one byte into the unread characters, if there are any.
def faultInto (cause : Cause) (unread : List Char) : Except Fault α :=
  .error ⟨cause, width unread - 1⟩

-- Passes over given characters. The text may end in front of one of them, or
-- hold another one in its place, which counts as read.
def expect (ended wrong : Cause) : List Char → List Char → Except Fault (List Char)
  | [], cs => .ok cs
  | _ :: _, [] => fault ended []
  | e :: es, c :: cs => if c = e then expect ended wrong es cs else faultInto wrong (c :: cs)

theorem expect_length (h : expect ended wrong es cs = .ok rest) : rest.length ≤ cs.length := by
  induction es generalizing cs with
  | nil => cases h; exact Nat.le_refl _
  | cons e es ih =>
      cases cs with
      | nil => cases h
      | cons c cs =>
          unfold expect at h
          split at h
          · exact Nat.le_succ_of_le (ih h)
          · cases h

-- A fault with its place in the text: lines count from one, columns are bytes.
structure Error where
  cause : Cause
  line : Nat
  column : Nat

namespace Error

def kind (e : Error) : FaultKind := e.cause.kind

def message (e : Error) : String :=
  e.cause.message ++ " at line " ++ toString e.line ++ " column " ++ toString e.column

-- Line and column after a number of bytes, counted from a given place.
def locate : List Char → Nat → Nat → Nat → Nat × Nat
  | [], _, line, column => (line, column)
  | c :: rest, bytes, line, column =>
      if bytes < c.utf8Size then (line, column + bytes)
      else if c = '\n' then locate rest (bytes - 1) (line + 1) 0
      else locate rest (bytes - c.utf8Size) line (column + c.utf8Size)

def ofFault (text : List Char) (f : Fault) : Error :=
  let (line, column) := locate text (width text - f.left) 1 0
  ⟨f.cause, line, column⟩

end Error

end PendingCalls.Json
