import PendingCalls.Json.Text

-- What stands between the values of a JSON text: blanks, and the brackets,
-- commas and colons of lists and objects.

namespace PendingCalls.Json

def isBlank (c : Char) : Bool := c = ' ' || c = '\n' || c = '\t' || c = '\r'

def skipBlank (cs : List Char) : List Char := cs.dropWhile isBlank

-- In front of an element of a list, or of the closing bracket: whether there is
-- an element, and the text from there.
def elementStart (first : Bool) (cs : List Char) : Except Fault (Bool × List Char) :=
  match skipBlank cs with
  | [] => fault .eofList []
  | ']' :: rest => .ok (false, ']' :: rest)
  | c :: rest =>
      if first then .ok (true, c :: rest)
      else if c = ',' then
        match skipBlank rest with
        | [] => fault .eofValue []
        | ']' :: rest => faultInto .trailingComma (']' :: rest)
        | rest => .ok (true, rest)
      else faultInto .expectedListComma (c :: rest)

-- In front of a member of an object, or of the closing brace: whether there is a
-- member, and the text behind the opening quote of its key.
def keyStart (first : Bool) (cs : List Char) : Except Fault (Bool × List Char) :=
  match skipBlank cs with
  | [] => fault .eofObject []
  | '\x7d' :: rest => .ok (false, '\x7d' :: rest)
  | c :: rest =>
      if first then
        if c = '"' then .ok (true, rest) else faultInto .keyMustBeString (c :: rest)
      else if c = ',' then
        match skipBlank rest with
        | [] => fault .eofValue []
        | '"' :: rest => .ok (true, rest)
        | '\x7d' :: rest => faultInto .trailingComma ('\x7d' :: rest)
        | rest => faultInto .keyMustBeString rest
      else faultInto .expectedObjectComma (c :: rest)

def colon (cs : List Char) : Except Fault (List Char) :=
  match skipBlank cs with
  | [] => fault .eofObject []
  | ':' :: rest => .ok rest
  | rest => faultInto .expectedColon rest

-- How a list or an object ended: the fault of its closer, if any, and the text
-- that is left then.
structure Closing where
  fault? : Option Fault
  rest : List Char

def Closing.bad (cause : Cause) (rest : List Char) : Closing :=
  ⟨some ⟨cause, width rest - 1⟩, rest⟩

def closeList (cs : List Char) : Closing :=
  match skipBlank cs with
  | [] => .bad .eofList []
  | ']' :: rest => ⟨none, rest⟩
  | ',' :: rest =>
      match skipBlank rest with
      | ']' :: rest => .bad .trailingComma (']' :: rest)
      | rest => .bad .trailingCharacters rest
  | rest => .bad .trailingCharacters rest

def closeObject (cs : List Char) : Closing :=
  match skipBlank cs with
  | [] => .bad .eofObject []
  | '\x7d' :: rest => ⟨none, rest⟩
  | ',' :: rest => .bad .trailingComma (',' :: rest)
  | rest => .bad .trailingCharacters rest

end PendingCalls.Json
