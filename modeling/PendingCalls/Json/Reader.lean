import PendingCalls.Json.Number
import PendingCalls.Json.Punctuation
import PendingCalls.Json.Value

-- Reading a value. Lists and objects share one loop each, given a reader for
-- their items; a value nests at most so deep. Every turn of a loop reads at least
-- one character, so the characters from its start bound the number of its turns.

namespace PendingCalls.Json

def elements (item : List Char → Except Fault (α × List Char)) :
    (turns : List Char) → List α → Bool → List Char → Except Fault (List α × List Char)
  | [], _, _, cs => fault .eofList cs
  | _ :: turns, collected, first, cs =>
      match elementStart first cs with
      | .error f => .error f
      | .ok (false, rest) => .ok (collected.reverse, rest)
      | .ok (true, rest) =>
          match item rest with
          | .error f => .error f
          | .ok (x, rest) => elements item turns (x :: collected) false rest

def members (item : List Char → Except Fault (α × List Char)) :
    (turns : List Char) → List (String × α) → Bool → List Char →
      Except Fault (List (String × α) × List Char)
  | [], _, _, cs => fault .eofObject cs
  | _ :: turns, collected, first, cs =>
      match keyStart first cs with
      | .error f => .error f
      | .ok (false, rest) => .ok (collected.reverse, rest)
      | .ok (true, rest) =>
          match stringBody [] rest with
          | .error f => .error f
          | .ok (key, rest) =>
              match colon rest with
              | .error f => .error f
              | .ok rest =>
                  match item rest with
                  | .error f => .error f
                  | .ok (x, rest) => members item turns ((key, x) :: collected) false rest

-- One of the three words, behind its first letter.
def word (letters : List Char) (x : α) (rest : List Char) : Except Fault (α × List Char) :=
  (expect .eofValue .expectedIdent letters rest).map (x, ·)

def scalarWord (c : Char) (rest : List Char) : Option (Except Fault (Value × List Char)) :=
  if c = 'n' then some (word ['u', 'l', 'l'] .null rest)
  else if c = 't' then some (word ['r', 'u', 'e'] (.boolean true) rest)
  else if c = 'f' then some (word ['a', 'l', 's', 'e'] (.boolean false) rest)
  else none

def Number.value : Number → Value
  | .integer n => .integer n
  | .float x => .float x

def scalar? : List Char → Option (Except Fault (Value × List Char))
  | [] => none
  | c :: rest =>
      if c = '"' then some ((stringBody [] rest).map (fun r => (.text r.1, r.2)))
      else if c = '-' || c.isDigit then
        some ((Number.read (c :: rest)).map (fun r => (r.1.value, r.2)))
      else scalarWord c rest

def container (inner : List Char → Except Fault (Value × List Char)) :
    List Char → Except Fault (Value × List Char)
  | '[' :: rest =>
      (elements inner rest [] true rest).map (fun r => (.list r.1, r.2.drop 1))
  | '\x7b' :: rest =>
      (members inner rest [] true rest).map
        (fun r => (.object (ofMembers r.1), r.2.drop 1))
  | other => faultInto .expectedValue other

def opensContainer : List Char → Bool
  | c :: _ => c = '[' || c = '\x7b'
  | [] => false

-- Lists and objects may nest as deep as the first argument says.
def readValue : Nat → List Char → Except Fault (Value × List Char)
  | 0, cs =>
      let cs := skipBlank cs
      if cs.isEmpty then fault .eofValue []
      else if opensContainer cs then faultInto .recursionLimit cs
      else (scalar? cs).getD (faultInto .expectedValue cs)
  | depth + 1, cs =>
      let cs := skipBlank cs
      if cs.isEmpty then fault .eofValue []
      else
        match scalar? cs with
        | some read => read
        | none => container (readValue depth) cs

def greatestDepth : Nat := 127

-- Reads a whole text: nothing but blanks may follow.
def parse (read : List Char → Except Fault (α × List Char)) (text : String) : Except Error α :=
  let cs := text.toList
  match read cs with
  | .error f => .error (Error.ofFault cs f)
  | .ok (x, rest) =>
      match skipBlank rest with
      | [] => .ok x
      | rest => .error (Error.ofFault cs ⟨.trailingCharacters, width rest - 1⟩)

def Value.parse (text : String) : Except Error Value := Json.parse (readValue greatestDepth) text

end PendingCalls.Json
