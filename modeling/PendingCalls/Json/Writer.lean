import PendingCalls.Json.Value
import PendingCalls.Json.Fault

-- Writing a value without blanks, members in their order.

namespace PendingCalls.Json

def hexDigit (n : Nat) : Char := Nat.digitChar n

-- Quotes, backslashes and control characters are escaped, all else is itself.
def writeChar (c : Char) : List Char :=
  match c with
  | '"' => ['\\', '"']
  | '\\' => ['\\', '\\']
  | '\x08' => ['\\', 'b']
  | '\x0c' => ['\\', 'f']
  | '\n' => ['\\', 'n']
  | '\r' => ['\\', 'r']
  | '\t' => ['\\', 't']
  | c =>
      if c.toNat < 0x20 then ['\\', 'u', '0', '0', hexDigit (c.toNat / 16), hexDigit (c.toNat % 16)]
      else [c]

def writeString (s : String) : List Char := '"' :: s.toList.flatMap writeChar ++ ['"']

def writeNat (n : Nat) : List Char := Nat.toDigits 10 n

def writeInt (n : Int) : List Char := if n < 0 then '-' :: writeNat n.natAbs else writeNat n.natAbs

def writeOptional (write : α → List Char) : Option α → List Char
  | some x => write x
  | none => ['n', 'u', 'l', 'l']

def writeMember (key : String) (value : List Char) : List Char := writeString key ++ ':' :: value

def writeList (items : List (List Char)) : List Char := '[' :: [','].intercalate items ++ [']']

def writeObject (members : List (String × List Char)) : List Char :=
  '\x7b' :: [','].intercalate (members.map (fun m => writeMember m.1 m.2)) ++ ['\x7d']

namespace Value

mutual

def write : Value → List Char
  | .null => ['n', 'u', 'l', 'l']
  | .boolean true => ['t', 'r', 'u', 'e']
  | .boolean false => ['f', 'a', 'l', 's', 'e']
  | .integer n => writeInt n
  | .float x => Text.floatText Found.layout x
  | .text s => writeString s
  | .list items => writeList (writeItems items)
  | .object members => writeObject (writeMembers members)

def writeItems : List Value → List (List Char)
  | [] => []
  | v :: rest => v.write :: writeItems rest

def writeMembers : List (String × Value) → List (String × List Char)
  | [] => []
  | (k, v) :: rest => (k, v.write) :: writeMembers rest

end

def written (v : Value) : String := String.ofList v.write

end Value

end PendingCalls.Json
