import PendingCalls.Text.Visible

-- Text between double quotes, as messages show it: the quote, the backslash and
-- the usual control characters by their short escapes, any other character that
-- does not show on its own by its code point in hexadecimal.

namespace PendingCalls.Text

def hexText (n : Nat) : List Char := Nat.toDigits 16 n

def quotedChar (c : Char) : List Char :=
  match c with
  | '"' => ['\\', '"']
  | '\\' => ['\\', '\\']
  | '\n' => ['\\', 'n']
  | '\t' => ['\\', 't']
  | '\r' => ['\\', 'r']
  | '\x00' => ['\\', '0']
  | c =>
      if isVisible c then [c]
      else ['\\', 'u', '\x7b'] ++ hexText c.toNat ++ ['\x7d']

def quoted (s : String) : String :=
  String.ofList ('"' :: s.toList.flatMap quotedChar ++ ['"'])

end PendingCalls.Text
