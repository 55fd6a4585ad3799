import PendingCalls.Json.Fault

-- What a callback delivers: fields in the order of its arguments, and access to
-- them by position and kind.

namespace PendingCalls

inductive PayloadField where
  | i32 (v : Int32)
  | u32 (v : UInt32)
  | i64 (v : Int64)
  | bool (v : Bool)
  | str (v : Option String)
  | bytes (v : List UInt8)
deriving DecidableEq

abbrev Payload := List PayloadField

namespace PayloadField

def kind : PayloadField → String
  | .i32 _ => "i32"
  | .u32 _ => "u32"
  | .i64 _ => "i64"
  | .bool _ => "bool"
  | .str _ => "string"
  | .bytes _ => "bytes"

end PayloadField

-- The payload did not have the shape that the caller expected.
inductive DecodeError where
  | missingField (index : Nat) (expected : String)
  | unexpectedField (index : Nat) (expected found : String)
  | nullString (index : Nat)
  | json (error : Json.Error)
  | custom (text : String)

namespace DecodeError

def message : DecodeError → String
  | .missingField index expected =>
      "payload field " ++ toString index ++ " is missing (expected " ++ expected ++ ")"
  | .unexpectedField index expected found =>
      "payload field " ++ toString index ++ " is " ++ found ++ ", expected " ++ expected
  | .nullString index => "payload field " ++ toString index ++ " is a null string"
  | .json error => "payload is not valid json: " ++ error.message
  | .custom text => text

def chain : DecodeError → List String
  | .json error => [error.message]
  | _ => []

end DecodeError

namespace Payload

def field (p : Payload) (index : Nat) (expected : String) : Except DecodeError PayloadField :=
  match p[index]? with
  | some f => .ok f
  | none => .error (.missingField index expected)

def typed (p : Payload) (index : Nat) (expected : String) (view : PayloadField → Option α) :
    Except DecodeError α :=
  match p.field index expected with
  | .error e => .error e
  | .ok f =>
      match view f with
      | some v => .ok v
      | none => .error (.unexpectedField index expected f.kind)

def i32At (p : Payload) (index : Nat) : Except DecodeError Int32 :=
  p.typed index "i32" (fun | .i32 v => some v | _ => none)

def u32At (p : Payload) (index : Nat) : Except DecodeError UInt32 :=
  p.typed index "u32" (fun | .u32 v => some v | _ => none)

def i64At (p : Payload) (index : Nat) : Except DecodeError Int64 :=
  p.typed index "i64" (fun | .i64 v => some v | _ => none)

def boolAt (p : Payload) (index : Nat) : Except DecodeError Bool :=
  p.typed index "bool" (fun | .bool v => some v | _ => none)

-- A string, which may be null.
def optStrAt (p : Payload) (index : Nat) : Except DecodeError (Option String) :=
  p.typed index "string" (fun | .str v => some v | _ => none)

def strAt (p : Payload) (index : Nat) : Except DecodeError String :=
  match p.optStrAt index with
  | .error e => .error e
  | .ok (some s) => .ok s
  | .ok none => .error (.nullString index)

def bytesAt (p : Payload) (index : Nat) : Except DecodeError (List UInt8) :=
  p.typed index "bytes" (fun | .bytes v => some v | _ => none)

end Payload

end PendingCalls
