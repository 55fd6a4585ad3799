import PendingCalls.Json.Typed
import PendingCalls.Json.Writer
import PendingCalls.Text.Utf8

-- What the native library tells about its most recent failure, as a JSON
-- document with a message and perhaps a backtrace.

namespace PendingCalls

structure ErrorDetails where
  message : String
  backtrace : Option String
deriving DecidableEq, Inhabited

namespace ErrorDetails

-- The message is required, the backtrace may be null or left out.
def record : Json.Record String (Option String) :=
  { name := "ErrorDetails"
    first := ⟨"message", Json.readString, none⟩
    second := ⟨"backtrace", Json.readOptional Json.readString, some none⟩ }

def parse (text : String) : Except Json.Error ErrorDetails :=
  (Json.parse record.read text).map (fun r => ⟨r.1, r.2⟩)

def write (d : ErrorDetails) : List Char :=
  Json.writeObject
    [("message", Json.writeString d.message),
      ("backtrace", Json.writeOptional Json.writeString d.backtrace)]

def text (d : ErrorDetails) : String := String.ofList d.write

-- What a report of the native library says, none if there is no report. A
-- report that is no such document is passed over, with the reason.
def ofReport (report : Option (List UInt8)) : Option ErrorDetails × Option Json.Error :=
  match report with
  | none => (none, none)
  | some bytes =>
      match parse (String.ofList (Text.decodeLossy (Text.untilNul bytes))) with
      | .ok d => (some d, none)
      | .error e => (none, some e)

end ErrorDetails

end PendingCalls
