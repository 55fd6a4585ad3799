import PendingCalls.Decode
import PendingCalls.Details
import PendingCalls.Duration
import PendingCalls.Handle
import PendingCalls.Status

-- Everything that can go wrong with a native call, as its caller sees it, and
-- how a raw status becomes an error.

namespace PendingCalls

inductive CallError where
  -- the entry point refused the call, no callback will come
  | rejected (handle : Handle) (code : Status) (raw : Int32) (details : Option ErrorDetails)
  -- the call ran, and its callback reported a failure
  | failed (handle : Handle) (code : Status) (raw : Int32) (details : Option ErrorDetails)
  | undecodable (handle : Handle) (source : DecodeError)
  -- the caller gave up, the call itself goes on
  | timedOut (handle : Handle) (after : Duration)
  -- nobody is left who could deliver a result
  | abandoned (handle : Handle)

namespace CallError

def handle : CallError → Handle
  | .rejected h .. | .failed h .. | .undecodable h _ | .timedOut h _ | .abandoned h => h

def nativeCode : CallError → Option Status
  | .rejected _ code .. | .failed _ code .. => some code
  | _ => none

def rawCode : CallError → Option Int32
  | .rejected _ _ raw _ | .failed _ _ raw _ => some raw
  | _ => none

def details : CallError → Option ErrorDetails
  | .rejected _ _ _ details | .failed _ _ _ details => details
  | _ => none

def message : CallError → String
  | .rejected h code raw _ =>
      "native call " ++ h.text ++ " was rejected: " ++ code.text ++ " (raw " ++ toString raw.toInt ++ ")"
  | .failed h code raw _ =>
      "native call " ++ h.text ++ " failed: " ++ code.text ++ " (raw " ++ toString raw.toInt ++ ")"
  | .undecodable h source =>
      "result of native call " ++ h.text ++ " could not be decoded: " ++ source.message
  | .timedOut h after => "gave up waiting for native call " ++ h.text ++ " after " ++ after.text
  | .abandoned h => "native call " ++ h.text ++ " was abandoned before it completed"

def chain : CallError → List String
  | .undecodable _ source => source.message :: source.chain
  | _ => []

end CallError

-- Which of the two ways a failure came: as the entry point's status or through
-- the callback.
inductive FailurePath where
  | immediate | callback
deriving DecidableEq

-- A failure without the call it belongs to.
inductive Failure where
  | native (code : Status) (raw : Int32)
  | decode (source : DecodeError)

namespace Failure

def toCallError (f : Failure) (h : Handle) (path : FailurePath) (details : Option ErrorDetails) :
    CallError :=
  match f, path with
  | .native code raw, .immediate => .rejected h code raw details
  | .native code raw, .callback => .failed h code raw details
  | .decode source, _ => .undecodable h source

end Failure

-- What a raw status and a payload mean to a caller with a decoder.
inductive Meaning where
  | value (v : Datum)
  | failed (failure : Failure)
  | panicked (text : String)

-- Zero runs the decoder, any other status is a failure and leaves it alone.
def Meaning.of (raw : Int32) (payload : Payload) (decoder : Decoder) : Meaning :=
  if raw = Status.successRaw then
    match decoder payload with
    | .value v => .value v
    | .failed e => .failed (.decode e)
    | .panicked text => .panicked text
  else .failed (.native (Status.lookup raw) raw)

end PendingCalls
