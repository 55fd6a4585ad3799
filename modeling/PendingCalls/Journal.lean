import PendingCalls.CallError
import PendingCalls.Delivery
import PendingCalls.Registry

-- What happens in a session, as events. Some of them are records of the log;
-- the others tell how operations came and went.

namespace PendingCalls

-- What took an operation out of its registry.
inductive Departure where
  -- a callback, dispatched through a bridge
  | delivered (bridge : Nat) (delivery : Delivery)
  -- somebody asked to forget it
  | abandoned
  -- the native call was refused with this status
  | rejected (status : Int32)
  -- the native call gave up
  | unwound
  -- nobody owns the registry any more
  | registryClosed
  -- the same, but the end of the registry stopped before this one was let go: it is in no
  -- registry, and nobody closes its channel
  | leftBehind

-- What lets an operation go without an outcome, on behalf of those who use its bridge.
def Departure.cleanup : Departure → Bool
  | .abandoned | .rejected _ | .unwound => true
  | .delivered .. | .registryClosed | .leftBehind => false

inductive Event where
  | drew (registry : Nat) (h : Handle)
  | entered (registry : Nat) (op : Operation)
  | left (registry : Nat) (op : Operation) (why : Departure)
  -- no operation was pending under the handle of a callback
  | orphan (bridge : Nat) (h : Handle) (code : Int32)
  -- the operation was pending, but its caller had gone
  | callerGone (bridge : Nat) (h : Handle)
  -- the operation of a refused call was already out of its registry
  | lateRejection (h : Handle) (status : Int32)
  | rejected (h : Handle) (status : Int32)
  | timedOut (h : Handle) (after : Duration)
  | unreadableDetails (error : Json.Error)
  | decoding (channel : Nat) (payload : Payload)
  | actorStarted
  | requesterGone
  -- a callback came before anybody was bound to receive it
  | unbound (h : Handle) (code : Int32)
  -- a callback came for an actor that had stopped
  | actorGone (h : Handle)

inductive Level where
  | error | warn | info
deriving DecidableEq

namespace Level

def name : Level → String
  | .error => "ERROR"
  | .warn => "WARN"
  | .info => "INFO"

end Level

-- Why a message to an actor that has stopped cannot be sent.
def actorStoppedMessage : String :=
  "Messaging failed to enqueue the message to the specified actor, the actor is likely terminated"

namespace Event

-- The level and text of an event that belongs to the log.
def record? : Event → Option (Level × String)
  | .orphan _ h code =>
      some (.error, "Received callback for unknown handle " ++ h.text ++ " (error code " ++
        toString code.toInt ++ "), dropping it")
  | .callerGone _ h =>
      some (.info, "Callback for " ++ h.text ++ " arrived after the caller stopped waiting")
  | .lateRejection h status =>
      some (.warn, "Native call " ++ h.text ++ " was rejected with " ++ toString status.toInt ++
        " although a callback already arrived for it")
  | .rejected h status =>
      some (.warn, "Native call " ++ h.text ++ " was rejected immediately: " ++
        (Status.lookup status).text)
  | .timedOut h after =>
      some (.warn, "Timed out after " ++ after.text ++ " waiting for native call " ++ h.text)
  | .unreadableDetails e => some (.warn, "Failed to parse native error details: " ++ e.message)
  | .actorStarted => some (.info, "Callback dispatcher actor started")
  | .requesterGone => some (.warn, "Stats requester went away before the reply was sent")
  | .unbound h code =>
      some (.error, "Callback for handle " ++ toString h.raw.toInt ++ " (error code " ++
        toString code.toInt ++ ") arrived before the trampolines were bound, dropping it")
  | .actorGone h =>
      some (.error, "Dispatcher actor is gone, callback for handle " ++ toString h.raw.toInt ++
        " is lost: " ++ actorStoppedMessage)
  | .drew .. | .entered .. | .left .. | .decoding .. => none

def line? (e : Event) : Option String := e.record?.map (fun r => r.1.name ++ " " ++ r.2)

end Event

end PendingCalls
