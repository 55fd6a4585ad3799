import PendingCalls.Details
import PendingCalls.Handle
import PendingCalls.Payload

-- What a callback brings, before it means anything to a caller.

namespace PendingCalls

structure Outcome where
  code : Int32
  payload : Payload
  details : Option ErrorDetails

structure Delivery where
  handle : Handle
  code : Int32
  payload : Payload
  details : Option ErrorDetails

namespace Delivery

def outcome (d : Delivery) : Outcome := ⟨d.code, d.payload, d.details⟩

end Delivery

end PendingCalls
