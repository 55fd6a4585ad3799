import PendingCalls.Handle

-- Reasons for giving up in the middle of a step, with the text of each.

namespace PendingCalls

inductive Panic where
  -- an operation under this handle is pending already
  | collision (handle : Handle)
  | wakerBlewUp
  -- the result was taken before
  | polledAfterCompletion
  -- the outcome was taken, but no result came of it
  | calledAfterComplete
  | slotGone
  | bridgeGone
  | durationTooLong
  -- the thread drives asynchronous work already
  | nestedRuntime
  -- a native call or a decoder gave up
  | raised (text : String)
deriving DecidableEq

namespace Panic

def message : Panic → String
  | .collision h =>
      "invariant violation: handle " ++ h.text ++ " is already pending, refusing to overwrite it"
  | .wakerBlewUp => "waker blew up"
  | .polledAfterCompletion => "PendingResult polled after completion"
  | .calledAfterComplete => "called after complete"
  | .slotGone => "slot is gone"
  | .bridgeGone => "bridge is gone"
  | .durationTooLong => "overflow in Duration::new"
  | .nestedRuntime =>
      "Cannot start a runtime from within a runtime. This happens because a function (like " ++
        "`block_on`) attempted to block the current thread while the thread is being used to " ++
        "drive asynchronous tasks. If you are in an async function, use `.await` on the future " ++
        "instead of blocking on it."
  | .raised text => text

end Panic

end PendingCalls
