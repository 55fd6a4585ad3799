import PendingCalls.Delivery

-- One-shot channels. At most one outcome goes through a channel; each side sees
-- when the other one has gone.

namespace PendingCalls

-- Who is told when a channel that was polled in vain has something to tell.
inductive Waker where
  | quiet
  | panicking
deriving DecidableEq

inductive Channel where
  -- nothing was sent yet; the waker of the last poll, if there was one
  | waiting (waker : Option Waker)
  -- the receiver is gone
  | deserted
  -- an outcome was sent and not yet taken
  | full (outcome : Outcome)
  -- the sender went away without sending
  | closed
  -- the outcome was taken
  | spent

-- What came of sending: the waker to wake, or the outcome handed back.
inductive Sending where
  | delivered (waker : Option Waker)
  | returned

inductive Reception where
  | outcome (o : Outcome)
  | empty
  | closed

inductive ChannelPoll where
  | ready (o : Outcome)
  | pending
  | closed
  | spent

namespace Channel

def fresh : Channel := .waiting none

def send (o : Outcome) : Channel → Channel × Sending
  | .waiting waker => (.full o, .delivered waker)
  | other => (other, .returned)

-- The sender goes away. Gives the waker to wake.
def hangUp : Channel → Channel × Option Waker
  | .waiting waker => (.closed, waker)
  | other => (other, none)

def desert : Channel → Channel := fun _ => .deserted

def tryReceive : Channel → Channel × Reception
  | .full o => (.spent, .outcome o)
  | .waiting waker => (.waiting waker, .empty)
  | other => (other, .closed)

-- Looks for an outcome; in vain, it leaves its waker in place of an older one.
def poll (waker : Waker) : Channel → Channel × ChannelPoll
  | .full o => (.spent, .ready o)
  | .waiting _ => (.waiting (some waker), .pending)
  | .spent => (.spent, .spent)
  | other => (other, .closed)

end Channel

end PendingCalls
