import PendingCalls.Session.Dispatch

-- Actors dispatch the deliveries in their mailboxes, one message at a time and
-- in the order of arrival.

namespace PendingCalls.Session

-- What became of a message: it reached its mailbox, and if it was handled the
-- reply is there, or the actor had stopped.
inductive Posted where
  | sent (reply : Option Stats)
  | refused

namespace Actor

def fresh (b : Nat) : Actor := ⟨b, [], true, [], []⟩

def accept (m : Message) (actor : Actor) : Actor :=
  { actor with mailbox := actor.mailbox ++ [m], accepted := m :: actor.accepted }

-- A message leaves the mailbox, with these behind it, to be handled.
def next (m : Message) (rest : List Message) (actor : Actor) : Actor :=
  { actor with mailbox := rest, handled := m :: actor.handled }

def stopped (actor : Actor) : Actor := { actor with mailbox := [], running := false }

end Actor

namespace State

def actor? (s : State) (a : Nat) : Option Actor := s.actors.get? a

def changeActor (s : State) (a : Nat) (f : Actor → Actor) : State :=
  { s with actors := s.actors.modify a f }

def statsOf (s : State) (b : Nat) : Stats :=
  match s.bridge? b with
  | some bridge => bridge.stats
  | none => .none

-- An actor that stops reads no more messages and owns its registry no more.
def stopActor (s : State) (a : Nat) : Except Panic Unit × State :=
  match s.actor? a with
  | none => (.ok (), s)
  | some actor =>
      let s := s.changeActor a Actor.stopped
      match s.bridge? actor.bridge with
      | none => (.ok (), s)
      | some bridge => s.release bridge.registry

-- What an actor does with one message: the counters if somebody waits for them.
-- A panic while it dispatches is the end of the actor.
def handleMessage (s : State) (a b : Nat) : Message → Option Stats × State
  | .deliver d =>
      match s.dispatch b d with
      | (.ok _, s) => (none, s)
      | (.error _, s) => (none, (s.stopActor a).2)
  | .report true => (some (s.statsOf b), s)
  | .report false => (none, s.note .requesterGone)

def attend (s : State) (a : Nat) : Option Stats × State :=
  match s.actor? a with
  | some ⟨b, message :: rest, true, _, _⟩ =>
      (s.changeActor a (Actor.next message rest)).handleMessage a b message
  | _ => (none, s)

-- Message by message; the last reply counts.
def attendMany (s : State) (a : Nat) : Nat → Option Stats × State
  | 0 => (none, s)
  | turns + 1 =>
      let (reply, s) := s.attend a
      let (later, s) := attendMany s a turns
      (later.or reply, s)

def mailbox (s : State) (a : Nat) : List Message :=
  match s.actor? a with
  | some actor => actor.mailbox
  | none => []

def drain (s : State) (a : Nat) : Option Stats × State := s.attendMany a (s.mailbox a).length

-- Puts a message into a mailbox, unless the actor has stopped. A prompt actor
-- has handled it then.
def post (s : State) (a : Nat) (m : Message) : Posted × State :=
  match s.actor? a with
  | none => (.refused, s)
  | some actor =>
      if actor.running then
        let s := s.changeActor a (Actor.accept m)
        match s.attendance with
        | .prompt =>
            let (reply, s) := s.drain a
            (.sent reply, s)
        | .onDemand => (.sent none, s)
      else (.refused, s)

def spawnActor (s : State) (b : Nat) : Nat × State :=
  (s.actors.size, { s with actors := s.actors.push (Actor.fresh b) }.note .actorStarted)

end State

end PendingCalls.Session
