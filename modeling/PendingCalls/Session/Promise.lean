import PendingCalls.Session.Dispatch

-- Looking for the result of a call, waiting for it with a limit, and giving up.

namespace PendingCalls.Session

inductive Poll where
  | pending
  | ready (result : Except CallError Datum)
  | panicked (p : Panic)

-- Whoever looks for a result when the turn is over is woken at once, to look again
-- in the next turn. The promise keeps the waker it had.
def Poll.turnedAway (waker : Waker) : Poll :=
  match wake (some waker) with
  | .ok () => .pending
  | .error p => .panicked p

namespace Promise

-- True once the result can be taken from the promise itself.
def isResolved (p : Promise) : Bool :=
  match p.state with
  | .ready (some _) => true
  | _ => false

def taken (p : Promise) : Promise := { p with state := .ready none }

end Promise

namespace State

-- The meaning of an outcome that came through a channel. Only a success runs
-- the decoder.
def interpret (s : State) (c : Nat) (o : Outcome) (decoder : Decoder) : Meaning × State :=
  let result := Meaning.of o.code o.payload decoder
  (result, if o.code = Status.successRaw then s.note (.decoding c o.payload) else s)

def take (s : State) (p : Promise) (c : Nat) (decoder : Option Decoder) (o : Outcome) :
    Poll × Promise × State :=
  match decoder with
  | none => (.panicked .polledAfterCompletion, p, s)
  | some decode =>
      match s.interpret c o decode with
      | (.value v, s) => (.ready (.ok v), p.taken, s)
      | (.failed f, s) =>
          (.ready (.error (f.toCallError p.handle .callback o.details)), p.taken, s)
      | (.panicked text, s) => (.panicked (.raised text), { p with state := .waiting c none }, s)

-- One look at a promise. A result is given once; without one, the waker stays
-- behind. What comes through a channel counts in the turn, and so does its end.
def poll (s : State) (p : Promise) (waker : Waker) : Poll × Promise × State :=
  match p.state with
  | .ready (some result) => (.ready result, p.taken, s)
  | .ready none => (.panicked .polledAfterCompletion, p, s)
  | .waiting c decoder =>
      match (s.channel? c).map (Channel.poll waker), s.exhausted with
      | none, _ => (.panicked .calledAfterComplete, p, s)
      | some (_, .spent), _ => (.panicked .calledAfterComplete, p, s)
      | some _, true => (.turnedAway waker, p, s)
      | some (channel, .pending), false => (.pending, p, s.putChannel c channel)
      | some (channel, .closed), false =>
          (.ready (.error (.abandoned p.handle)), p.taken, (s.putChannel c channel).spend)
      | some (channel, .ready o), false => (s.putChannel c channel).spend.take p c decoder o

def forget (s : State) (p : Promise) : State :=
  match p.state with
  | .ready _ => s
  | .waiting c _ => s.desert c

-- Waits at most so long. A result that is there wins over any limit; otherwise
-- nothing comes, and only the waiting ends. Nobody waits so in a turn that is over: a call
-- waits after the turn of its native side, and inside of it there is no waiting with a limit.
def withTimeout (s : State) (p : Promise) (after : Duration) :
    Except Panic (Except CallError Datum) × State :=
  match s.poll p .quiet with
  | (.ready result, p, s) => (.ok result, s.forget p)
  | (.panicked panic, p, s) => (.error panic, s.forget p)
  | (.pending, p, s) =>
      (.ok (.error (.timedOut p.handle after)), (s.note (.timedOut p.handle after)).forget p)

-- Waits without a limit: nothing at all if no result comes.
def await (s : State) (p : Promise) : Except Panic (Option (Except CallError Datum)) × State :=
  match s.poll p .quiet with
  | (.ready result, p, s) => (.ok (some result), s.forget p)
  | (.panicked panic, p, s) => (.error panic, s.forget p)
  | (.pending, _, s) => (.ok none, s)

def awaitAtMost (s : State) (p : Promise) (limit : Option Duration) :
    Except Panic (Option (Except CallError Datum)) × State :=
  match limit with
  | some after =>
      let (result, s) := s.withTimeout p after
      (result.map some, s)
  | none => s.await p

-- Waits as long as the bridge of a promise would. Only a limit needs a runtime, for
-- its timer.
def wait (s : State) (p : Promise) : Except Panic (Option (Except CallError Datum)) × State :=
  if s.driven && p.timeout.isSome then (.error .nestedRuntime, s.forget p)
  else s.awaitAtMost p p.timeout

end State

end PendingCalls.Session
