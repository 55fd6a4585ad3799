import PendingCalls.Session.State

-- Taking operations out of their registries: deliveries, abandonment, and the
-- end of a registry that nobody owns.

namespace PendingCalls.Session

inductive DispatchOutcome where
  -- the caller that waits has the outcome
  | resolved
  -- the operation was pending, but nobody waits for it any more
  | callerGone
  -- no operation is pending under the handle
  | orphan
deriving DecidableEq

-- Waking a waker ends the step in a panic if the waker panics.
def wake : Option Waker → Except Panic Unit
  | some .panicking => .error .wakerBlewUp
  | _ => .ok ()

namespace State

def withdraw (s : State) (r : Nat) (h : Handle) (why : Departure) : Option Operation × State :=
  match s.registry? r with
  | none => (none, s)
  | some registry =>
      match registry.remove h with
      | none => (none, s)
      | some (op, registry) => (some op, (s.putRegistry r registry).note (.left r op why))

def hangUp (s : State) (c : Nat) : Except Panic Unit × State :=
  match s.channel? c with
  | none => (.ok (), s)
  | some channel =>
      let (channel, waker) := channel.hangUp
      (wake waker, s.putChannel c channel)

def send (s : State) (c : Nat) (o : Outcome) : Sending × State :=
  match s.channel? c with
  | none => (.returned, s)
  | some channel =>
      let (channel, sending) := channel.send o
      (sending, s.putChannel c channel)

def countResolved (st : Stats) : Stats := { st with resolved := st.resolved + 1 }

def countOrphan (st : Stats) : Stats := { st with orphaned := st.orphaned + 1 }

-- A resolution turns out to have had no caller.
def recountCallerGone (st : Stats) : Stats :=
  { st with resolved := st.resolved - 1, callerGone := st.callerGone + 1 }

-- A callback reaches a bridge. Whoever takes the operation out decides its
-- outcome; it is counted before the caller can see it.
def dispatch (s : State) (b : Nat) (d : Delivery) : Except Panic DispatchOutcome × State :=
  match s.bridge? b with
  | none => (.ok .orphan, s)
  | some bridge =>
      match s.withdraw bridge.registry d.handle (.delivered b d) with
      | (none, s) =>
          (.ok .orphan, (s.changeStats b countOrphan).note (.orphan b d.handle d.code))
      | (some op, s) =>
          match (s.changeStats b countResolved).send op.channel d.outcome with
          | (.delivered waker, s) => ((wake waker).map (fun _ => .resolved), s)
          | (.returned, s) =>
              (.ok .callerGone,
                (s.changeStats b recountCallerGone).note (.callerGone b d.handle))

-- Takes an operation out and lets it go: whoever waits for it learns that it is
-- over. Tells whether there was one.
def evict (s : State) (r : Nat) (h : Handle) (why : Departure) : Except Panic Bool × State :=
  match s.withdraw r h why with
  | (none, s) => (.ok false, s)
  | (some op, s) =>
      let (woken, s) := s.hangUp op.channel
      (woken.map (fun _ => true), s)

def abandon (s : State) (r : Nat) (h : Handle) : Except Panic Bool × State :=
  s.evict r h .abandoned

-- Bridges own their registries while they are in use, actors and a direct
-- binding through the bridge they dispatch for.
def ownedBy (s : State) (r b : Nat) : Bool :=
  match s.bridge? b with
  | some bridge => bridge.registry = r
  | none => false

def owned (s : State) (r : Nat) : Bool :=
  s.bridges.toList.any (fun bridge => bridge.registry = r && (bridge.listed || 0 < bridge.running)) ||
    s.actors.toList.any (fun actor => actor.running && s.ownedBy r actor.bridge) ||
    (match s.binding with
      | some ⟨.direct b, _⟩ => s.ownedBy r b
      | _ => false)

def leaveBehind (s : State) (r : Nat) (ops : List Operation) : State :=
  ops.foldl (fun s op => s.note (.left r op .leftBehind)) s

-- Lets operations go one after another. A panic ends that: those that would come next are
-- left behind.
def hangUpAll (r : Nat) : List Operation → State → Except Panic Unit × State
  | [], s => (.ok (), s)
  | op :: rest, s =>
      match (s.note (.left r op .registryClosed)).hangUp op.channel with
      | (.ok (), s) => hangUpAll r rest s
      | (.error p, s) => (.error p, s.leaveBehind r rest)

-- A registry ends, and with it all its operations, in this order.
def endRegistry (s : State) (r : Nat) (order : List Operation) : Except Panic Unit × State :=
  match s.registry? r with
  | none => (.ok (), s)
  | some registry => hangUpAll r order (s.putRegistry r registry.clear)

-- A registry that nobody owns ends. Its entries have no order of their own; here the
-- newest goes first.
def release (s : State) (r : Nat) : Except Panic Unit × State :=
  if s.owned r then (.ok (), s)
  else s.endRegistry r (s.pendingIn r)

-- A call on a bridge begins: the bridge stays in use.
def hold (s : State) (b : Nat) : State :=
  s.changeBridge b (fun bridge => { bridge with running := bridge.running + 1 })

def unhold (s : State) (b : Nat) : State :=
  s.changeBridge b (fun bridge => { bridge with running := bridge.running - 1 })

def letGo (s : State) (b : Nat) : Except Panic Unit × State :=
  match s.bridge? b with
  | none => (.ok (), s)
  | some bridge => (s.unhold b).release bridge.registry

def unlist (s : State) (b : Nat) : State :=
  s.changeBridge b (fun bridge => { bridge with listed := false })

def dropBridge (s : State) (b : Nat) : Except Panic Unit × State :=
  match s.bridge? b with
  | none => (.ok (), s)
  | some bridge => (s.unlist b).release bridge.registry

end State

end PendingCalls.Session
