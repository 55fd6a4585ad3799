import PendingCalls.Session.Promise

-- Submitting a native call. The operation is registered before the call runs,
-- so a callback that comes before it returns finds it.

namespace PendingCalls.Session

-- How a native call ended: with a status, or by a panic. Whatever it did meanwhile
-- is in the state, and what it has to tell is extra.
structure NativeRun (α : Type) where
  ending : Except Panic Int32
  extra : α
  state : State

-- A promise or a panic; the extra is that of the native call, if it ran.
structure Submission (α : Type) where
  outcome : Except Panic Promise
  extra : Option α
  state : State

def Bridge.promise (bridge : Bridge) (op : Operation) (decoder : Decoder) : Promise :=
  ⟨op.handle, bridge.config.defaultTimeout, .waiting op.channel (some decoder)⟩

namespace Hook

def report (errors : ThreadErrors) : Hook → Option (List UInt8)
  | .told => errors.told
  | .silent => none
  | .native => errors.current

end Hook

namespace State

-- The details that a hook tells. A report that cannot be read is noted.
def readDetails (s : State) (hook : Option Hook) (errors : ThreadErrors) :
    Option ErrorDetails × State :=
  match hook with
  | none => (none, s)
  | some hook =>
      match ErrorDetails.ofReport (hook.report errors) with
      | (details, none) => (details, s)
      | (details, some e) => (details, s.note (.unreadableDetails e))

def draw (s : State) (r : Nat) : Option Handle × State :=
  match s.registry? r with
  | none => (none, s)
  | some registry =>
      let (h, registry) := registry.allocate
      (some h, (s.putRegistry r registry).note (.drew r h))

-- A new operation under a handle, with its channel. It is lost if the handle is
-- pending already.
def enter (s : State) (r : Nat) (h : Handle) : Except Panic Operation × State :=
  let op : Operation := ⟨h, s.channels.size⟩
  let s := { s with channels := s.channels.push Channel.fresh }
  match (s.registry? r).bind (·.insert? op) with
  | some registry => (.ok op, (s.putRegistry r registry).note (.entered r op))
  | none => (.error (.collision h), (s.hangUp op.channel).2)

def register (s : State) (b : Nat) : Except Panic (Bridge × Operation) × State :=
  match s.bridge? b with
  | none => (.error .bridgeGone, s)
  | some bridge =>
      match s.draw bridge.registry with
      | (none, s) => (.error .bridgeGone, s)
      | (some h, s) =>
          match s.enter bridge.registry h with
          | (.error p, s) => (.error p, s)
          | (.ok op, s) => (.ok (bridge, op), s)

-- The native call gave up: its operation is let go. A panic on the way there is
-- the one that counts.
def unwind (s : State) (r : Nat) (op : Operation) (p : Panic) : Except Panic Promise × State :=
  match s.evict r op.handle .unwound with
  | (.error q, s) => (.error q, s.desert op.channel)
  | (.ok _, s) => (.error p, s.desert op.channel)

-- What a refused call promises: an error that can be taken at once. The details
-- are what the bridge's own hook tells now.
def refusal (s : State) (bridge : Bridge) (op : Operation) (status : Int32) : Promise × State :=
  let (details, s) := s.readDetails bridge.hook s.ownErrors
  (⟨op.handle, none, .ready (some (.error (.rejected op.handle (Status.lookup status) status details)))⟩,
    (s.note (.rejected op.handle status)).desert op.channel)

-- The native call was refused: no callback is expected any more.
def reject (s : State) (bridge : Bridge) (op : Operation) (status : Int32) :
    Except Panic Promise × State :=
  match s.evict bridge.registry op.handle (.rejected status) with
  | (.error p, s) => (.error p, s.desert op.channel)
  | (.ok found, s) =>
      let s := if found then s else s.note (.lateRejection op.handle status)
      let (p, s) := s.refusal bridge op status
      (.ok p, s)

def settle (s : State) (bridge : Bridge) (op : Operation) (decoder : Decoder) :
    Except Panic Int32 → Except Panic Promise × State
  | .error p => s.unwind bridge.registry op p
  | .ok status =>
      if status = Status.successRaw then (.ok (bridge.promise op decoder), s)
      else s.reject bridge op status

def submit (s : State) (b : Nat) (native : Handle → State → NativeRun α) (decoder : Decoder) :
    Submission α :=
  match s.register b with
  | (.error p, s) => ⟨.error p, none, s⟩
  | (.ok (bridge, op), s) =>
      match native op.handle s with
      | ⟨ending, extra, s⟩ =>
          let (outcome, s) := s.settle bridge op decoder ending
          ⟨outcome, some extra, s⟩

end State

end PendingCalls.Session
