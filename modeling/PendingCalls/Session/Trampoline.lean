import PendingCalls.Session.Actor
import PendingCalls.Session.Submit

-- The entry points that the native library calls back into. They know only the
-- handle, so they forward to the one route that the process has bound.

namespace PendingCalls.Session

-- The arguments of a callback besides its handle and error code. Strings and
-- buffers may be null.
inductive Arguments where
  | empty
  | int (v : Int32)
  | bool (v : Bool)
  | string (v : Option (List UInt8))
  | stringPair (first second : Option (List UInt8))
  | bytes (data : Option (List UInt8)) (length : UInt32)

structure Callback where
  handle : Handle
  code : Int32
  arguments : Arguments

namespace Arguments

-- A string ends at its first zero byte; what is no text in it is replaced.
def copyString (s : Option (List UInt8)) : Option String :=
  s.map (fun bytes => String.ofList (Text.decodeLossy (Text.untilNul bytes)))

def copyBytes (data : Option (List UInt8)) (length : UInt32) : List UInt8 :=
  match data with
  | none => []
  | some content => content.take length.toNat

def payload : Arguments → Payload
  | .empty => []
  | .int v => [.i32 v]
  | .bool v => [.bool v]
  | .string v => [.str (copyString v)]
  | .stringPair first second => [.str (copyString first), .str (copyString second)]
  | .bytes data length => [.bytes (copyBytes data length)]

end Arguments

namespace State

-- A delivery follows the bound route. Nothing comes back to the native side, not
-- even a panic.
def deliver (s : State) (route : Route) (d : Delivery) : State :=
  match route with
  | .direct b =>
      match s.attendance with
      | .prompt => (s.dispatch b d).2
      | .onDemand => { s with transit := s.transit ++ [d] }
  | .actor a =>
      match s.post a (.deliver d) with
      | (.sent _, s) => s
      | (.refused, s) => s.note (.actorGone d.handle)

-- The details of a failed callback are read where it happens, through the hook
-- that was bound with the route. A success reads none.
def callbackDetails (s : State) (hook : Option Hook) (code : Int32) (errors : ThreadErrors) :
    Option ErrorDetails × State :=
  if code = Status.successRaw then (none, s) else s.readDetails hook errors

def callBack (s : State) (errors : ThreadErrors) (cb : Callback) : State :=
  match s.binding with
  | none => s.note (.unbound cb.handle cb.code)
  | some binding =>
      let (details, s) := s.callbackDetails binding.hook cb.code errors
      s.deliver binding.route ⟨cb.handle, cb.code, cb.arguments.payload, details⟩

-- A callback that waits on its native thread, by its place among those that wait,
-- is dispatched.
def land (s : State) (k : Nat) : State :=
  match s.transit[k]?, s.binding with
  | some d, some ⟨.direct b, _⟩ => ({ s with transit := s.transit.eraseIdx k }.dispatch b d).2
  | _, _ => s

-- Binds the trampolines, once for ever.
def install (s : State) (binding : Binding) : Option State :=
  match s.binding with
  | some _ => none
  | none => some { s with binding := some binding }

def bindDirect (s : State) (b : Nat) : Option State :=
  s.install ⟨.direct b, (s.bridge? b).bind (·.hook)⟩

-- Callbacks go to a new actor, which stops again if somebody else is bound.
def bindActor (s : State) (b : Nat) : Option Nat × State :=
  let (a, spawned) := s.spawnActor b
  match spawned.install ⟨.actor a, (s.bridge? b).bind (·.hook)⟩ with
  | some s => (some a, s)
  | none => (none, s.note .actorStarted)

end State

end PendingCalls.Session
