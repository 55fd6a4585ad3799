import PendingCalls.Channel
import PendingCalls.Config
import PendingCalls.Journal
import PendingCalls.Panic
import PendingCalls.Table

-- The state of a session: bridges over shared registries, channels, actors, the
-- process-wide binding of the trampolines, the results that callers hold, the
-- native library, and the journal of everything that happened.

namespace PendingCalls.Session

structure Stats where
  resolved : Nat
  orphaned : Nat
  callerGone : Nat
deriving DecidableEq, Inhabited

def Stats.none : Stats := ⟨0, 0, 0⟩

-- Where the details of a native error are read.
inductive Hook where
  -- what the session told on the thread that reads
  | told
  -- never anything
  | silent
  -- the native library's current error of the thread that reads
  | native
deriving DecidableEq

-- A bridge with its dispatcher's counters. It stays in use while a call on it
-- is being submitted, also when the session has dropped it meanwhile.
structure Bridge where
  config : Config
  registry : Nat
  hook : Option Hook
  stats : Stats
  listed : Bool
  running : Nat

-- The promise of a result: at hand, or to come through a channel. The decoder is
-- gone once it has run.
inductive PromiseState where
  | ready (result : Option (Except CallError Datum))
  | waiting (channel : Nat) (decoder : Option Decoder)

structure Promise where
  handle : Handle
  timeout : Option Duration
  state : PromiseState

-- A promise in the hands of the session, with the bridge that gave it.
structure Slot where
  bridge : Nat
  promise : Promise

inductive Message where
  | deliver (d : Delivery)
  -- a request for the counters, and whether somebody still waits for the reply
  | report (awaited : Bool)

-- An actor dispatches the messages of its mailbox through a bridge, in order. It
-- remembers what it accepted and what it handled, newest first.
structure Actor where
  bridge : Nat
  mailbox : List Message
  running : Bool
  accepted : List Message
  handled : List Message

-- Whether a callback is dispatched as soon as it comes, or waits until it is told
-- to go on: in the mailbox of an actor, which is then worked off one message at a
-- time, or on its native thread, which has copied the arguments already.
inductive Attendance where
  | prompt | onDemand
deriving DecidableEq

inductive Route where
  | direct (bridge : Nat)
  | actor (actor : Nat)
deriving DecidableEq

structure Binding where
  route : Route
  hook : Option Hook
deriving DecidableEq

inductive Job where
  | echo (h : Handle) (message : List Char)
  | fail (h : Handle) (code : Int32) (message : List Char)
  | openWallet (h : Handle) (id : String)
  | walletInfo (h : Handle) (wallet : Int32)
  | isKnownDid (h : Handle) (did : List Char)
  | createKeyPair (h : Handle) (seed : List Char)
  | sign (h : Handle) (data : List UInt8)
  | doubleCallback (h : Handle)

structure Library where
  nextWallet : Int32
  error : Option (List UInt8)
  jobs : List Job

def Library.fresh : Library := ⟨1, none, []⟩

-- The errors that can be read on one thread: what the session told there to be
-- reported, and the native library's current error.
structure ThreadErrors where
  told : Option (List UInt8)
  current : Option (List UInt8)
deriving DecidableEq

-- On a thread of the native library the session has told nothing.
def ThreadErrors.ofWorker (current : Option (List UInt8)) : ThreadErrors := ⟨none, current⟩

structure State where
  channels : Table Channel
  registries : Table Registry
  bridges : Table Bridge
  actors : Table Actor
  attendance : Attendance
  binding : Option Binding
  -- callbacks that wait on their native threads to be dispatched, oldest first
  transit : List Delivery
  slots : Table (Option Slot)
  receivers : Table Nat
  -- what the session told on the thread that submits
  told : Option (List UInt8)
  -- while a call drives the thread, how many more results can be taken from
  -- channels in this turn of it
  turn : Option Nat
  library : Library
  -- newest first
  journal : List Event
  -- how many events were reported already
  reported : Nat

-- How many results can be taken from channels in one turn of a call.
def turnLength : Nat := 128

namespace State

def registry? (s : State) (r : Nat) : Option Registry := s.registries.get? r

def pendingIn (s : State) (r : Nat) : List Operation := ((s.registry? r).map Registry.pending).getD []

def bridge? (s : State) (b : Nat) : Option Bridge := s.bridges.get? b

def channel? (s : State) (c : Nat) : Option Channel := s.channels.get? c

def slot? (s : State) (i : Nat) : Option Slot := (s.slots.get? i).join

def note (s : State) (e : Event) : State := { s with journal := e :: s.journal }

def changeBridge (s : State) (b : Nat) (f : Bridge → Bridge) : State :=
  { s with bridges := s.bridges.modify b f }

def changeStats (s : State) (b : Nat) (f : Stats → Stats) : State :=
  s.changeBridge b (fun bridge => { bridge with stats := f bridge.stats })

def putRegistry (s : State) (r : Nat) (registry : Registry) : State :=
  { s with registries := s.registries.set r registry }

def putChannel (s : State) (c : Nat) (channel : Channel) : State :=
  { s with channels := s.channels.set c channel }

def ownErrors (s : State) : ThreadErrors := ⟨s.told, s.library.error⟩

-- A call drives the thread until its result comes. Such a thread can start no
-- other runtime to wait on.
def driven (s : State) : Bool := s.turn.isSome

-- No result can be taken from a channel any more before the turn is over.
def exhausted (s : State) : Bool := s.turn = some 0

def spend (s : State) : State := { s with turn := s.turn.map (· - 1) }

def desert (s : State) (c : Nat) : State :=
  { s with channels := s.channels.modify c Channel.desert }

end State

-- The bridges of a session: their settings, the shared registry they use or none
-- for one of their own, and their hook.
structure BridgePlan where
  config : Config
  registry : Option Nat
  hook : Option Hook

namespace State

def empty (attendance : Attendance) (firsts : List Int32) : State :=
  { channels := .empty
    registries := .ofList (firsts.map Registry.start)
    bridges := .empty
    actors := .empty
    attendance := attendance
    binding := none
    transit := []
    slots := .empty
    receivers := .empty
    told := none
    turn := none
    library := .fresh
    journal := []
    reported := 0 }

-- A bridge without a shared registry starts one at its first handle.
def addBridge (s : State) (plan : BridgePlan) : State :=
  let bridge (r : Nat) : Bridge := ⟨plan.config, r, plan.hook, .none, true, 0⟩
  match plan.registry with
  | some r => { s with bridges := s.bridges.push (bridge r) }
  | none =>
      { s with
        registries := s.registries.push (Registry.start plan.config.firstHandle)
        bridges := s.bridges.push (bridge s.registries.size) }

def start (attendance : Attendance) (firsts : List Int32) (plans : List BridgePlan) : State :=
  plans.foldl addBridge (empty attendance firsts)

end State

end PendingCalls.Session
