import PendingCalls.Session.Script

-- Many threads on one registry. How their steps interleave is not part of the model: it
-- is assumed that the totals do not depend on it, as every thread draws from one counter
-- and a callback concerns only the operation under its own handle. One order stands for
-- all of them: one handle after another, and for each handle one thread after another.

namespace PendingCalls.Rounds

open Session

-- What is left of a number of draws when their order is forgotten.
structure Draws where
  total : Nat
  distinct : Nat
  least : Option Handle
  greatest : Option Handle
deriving DecidableEq

def Draws.of (handles : List Handle) : Draws :=
  let sorted := Handle.sorted handles
  ⟨handles.length, sorted.length, sorted.head?, sorted.getLast?⟩

def draw (first : Int32) (threads per : Nat) : Draws :=
  Draws.of ((HandleCounter.start first).issueMany (threads * per)).1

structure Deliveries where
  stats : Stats
  received : Nat
  pending : Nat
deriving DecidableEq

def bridge : Nat := 0

def handles (count : Nat) : List Handle := (List.range count).map (fun i => ⟨Int32.ofNat (i + 1)⟩)

-- A fresh operation whose receiver is kept, or gone at every so-manieth handle.
def prepare (dropEvery : Int32) (s : State) (h : Handle) : State :=
  let gone := dropEvery ≠ 0 && h.raw % dropEvery = 0
  (s.insertFresh bridge h (!gone)).2

def deliverOne (h : Handle) (s : State) : State :=
  (s.dispatch bridge ⟨h, Status.successRaw, [], none⟩).2

def hasOutcome (s : State) (c : Nat) : Bool :=
  match (s.channel? c).map Channel.tryReceive with
  | some (_, .outcome _) => true
  | _ => false

-- Every thread delivers one callback for each handle.
def deliver (count threads : Nat) (dropEvery : Int32) : Deliveries :=
  let s := (handles count).foldl
    (fun s h => Nat.repeat (deliverOne h) threads (prepare dropEvery s h))
    (State.start .prompt [] [⟨.standard, none, none⟩])
  { stats := s.statsOf bridge
    received := (s.receivers.toList.filter (hasOutcome s)).length
    pending := ((s.registry? 0).map Registry.size).getD 0 }

end PendingCalls.Rounds
