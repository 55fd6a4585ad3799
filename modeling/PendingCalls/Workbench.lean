import PendingCalls.Channel
import PendingCalls.Panic
import PendingCalls.Registry
import PendingCalls.Table

-- A registry in the hands of one caller, who also holds operations and
-- receivers of his own and moves them about.

namespace PendingCalls

-- A place of an operation or of a receiver is empty once it has moved on.
structure Workbench where
  registry : Registry
  channels : Table Channel
  operations : Table (Option Operation)
  receivers : Table (Option Nat)

namespace Workbench

inductive Step where
  | allocate
  | contains (h : Handle)
  | create (h : Handle)
  | insert (k : Nat)
  | remove (h : Handle)
  | complete (k : Nat) (o : Outcome)
  | dropOperation (k : Nat)
  | dropReceiver (k : Nat)
  | receive (k : Nat)

inductive Result where
  | handle (h : Handle)
  | flag (b : Bool)
  | created (operation receiver : Nat) (h : Handle)
  | inserted
  | panicked (p : Panic)
  | noOperation
  | nothing
  | removed (operation : Nat) (h : Handle)
  | delivered
  | returned (o : Outcome)
  | noReceiver
  | received (r : Reception)

def start (first : Int32) : Workbench := ⟨Registry.start first, .empty, .empty, .empty⟩

def operation? (w : Workbench) (k : Nat) : Option Operation := (w.operations.get? k).join

def receiver? (w : Workbench) (k : Nat) : Option Nat := (w.receivers.get? k).join

def changeChannel (w : Workbench) (c : Nat) (f : Channel → Channel) : Workbench :=
  { w with channels := w.channels.modify c f }

def takeOperation (w : Workbench) (k : Nat) : Workbench :=
  { w with operations := w.operations.set k none }

-- The operation is gone, and with it the sender of its channel.
def discard (w : Workbench) (op : Operation) : Workbench :=
  w.changeChannel op.channel (fun c => c.hangUp.1)

def create (w : Workbench) (h : Handle) : Result × Workbench :=
  (.created w.operations.size w.receivers.size h,
    { w with
      channels := w.channels.push Channel.fresh
      operations := w.operations.push (some ⟨h, w.channels.size⟩)
      receivers := w.receivers.push (some w.channels.size) })

-- Moves an operation into the registry. A refused one is lost.
def insert (w : Workbench) (k : Nat) : Result × Workbench :=
  match w.operation? k with
  | none => (.noOperation, w)
  | some op =>
      match w.registry.insert? op with
      | some registry => (.inserted, { w.takeOperation k with registry })
      | none => (.panicked (.collision op.handle), (w.takeOperation k).discard op)

def remove (w : Workbench) (h : Handle) : Result × Workbench :=
  match w.registry.remove h with
  | none => (.nothing, w)
  | some (op, registry) =>
      (.removed w.operations.size op.handle,
        { w with registry, operations := w.operations.push (some op) })

-- Sends an outcome. It comes back if nobody can receive it.
def complete (w : Workbench) (k : Nat) (o : Outcome) : Result × Workbench :=
  match w.operation? k with
  | none => (.noOperation, w)
  | some op =>
      let w := w.takeOperation k
      match (w.channels.get? op.channel).map (Channel.send o) with
      | some (c, .delivered _) => (.delivered, { w with channels := w.channels.set op.channel c })
      | _ => (.returned o, w)

def dropOperation (w : Workbench) (k : Nat) : Result × Workbench :=
  match w.operation? k with
  | none => (.flag false, w)
  | some op => (.flag true, (w.takeOperation k).discard op)

def dropReceiver (w : Workbench) (k : Nat) : Result × Workbench :=
  match w.receiver? k with
  | none => (.flag false, w)
  | some c =>
      (.flag true, { w with receivers := w.receivers.set k none }.changeChannel c Channel.desert)

-- A place has lost its receiver, and nobody can receive from that channel any more.
structure LostReceiver (w : Workbench) (k c : Nat) (u : Workbench) : Prop where
  place : u.receiver? k = none
  places : ∀ j, j ≠ k → u.receiver? j = w.receiver? j
  channel : u.channels.get? c = (w.channels.get? c).map Channel.desert
  channels : ∀ d, d ≠ c → u.channels.get? d = w.channels.get? d
  operations : u.operations = w.operations
  registry : u.registry = w.registry

theorem dropReceiver_loses {w : Workbench} (there : w.receiver? k = some c) :
    (w.dropReceiver k).1 = .flag true ∧ w.LostReceiver k c (w.dropReceiver k).2 := by
  simp only [dropReceiver,there,true_and]
  refine ⟨?_,fun j other => ?_,?_,fun d other => ?_,rfl,rfl⟩
  · simp only [receiver?,changeChannel,Table.get?_set,if_true]
    cases w.receivers.get? k <;> rfl
  · simp only [receiver?,changeChannel,Table.get?_set,if_neg (Ne.symm other)]
  · simp only [changeChannel,Table.get?_modify,if_true]
  · simp only [changeChannel,Table.get?_modify,if_neg (Ne.symm other)]

def receive (w : Workbench) (k : Nat) : Result × Workbench :=
  match (w.receiver? k).bind (fun c => (w.channels.get? c).map (fun channel => (c, channel))) with
  | none => (.noReceiver, w)
  | some (c, channel) =>
      let (channel, r) := channel.tryReceive
      (.received r, { w with channels := w.channels.set c channel })

def step (w : Workbench) : Step → Result × Workbench
  | .allocate =>
      let (h, registry) := w.registry.allocate
      (.handle h, { w with registry })
  | .contains h => (.flag (w.registry.contains h), w)
  | .create h => w.create h
  | .insert k => w.insert k
  | .remove h => w.remove h
  | .complete k o => w.complete k o
  | .dropOperation k => w.dropOperation k
  | .dropReceiver k => w.dropReceiver k
  | .receive k => w.receive k

def run : List Step → Workbench → List (Result × Nat) × Workbench
  | [], w => ([], w)
  | s :: rest, w =>
      let (r, w) := w.step s
      let size := w.registry.size
      let (rs, w) := run rest w
      ((r, size) :: rs, w)

end Workbench

end PendingCalls
