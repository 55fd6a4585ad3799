import PendingCalls.Proofs.Registries
import PendingCalls.Session.Script

-- Handles under other names. A renaming keeps different handles apart and lets a counter
-- issue the new names in the order of the old ones; nothing else in a session has a name.

namespace PendingCalls

structure Renaming where
  handle : Handle → Handle
  counter : HandleCounter → HandleCounter
  injective : Function.Injective handle
  -- outside of calls no handle is a step's own
  outside : handle ⟨0⟩ = ⟨0⟩
  issues : ∀ c, (counter c).issue = (handle c.issue.1, counter c.issue.2)

def Operation.renamed (σ : Renaming) (op : Operation) : Operation := ⟨σ.handle op.handle, op.channel⟩

def Delivery.renamed (σ : Renaming) (d : Delivery) : Delivery := { d with handle := σ.handle d.handle }

def CallError.renamed (σ : Renaming) : CallError → CallError
  | .rejected h code raw details => .rejected (σ.handle h) code raw details
  | .failed h code raw details => .failed (σ.handle h) code raw details
  | .undecodable h source => .undecodable (σ.handle h) source
  | .timedOut h after => .timedOut (σ.handle h) after
  | .abandoned h => .abandoned (σ.handle h)

def Panic.renamed (σ : Renaming) : Panic → Panic
  | .collision h => .collision (σ.handle h)
  | p => p

def Departure.renamed (σ : Renaming) : Departure → Departure
  | .delivered b d => .delivered b (d.renamed σ)
  | why => why

def Event.renamed (σ : Renaming) : Event → Event
  | .drew r h => .drew r (σ.handle h)
  | .entered r op => .entered r (op.renamed σ)
  | .left r op why => .left r (op.renamed σ) (why.renamed σ)
  | .orphan b h code => .orphan b (σ.handle h) code
  | .callerGone b h => .callerGone b (σ.handle h)
  | .lateRejection h status => .lateRejection (σ.handle h) status
  | .rejected h status => .rejected (σ.handle h) status
  | .timedOut h after => .timedOut (σ.handle h) after
  | .unbound h code => .unbound (σ.handle h) code
  | .actorGone h => .actorGone (σ.handle h)
  | .unreadableDetails e => .unreadableDetails e
  | .decoding c payload => .decoding c payload
  | .actorStarted => .actorStarted
  | .requesterGone => .requesterGone

-- The settings but for where the handles start.
def Config.aside (c : Config) : Config := { c with firstHandle := 1 }

-- What comes of something that may panic.
def Renaming.outcome (σ : Renaming) (f : α → β) : Except Panic α → Except Panic β
  | .ok x => .ok (f x)
  | .error p => .error (p.renamed σ)

@[simp] theorem Renaming.outcome_ok (σ : Renaming) (f : α → β) (x : α) : σ.outcome f (.ok x) = .ok (f x) := rfl

@[simp] theorem Renaming.outcome_error (σ : Renaming) (f : α → β) (p : Panic) :
    σ.outcome f (.error p) = .error (p.renamed σ) := rfl

def Renaming.result (σ : Renaming) : Except CallError Datum → Except CallError Datum
  | .ok v => .ok v
  | .error e => .error (e.renamed σ)

namespace Registry

def renamed (σ : Renaming) (r : Registry) : Registry where
  counter := σ.counter r.counter
  pending := r.pending.map (Operation.renamed σ)
  distinct := by
    have handles : (r.pending.map (Operation.renamed σ)).map Operation.handle = (r.pending.map Operation.handle).map σ.handle := by
      rw [List.map_map,List.map_map]
      rfl
    rw [handles]
    exact r.distinct.map σ.injective

end Registry

namespace Session

def Bridge.aside (b : Bridge) : Bridge := { b with config := b.config.aside }

def PromiseState.renamed (σ : Renaming) : PromiseState → PromiseState
  | .ready result => .ready (result.map σ.result)
  | .waiting c decoder => .waiting c decoder

def Promise.renamed (σ : Renaming) (p : Promise) : Promise := ⟨σ.handle p.handle, p.timeout, p.state.renamed σ⟩

def Slot.renamed (σ : Renaming) (x : Slot) : Slot := ⟨x.bridge, x.promise.renamed σ⟩

def Message.renamed (σ : Renaming) : Message → Message
  | .deliver d => .deliver (d.renamed σ)
  | .report awaited => .report awaited

def Actor.renamed (σ : Renaming) (a : Actor) : Actor where
  bridge := a.bridge
  mailbox := a.mailbox.map (Message.renamed σ)
  running := a.running
  accepted := a.accepted.map (Message.renamed σ)
  handled := a.handled.map (Message.renamed σ)

def Job.renamed (σ : Renaming) : Job → Job
  | .echo h message => .echo (σ.handle h) message
  | .fail h code message => .fail (σ.handle h) code message
  | .openWallet h id => .openWallet (σ.handle h) id
  | .walletInfo h wallet => .walletInfo (σ.handle h) wallet
  | .isKnownDid h did => .isKnownDid (σ.handle h) did
  | .createKeyPair h seed => .createKeyPair (σ.handle h) seed
  | .sign h data => .sign (σ.handle h) data
  | .doubleCallback h => .doubleCallback (σ.handle h)

def Library.renamed (σ : Renaming) (l : Library) : Library := { l with jobs := l.jobs.map (Job.renamed σ) }

def Callback.renamed (σ : Renaming) (cb : Callback) : Callback := { cb with handle := σ.handle cb.handle }

def Poll.renamed (σ : Renaming) : Poll → Poll
  | .pending => .pending
  | .ready result => .ready (σ.result result)
  | .panicked p => .panicked (p.renamed σ)

end Session

namespace Table

def map (f : α → β) (t : Table α) : Table β := ⟨t.rows.map f⟩

@[simp] theorem get?_map (f : α → β) (t : Table α) (i : Nat) : (t.map f).get? i = (t.get? i).map f := by
  simp [get?,map]

@[simp] theorem size_map (f : α → β) (t : Table α) : (t.map f).size = t.size := by
  simp [size,map]

@[simp] theorem toList_map (f : α → β) (t : Table α) : (t.map f).toList = t.toList.map f := by
  simp [toList,map]

theorem map_push (f : α → β) (t : Table α) (x : α) : (t.push x).map f = (t.map f).push (f x) := by
  simp [push,map]

theorem map_set (f : α → β) (t : Table α) (i : Nat) (x : α) : (t.set i x).map f = (t.map f).set i (f x) := by
  ext1 j
  rw [get?_map,get?_set,get?_set,get?_map]
  split
  · simp only [Option.map_map]
    rfl
  · rfl

theorem map_modify {f : α → β} {g : α → α} {k : β → β} (same : ∀ x, f (g x) = k (f x)) (t : Table α) (i : Nat) :
    (t.modify i g).map f = (t.map f).modify i k := by
  ext1 j
  rw [get?_map,get?_modify,get?_modify,get?_map]
  split
  · simp only [Option.map_map]
    congr 1
    exact funext same
  · rfl

end Table

namespace Session

namespace State

def renamed (σ : Renaming) (s : State) : State where
  channels := s.channels
  registries := s.registries.map (Registry.renamed σ)
  bridges := s.bridges.map Bridge.aside
  actors := s.actors.map (Actor.renamed σ)
  attendance := s.attendance
  binding := s.binding
  transit := s.transit.map (Delivery.renamed σ)
  slots := s.slots.map (Option.map (Slot.renamed σ))
  receivers := s.receivers
  told := s.told
  turn := s.turn
  library := s.library.renamed σ
  journal := s.journal.map (Event.renamed σ)
  reported := s.reported

end State

def HandleRef.renamed (σ : Renaming) : HandleRef → HandleRef
  | .given h => .given (σ.handle h)
  | .own => .own

def Action.renamed (σ : Renaming) : Action → Action
  | .dispatch b h o => .dispatch b (h.renamed σ) o
  | .abandon b h => .abandon b (h.renamed σ)
  | .isPending b h => .isPending b (h.renamed σ)
  | .insert b h keep => .insert b (h.renamed σ) keep
  | .actorDeliver a h o => .actorDeliver a (h.renamed σ) o
  | .callback h code arguments => .callback (h.renamed σ) code arguments
  | .native b call other decoder => .native b call (other.map (HandleRef.renamed σ)) decoder
  | a => a

mutual

def Step.renamed (σ : Renaming) : Step → Step
  | .act a => .act (a.renamed σ)
  | .submit b decoder ending during => .submit b decoder ending (renamedSteps σ during)
  | .call b decoder ending during => .call b decoder ending (renamedSteps σ during)

def renamedSteps (σ : Renaming) : List Step → List Step
  | [] => []
  | step :: rest => step.renamed σ :: renamedSteps σ rest

end

def Result.renamed (σ : Renaming) : Result → Result
  | .panicked p => .panicked (p.renamed σ)
  | .submitted slot h resolved => .submitted slot (σ.handle h) resolved
  | .settled result => .settled (σ.result result)
  | .config c => .config c.aside
  | .handle h => .handle (σ.handle h)
  | .stressed handles results => .stressed (handles.map σ.handle) (results.map σ.result)
  | r => r

mutual

def Answer.renamed (σ : Renaming) : Answer → Answer
  | .mk result during gauges events =>
      .mk (result.renamed σ) (renamedDuring σ during) gauges (events.map (Event.renamed σ))

def renamedDuring (σ : Renaming) : Option (List Answer) → Option (List Answer)
  | none => none
  | some answers => some (renamedAnswers σ answers)

def renamedAnswers (σ : Renaming) : List Answer → List Answer
  | [] => []
  | answer :: rest => answer.renamed σ :: renamedAnswers σ rest

end

end Session

end PendingCalls
