import PendingCalls.Session.Wrappers

-- Scripts of a session: what can be done, what each step answers, and native
-- calls that are scripts themselves.

namespace PendingCalls.Session

-- A handle in a step: a given one, or that of the innermost call that is being
-- submitted.
inductive HandleRef where
  | given (h : Handle)
  | own

inductive Action where
  | dispatch (bridge : Nat) (h : HandleRef) (o : Outcome)
  | abandon (bridge : Nat) (h : HandleRef)
  | isPending (bridge : Nat) (h : HandleRef)
  | stats (bridge : Nat)
  | config (bridge : Nat)
  | allocate (bridge : Nat)
  -- a fresh operation put into the registry, its receiver kept or dropped
  | insert (bridge : Nat) (h : HandleRef) (keep : Bool)
  | receive (receiver : Nat)
  | dropBridge (bridge : Nat)
  | tell (report : Option (List UInt8))
  | handle (slot : Nat)
  | isResolved (slot : Nat)
  | poll (slot : Nat) (waker : Waker)
  | wait (slot : Nat)
  | withTimeout (slot : Nat) (after : Duration)
  | dropSlot (slot : Nat)
  | spawnActor (bridge : Nat)
  | actorDeliver (actor : Nat) (h : HandleRef) (o : Outcome)
  | actorStats (actor : Nat)
  | actorStatsAbandoned (actor : Nat)
  | actorStop (actor : Nat)
  | attend (actor : Nat)
  | bind (bridge : Nat)
  | bindActor (bridge : Nat)
  | isInstalled
  | callback (h : HandleRef) (code : Int32) (arguments : Arguments)
  -- a callback that waits on its native thread is dispatched
  | land (place : Nat)
  | request (bridge : Nat) (r : Request)
  | native (bridge : Nat) (call : NativeCall) (other : Option HandleRef) (decoder : Decoder)
  | stress (bridge : Nat) (count : Nat)

-- A call whose native side is a script: it runs the steps, and then it returns a
-- status or panics.
inductive Step where
  | act (a : Action)
  | submit (bridge : Nat) (decoder : Decoder) (ending : Except String Int32) (during : List Step)
  | call (bridge : Nat) (decoder : Decoder) (ending : Except String Int32) (during : List Step)

inductive Result where
  | panicked (p : Panic)
  | submitted (slot : Nat) (h : Handle) (resolved : Bool)
  | settled (result : Except CallError Datum)
  | pending
  | blocked
  | dispatched (o : DispatchOutcome)
  | flag (b : Bool)
  | stats (st : Stats)
  | config (c : Config)
  | handle (h : Handle)
  | inserted
  | received (r : Reception)
  | noReceiver
  | nothing
  | actor (a : Nat)
  | sent
  | actorStopped
  | statsUnreachable
  | bound
  | alreadyInstalled
  | nulInText (position : Nat)
  | stressed (handles : List Handle) (results : List (Except CallError Datum))

-- Why the counters of an actor that has stopped cannot be had.
def statsUnreachableMessage : String :=
  "query_stats: failed to reach dispatcher: " ++ actorStoppedMessage

def alreadyInstalledMessage : String :=
  "the callback trampolines are already bound to a dispatcher"

-- Why a text with a zero byte cannot be handed over.
def nulMessage (position : Nat) : String :=
  "nul byte found in provided data at position: " ++ toString position

-- What a bridge shows after a step: its pending operations and its counters.
structure Gauge where
  pending : Nat
  stats : Stats
deriving DecidableEq

-- What a step answers: its result, the answers of the steps inside, a gauge for
-- every bridge that was not dropped, and the events since the last answer.
inductive Answer where
  | mk (result : Result) (during : Option (List Answer)) (gauges : List (Option Gauge))
      (events : List Event)

namespace State

def gauge (s : State) (b : Bridge) : Option Gauge :=
  if b.listed then some ⟨((s.registry? b.registry).map Registry.size).getD 0, b.stats⟩ else none

def gauges (s : State) : List (Option Gauge) := s.bridges.toList.map s.gauge

def unreported (s : State) : List Event :=
  (s.journal.take (s.journal.length - s.reported)).reverse

def answer (s : State) (result : Result) (during : Option (List Answer)) : Answer × State :=
  (.mk result during s.gauges s.unreported, { s with reported := s.journal.length })

def ofExcept (f : α → Result) : Except Panic α → Result
  | .ok x => f x
  | .error p => .panicked p

def listed? (s : State) (b : Nat) : Option Bridge := (s.bridge? b).filter (·.listed)

def onBridge (s : State) (b : Nat) (f : Bridge → Result × State) : Result × State :=
  match s.listed? b with
  | some bridge => f bridge
  | none => (.panicked .bridgeGone, s)

def onSlot (s : State) (i : Nat) (f : Slot → Result × State) : Result × State :=
  match s.slot? i with
  | some slot => f slot
  | none => (.panicked .slotGone, s)

def clearSlot (s : State) (i : Nat) : State := { s with slots := s.slots.set i none }

-- Asynchronous work that the session waits for, on a runtime started for it.
def onRuntime (s : State) (work : State → Result × State) : Result × State :=
  if s.driven then (.panicked .nestedRuntime, s) else work s

-- The call on a bridge is over; if the end of its registry panics, that is the
-- result.
def finish (s : State) (b : Nat) (r : Result) : Result × State :=
  match s.letGo b with
  | (.error p, s) => (.panicked p, s)
  | (.ok (), s) => (r, s)

def keep (s : State) (b : Nat) (outcome : Except Panic Promise) : Result × State :=
  match outcome with
  | .error p => (.panicked p, s)
  | .ok p =>
      (.submitted s.slots.size p.handle p.isResolved, { s with slots := s.slots.push (some ⟨b, p⟩) })

def submitted (b : Nat) (sub : Submission Unit) : Result × State :=
  let (result, s) := sub.state.keep b sub.outcome
  s.completeAll.finish b result

def addReceiver (s : State) (c : Nat) : State := { s with receivers := s.receivers.push c }

-- A fresh operation under a handle of the caller's choice. Its receiver is there
-- first: without a bridge the operation is lost, and the receiver sees its channel
-- closed.
def insertFresh (s : State) (b : Nat) (h : Handle) (keep : Bool) : Result × State :=
  let c := s.channels.size
  let s := if keep then s.addReceiver c else s
  match s.listed? b with
  | none => (.panicked .bridgeGone, { s with channels := s.channels.push .closed })
  | some bridge =>
      match s.enter bridge.registry h with
      | (.error p, s) => (.panicked p, if keep then s else s.desert c)
      | (.ok _, s) => (.inserted, if keep then s else s.desert c)

def receive (s : State) (i : Nat) : Result × State :=
  match (s.receivers.get? i).bind (fun c => (s.channel? c).map (fun channel => (c, channel))) with
  | none => (.noReceiver, s)
  | some (c, channel) =>
      let (channel, r) := channel.tryReceive
      (.received r, s.putChannel c channel)

def pollSlot (s : State) (i : Nat) (slot : Slot) (waker : Waker) : Result × State :=
  let (answer, promise, s) := s.poll slot.promise waker
  let s := { s with slots := s.slots.set i (some { slot with promise }) }
  match answer with
  | .pending => (.pending, s)
  | .ready result => (.settled result, s)
  | .panicked p => (.panicked p, s)

def longWait : Duration := .ofMillis 500

-- Waiting is not tried while the handle is pending in the registry of the slot's
-- bridge and the bridge would wait long.
def wouldBlock (s : State) (slot : Slot) : Bool :=
  match s.bridge? slot.bridge with
  | none => false
  | some bridge =>
      ((s.registry? bridge.registry).map (·.contains slot.promise.handle)).getD false &&
        (match bridge.config.defaultTimeout with
          | none => true
          | some after => longWait.ns < after.ns)

-- Waits for the promise of a slot, which is gone also if nothing can wait.
def waitSlot (s : State) (i : Nat) (slot : Slot) : Result × State :=
  if s.wouldBlock slot then (.blocked, s)
  else
    match (s.clearSlot i).wait slot.promise with
    | (.error p, s) => (.panicked p, s)
    | (.ok (some result), s) => (.settled result, s)
    | (.ok none, s) => (.blocked, s)

def limitSlot (s : State) (i : Nat) (slot : Slot) (after : Duration) : Result × State :=
  if s.driven then (.panicked .nestedRuntime, (s.clearSlot i).forget slot.promise)
  else
    let (r, s) := (s.clearSlot i).withTimeout slot.promise after
    (ofExcept .settled r, s)

def statsReply (reply : Option Stats) : Result :=
  match reply with
  | some st => .stats st
  | none => .nothing

-- Promises one after another, each with a limit of its own. A panic leaves the
-- others behind.
def awaitAll : List Promise → State → Except Panic (List (Except CallError Datum)) × State
  | [], s => (.ok [], s)
  | p :: rest, s =>
      match s.wait p with
      | (.error panic, s) => (.error panic, rest.foldl forget s)
      | (.ok none, s) => awaitAll rest s
      | (.ok (some result), s) =>
          let (others, s) := awaitAll rest s
          (others.map (result :: ·), s)

def submitEchoes (b : Nat) : Nat → Nat → List Promise → State → Except Panic (List Promise) × State
  | 0, _, collected, s => (.ok collected.reverse, s)
  | count + 1, i, collected, s =>
      match s.request b (.echo ("call " ++ toString i)) with
      | .error _ => (.ok collected.reverse, s)
      | .ok sub =>
          match sub.outcome with
          | .error p => (.error p, sub.state)
          | .ok p => submitEchoes b count (i + 1) (p :: collected) sub.state.completeAll

def stress (s : State) (b : Nat) (count : Nat) : Result × State :=
  match submitEchoes b count 0 [] (s.hold b) with
  | (.error p, s) => s.completeAll.finish b (.panicked p)
  | (.ok promises, s) =>
      let (results, s) := awaitAll promises s
      s.finish b (ofExcept (.stressed (promises.map Promise.handle)) results)

def ofPosted (sent : Option Stats → Result) (stopped : Result) : Posted → Result
  | .sent reply => sent reply
  | .refused => stopped

end State

namespace HandleRef

def resolve (own : Handle) : HandleRef → Handle
  | .given h => h
  | .own => own

end HandleRef

namespace Action

def run (own : Handle) (s : State) : Action → Result × State
  | .dispatch b h o =>
      s.onBridge b fun _ =>
        let (r, s) := s.dispatch b ⟨h.resolve own, o.code, o.payload, o.details⟩
        (State.ofExcept .dispatched r, s)
  | .abandon b h =>
      s.onBridge b fun bridge =>
        let (r, s) := s.abandon bridge.registry (h.resolve own)
        (State.ofExcept .flag r, s)
  | .isPending b h =>
      s.onBridge b fun bridge =>
        (.flag (((s.registry? bridge.registry).map (·.contains (h.resolve own))).getD false), s)
  | .stats b => s.onBridge b fun bridge => (.stats bridge.stats, s)
  | .config b => s.onBridge b fun bridge => (.config bridge.config, s)
  | .allocate b =>
      s.onBridge b fun bridge =>
        match s.draw bridge.registry with
        | (some h, s) => (.handle h, s)
        | (none, s) => (.nothing, s)
  | .insert b h keep => s.insertFresh b (h.resolve own) keep
  | .receive i => s.receive i
  | .dropBridge b =>
      match s.listed? b with
      | none => (.nothing, s)
      | some _ =>
          let (r, s) := s.dropBridge b
          (State.ofExcept (fun _ => .nothing) r, s)
  | .tell report => (.nothing, { s with told := report })
  | .handle i => s.onSlot i fun slot => (.handle slot.promise.handle, s)
  | .isResolved i => s.onSlot i fun slot => (.flag slot.promise.isResolved, s)
  | .poll i waker => s.onSlot i fun slot => s.pollSlot i slot waker
  | .wait i => s.onSlot i fun slot => s.waitSlot i slot
  | .withTimeout i after => s.onSlot i fun slot => s.limitSlot i slot after
  | .dropSlot i => s.onSlot i fun slot => (.nothing, (s.clearSlot i).forget slot.promise)
  | .spawnActor b =>
      s.onBridge b fun _ =>
        s.onRuntime fun s =>
          let (a, s) := s.spawnActor b
          (.actor a, s)
  | .actorDeliver a h o =>
      let (posted, s) := s.post a (.deliver ⟨h.resolve own, o.code, o.payload, o.details⟩)
      (State.ofPosted (fun _ => .sent) .actorStopped posted, s)
  | .actorStats a =>
      s.onRuntime fun s =>
        let (posted, s) := s.post a (.report true)
        (State.ofPosted State.statsReply .statsUnreachable posted, s)
  | .actorStatsAbandoned a =>
      let (posted, s) := s.post a (.report false)
      (State.ofPosted (fun _ => .flag true) (.flag false) posted, s)
  | .actorStop a =>
      match s.actor? a with
      | none => (.nothing, s)
      | some actor =>
          if actor.running then
            let (r, s) := s.stopActor a
            (State.ofExcept (fun _ => .flag true) r, s)
          else (.nothing, s)
  | .attend a =>
      let (reply, s) := s.attend a
      (State.statsReply reply, s)
  | .bind b =>
      s.onBridge b fun _ =>
        match s.bindDirect b with
        | some s => (.bound, s)
        | none => (.alreadyInstalled, s)
  | .bindActor b =>
      s.onBridge b fun _ =>
        s.onRuntime fun s =>
          match s.bindActor b with
          | (some a, s) => (.actor a, s)
          | (none, s) => (.alreadyInstalled, s)
  | .isInstalled => (.flag s.binding.isSome, s)
  | .callback h code arguments =>
      (.nothing, s.callBackNow ⟨h.resolve own, code, arguments⟩)
  | .land place => (.nothing, s.land place)
  | .request b r =>
      s.onBridge b fun _ =>
        match (s.hold b).request b r with
        | .error position => (.nulInText position, s)
        | .ok sub => State.submitted b sub
  | .native b call other decoder =>
      s.onBridge b fun _ =>
        State.submitted b ((s.hold b).submitNative b call (other.map (·.resolve own)) decoder)
  | .stress b count => s.onBridge b fun _ => s.stress b count

end Action

namespace State

def endCall (s : State) (b : Nat) (r : Result) (extra : Option (List Answer)) : Answer × State :=
  let (r, s) := s.finish b r
  s.answer r (extra.bind (fun answers => if answers.isEmpty then none else some answers))

def submitScript (s : State) (b : Nat) (native : Handle → State → NativeRun (List Answer))
    (decoder : Decoder) : Answer × State :=
  match s.listed? b with
  | none => s.answer (.panicked .bridgeGone) none
  | some _ =>
      let sub := (s.hold b).submit b native decoder
      let (r, s) := sub.state.keep b sub.outcome
      s.endCall b r sub.extra

-- A script runs in one turn of the call that drives it.
def inTurn (native : Handle → State → NativeRun α) (h : Handle) (s : State) : NativeRun α :=
  match native h { s with turn := some turnLength } with
  | ⟨ending, extra, s⟩ => ⟨ending, extra, { s with turn := none }⟩

def callScript (s : State) (b : Nat) (native : Handle → State → NativeRun (List Answer))
    (decoder : Decoder) : Answer × State :=
  match s.listed? b with
  | none => s.answer (.panicked .bridgeGone) none
  | some bridge =>
      if s.driven then s.answer (.panicked .nestedRuntime) none
      else
        let sub := (s.hold b).submit b (inTurn native) decoder
        match sub.outcome with
        | .error p => sub.state.endCall b (.panicked p) sub.extra
        | .ok p =>
            match sub.state.awaitAtMost p bridge.config.defaultTimeout with
            | (.error panic, s) => s.endCall b (.panicked panic) sub.extra
            | (.ok (some result), s) => s.endCall b (.settled result) sub.extra
            | (.ok none, s) => s.endCall b .blocked sub.extra

def scripted (ending : Except String Int32) (script : List Answer × State) :
    NativeRun (List Answer) :=
  match ending with
  | .ok status => ⟨.ok status, script.1, script.2⟩
  | .error text => ⟨.error (.raised text), script.1, script.2⟩

end State

mutual

-- Carries out a step. The script of a call runs while the call is submitted, with
-- its handle as its own.
def Step.run (own : Handle) (s : State) : Step → Answer × State
  | .act a =>
      let (r, s) := a.run own s
      s.answer r none
  | .submit b decoder ending during =>
      s.submitScript b (fun h s => State.scripted ending (runSteps h s during)) decoder
  | .call b decoder ending during =>
      s.callScript b (fun h s => State.scripted ending (runSteps h s during)) decoder

def runSteps (own : Handle) (s : State) : List Step → List Answer × State
  | [] => ([], s)
  | step :: rest =>
      let (a, s) := step.run own s
      let (as, s) := runSteps own s rest
      (a :: as, s)

end

-- A whole session from its start. Outside a call no handle is a step's own.
def run (s : State) (steps : List Step) : List Answer × State := runSteps ⟨0⟩ s steps

end PendingCalls.Session
