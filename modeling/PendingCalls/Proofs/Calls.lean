import PendingCalls.Proofs.LookClosure

-- The native calls of a session, in the order in which they end, and which slot keeps the
-- promise of which call. Every slot is filled for one call and no other, and what its promise
-- holds at any later time is what this call has left, as long as nobody took it.

namespace PendingCalls.Session

-- A native call that has ended: the operation, whose handle it was given, how it ended, what
-- the hook of its bridge told then, and the slot for its promise, if it came into one.
structure Call where
  op : Operation
  ending : Except Panic Int32
  details : Option ErrorDetails
  slot : Option Nat

-- The slot that is filled next, if there is a promise to fill it with.
def Submission.slot (sub : Submission α) : Option Nat :=
  match sub.outcome with
  | .ok _ => some sub.state.slots.size
  | .error _ => none

namespace State

-- The call of an operation, in the state in which its native side starts.
def callOf (native : Handle → State → NativeRun α) (bridge : Bridge) (op : Operation) (u : State) (slot : Option Nat) : Call :=
  let ran := native op.handle u
  ⟨op, ran.ending, (reading bridge.hook ran.state.ownErrors).1, slot⟩

-- The calls of a submission: those that its native side makes, and then its own. Without an
-- operation the native side does not run.
def callsIn (s : State) (b : Nat) (native : Handle → State → NativeRun α) (inner : Handle → State → List Call)
    (slot : Option Nat) : List Call :=
  match s.register b with
  | (.error _, _) => []
  | (.ok (bridge, op), u) => inner op.handle u ++ [callOf native bridge op u slot]

-- The native side of a call of an entry point.
def entry (call : NativeCall) (other : Option Handle) (h : Handle) (s : State) : NativeRun Unit :=
  let (status, s) := s.enterLibrary (other.getD h) call
  ⟨.ok status, (), s⟩

def entryCall (s : State) (b : Nat) (call : NativeCall) (other : Option Handle) (slot : Option Nat) : List Call :=
  s.callsIn b (entry call other) (fun _ _ => []) slot

def requestCall (s : State) (b : Nat) (r : Request) : List Call :=
  match s.request b r with
  | .error _ => []
  | .ok sub => s.entryCall b r.nativeCall none sub.slot

-- Those of many echoes, whose promises come into no slots.
def echoCalls (b : Nat) : Nat → Nat → State → List Call
  | 0, _, _ => []
  | count + 1, i, s =>
      match s.request b (.echo ("call " ++ toString i)) with
      | .error _ => []
      | .ok sub =>
          s.entryCall b (Request.echo ("call " ++ toString i)).nativeCall none none ++
            match sub.outcome with
            | .error _ => []
            | .ok _ => echoCalls b count (i + 1) sub.state.completeAll

end State

def Action.calls (own : Handle) (s : State) : Action → List Call
  | .request b r => if (s.listed? b).isSome then (s.hold b).requestCall b r else []
  | .native b call other decoder =>
      if (s.listed? b).isSome then
        (s.hold b).entryCall b call (other.map (·.resolve own))
          ((s.hold b).submitNative b call (other.map (·.resolve own)) decoder).slot
      else []
  | .stress b count => if (s.listed? b).isSome then State.echoCalls b count 0 (s.hold b) else []
  | _ => []

mutual

def Step.calls (own : Handle) (s : State) : Step → List Call
  | .act a => a.calls own s
  | .submit b decoder ending during =>
      if (s.listed? b).isSome then
        let native (h : Handle) (s : State) := State.scripted ending (runSteps h s during)
        (s.hold b).callsIn b native (fun h s => callsOf h s during) ((s.hold b).submit b native decoder).slot
      else []
  | .call b _ ending during =>
      if (s.listed? b).isSome && !s.driven then
        (s.hold b).callsIn b (State.inTurn fun h s => State.scripted ending (runSteps h s during))
          (fun h s => callsOf h { s with turn := some turnLength } during) none
      else []

def callsOf (own : Handle) (s : State) : List Step → List Call
  | [] => []
  | step :: rest => step.calls own s ++ callsOf own (step.run own s).2 rest

end

-- The states that steps visit, each with the calls that have ended until then.
inductive Called : Handle → State → List Step → List Call → State → Prop where
  | here : Called own s steps [] s
  | later : Called own (step.run own s).2 rest made t → Called own s (step :: rest) (step.calls own s ++ made) t
  | submitting (b bridge op decoder) (listed : (s.listed? b).isSome)
      (registered : (s.hold b).register b = (.ok (bridge,op),u)) :
      Called op.handle u during made t → Called own s (.submit b decoder ending during :: rest) made t
  | calling (b bridge op decoder) (listed : (s.listed? b).isSome) (free : s.driven = false)
      (registered : (s.hold b).register b = (.ok (bridge,op),u)) :
      Called op.handle { u with turn := some turnLength } during made t →
      Called own s (.call b decoder ending during :: rest) made t

theorem Called.visits (path : Called own s steps made t) : Visits own s steps t := by
  induction path with
  | here => exact .here
  | later _ ih => exact .later ih
  | submitting b bridge op decoder listed registered _ ih => exact .submitting b bridge op decoder listed registered ih
  | calling b bridge op decoder listed free registered _ ih => exact .calling b bridge op decoder listed free registered ih

theorem Visits.called (path : Visits own s steps t) : ∃ made, Called own s steps made t := by
  induction path with
  | here => exact ⟨_,.here⟩
  | later _ ih =>
    obtain ⟨_,rest⟩ := ih
    exact ⟨_,.later rest⟩
  | submitting b bridge op decoder listed registered _ ih =>
    obtain ⟨_,inside⟩ := ih
    exact ⟨_,.submitting b bridge op decoder listed registered inside⟩
  | calling b bridge op decoder listed free registered _ ih =>
    obtain ⟨_,inside⟩ := ih
    exact ⟨_,.calling b bridge op decoder listed free registered inside⟩

theorem Called.end (steps : List Step) (own : Handle) (s : State) :
    Called own s steps (callsOf own s steps) (runSteps own s steps).2 := by
  induction steps generalizing s with
  | nil =>
    rw [callsOf,runSteps]
    exact .here
  | cons step rest ih =>
    rw [callsOf,runSteps]
    exact .later (ih _)

-- A promise as a call has left it, or as it is after somebody took what was there.
structure Call.Leaves (call : Call) (p : Promise) : Prop where
  handle : p.handle = call.op.handle
  refused : ∀ result, p.state = .ready (some result) → ∃ status, call.ending = .ok status ∧ status ≠ Status.successRaw ∧
    result = .error (.rejected call.op.handle (Status.lookup status) status call.details)
  accepted : ∀ c decoder, p.state = .waiting c decoder → call.ending = .ok Status.successRaw ∧ c = call.op.channel

namespace Call.Leaves

variable {call : Call} {p : Promise}

theorem look (leaves : call.Leaves p) (s : State) (waker : Waker) : call.Leaves (s.poll p waker).2.1 := by
  rcases s.poll_promise p waker with same | same | ⟨c,decoder,waits,same⟩
  all_goals rw [same]
  · exact leaves
  · constructor
    · exact leaves.handle
    · intro result ready
      cases ready
    · intro c decoder waits
      cases waits
  · constructor
    · exact leaves.handle
    · intro result ready
      cases ready
    · intro _ _ spent
      cases spent
      exact leaves.accepted c decoder waits

theorem accept (ended : call.ending = .ok Status.successRaw) (bridge : Bridge) (decoder : Decoder) :
    call.Leaves (bridge.promise call.op decoder) := by
  constructor
  · rfl
  · intro result ready
    cases ready
  · intro c other waits
    cases waits
    exact ⟨ended,rfl⟩

theorem refuse (ended : call.ending = .ok status) (failed : status ≠ Status.successRaw) :
    call.Leaves (.refused call.op.handle status call.details) := by
  constructor
  · rfl
  · intro result ready
    cases ready
    exact ⟨status,ended,failed,rfl⟩
  · intro c decoder waits
    cases waits

end Call.Leaves

namespace State

variable {s t u v : State} {native : Handle → State → NativeRun α}

-- A promise comes out of a submission only if its native side has run, and is what this
-- call leaves.
theorem submit_leaves (promised : (s.submit b native decoder).outcome = .ok p) (slot : Option Nat) :
    ∃ bridge op u, s.register b = (.ok (bridge,op),u) ∧ (callOf native bridge op u slot).Leaves p := by
  cases registered : s.register b with
  | mk found u =>
    cases found with
    | error q =>
      unfold submit at promised
      rw [registered] at promised
      cases promised
    | ok found =>
      obtain ⟨bridge,op⟩ := found
      refine ⟨bridge,op,u,rfl,?_⟩
      cases ran : native op.handle u with
      | mk ending extra v =>
        have call : callOf native bridge op u slot = ⟨op,ending,(reading bridge.hook v.ownErrors).1,slot⟩ := by
          rw [callOf,ran]
        rw [call]
        cases ending with
        | error q =>
          unfold submit at promised
          rw [registered] at promised
          dsimp only at promised
          rw [ran] at promised
          dsimp only [settle,unwind] at promised
          split at promised <;> cases promised
        | ok status =>
          have tells := submit_tells registered ran decoder
          by_cases success : status = Status.successRaw
          · cases (tells.accepted success).1.symm.trans promised
            exact .accept (congrArg Except.ok success) bridge decoder
          · cases left : (v.evict bridge.registry op.handle (.rejected status)).1 with
            | error q => cases (tells.panicked q success left).symm.trans promised
            | ok found =>
              cases (tells.refused found success left).1.symm.trans promised
              exact .refuse rfl success

theorem callsIn_slots (registered : s.register b = (.ok (bridge,op),u)) (inner : Handle → State → List Call) (slot : Option Nat) :
    s.callsIn b native inner slot = inner op.handle u ++ [callOf native bridge op u slot] := by
  simp only [callsIn,registered]

end State

-- Every slot was filled for one call, in the order of the calls, and has what this call left.
structure SlotsFilled (made : List Call) (s : State) : Prop where
  each : made.filterMap Call.slot = List.range s.slots.size
  leaves : ∀ i x, s.slot? i = some x → ∀ call ∈ made, call.slot = some i → call.Leaves x.promise

namespace SlotsFilled

open State

variable {s t : State} {made : List Call}

theorem below (filed : SlotsFilled made s) (there : call ∈ made) (slot : call.slot = some i) : i < s.slots.size := by
  have listed : i ∈ made.filterMap Call.slot := List.mem_filterMap.mpr ⟨call,there,slot⟩
  rw [filed.each] at listed
  exact List.mem_range.mp listed

theorem found (filed : SlotsFilled made s) (inside : i < s.slots.size) : ∃ call ∈ made, call.slot = some i := by
  have listed : i ∈ made.filterMap Call.slot := by
    rw [filed.each]
    exact List.mem_range.mpr inside
  exact List.mem_filterMap.mp listed

-- Calls whose promises come into no slots change nothing.
theorem aside (filed : SlotsFilled made s) (same : t.slots = s.slots) (more : List Call)
    (unfiled : ∀ call ∈ more, call.slot = none) :
    SlotsFilled (made ++ more) t := by
  have none : more.filterMap Call.slot = [] := List.filterMap_eq_nil_iff.mpr unfiled
  constructor
  · rw [List.filterMap_append,none,List.append_nil,same]
    exact filed.each
  · intro i x there call member slot
    rw [slot?,same] at there
    rcases List.mem_append.mp member with old | new
    · exact filed.leaves i x there call old slot
    · cases (unfiled call new).symm.trans slot

theorem same (filed : SlotsFilled made s) (same : t.slots = s.slots) : SlotsFilled made t := by
  have whole := filed.aside same [] (List.forall_mem_nil _)
  rwa [List.append_nil] at whole

theorem keep (filed : SlotsFilled made s) (slot : call.slot = some s.slots.size) (leaves : call.Leaves p) (b : Nat) :
    SlotsFilled (made ++ [call]) { s with slots := s.slots.push (some ⟨b,p⟩) } := by
  constructor
  · rw [List.filterMap_append,filed.each]
    simp only [List.filterMap_cons,slot,List.filterMap_nil,Table.size_push,List.range_succ]
  · intro i x there other member its
    rcases List.mem_append.mp member with old | new
    · have inside := filed.below old its
      rw [slot_push inside] at there
      exact filed.leaves i x there other old its
    · cases List.mem_singleton.mp new
      cases slot.symm.trans its
      rw [slot?,Table.get?_push_new] at there
      cases there
      exact leaves

-- A slot that is emptied, or whose promise somebody has looked at.
theorem put (filed : SlotsFilled made s) (same : t.slots = s.slots.set i y) (there : s.slot? i = some x)
    (left : ∀ z, y = some z → ∀ call, Call.Leaves call x.promise → call.Leaves z.promise) : SlotsFilled made t := by
  constructor
  · rw [same,Table.size_set]
    exact filed.each
  · intro j z row call member slot
    by_cases own : i = j
    · subst own
      rw [slot_put there same] at row
      exact left z row call (filed.leaves i x there call member slot)
    · rw [slot_set same own] at row
      exact filed.leaves j z row call member slot

theorem clear (filed : SlotsFilled made s) (there : s.slot? i = some x) (same : t.slots = (s.clearSlot i).slots) :
    SlotsFilled made t :=
  filed.put (y := none) same there fun _ gone => nomatch gone

variable {native : Handle → State → NativeRun α} {inner : Handle → State → List Call}

-- The native side of a submission has filled slots of its own before the call ends.
theorem inside (runs : ∀ h u made, SlotsFilled made u → SlotsFilled (made ++ inner h u) (native h u).state)
    (filed : SlotsFilled made s)
    (registered : s.register b = (.ok (bridge,op),u)) (decoder : Decoder) :
    SlotsFilled (made ++ inner op.handle u) (s.submit b native decoder).state := by
  have registering := register_slots s b
  rw [registered] at registering
  have ran := runs op.handle u made (filed.same registering)
  unfold submit
  rw [registered]
  exact ran.same (settle_slots _ _ _ _ _)

theorem collided (filed : SlotsFilled made s) (collided : s.register b = (.error p,u)) (decoder : Decoder) :
    SlotsFilled made (s.submit b native decoder).state ∧ (s.submit b native decoder).outcome = .error p := by
  have registering := register_slots s b
  unfold submit
  rw [collided] at registering ⊢
  exact ⟨filed.same registering,rfl⟩

theorem submit (runs : ∀ h u made, SlotsFilled made u → SlotsFilled (made ++ inner h u) (native h u).state)
    (filed : SlotsFilled made s)
    (b : Nat) (decoder : Decoder) :
    SlotsFilled (made ++ s.callsIn b native inner none) (s.submit b native decoder).state := by
  cases registered : s.register b with
  | mk found u =>
    cases found with
    | error p =>
      simp only [callsIn,registered,List.append_nil]
      exact (filed.collided registered decoder).1
    | ok found =>
      rw [callsIn_slots registered,← List.append_assoc]
      refine (filed.inside runs registered decoder).aside rfl _ fun call there => ?_
      cases List.mem_singleton.mp there
      rfl

theorem submit_keep (runs : ∀ h u made, SlotsFilled made u → SlotsFilled (made ++ inner h u) (native h u).state)
    (filed : SlotsFilled made s)
    (b : Nat) (decoder : Decoder) :
    SlotsFilled (made ++ s.callsIn b native inner (s.submit b native decoder).slot)
      ((s.submit b native decoder).state.keep b (s.submit b native decoder).outcome).2 := by
  cases outcome : (s.submit b native decoder).outcome with
  | error p =>
    have slot : (s.submit b native decoder).slot = none := by rw [Submission.slot,outcome]
    rw [slot]
    exact filed.submit runs b decoder
  | ok p =>
    have slot : (s.submit b native decoder).slot = some (s.submit b native decoder).state.slots.size := by
      rw [Submission.slot,outcome]
    obtain ⟨bridge,op,u,registered,leaves⟩ := submit_leaves outcome (some (s.submit b native decoder).state.slots.size)
    rw [slot,callsIn_slots registered,← List.append_assoc]
    exact (filed.inside runs registered decoder).keep rfl leaves b

theorem entry (call : NativeCall) (other : Option Handle) (h : Handle) (u : State) (made : List Call) (filed : SlotsFilled made u) :
    SlotsFilled (made ++ []) (State.entry call other h u).state := by
  rw [List.append_nil]
  exact filed.same (enterLibrary_slots u _ call)

theorem submitted (b : Nat) {sub : Submission Unit} (filed : SlotsFilled made (sub.state.keep b sub.outcome).2) :
    SlotsFilled made (State.submitted b sub).2 :=
  filed.same ((finish_slots _ _ _).trans (completeAll_slots _))

theorem submitNative (filed : SlotsFilled made s) (b : Nat) (call : NativeCall) (other : Option Handle) (decoder : Decoder) :
    SlotsFilled (made ++ s.entryCall b call other (s.submitNative b call other decoder).slot)
      (State.submitted b (s.submitNative b call other decoder)).2 :=
  submitted b (filed.submit_keep (SlotsFilled.entry call other) b decoder)

theorem request (filed : SlotsFilled made s) (requested : s.request b r = .ok sub) :
    SlotsFilled (made ++ s.requestCall b r) (State.submitted b sub).2 := by
  simp only [requestCall,requested]
  unfold State.request at requested
  split at requested
  · cases requested
  · cases requested
    exact filed.submitNative b r.nativeCall none r.decoder

theorem entryCall_none (s : State) (b : Nat) (call : NativeCall) (other : Option Handle) :
    ∀ made ∈ s.entryCall b call other none, made.slot = none := by
  intro made there
  unfold entryCall callsIn at there
  split at there
  · cases there
  · cases List.mem_singleton.mp there
    rfl

theorem echoCalls_none (b count i : Nat) (s : State) : ∀ call ∈ echoCalls b count i s, call.slot = none := by
  induction count generalizing i s with
  | zero => exact List.forall_mem_nil _
  | succ count ih =>
    intro call there
    simp only [echoCalls] at there
    split at there
    · cases there
    · rcases List.mem_append.mp there with first | later
      · exact entryCall_none _ _ _ _ call first
      · split at later
        · cases later
        · exact ih _ _ call later

theorem action (filed : SlotsFilled made s) (own : Handle) (a : Action) : SlotsFilled (made ++ a.calls own s) (a.run own s).2 := by
  have still (calm : a.slotted = false) (more : List Call) (unfiled : ∀ call ∈ more, call.slot = none) :
      SlotsFilled (made ++ more) (a.run own s).2 := filed.aside (a.run_slots own s calm) more unfiled
  cases a with
  | poll i waker =>
    simp only [Action.calls,List.append_nil,Action.run,onSlot]
    cases there : s.slot? i with
    | none => exact filed
    | some x =>
      rw [pollSlot_state]
      refine filed.put (y := some (x.look s waker)) rfl there fun z same call leaves => ?_
      cases same
      exact leaves.look s waker
  | wait i =>
    simp only [Action.calls,List.append_nil,Action.run,onSlot]
    cases there : s.slot? i with
    | none => exact filed
    | some x =>
      dsimp only
      rw [waitSlot_state]
      split
      · exact filed
      · exact filed.clear there (wait_slots _ _)
  | withTimeout i after =>
    simp only [Action.calls,List.append_nil,Action.run,onSlot]
    cases there : s.slot? i with
    | none => exact filed
    | some x =>
      dsimp only
      rw [limitSlot_state]
      split
      · exact filed.clear there (EntriesOnly.forget _ _).slots
      · exact filed.clear there (withTimeout_slots _ _ _)
  | dropSlot i =>
    simp only [Action.calls,List.append_nil,Action.run,onSlot]
    cases there : s.slot? i with
    | none => exact filed
    | some x => exact filed.clear there (EntriesOnly.forget _ _).slots
  | request b r =>
    simp only [Action.calls,Action.run,onBridge]
    cases listed : s.listed? b with
    | none =>
      rw [Option.isSome_none,if_neg Bool.false_ne_true,List.append_nil]
      exact filed
    | some bridge =>
      rw [Option.isSome_some,if_pos rfl]
      have held : SlotsFilled made (s.hold b) := filed.same rfl
      dsimp only
      split
      · rename_i requested
        simp only [requestCall,requested,List.append_nil]
        exact filed
      · rename_i requested
        exact held.request requested
  | native b call other decoder =>
    simp only [Action.calls,Action.run,onBridge]
    cases listed : s.listed? b with
    | none =>
      rw [Option.isSome_none,if_neg Bool.false_ne_true,List.append_nil]
      exact filed
    | some bridge =>
      rw [Option.isSome_some,if_pos rfl]
      have held : SlotsFilled made (s.hold b) := filed.same rfl
      exact held.submitNative b call _ decoder
  | stress b count =>
    refine still rfl _ fun call there => ?_
    simp only [Action.calls] at there
    split at there
    · exact echoCalls_none b count 0 _ call there
    · cases there
  | _ => exact still rfl [] (List.forall_mem_nil _)

theorem endCall_slots (s : State) (b : Nat) (r : Result) (extra : Option (List Answer)) : (s.endCall b r extra).2.slots = s.slots :=
  finish_slots s b r

mutual

theorem step {made : List Call} {s : State} (filed : SlotsFilled made s) (own : Handle) (step : Step) :
    SlotsFilled (made ++ step.calls own s) (step.run own s).2 := by
  cases step with
  | act a =>
    simp only [Step.calls,Step.run]
    exact (filed.action own a).same rfl
  | submit b decoder ending during =>
    simp only [Step.calls,Step.run,submitScript]
    cases listed : s.listed? b with
    | none =>
      rw [Option.isSome_none,if_neg Bool.false_ne_true,List.append_nil]
      exact filed.same rfl
    | some bridge =>
      rw [Option.isSome_some,if_pos rfl]
      have held : SlotsFilled made (s.hold b) := filed.same rfl
      have runs (h : Handle) (u : State) (before : List Call) (filed : SlotsFilled before u) :
          SlotsFilled (before ++ callsOf h u during) (scripted ending (runSteps h u during)).state := by
        rw [scripted_state]
        exact filed.steps h during
      have kept := held.submit_keep runs b decoder
      exact kept.same (endCall_slots _ _ _ _)
  | call b decoder ending during =>
    simp only [Step.calls,Step.run]
    cases listed : s.listed? b with
    | none =>
      rw [Option.isSome_none,Bool.false_and,if_neg Bool.false_ne_true,List.append_nil,callScript_gone listed]
      exact filed.same rfl
    | some bridge =>
      cases driven : s.driven with
      | true =>
        rw [Bool.not_true,Bool.and_false,if_neg Bool.false_ne_true,List.append_nil,callScript_nested listed driven]
        exact filed.same rfl
      | false =>
        have held : SlotsFilled made (s.hold b) := filed.same rfl
        have runs (h : Handle) (u : State) (before : List Call) (filed : SlotsFilled before u) :
            SlotsFilled (before ++ callsOf h { u with turn := some turnLength } during)
              (inTurn (fun h u => scripted ending (runSteps h u during)) h u).state := by
          have turned : SlotsFilled before { u with turn := some turnLength } := filed.same rfl
          have ran := turned.steps h during
          simp only [inTurn,scripted_state]
          exact ran.same rfl
        have submitted := held.submit runs b decoder
        simp only [Option.isSome_some,Bool.not_false,Bool.and_true,if_true]
        cases outcome : ((s.hold b).submit b (inTurn fun h u => scripted ending (runSteps h u during)) decoder).outcome with
        | error p =>
          rw [callScript_panics listed driven rfl outcome]
          exact submitted.same (endCall_slots _ _ _ _)
        | ok p =>
          rw [callScript_waits listed driven rfl outcome]
          exact submitted.same ((endCall_slots _ _ _ _).trans (awaitAtMost_slots _ p _))

theorem steps {made : List Call} {s : State} (filed : SlotsFilled made s) (own : Handle) (steps : List Step) :
    SlotsFilled (made ++ callsOf own s steps) (runSteps own s steps).2 := by
  cases steps with
  | nil =>
    simp only [callsOf,runSteps,List.append_nil]
    exact filed
  | cons step rest =>
    simp only [callsOf,runSteps]
    rw [← List.append_assoc]
    exact (filed.step own step).steps own rest

end

theorem start (attendance : Attendance) (firsts : List Int32) (plans : List BridgePlan) :
    SlotsFilled [] (.start attendance firsts plans) := by
  have slots := start_slots attendance firsts plans
  constructor
  · rw [slots]
    rfl
  · intro i x there call member
    cases member

theorem path {script : List Step} (filed : SlotsFilled before s) (path : Called own s script made t) :
    SlotsFilled (before ++ made) t := by
  have entered {s u : State} {b bridge op before} (filed : SlotsFilled before s)
      (registered : (s.hold b).register b = (.ok (bridge,op),u)) : SlotsFilled before u := by
    have same := register_slots (s.hold b) b
    rw [registered] at same
    exact filed.same same
  induction path generalizing before with
  | here =>
    rw [List.append_nil]
    exact filed
  | later _ ih =>
    rw [← List.append_assoc]
    exact ih (filed.step _ _)
  | submitting b bridge op decoder listed registered _ ih => exact ih (entered filed registered)
  | calling b bridge op decoder listed free registered _ ih => exact ih ((entered filed registered).same rfl)

end SlotsFilled

-- In every state of every session.
theorem Called.filed (path : Called own (.start attendance firsts plans) steps made t) : SlotsFilled made t :=
  (SlotsFilled.start attendance firsts plans).path path

end PendingCalls.Session
