import PendingCalls.Proofs.SubmitExits
import PendingCalls.Proofs.Looks
import PendingCalls.Proofs.Slots

-- All looks at the promises of slots, over a whole session. What is known of every look, of
-- every promise that comes into a slot or is dropped out of it, and of whatever brings no
-- waker that panics and leaves the slots alone, is known of the session.

namespace PendingCalls.Session

-- The looks of an action at the promises of slots. Whoever waits looks once, and the
-- promise is out of its slot then.
def Action.looks (s : State) : Action → List Look
  | .poll i waker => (s.slot? i).toList.map fun x => ⟨i,x.promise,waker,s⟩
  | .wait i =>
      match s.slot? i with
      | none => []
      | some x =>
          if s.wouldBlock x || (s.driven && x.promise.timeout.isSome) then []
          else [⟨i,x.promise,.quiet,s.clearSlot i⟩]
  | .withTimeout i _ =>
      match s.slot? i with
      | none => []
      | some x => if s.driven then [] else [⟨i,x.promise,.quiet,s.clearSlot i⟩]
  | _ => []

-- Those of the script that a native call runs, if the call comes so far.
def State.looksDuring (s : State) (b : Nat) (script : Handle → State → List Look) : List Look :=
  match s.register b with
  | (.error _, _) => []
  | (.ok (_, op), s) => script op.handle s

mutual

def Step.looks (s : State) : Step → List Look
  | .act a => a.looks s
  | .submit b _ _ during =>
      if (s.listed? b).isSome then (s.hold b).looksDuring b (fun h s => looksOf h s during) else []
  | .call b _ _ during =>
      if (s.listed? b).isSome && !s.driven then
        (s.hold b).looksDuring b (fun h s => looksOf h { s with turn := some turnLength } during)
      else []

def looksOf (own : Handle) (s : State) : List Step → List Look
  | [] => []
  | step :: rest => step.looks s ++ looksOf own (step.run own s).2 rest

end

-- The states that steps visit, each with the looks until then.
inductive Looked : Handle → State → List Step → List Look → State → Prop where
  | here : Looked own s steps [] s
  | later : Looked own (step.run own s).2 rest made t → Looked own s (step :: rest) (step.looks s ++ made) t
  | submitting (b bridge op decoder) (listed : (s.listed? b).isSome)
      (registered : (s.hold b).register b = (.ok (bridge,op),u)) :
      Looked op.handle u during made t → Looked own s (.submit b decoder ending during :: rest) made t
  | calling (b bridge op decoder) (listed : (s.listed? b).isSome) (free : s.driven = false)
      (registered : (s.hold b).register b = (.ok (bridge,op),u)) :
      Looked op.handle { u with turn := some turnLength } during made t →
      Looked own s (.call b decoder ending during :: rest) made t

theorem visits_looked : Visits own s steps t ↔ ∃ made, Looked own s steps made t := by
  constructor
  · intro path
    induction path with
    | here => exact ⟨_,.here⟩
    | later _ ih =>
      obtain ⟨_,rest⟩ := ih
      exact ⟨_,.later rest⟩
    | submitting b bridge op decoder listed registered _ ih =>
      obtain ⟨_,inside⟩ := ih
      exact ⟨_,.submitting b bridge op decoder listed registered inside⟩
    | calling b bridge op decoder listed free registered _ ih =>
      obtain ⟨_,inside⟩ := ih
      exact ⟨_,.calling b bridge op decoder listed free registered inside⟩
  · rintro ⟨made,path⟩
    induction path with
    | here => exact .here
    | later _ ih => exact .later ih
    | submitting b bridge op decoder listed registered _ ih => exact .submitting b bridge op decoder listed registered ih
    | calling b bridge op decoder listed free registered _ ih =>
      exact .calling b bridge op decoder listed free registered ih

theorem Looked.end (steps : List Step) (own : Handle) (s : State) :
    Looked own s steps (looksOf own s steps) (runSteps own s steps).2 := by
  induction steps generalizing s with
  | nil =>
    rw [looksOf,runSteps]
    exact .here
  | cons step rest ih =>
    rw [looksOf,runSteps]
    exact .later (ih _)

namespace State

variable {s t : State}

theorem slot_row (there : s.slot? i = some x) : s.slots.get? i = some (some x) := Option.join_eq_some_iff.mp there

theorem slot_lt (there : s.slot? i = some x) : i < s.slots.size := Table.lt_size_of_get? (slot_row there)

theorem slot_set (slots : t.slots = s.slots.set j y) (other : j ≠ i) : t.slot? i = s.slot? i := by
  rw [slot?,slots,Table.get?_set,if_neg other,slot?]

theorem slot_put (there : s.slot? i = some x) (slots : t.slots = s.slots.set i y) : t.slot? i = y := by
  rw [slot?,slots,Table.get?_set,if_pos rfl,slot_row there]
  rfl

theorem slot_push (inside : i < s.slots.size) (x : Option Slot) : State.slot? { s with slots := s.slots.push x } i = s.slot? i :=
  congrArg Option.join (Table.get?_push_old inside _)

theorem settle_fresh (promised : (s.settle bridge op decoder ending).1 = .ok p) : p.finished = false := by
  rcases settle_promised promised with ⟨_,rfl⟩ | ⟨_,_,_,_,rfl⟩ <;> rfl

theorem submit_fresh (promised : (s.submit b native decoder).outcome = .ok p) : p.finished = false := by
  unfold submit at promised
  split at promised
  · cases promised
  · exact settle_fresh promised

end State

-- What can be told of every part of a session, with the looks in it, if it is told of the
-- smallest ones. Somebody who waits looks once, out of the slot. He only does so without a
-- limit where no callback is still to come.
structure ClosedUnderLooks (R : Scene → List Look → Scene → Prop) : Prop where
  trans {x y z made others} : R x made y → R y others z → R x (made ++ others) z
  aside {x y} : Motions .quiet x y → y.state.slots = x.state.slots → R x [] y
  keep {s p} (b hands) : p.finished = false → R ⟨s,⟨b,p⟩ :: hands⟩ [] ⟨{ s with slots := s.slots.push (some ⟨b,p⟩) },hands⟩
  drop {s i x} (hands) : s.slot? i = some x → R ⟨s,hands⟩ [] ⟨(s.clearSlot i).forget x.promise,hands⟩
  poll {s i x} (waker hands) : s.slot? i = some x → R ⟨s,hands⟩ [⟨i,x.promise,waker,s⟩] ⟨(s.pollSlot i x waker).2,hands⟩
  wait {s i x limit} (hands) : s.slot? i = some x → (limit = none → x.promise.timeout = none ∧ s.wouldBlock x = false) →
    R ⟨s,hands⟩ [⟨i,x.promise,.quiet,s.clearSlot i⟩] ⟨((s.clearSlot i).awaitAtMost x.promise limit).2,hands⟩

theorem Action.within_quiet (a : Action) (calm : a.slotted = false) : a.within .quiet := by
  cases a with
  | poll => cases calm
  | _ => rfl

namespace ClosedUnderLooks

variable {R : Scene → List Look → Scene → Prop} {s : State} {hands : List Slot}

theorem refl (closed : ClosedUnderLooks R) (x : Scene) : R x [] x := closed.aside .refl rfl

theorem after (closed : ClosedUnderLooks R) (first : R x made y) (rest : R y [] z) : R x made z := by
  have whole := closed.trans first rest
  rwa [List.append_nil] at whole

theorem turn (closed : ClosedUnderLooks R) (s : State) (turn : Option Nat) (hands : List Slot) :
    R ⟨s,hands⟩ [] ⟨{ s with turn := turn },hands⟩ :=
  closed.aside (Motion.turn rfl turn).motions rfl

theorem hold (closed : ClosedUnderLooks R) (listed : s.listed? b = some bridge) (hands : List Slot) :
    R ⟨s,hands⟩ [] ⟨s.hold b,hands⟩ :=
  closed.aside (Motion.hold listed).motions rfl

theorem kept (closed : ClosedUnderLooks R) (b : Nat) (outcome : Except Panic Promise)
    (fresh : ∀ p, outcome = .ok p → p.finished = false) :
    R ⟨s,State.given b outcome ++ hands⟩ [] ⟨(s.keep b outcome).2,hands⟩ := by
  cases outcome with
  | error p => exact closed.refl _
  | ok p => exact closed.keep b hands (fresh p rfl)

theorem submit (closed : ClosedUnderLooks R) (native : Handle → State → NativeRun α) (script : Handle → State → List Look)
    (runs : ∀ h u hands, R ⟨u,hands⟩ (script h u) ⟨(native h u).state,hands⟩) (s : State) (b : Nat) (decoder : Decoder)
    (hands : List Slot) :
    R ⟨s,hands⟩ (s.looksDuring b script)
      ⟨(s.submit b native decoder).state,State.given b (s.submit b native decoder).outcome ++ hands⟩ := by
  have registering := State.register_slots s b
  unfold State.looksDuring State.submit
  cases registered : s.register b with
  | mk outcome u =>
    rw [registered] at registering
    cases outcome with
    | error p => exact closed.aside (Motion.collide registered).motions registering
    | ok found =>
      obtain ⟨bridge,op⟩ := found
      have entered : R ⟨s,hands⟩ [] ⟨u,⟨b,bridge.promise op decoder⟩ :: hands⟩ :=
        closed.aside (Motion.register registered decoder).motions registering
      have settled : R ⟨(native op.handle u).state,⟨b,bridge.promise op decoder⟩ :: hands⟩ [] _ :=
        closed.aside (State.settle_motions _ b bridge op decoder (native op.handle u).ending) (State.settle_slots _ _ _ _ _)
      exact closed.after (closed.trans entered (runs op.handle u _)) settled

theorem submitted (closed : ClosedUnderLooks R) (b : Nat) (sub : Submission Unit)
    (fresh : ∀ p, sub.outcome = .ok p → p.finished = false) :
    R ⟨sub.state,State.given b sub.outcome ++ hands⟩ [] ⟨(State.submitted b sub).2,hands⟩ := by
  have completed (t : State) : R ⟨t,hands⟩ [] ⟨t.completeAll,hands⟩ :=
    closed.aside (State.completeAll_motions t) (State.completeAll_slots t)
  have finished (t : State) (r) : R ⟨t,hands⟩ [] ⟨(t.finish b r).2,hands⟩ :=
    closed.aside (State.finish_motions t b r) (State.finish_slots t b r)
  exact closed.after (closed.after (closed.kept b sub.outcome fresh) (completed _)) (finished _ _)

theorem endCall (closed : ClosedUnderLooks R) (s : State) (b : Nat) (r : Result) (extra : Option (List Answer)) :
    R ⟨s,hands⟩ [] ⟨(s.endCall b r extra).2,hands⟩ :=
  closed.aside (State.endCall_motions s b r extra) (State.finish_slots s b r)

theorem answer (closed : ClosedUnderLooks R) (s : State) (result : Result) (during : Option (List Answer)) :
    R ⟨s,hands⟩ [] ⟨(s.answer result during).2,hands⟩ := closed.aside (Motion.report _).motions rfl

theorem waitSlot (closed : ClosedUnderLooks R) (there : s.slot? i = some x) (own : Handle) (hands : List Slot) :
    R ⟨s,hands⟩ ((Action.wait i).looks s) ⟨((Action.wait i).run own s).2,hands⟩ := by
  have ran : ((Action.wait i).run own s).2 = (s.waitSlot i x).2 := by simp only [Action.run, State.onSlot,there]
  rw [ran, State.waitSlot_state]
  simp only [Action.looks,there]
  cases blocks : s.wouldBlock x with
  | true => exact closed.refl _
  | false =>
    simp only [Bool.false_eq_true,if_false,Bool.false_or]
    by_cases nested : (s.driven && x.promise.timeout.isSome) = true
    · have given : (s.clearSlot i).wait x.promise = (.error .nestedRuntime,(s.clearSlot i).forget x.promise) := if_pos nested
      rw [if_pos nested,given]
      exact closed.drop hands there
    · have given : (s.clearSlot i).wait x.promise = (s.clearSlot i).awaitAtMost x.promise x.promise.timeout := if_neg nested
      rw [if_neg nested,given]
      exact closed.wait hands there fun free => ⟨free,blocks⟩

theorem limitSlot (closed : ClosedUnderLooks R) (there : s.slot? i = some x) (after : Duration) (own : Handle) (hands : List Slot) :
    R ⟨s,hands⟩ ((Action.withTimeout i after).looks s) ⟨((Action.withTimeout i after).run own s).2,hands⟩ := by
  have ran : ((Action.withTimeout i after).run own s).2 = (s.limitSlot i x after).2 := by simp only [Action.run, State.onSlot,there]
  rw [ran, State.limitSlot_state]
  simp only [Action.looks,there]
  cases s.driven with
  | true => exact closed.drop hands there
  | false => exact closed.wait hands there fun free => absurd free (Option.some_ne_none after)

open State in
theorem action (closed : ClosedUnderLooks R) (own : Handle) (s : State) (a : Action) (hands : List Slot) :
    R ⟨s,hands⟩ (a.looks s) ⟨(a.run own s).2,hands⟩ := by
  have plain (calm : a.slotted = false) : R ⟨s,hands⟩ [] ⟨(a.run own s).2,hands⟩ :=
    closed.aside (a.run_motions own s (a.within_quiet calm)) (a.run_slots own s calm)
  cases a with
  | poll i waker =>
    cases there : s.slot? i with
    | none =>
      simp only [Action.looks,there,Action.run,onSlot]
      exact closed.refl _
    | some x =>
      simp only [Action.looks,there,Action.run,onSlot]
      exact closed.poll waker hands there
  | wait i =>
    cases there : s.slot? i with
    | none =>
      simp only [Action.looks,there,Action.run,onSlot]
      exact closed.refl _
    | some x => exact closed.waitSlot there own hands
  | withTimeout i after =>
    cases there : s.slot? i with
    | none =>
      simp only [Action.looks,there,Action.run,onSlot]
      exact closed.refl _
    | some x => exact closed.limitSlot there after own hands
  | dropSlot i =>
    cases there : s.slot? i with
    | none =>
      simp only [Action.looks,there,Action.run,onSlot]
      exact closed.refl _
    | some x =>
      simp only [Action.looks,there,Action.run,onSlot]
      exact closed.drop hands there
  | request b r =>
    cases listed : s.listed? b with
    | none =>
      simp only [Action.looks,Action.run,onBridge,listed]
      exact closed.refl _
    | some bridge =>
      simp only [Action.looks,Action.run,onBridge,listed]
      split
      · exact closed.refl _
      · rename_i sub requested
        have requesting : R ⟨s.hold b,hands⟩ [] ⟨sub.state,given b sub.outcome ++ hands⟩ :=
          closed.aside (request_motions requested) (request_slots requested)
        refine closed.after (closed.after (closed.hold listed hands) requesting) (closed.submitted b sub fun p promised => ?_)
        unfold State.request at requested
        split at requested
        · cases requested
        · cases requested
          exact submit_fresh promised
  | native b call other decoder =>
    cases listed : s.listed? b with
    | none =>
      simp only [Action.looks,Action.run,onBridge,listed]
      exact closed.refl _
    | some bridge =>
      simp only [Action.looks,Action.run,onBridge,listed]
      have submitting : R ⟨s.hold b,hands⟩ [] _ :=
        closed.aside (submitNative_motions (s.hold b) b call (other.map (·.resolve own)) decoder) (submitNative_slots _ _ _ _ _)
      exact closed.after (closed.after (closed.hold listed hands) submitting) (closed.submitted b _ fun p promised => submit_fresh promised)
  | _ => exact plain rfl

mutual

theorem step (closed : ClosedUnderLooks R) (own : Handle) (s : State) (step : Step) (hands : List Slot) :
    R ⟨s,hands⟩ (step.looks s) ⟨(step.run own s).2,hands⟩ := by
  cases step with
  | act a =>
    simp only [Step.looks,Step.run]
    exact closed.after (closed.action own s a hands) (closed.answer _ _ _)
  | submit b decoder ending during =>
    simp only [Step.looks,Step.run, State.submitScript]
    cases listed : s.listed? b with
    | none => exact closed.answer _ _ _
    | some bridge =>
      have ran := closed.submit (fun h u => State.scripted ending (runSteps h u during)) (fun h u => looksOf h u during)
        (fun h u others => by rw [State.scripted_state]; exact closed.steps h u during others) (s.hold b) b decoder hands
      simp only [Option.isSome_some,if_true]
      exact closed.after (closed.after (closed.trans (closed.hold listed hands) ran)
        (closed.kept b _ fun p promised => State.submit_fresh promised)) (closed.endCall _ _ _ _)
  | call b decoder ending during =>
    simp only [Step.looks,Step.run]
    cases listed : s.listed? b with
    | none =>
      rw [State.callScript_gone listed]
      exact closed.answer _ _ _
    | some bridge =>
      cases driven : s.driven with
      | true =>
        rw [State.callScript_nested listed driven]
        exact closed.answer _ _ _
      | false =>
        have ran := closed.submit (State.inTurn fun h u => State.scripted ending (runSteps h u during))
          (fun h u => looksOf h { u with turn := some turnLength } during)
          (fun h u others => by
            simp only [State.inTurn, State.scripted_state]
            exact closed.after (closed.trans (closed.turn u _ _) (closed.steps h { u with turn := some turnLength } during others))
              (closed.turn _ none _))
          (s.hold b) b decoder hands
        have submitted := closed.trans (closed.hold listed hands) ran
        simp only [Option.isSome_some,Bool.not_false,Bool.and_true,if_true]
        cases outcome : ((s.hold b).submit b (State.inTurn fun h u => State.scripted ending (runSteps h u during)) decoder).outcome with
        | error p =>
          rw [outcome] at submitted
          rw [State.callScript_panics listed driven rfl outcome]
          exact closed.after submitted (closed.endCall _ _ _ _)
        | ok p =>
          rw [outcome] at submitted
          have awaited (t : State) : R ⟨t,⟨b,p⟩ :: hands⟩ [] ⟨(t.awaitAtMost p bridge.config.defaultTimeout).2,hands⟩ :=
            closed.aside (State.awaitAtMost_motions t b p _) (State.awaitAtMost_slots t p _)
          rw [State.callScript_waits listed driven rfl outcome]
          exact closed.after (closed.after submitted (awaited _)) (closed.endCall _ _ _ _)

theorem steps (closed : ClosedUnderLooks R) (own : Handle) (s : State) (steps : List Step) (hands : List Slot) :
    R ⟨s,hands⟩ (looksOf own s steps) ⟨(runSteps own s steps).2,hands⟩ := by
  cases steps with
  | nil =>
    simp only [looksOf,runSteps]
    exact closed.refl _
  | cons step rest =>
    simp only [looksOf,runSteps]
    exact closed.trans (closed.step own s step hands) (closed.steps own _ rest hands)

end

-- Of every state of a session, with the looks until then, also in the middle of native calls.
theorem looked (closed : ClosedUnderLooks R) {steps : List Step} (path : Looked own s steps made t) (hands : List Slot) :
    ∃ others, R ⟨s,hands⟩ made ⟨t,others⟩ := by
  have entered {s u : State} {b : Nat} {bridge : Bridge} {op : Operation} (listed : (s.listed? b).isSome)
      (registered : (s.hold b).register b = (.ok (bridge,op),u)) (decoder : Decoder) (hands : List Slot) :
      R ⟨s,hands⟩ [] ⟨u,⟨b,bridge.promise op decoder⟩ :: hands⟩ := by
    obtain ⟨_,there⟩ := Option.isSome_iff_exists.mp listed
    have same := State.register_slots (s.hold b) b
    rw [registered] at same
    exact closed.aside (.head (.hold there) (Motion.register registered decoder).motions) same
  induction path generalizing hands with
  | here => exact ⟨hands,closed.refl _⟩
  | later _ ih =>
    obtain ⟨others,rest⟩ := ih hands
    exact ⟨others,closed.trans (closed.step _ _ _ hands) rest⟩
  | submitting b bridge op decoder listed registered _ ih =>
    obtain ⟨others,inside⟩ := ih (⟨b,bridge.promise op decoder⟩ :: hands)
    exact ⟨others,closed.trans (entered listed registered decoder hands) inside⟩
  | calling b bridge op decoder listed free registered _ ih =>
    obtain ⟨others,inside⟩ := ih (⟨b,bridge.promise op decoder⟩ :: hands)
    exact ⟨others,closed.trans (closed.after (entered listed registered decoder hands) (closed.turn _ _ _)) inside⟩

end ClosedUnderLooks

end PendingCalls.Session
