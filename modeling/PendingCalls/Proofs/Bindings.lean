import PendingCalls.Proofs.Confinement
import PendingCalls.Proofs.Refinement
import PendingCalls.Proofs.Transit

-- The trampolines are bound once. The first attempt decides where callbacks go for as
-- long as the process runs; every other one is told so and changes nothing.

namespace PendingCalls.Session

-- An attempt of a bridge to have the callbacks: on its own, or through an actor that is
-- started for it.
structure Attempt where
  bridge : Nat
  route : Route
  before : State
  result : Result
  after : State

namespace Attempt

-- The route, with the hook that the bridge has.
def binding (x : Attempt) : Binding := ⟨x.route,(x.before.bridge? x.bridge).bind (·.hook)⟩

def Succeeds (x : Attempt) : Prop :=
  match x.route with
  | .direct _ => x.result = .bound ∧ x.after = { x.before with binding := some x.binding }
  | .actor a =>
      x.result = .actor a ∧ x.after = { (x.before.spawnActor x.bridge).2 with binding := some x.binding }

-- Nothing has changed. An actor that was started for it is none that callbacks go to, and
-- it is as if it had stopped at once.
def Fails (x : Attempt) : Prop :=
  x.result = .alreadyInstalled ∧
  match x.route with
  | .direct _ => x.after = x.before
  | .actor a =>
      x.after = x.before.note .actorStarted ∧ (∀ hook, x.after.binding ≠ some ⟨.actor a,hook⟩) ∧
      (x.before.spawnActor x.bridge).2.stopActor a =
        (.ok (),{ x.after with actors := x.before.actors.push (Actor.fresh x.bridge).stopped })

-- The route of an attempt is in force.
structure InForce (x : Attempt) (s : State) : Prop where
  binding : s.binding = some x.binding
  direct : ∀ b, x.route = .direct b → b = x.bridge
  serving : ∀ a, x.route = .actor a → (s.actor? a).map Actor.bridge = some x.bridge
  home : ∃ r, s.registryOf x.bridge = some r

end Attempt

-- The attempts of a step, in the order in which they are made. On a thread that a call
-- drives no actor is started.
def Action.attempts (own : Handle) (s : State) (a : Action) : List Attempt :=
  match a with
  | .bind b => if (s.listed? b).isSome then [⟨b,.direct b,s,(a.run own s).1,(a.run own s).2⟩] else []
  | .bindActor b =>
      if (s.listed? b).isSome && !s.driven then
        [⟨b,.actor s.actors.size,s,(a.run own s).1,(a.run own s).2⟩]
      else []
  | _ => []

-- Those of the script that a native call runs, if the call comes so far.
def State.attemptsDuring (s : State) (b : Nat) (script : Handle → State → List Attempt) : List Attempt :=
  match s.register b with
  | (.error _, _) => []
  | (.ok (_, op), s) => script op.handle s

mutual

def Step.attempts (own : Handle) (s : State) : Step → List Attempt
  | .act a => a.attempts own s
  | .submit b _ _ during =>
      if (s.listed? b).isSome then (s.hold b).attemptsDuring b (fun h s => attemptsOf h s during) else []
  | .call b _ _ during =>
      if (s.listed? b).isSome && !s.driven then
        (s.hold b).attemptsDuring b (fun h s => attemptsOf h { s with turn := some turnLength } during)
      else []

def attemptsOf (own : Handle) (s : State) : List Step → List Attempt
  | [] => []
  | step :: rest => step.attempts own s ++ attemptsOf own (step.run own s).2 rest

end

-- The states that steps visit, each with the attempts that were made until then.
inductive Attempted : Handle → State → List Step → List Attempt → State → Prop where
  | here : Attempted own s steps [] s
  | later : Attempted own (step.run own s).2 rest made t →
      Attempted own s (step :: rest) (step.attempts own s ++ made) t
  | submitting (b bridge op decoder) (listed : (s.listed? b).isSome)
      (registered : (s.hold b).register b = (.ok (bridge,op),u)) :
      Attempted op.handle u during made t → Attempted own s (.submit b decoder ending during :: rest) made t
  | calling (b bridge op decoder) (listed : (s.listed? b).isSome) (free : s.driven = false)
      (registered : (s.hold b).register b = (.ok (bridge,op),u)) :
      Attempted op.handle { u with turn := some turnLength } during made t →
      Attempted own s (.call b decoder ending during :: rest) made t

theorem visits_attempted : Visits own s steps t ↔ ∃ made, Attempted own s steps made t := by
  constructor
  · intro path
    induction path with
    | here => exact ⟨_,.here⟩
    | later _ ih =>
      obtain ⟨_,rest⟩ := ih
      exact ⟨_,.later rest⟩
    | submitting b bridge op decoder listed registered _ ih =>
      obtain ⟨_,inside⟩ := ih
      exact ⟨_,.submitting b bridge op decoder listed registered inside⟩
    | calling b bridge op decoder listed free registered _ ih =>
      obtain ⟨_,inside⟩ := ih
      exact ⟨_,.calling b bridge op decoder listed free registered inside⟩
  · rintro ⟨made,path⟩
    induction path with
    | here => exact .here
    | later _ ih => exact .later ih
    | submitting b bridge op decoder listed registered _ ih => exact .submitting b bridge op decoder listed registered ih
    | calling b bridge op decoder listed free registered _ ih =>
      exact .calling b bridge op decoder listed free registered ih

theorem Attempted.end (steps : List Step) (own : Handle) (s : State) :
    Attempted own s steps (attemptsOf own s steps) (runSteps own s steps).2 := by
  induction steps generalizing s with
  | nil =>
    rw [attemptsOf,runSteps]
    exact .here
  | cons step rest ih =>
    rw [attemptsOf,runSteps]
    exact .later (ih _)

open State in
-- A binding stays, and an actor serves one bridge.
theorem Move.routing (move : Move driving x y) :
    (∀ binding, x.state.binding = some binding → y.state.binding = some binding) ∧
    ∀ a b, (x.state.actor? a).map Actor.bridge = some b → (y.state.actor? a).map Actor.bridge = some b := by
  have withRouting {s t : State} (same : t.routing = s.routing) : (∀ binding, s.binding = some binding → t.binding = some binding) ∧
      ∀ a b, (s.actor? a).map Actor.bridge = some b → (t.actor? a).map Actor.bridge = some b := by
    simp only [(TransitExtends.routing same).binding,actor?_routing same]
    exact ⟨fun _ => id,fun _ _ => id⟩
  have changed {s : State} (i : Nat) {f : Actor → Actor} (same : ∀ actor, (f actor).bridge = actor.bridge) :
      ∀ a b, (s.actor? a).map Actor.bridge = some b → ((s.changeActor i f).actor? a).map Actor.bridge = some b := by
    intro a b serves
    have confined := (Confined.changeActor 0 0 i s same).serving a
    exact confined.trans serves
  have spawned {s : State} (c : Nat) :
      ∀ a b, (s.actor? a).map Actor.bridge = some b → ((s.spawnActor c).2.actor? a).map Actor.bridge = some b := by
    intro a b serves
    obtain ⟨actor,present,_⟩ := Option.map_eq_some_iff.mp serves
    have old : (s.spawnActor c).2.actor? a = s.actor? a := Table.get?_push_old (Table.lt_size_of_get? present) _
    rw [old]
    exact serves
  cases move with
  | note | report | tell | library | turn | lose | keep | take | swap | hold | unhold | unlist => exact withRouting rfl
  | close | evict => exact withRouting (EntriesOnly.evict _ _ _ _).routing
  | leave => exact withRouting (EntriesOnly.withdraw _ _ _ _).routing
  | draw => exact withRouting (EntriesOnly.draw _ _).routing
  | enter _ entered | collide entered => exact withRouting (EntriesOnly.enter entered).routing
  | insert => exact withRouting (EntriesOnly.insertFresh _ _ _ _).routing
  | dispatch => exact withRouting (dispatch_routing _ _ _)
  | refuse | forget => exact withRouting (EntriesOnly.forget _ _).routing
  | look => exact withRouting (poll_routing _ _ _)
  | lookAt =>
    rw [pollSlot_state]
    exact withRouting (poll_routing _ _ _)
  | receive => exact withRouting (EntriesOnly.receive _ _).routing
  | spawn => exact ⟨fun _ => id,spawned _⟩
  | accept | reply | stop => exact ⟨fun _ => id,changed _ fun _ => rfl⟩
  | serve =>
    have dispatched {s : State} {a b d rest} := withRouting (dispatch_routing (s.changeActor a (Actor.next (.deliver d) rest)) b d)
    refine ⟨dispatched.1,fun i b serves => dispatched.2 i b ?_⟩
    exact changed (f := Actor.next _ _) _ (fun _ => rfl) i b serves
  | bindDirect _ free | bindActor free =>
    refine ⟨fun binding there => ?_,fun _ _ => id⟩
    cases free.symm.trans there
  | transit => exact ⟨fun _ => id,fun _ _ => id⟩

theorem Attempt.InForce.moves {x : Attempt} (inForce : x.InForce s) (moves : Moves driving ⟨s,hands⟩ ⟨t,others⟩) : x.InForce t := by
  have kept (y : Scene) (moves : Moves driving ⟨s,hands⟩ y) : x.InForce y.state := by
    induction moves with
    | refl => exact inForce
    | tail _ move ih =>
      have home := (Moves.changes move.moves).registryOf
      refine ⟨move.routing.1 _ ih.binding,ih.direct,fun a same => move.routing.2 _ _ (ih.serving a same),?_⟩
      obtain ⟨r,desk⟩ := ih.home
      exact ⟨r,(congrFun home x.bridge).trans desk⟩
  exact kept _ moves

-- What becomes of the attempts on the way from one state to another.
structure Decided (s : State) (made : List Attempt) (t : State) : Prop where
  free : s.binding = none → (made = [] ∧ t.binding = none) ∨
    ∃ first later, made = first :: later ∧ first.Succeeds ∧ (∀ x ∈ later, x.Fails) ∧ first.InForce t
  taken : ∀ x : Attempt, x.InForce s → (∀ y ∈ made, y.Fails) ∧ x.InForce t

namespace Decided

theorem trans (first : Decided s made t) (second : Decided t others u) : Decided s (made ++ others) u where
  free none := by
    rcases first.free none with ⟨rfl,still⟩ | ⟨x,later,rfl,succeeds,fails,inForce⟩
    · exact second.free still
    · obtain ⟨fail,still⟩ := second.taken x inForce
      refine .inr ⟨x,later ++ others,rfl,succeeds,?_,still⟩
      intro y there
      rcases List.mem_append.mp there with early | late
      · exact fails y early
      · exact fail y late
  taken x inForce := by
    obtain ⟨fails,middle⟩ := first.taken x inForce
    obtain ⟨fail,still⟩ := second.taken x middle
    refine ⟨?_,still⟩
    intro y there
    rcases List.mem_append.mp there with early | late
    · exact fails y early
    · exact fail y late

-- Nothing is attempted afterwards.
theorem after (decided : Decided s made t) (rest : Decided t [] u) : Decided s made u := by
  have whole := decided.trans rest
  rwa [List.append_nil] at whole

theorem still (hands : List Slot) (same : t.binding = s.binding) (motions : Motions .all ⟨s,hands⟩ ⟨t,others⟩) :
    Decided s [] t where
  free none := .inl ⟨rfl,same.trans none⟩
  taken _ inForce := ⟨fun _ there => absurd there List.not_mem_nil,inForce.moves motions.all⟩

theorem refl (s : State) : Decided s [] s := still [] rfl .refl

end Decided

namespace State

variable {s t : State}

-- An attempt that comes first binds; the thread and the bridge allow it.
theorem bindDirect_decided (listed : s.listed? b = some bridge) (own : Handle) :
    Decided s [⟨b,.direct b,s,((Action.bind b).run own s).1,((Action.bind b).run own s).2⟩] ((Action.bind b).run own s).2 := by
  obtain ⟨row,_⟩ := Option.filter_eq_some_iff.mp listed
  have known : s.bridge? b = some bridge := row
  constructor
  · intro none
    have ran : (Action.bind b).run own s = (.bound,{ s with binding := some ⟨.direct b,(s.bridge? b).bind (·.hook)⟩ }) := by
      simp only [Action.run,onBridge,listed,bindDirect,install,none]
    rw [ran]
    refine .inr ⟨_,[],rfl,⟨rfl,rfl⟩,fun _ there => absurd there List.not_mem_nil,rfl,?_,?_,⟨_,registryOf_bridge known⟩⟩
    · intro b' same
      cases same
      rfl
    · intro a same
      cases same
  · intro x inForce
    have ran : (Action.bind b).run own s = (.alreadyInstalled,s) := by
      simp only [Action.run,onBridge,listed,bindDirect,install,inForce.binding]
    rw [ran]
    refine ⟨fun y there => ?_,inForce⟩
    cases List.mem_singleton.mp there
    exact ⟨rfl,rfl⟩

theorem bindActor_decided (listed : s.listed? b = some bridge) (undriven : s.driven = false) (own : Handle) :
    Decided s [⟨b,.actor s.actors.size,s,((Action.bindActor b).run own s).1,((Action.bindActor b).run own s).2⟩]
      ((Action.bindActor b).run own s).2 := by
  obtain ⟨row,_⟩ := Option.filter_eq_some_iff.mp listed
  have known : s.bridge? b = some bridge := row
  constructor
  · intro none
    have ran : (Action.bindActor b).run own s = (.actor s.actors.size,
        { (s.spawnActor b).2 with binding := some ⟨.actor s.actors.size,(s.bridge? b).bind (·.hook)⟩ }) := by
      have spawned : (s.spawnActor b).2.binding = .none := none
      simp only [Action.run,onBridge,listed,onRuntime,undriven,if_neg Bool.false_ne_true,State.bindActor,install,spawned]
      rfl
    rw [ran]
    refine .inr ⟨_,[],rfl,⟨rfl,rfl⟩,fun _ there => absurd there List.not_mem_nil,rfl,?_,?_,⟨_,registryOf_bridge known⟩⟩
    · intro b' same
      cases same
    · intro a same
      cases same
      exact congrArg (Option.map Actor.bridge) (Table.get?_push_new _ _)
  · intro x inForce
    have ran : (Action.bindActor b).run own s = (.alreadyInstalled,s.note .actorStarted) := by
      simp only [Action.run,onBridge,listed,onRuntime,undriven,if_neg Bool.false_ne_true,bindActor_taken inForce.binding]
    rw [ran]
    have noted : Moves true ⟨s,[]⟩ ⟨s.note .actorStarted,[]⟩ := Move.moves (.note rfl)
    refine ⟨fun y there => ?_,inForce.moves noted⟩
    cases List.mem_singleton.mp there
    refine ⟨rfl,rfl,?_,?_⟩
    · intro hook bound
      have route := congrArg Binding.route (Option.some.inj (bound.symm.trans inForce.binding))
      obtain ⟨actor,present,_⟩ := Option.map_eq_some_iff.mp (inForce.serving _ route.symm)
      exact Nat.lt_irrefl _ (Table.lt_size_of_get? present)
    · have present : (s.spawnActor b).2.actor? s.actors.size = some (Actor.fresh b) := Table.get?_push_new _ _
      have stopped : (s.spawnActor b).2.changeActor s.actors.size Actor.stopped =
          { s.note .actorStarted with actors := s.actors.push (Actor.fresh b).stopped } := by
        simp only [changeActor,spawnActor,note]
        rw [Table.modify_push]
      have owned : ((s.spawnActor b).2.changeActor s.actors.size Actor.stopped).owned bridge.registry := by
        rw [stopped]
        exact owned_iff.mpr ⟨b,registryOf_bridge known,.kept known (.inl (Option.filter_eq_some_iff.mp listed).2)⟩
      have still : ((s.spawnActor b).2.changeActor s.actors.size Actor.stopped).bridge? (Actor.fresh b).bridge = some bridge := known
      simp only [stopActor,present,still]
      rw [release_owned owned,stopped]

theorem submit_decided (native : Handle → State → NativeRun α) (script : Handle → State → List Attempt)
    (runs : ∀ h u, Decided u (script h u) (native h u).state) (s : State) (b : Nat) (decoder : Decoder) :
    Decided s (s.attemptsDuring b script) (s.submit b native decoder).state := by
  have registering := (TransitExtends.register s b).binding
  unfold attemptsDuring submit
  cases registered : s.register b with
  | mk outcome u =>
    rw [registered] at registering
    cases outcome with
    | error p => exact .still [] registering (Motion.collide registered).motions
    | ok found =>
      obtain ⟨bridge,op⟩ := found
      have entered : Decided s [] u := .still [] registering (Motion.register registered decoder).motions
      have settled : Decided (native op.handle u).state [] ((native op.handle u).state.settle bridge op decoder (native op.handle u).ending).2 :=
        .still [⟨b,bridge.promise op decoder⟩] (TransitExtends.settle _ _ _ _ _).binding (settle_motions _ b bridge op decoder _)
      exact (entered.trans (runs op.handle u)).after settled

theorem endCall_decided (s : State) (b : Nat) (r : Result) (extra : Option (List Answer)) : Decided s [] (s.endCall b r extra).2 :=
  .still [] (TransitExtends.finish s b r).binding (endCall_motions s b r extra)

theorem hold_decided (listed : s.listed? b = some bridge) : Decided s [] (s.hold b) :=
  .still [] rfl (Motion.hold listed).motions

theorem answer_decided (s : State) (result : Result) (during : Option (List Answer)) : Decided s [] (s.answer result during).2 :=
  .still [] rfl (answer_motions _ _ _)

end State

section

open State

theorem Action.decided (own : Handle) (s : State) (a : Action) : Decided s (a.attempts own s) (a.run own s).2 := by
  have plain (other : a.binds = false) : Decided s [] (a.run own s).2 :=
    .still [] (a.run_binding own s other) (a.run_motions own s (a.within_free true))
  cases a with
  | bind b =>
    cases listed : s.listed? b with
    | none =>
      simp only [attempts,Action.run,onBridge,listed]
      exact .refl _
    | some bridge =>
      simp only [attempts,listed,Option.isSome_some,if_true]
      exact bindDirect_decided listed own
  | bindActor b =>
    cases listed : s.listed? b with
    | none =>
      simp only [attempts,Action.run,onBridge,listed]
      exact .refl _
    | some bridge =>
      cases driven : s.driven with
      | true =>
        simp only [attempts,Action.run,onBridge,onRuntime,listed,driven]
        exact .refl _
      | false =>
        simp only [attempts,listed,driven,Option.isSome_some,Bool.not_false,Bool.and_true,if_true]
        exact bindActor_decided listed driven own
  | _ => exact plain rfl

mutual

theorem Step.decided (own : Handle) (s : State) (step : Step) : Decided s (step.attempts own s) (step.run own s).2 := by
  cases step with
  | act a =>
    simp only [Step.attempts,Step.run]
    exact (a.decided own s).after (answer_decided _ _ _)
  | submit b decoder ending during =>
    simp only [Step.attempts,Step.run,submitScript]
    cases listed : s.listed? b with
    | none => exact answer_decided _ _ _
    | some bridge =>
      have ran := submit_decided (fun h u => scripted ending (runSteps h u during)) (fun h u => attemptsOf h u during)
        (fun h u => by rw [scripted_state]; exact attemptsOf_decided h u during) (s.hold b) b decoder
      have kept (t : State) (outcome) : Decided t [] (t.keep b outcome).2 :=
        .still (given b outcome ++ []) (TransitExtends.keep t b outcome).binding (keep_motions t b outcome)
      simp only [Option.isSome_some,if_true]
      exact (((hold_decided listed).trans ran).after (kept _ _)).after (endCall_decided _ _ _ _)
  | call b decoder ending during =>
    simp only [Step.attempts,Step.run]
    cases listed : s.listed? b with
    | none =>
      rw [callScript_gone listed]
      exact answer_decided _ _ _
    | some bridge =>
      cases driven : s.driven with
      | true =>
        rw [callScript_nested listed driven]
        exact answer_decided _ _ _
      | false =>
        have turned (t : State) (turn) : Decided t [] { t with turn := turn } :=
          .still [] rfl (Motion.turn rfl turn).motions
        have ran := submit_decided (inTurn fun h u => scripted ending (runSteps h u during))
          (fun h u => attemptsOf h { u with turn := some turnLength } during)
          (fun h u => by
            simp only [inTurn,scripted_state]
            exact ((turned u _).trans (attemptsOf_decided h { u with turn := some turnLength } during)).after (turned _ none))
          (s.hold b) b decoder
        have awaited (t : State) (p : Promise) : Decided t [] (t.awaitAtMost p bridge.config.defaultTimeout).2 :=
          .still [⟨b,p⟩] (TransitExtends.awaitAtMost t p _).binding (awaitAtMost_motions t b p _)
        have submitted := (hold_decided listed).trans ran
        simp only [Option.isSome_some,Bool.not_false,Bool.and_true,if_true]
        cases outcome : ((s.hold b).submit b (inTurn fun h u => scripted ending (runSteps h u during)) decoder).outcome with
        | error p =>
          rw [callScript_panics listed driven rfl outcome]
          exact submitted.after (endCall_decided _ _ _ _)
        | ok p =>
          rw [callScript_waits listed driven rfl outcome]
          exact (submitted.after (awaited _ p)).after (endCall_decided _ _ _ _)

theorem attemptsOf_decided (own : Handle) (s : State) (steps : List Step) :
    Decided s (attemptsOf own s steps) (runSteps own s steps).2 := by
  cases steps with
  | nil =>
    simp only [attemptsOf,runSteps]
    exact .refl _
  | cons step rest =>
    simp only [attemptsOf,runSteps]
    exact (Step.decided own s step).trans (attemptsOf_decided own _ rest)

end

theorem Attempted.decided (path : Attempted own s steps made t) : Decided s made t := by
  have entered {s u : State} {b : Nat} {bridge : Bridge} {op : Operation} (listed : (s.listed? b).isSome)
      (registered : (s.hold b).register b = (.ok (bridge,op),u)) : Decided s [] u := by
    obtain ⟨_,there⟩ := Option.isSome_iff_exists.mp listed
    have same := (TransitExtends.register (s.hold b) b).binding
    rw [registered] at same
    exact (hold_decided there).trans (.still [] same (Motion.register registered .unit).motions)
  have turned (u : State) (turn) : Decided u [] { u with turn := turn } :=
    .still [] rfl (Motion.turn rfl turn).motions
  induction path with
  | here => exact .refl _
  | later _ ih => exact (Step.decided _ _ _).trans ih
  | submitting b bridge op decoder listed registered _ ih => exact (entered listed registered).trans ih
  | calling b bridge op decoder listed free registered _ ih =>
    exact ((entered listed registered).trans (turned _ _)).trans ih

end

theorem start_binding (attendance : Attendance) (firsts : List Int32) (plans : List BridgePlan) :
    (State.start attendance firsts plans).binding = none :=
  congrArg Routing.binding (State.start_routing attendance firsts plans)

-- What a callback brings along a route: its arguments, and the details that the hook of
-- the route tells when it comes.
def State.delivery (s : State) (hook : Option Hook) (errors : ThreadErrors) (cb : Callback) : Delivery :=
  ⟨cb.handle,cb.code,cb.arguments.payload,(s.callbackDetails hook cb.code errors).1⟩

-- The operation that is pending under the handle of a delivery leaves with it.
def State.Settles (s : State) (r b : Nat) (d : Delivery) (t : State) : Prop :=
  ∀ op ∈ s.pendingIn r, op.handle = d.handle → t.departures r op = [.delivered b d]

-- Callbacks go where an attempt has bound them, whether the session still has the bridge
-- or not: they reach no other registry and no other counters, their details are told by
-- the hook of that bridge, and its registry lives as long as they can come.
structure Attempt.ReceivesCallbacks (x : Attempt) (r : Nat) (s : State) : Prop where
  binding : s.binding = some x.binding
  home : s.registryOf x.bridge = some r
  kept : (∀ a, x.route = .actor a → ¬ s.halted a) →
    s.owned r ∧ s.dropBridge x.bridge = (.ok (),s.unlist x.bridge)
  routed : ∀ errors cb, s.callBack errors cb =
    (s.callbackDetails x.binding.hook cb.code errors).2.deliver x.route (s.delivery x.binding.hook errors cb)
  called : ∀ errors cb, s.Confined x.route r x.bridge (s.callBack errors cb)
  landing : ∀ k, s.Confined x.route r x.bridge (s.land k)
  attending : ∀ a, x.route = .actor a → s.Confined x.route r x.bridge (s.attend a).2
  prompt : ∀ b errors cb, x.route = .direct b → s.attendance = .prompt →
    s.Settles r x.bridge (s.delivery x.binding.hook errors cb) (s.callBack errors cb)
  waiting : ∀ b errors cb, x.route = .direct b → s.attendance = .onDemand →
    (s.callBack errors cb).transit = s.transit ++ [s.delivery x.binding.hook errors cb]
  landed : ∀ b k d, x.route = .direct b → s.transit[k]? = some d → s.Settles r x.bridge d (s.land k)
  sent : ∀ a actor errors cb, x.route = .actor a → s.actor? a = some actor → actor.running →
    (s.callBack errors cb).sent a = some (.deliver (s.delivery x.binding.hook errors cb) :: actor.accepted)
  handled : ∀ a actor d rest, x.route = .actor a → s.actor? a = some actor → actor.running →
    actor.mailbox = .deliver d :: rest → s.Settles r x.bridge d (s.attend a).2

namespace State

variable {s t : State}

theorem dispatch_settled (sound : (s.books hands).Sound) (home : s.registryOf b = some r) (d : Delivery) :
    s.Settles r b d (s.dispatch b d).2 :=
  fun _ present same => (dispatch_settles sound home present same).2.1

-- What comes after leaves it settled.
theorem Settles.moves (settles : s.Settles r b d t) (sound : (t.books hands).Sound)
    (moves : Moves driving ⟨t,hands⟩ ⟨u,others⟩) : s.Settles r b d u := by
  intro op present same
  have left := settles op present same
  rw [departures_books t hands] at left
  rw [departures_books u others]
  exact sound.ledger.departures_stay moves.changes (left ▸ List.mem_singleton_self _)

theorem handleMessage_settles (sound : (s.books hands).Sound) (home : s.registryOf b = some r) (a : Nat) (d : Delivery) :
    s.Settles r b d (s.handleMessage a b (.deliver d)).2 := by
  have settled := dispatch_settled sound home d
  have after := dispatch_sound sound b d
  simp only [handleMessage]
  split
  all_goals
    rename_i ran
    rw [ran] at settled after
  · exact settled
  · rename_i t
    have stopped : Motions .all ⟨t,hands⟩ ⟨(t.stopActor a).2,hands⟩ := stopActor_motions t a
    exact settled.moves after stopped.moves

theorem callbackDetails_state (s : State) (hook : Option Hook) (code : Int32) (errors : ThreadErrors) :
    (s.callbackDetails hook code errors).2 = s ∨ ∃ e, (s.callbackDetails hook code errors).2 = s.note (.unreadableDetails e) := by
  unfold callbackDetails
  split
  · exact .inl rfl
  · exact readDetails_state s hook errors

end State

open State in
theorem Attempt.InForce.inUse {x : Attempt} {t : State} (inForce : x.InForce s) (alive : ∀ a, x.route = .actor a → ¬ s.halted a)
    (routing : t.routing = s.routing) : t.InUse x.bridge := by
  cases route : x.route with
  | direct b =>
    obtain rfl := inForce.direct b route
    refine .bound x.binding.hook ?_
    rw [(TransitExtends.routing routing).binding,← route]
    exact inForce.binding
  | actor a =>
    obtain ⟨actor,present,same⟩ := Option.map_eq_some_iff.mp (inForce.serving a route)
    refine .served (a := a) ((actor?_routing routing a).trans present) ?_ same
    cases running : actor.running with
    | true => rfl
    | false => exact absurd ⟨actor,present,running⟩ (alive a route)

namespace State

variable {s : State}

theorem callBack_routed (bound : s.binding = some ⟨route,hook⟩) (errors : ThreadErrors) (cb : Callback) :
    s.callBack errors cb = (s.callbackDetails hook cb.code errors).2.deliver route (s.delivery hook errors cb) := by
  unfold callBack
  rw [bound]
  rfl

theorem callbackDetails_books (s : State) (hook : Option Hook) (code : Int32) (errors : ThreadErrors) (hands : List Slot) :
    (s.callbackDetails hook code errors).2.books hands = s.books hands := by
  rcases callbackDetails_state s hook code errors with same | ⟨e,same⟩
  · rw [same]
  · rw [same,books_note s hands rfl]

theorem Settles.told (settles : (s.callbackDetails hook code errors).2.Settles r b d t) : s.Settles r b d t := by
  have pending : (s.callbackDetails hook code errors).2.pendingIn = s.pendingIn :=
    congrArg Books.pending (callbackDetails_books s hook code errors [])
  intro op present
  exact settles op (pending ▸ present)

theorem callBack_settles (sound : (s.books hands).Sound) (home : s.registryOf b = some r)
    (bound : s.binding = some ⟨.direct b,hook⟩) (prompt : s.attendance = .prompt) (errors : ThreadErrors) (cb : Callback) :
    s.Settles r b (s.delivery hook errors cb) (s.callBack errors cb) := by
  have told := callbackDetails_books s hook cb.code errors hands
  have always := (congrArg Routing.attendance (callbackDetails_routing s hook cb.code errors)).trans prompt
  rw [callBack_routed bound,deliver_prompt always]
  refine Settles.told (dispatch_settled (told ▸ sound) ?_ _)
  exact (congrFun (congrArg Books.registryOf told) b).trans home

theorem callBack_waits (bound : s.binding = some ⟨.direct b,hook⟩) (later : s.attendance = .onDemand)
    (errors : ThreadErrors) (cb : Callback) :
    (s.callBack errors cb).transit = s.transit ++ [s.delivery hook errors cb] := by
  rw [callBack_routed bound]
  rcases callbackDetails_state s hook cb.code errors with same | ⟨e,same⟩
  · rw [same,deliver_onDemand later]
  · rw [same,deliver_onDemand (s := s.note _) later]
    rfl

theorem land_settles (sound : (s.books hands).Sound) (home : s.registryOf b = some r)
    (bound : s.binding = some ⟨.direct b,hook⟩) (waits : s.transit[k]? = some d) : s.Settles r b d (s.land k) := by
  rw [land_row waits bound]
  exact dispatch_settled (s := { s with transit := s.transit.eraseIdx k }) sound home d

theorem attend_settles (sound : (s.books hands).Sound) (home : s.registryOf actor.bridge = some r)
    (present : s.actor? a = some actor) (running : actor.running) (first : actor.mailbox = .deliver d :: rest) :
    s.Settles r actor.bridge d (s.attend a).2 := by
  obtain ⟨b,mailbox,running',accepted,handled⟩ := actor
  obtain rfl : running' = true := running
  obtain rfl : mailbox = .deliver d :: rest := first
  rw [attend_row present]
  exact handleMessage_settles (s := s.changeActor a (Actor.next (.deliver d) rest)) sound home a d

end State

open State in
theorem Attempt.InForce.receivesCallbacks {x : Attempt} (inForce : x.InForce s) (sound : (s.books hands).Sound) :
    ∃ r, x.ReceivesCallbacks r s := by
  obtain ⟨r,home⟩ := inForce.home
  obtain ⟨bridge,known,own⟩ := Option.map_eq_some_iff.mp home
  have bound : s.binding = some ⟨x.route,x.binding.hook⟩ := inForce.binding
  have serves (a) (same : x.route = .actor a) (actor) (present : s.actor? a = some actor) : actor.bridge = x.bridge := by
    have row := inForce.serving a same
    rw [present] at row
    exact Option.some.inj row
  have served (a) (same : x.route = .actor a) : s.binding = some ⟨.actor a,x.binding.hook⟩ := same ▸ bound
  have straight (b) (same : x.route = .direct b) : s.binding = some ⟨.direct x.bridge,x.binding.hook⟩ := by
    rw [← inForce.direct b same,← same]
    exact bound
  refine ⟨r,{
    binding := inForce.binding, home, routed := callBack_routed bound, kept := ?_, landing := ?_
    called := Confined.callBack bound home inForce.direct serves
    attending := fun a same => same ▸ Confined.attend home (serves a same)
    prompt := fun b errors cb route prompt => callBack_settles sound home (straight b route) prompt errors cb
    waiting := fun b errors cb route later => callBack_waits (straight b route) later errors cb
    landed := fun b k d route waits => land_settles sound home (straight b route) waits
    handled := ?_
    sent := fun a actor errors cb same present running => sent_callBack (served a same) present running errors cb }⟩
  · intro alive
    have here : (s.unlist x.bridge).registryOf x.bridge = some r :=
      (congrFun ((Owner.bridge x.bridge).gone_registryOf s) _).trans home
    have still : (s.unlist x.bridge).owned r := owned_iff.mpr ⟨x.bridge,here,inForce.inUse alive rfl⟩
    refine ⟨owned_iff.mpr ⟨x.bridge,home,inForce.inUse alive rfl⟩,?_⟩
    simp only [dropBridge,known,own]
    exact release_owned still
  · intro k
    cases route : x.route with
    | direct b =>
      obtain rfl := inForce.direct b route
      exact Confined.land (straight _ route) home k
    | actor a =>
      rw [land_routed (served a route) k]
      exact .refl _ _ _ _
  · intro a actor d rest route present running first
    have desk : s.registryOf actor.bridge = some r := by rw [serves a route actor present,home]
    rw [← serves a route actor present]
    exact attend_settles sound desk present running first

-- In every state of every session, with the attempts made until then: as long as there
-- was none, a callback is written to the log as an error and changes nothing. The first
-- one succeeds and all others fail, and callbacks go where the first one has bound them.
theorem first_attempt_binds (path : Attempted ⟨0⟩ (.start attendance firsts plans) steps made s) :
    (made = [] ∧ s.binding = none ∧ ∀ errors cb, s.callBack errors cb = s.note (.unbound cb.handle cb.code) ∧
      ∃ text, (Event.unbound cb.handle cb.code).record? = some (.error,text)) ∨
    ∃ first later r, made = first :: later ∧ first.Succeeds ∧ (∀ x ∈ later, x.Fails) ∧ first.ReceivesCallbacks r s := by
  have visited : Visited attendance firsts plans steps s := visits_attempted.mpr ⟨made,path⟩
  obtain ⟨hands,sound⟩ := visited.sound
  rcases path.decided.free (start_binding attendance firsts plans) with ⟨none,free⟩ | ⟨first,later,all,succeeds,fails,inForce⟩
  · refine .inl ⟨none,free,fun errors cb => ⟨?_,_,rfl⟩⟩
    unfold State.callBack
    rw [free]
  · obtain ⟨r,receivesCallbacks⟩ := inForce.receivesCallbacks sound
    exact .inr ⟨first,later,r,all,succeeds,fails,receivesCallbacks⟩

-- Two bridges on registries of their own: the first one binds itself and is dropped, the
-- second one comes too late, also with an actor.
def rivals : List BridgePlan := [⟨.standard,none,none⟩,⟨.standard,none,none⟩]

def rivalry : List Step :=
  [.submit 0 .int (.ok 0) [],.act (.bind 0),.act (.bind 1),.act (.dropBridge 0),.act (.bindActor 1)]

theorem rivalry_decided :
    ∃ first later s, Attempted ⟨0⟩ (.start .prompt [] rivals) rivalry (first :: later) s ∧ first.bridge = 0 ∧
      first.Succeeds ∧ later.map Attempt.bridge = [1,1] ∧ (∀ x ∈ later, x.Fails) ∧ first.ReceivesCallbacks 0 s ∧
      s.pendingIn 0 = [⟨⟨1⟩,0⟩] ∧ (s.bridge? 0).map Bridge.listed = some false := by
  have path := Attempted.end rivalry ⟨0⟩ (.start .prompt [] rivals)
  have bridges : (attemptsOf ⟨0⟩ (.start .prompt [] rivals) rivalry).map Attempt.bridge = [0,1,1] := by cbv
  have home : (runSteps ⟨0⟩ (.start .prompt [] rivals) rivalry).2.registryOf 0 = some 0 := by cbv
  have pending : (runSteps ⟨0⟩ (.start .prompt [] rivals) rivalry).2.pendingIn 0 = [⟨⟨1⟩,0⟩] := by cbv
  have dropped : ((runSteps ⟨0⟩ (.start .prompt [] rivals) rivalry).2.bridge? 0).map Bridge.listed = some false := by cbv
  rcases first_attempt_binds path with ⟨none,_⟩ | ⟨first,later,r,all,succeeds,fails,receivesCallbacks⟩
  · rw [none] at bridges
    cases bridges
  · rw [all] at path bridges
    obtain ⟨own,others⟩ := List.cons.inj bridges
    have desk := receivesCallbacks.home
    rw [own] at desk
    cases home.symm.trans desk
    exact ⟨first,later,_,path,own,succeeds,others,fails,receivesCallbacks,pending,dropped⟩

end PendingCalls.Session
