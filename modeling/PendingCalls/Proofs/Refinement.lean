import PendingCalls.Proofs.RouteActions

-- The detour through an actor refines the direct way: a session with the one answers as a
-- session with the other where each callback lands when the actor handles it.

namespace PendingCalls.Session

variable {l : ActorRoute}

mutual

-- The same steps, but where the actor came to its next message the oldest callback may
-- land instead. What landed under the other route does not matter.
inductive Step.Rerouted (a : Nat) : Step → Step → Prop where
  | same (action) : Step.Rerouted a (.act action) (.act action)
  | lands : Step.Rerouted a (.act (.attend a)) (.act (.land 0))
  | nothing (i j) : Step.Rerouted a (.act (.land i)) (.act (.land j))
  | submit (inside : Rerouted a during others) :
      Step.Rerouted a (.submit b decoder ending during) (.submit b decoder ending others)
  | call (inside : Rerouted a during others) :
      Step.Rerouted a (.call b decoder ending during) (.call b decoder ending others)

inductive Rerouted (a : Nat) : List Step → List Step → Prop where
  | nil : Rerouted a [] []
  | cons (first : Step.Rerouted a step other) (rest : Rerouted a steps others) :
      Rerouted a (step :: steps) (other :: others)

end

mutual

theorem Step.Rerouted.refl (step : Step) : Step.Rerouted a step step := by
  cases step with
  | act action => exact .same action
  | submit b decoder ending during => exact .submit (Rerouted.refl during)
  | call b decoder ending during => exact .call (Rerouted.refl during)

theorem Rerouted.refl (steps : List Step) : Rerouted a steps steps := by
  cases steps with
  | nil => exact .nil
  | cons step rest => exact .cons (Step.Rerouted.refl step) (Rerouted.refl rest)

end

theorem State.land_routed {s : State} (routed : s.binding = some ⟨.actor a,hook⟩) (k : Nat) : s.land k = s := by
  unfold land
  rw [routed]
  split
  · rename_i binding
    cases binding
  · rfl

theorem State.land_beyond {s : State} (beyond : s.transit.length ≤ k) : s.land k = s := by
  unfold land
  rw [List.getElem?_eq_none beyond]

theorem Action.run_rerouted {s t : State} (beside : l.Beside s t) (own : Handle) (a : Action)
    (alive : ¬ (a.run own s).2.halted l.actor) :
    ∃ other, Step.Rerouted l.actor (.act a) (.act other) ∧
      (s.attendance = .prompt → other = a) ∧ l.Agree (a.run own s) (other.run own t) := by
  by_cases attends : a = .attend l.actor
  · subst attends
    rcases State.attend_own beside alive with agree | ⟨later,silent,landed⟩
    · obtain ⟨reply,_,_,ran,ran',after⟩ := agree.split
      refine ⟨_,.same _,fun _ => rfl,?_⟩
      simp only [Action.run,ran,ran']
      exact ⟨rfl,after⟩
    · refine ⟨_,.lands,fun prompt => absurd prompt later,?_,landed⟩
      simp only [Action.run,silent]
      rfl
  · by_cases landing : ∃ k, a = .land k
    · obtain ⟨k,rfl⟩ := landing
      obtain ⟨parcels,ρ,carries,quiet,same⟩ := id beside
      have transit : t.transit = parcels.filterMap QueuedItem.callback? := same ▸ carries.transit
      refine ⟨_,.nothing k (max k t.transit.length),fun prompt => ?_,rfl,?_⟩
      · rw [transit,quiet prompt]
        simp
      · change l.Beside (s.land k) (t.land (max k t.transit.length))
        rw [State.land_routed carries.routed,State.land_beyond (Nat.le_max_right _ _)]
        exact beside
    · exact ⟨a,.same a,fun _ => rfl,a.run_beside beside own alive attends fun k same => landing ⟨k,same⟩⟩

theorem scripted_returns {s t : State} {steps others : List Step} (ending : Except String Int32)
    (agree : l.Agree (runSteps own s steps) (runSteps own t others)) :
    l.Returns (State.scripted ending (runSteps own s steps)) (State.scripted ending (runSteps own t others)) := by
  obtain ⟨_,_,_,ran,ran',after⟩ := agree.split
  rw [ran,ran']
  cases ending <;> exact ⟨rfl,rfl,after⟩

theorem inTurn_returns {s t : State} {native other : Handle → State → NativeRun α}
    (returns : l.Returns (native h { s with turn := some turnLength }) (other h { t with turn := some turnLength })) :
    l.Returns (State.inTurn native h s) (State.inTurn other h t) := by
  obtain ⟨ended,told,after⟩ := returns
  exact ⟨ended,told,State.blindly (f := fun s => { s with turn := none }) (fun _ _ => rfl) after⟩

-- Other steps stand in for those of a script that runs.
def ActorRoute.Reroutes (l : ActorRoute) (steps : List Step) : Prop :=
  ∀ (own : Handle) (s t : State), l.Beside s t → ¬ (runSteps own s steps).2.halted l.actor →
    ∃ others, Rerouted l.actor steps others ∧
      (s.attendance = .prompt → others = steps) ∧ l.Agree (runSteps own s steps) (runSteps own t others)

-- The script of a native call runs once, if its operation is registered: steps that
-- stand in for it can be chosen when that is known.
theorem ActorRoute.Reroutes.inside {s t : State} {during : List Step} (reroutes : l.Reroutes during) (beside : l.Beside s t)
    (b : Nat) {f : State → State} (same : ∀ s ρ, f (s.withRouting ρ) = (f s).withRouting ρ) :
    ∃ others, Rerouted l.actor during others ∧
      (s.attendance = .prompt → others = during) ∧
      ∀ bridge op u v, s.register b = (.ok (bridge,op),u) → t.register b = (.ok (bridge,op),v) →
        ¬ (runSteps op.handle (f u) during).2.halted l.actor →
          l.Agree (runSteps op.handle (f u) during) (runSteps op.handle (f v) others) := by
  obtain ⟨registered,u,v,ran,ran',after⟩ :=
    (State.blind (f := (·.register b)) (State.register_withRouting · · b) beside).split
  by_cases inside : ∃ bridge op, registered = .ok (bridge,op) ∧ ¬ (runSteps op.handle (f u) during).2.halted l.actor
  · obtain ⟨bridge,op,rfl,running⟩ := inside
    obtain ⟨others,rerouted,prompt,agree⟩ := reroutes op.handle _ _ (State.blindly same after) running
    refine ⟨others,rerouted,fun always => prompt ?_,?_⟩
    · have routing := State.register_routing s b
      rw [ran] at routing
      exact (congrArg Routing.attendance ((State.routing_kept (same u)).trans routing)).trans always
    · intro bridge' op' u' v' here there _
      cases ran.symm.trans here
      cases ran'.symm.trans there
      exact agree
  · refine ⟨during,Rerouted.refl during,fun _ => rfl,?_⟩
    intro bridge op u' v' here there running
    cases ran.symm.trans here
    exact absurd ⟨bridge,op,rfl,running⟩ inside

theorem Step.submit_rerouted {s t : State} {during : List Step} (reroutes : l.Reroutes during) (own : Handle)
    (beside : l.Beside s t) (alive : ¬ (Step.run own s (.submit b decoder ending during)).2.halted l.actor) :
    ∃ other, Step.Rerouted l.actor (.submit b decoder ending during) other ∧
      (s.attendance = .prompt → other = .submit b decoder ending during) ∧
      l.Agree (Step.run own s (.submit b decoder ending during)) (other.run own t) := by
  have held : l.Beside (s.hold b) (t.hold b) := State.blindly (f := (·.hold b)) (fun _ _ => rfl) beside
  obtain ⟨others,rerouted,prompt,follows⟩ := reroutes.inside held b (f := id) fun _ _ => rfl
  refine ⟨_,.submit rerouted,fun always => by rw [prompt always],?_⟩
  simp only [Step.run] at alive ⊢
  refine State.submitScript_beside beside (fun bridge op u v here there _ running => ?_) alive
  rw [State.scripted_state] at running
  exact scripted_returns ending (follows bridge op u v here there running)

theorem Step.call_rerouted {s t : State} {during : List Step} (reroutes : l.Reroutes during) (own : Handle)
    (beside : l.Beside s t) (alive : ¬ (Step.run own s (.call b decoder ending during)).2.halted l.actor) :
    ∃ other, Step.Rerouted l.actor (.call b decoder ending during) other ∧
      (s.attendance = .prompt → other = .call b decoder ending during) ∧
      l.Agree (Step.run own s (.call b decoder ending during)) (other.run own t) := by
  have held : l.Beside (s.hold b) (t.hold b) := State.blindly (f := (·.hold b)) (fun _ _ => rfl) beside
  obtain ⟨others,rerouted,prompt,follows⟩ :=
    reroutes.inside held b (f := fun s => { s with turn := some turnLength }) fun _ _ => rfl
  refine ⟨_,.call rerouted,fun always => by rw [prompt always],?_⟩
  simp only [Step.run] at alive ⊢
  refine State.callScript_beside beside (fun bridge op u v here there _ running => ?_) alive
  have inside : ¬ (State.scripted ending (runSteps op.handle { u with turn := some turnLength } during)).state.halted
      l.actor := running
  rw [State.scripted_state] at inside
  exact inTurn_returns (scripted_returns ending (follows bridge op u v here there inside))

mutual

-- As long as the actor runs, every step answers the same on both sides, and they stay
-- side by side.
theorem Step.run_rerouted {s t : State} (step : Step) (own : Handle) (beside : l.Beside s t)
    (alive : ¬ (step.run own s).2.halted l.actor) :
    ∃ other, Step.Rerouted l.actor step other ∧
      (s.attendance = .prompt → other = step) ∧ l.Agree (step.run own s) (other.run own t) := by
  cases step with
  | act a =>
    simp only [Step.run] at alive ⊢
    have answered : Moves true ⟨(a.run own s).2,[]⟩ _ := (State.answer_motions _ (a.run own s).1 none).all
    obtain ⟨other,rerouted,prompt,agree⟩ := a.run_rerouted beside own (answered.alive alive)
    refine ⟨_,rerouted,fun always => congrArg Step.act (prompt always),?_⟩
    obtain ⟨result,_,_,ran,ran',after⟩ := agree.split
    simp only [Step.run,ran,ran']
    exact State.blind (f := (·.answer result none)) (State.answer_withRouting · · _ _) after
  | submit b decoder ending during => exact Step.submit_rerouted (runSteps_rerouted during) own beside alive
  | call b decoder ending during => exact Step.call_rerouted (runSteps_rerouted during) own beside alive

theorem runSteps_rerouted (steps : List Step) : l.Reroutes steps := by
  intro own s t beside alive
  cases steps with
  | nil =>
    refine ⟨[],.nil,fun _ => rfl,?_⟩
    simp only [runSteps]
    exact ⟨rfl,beside⟩
  | cons step rest =>
    simp only [runSteps] at alive ⊢
    have others : Moves true ⟨(step.run own s).2,[]⟩ _ :=
      runSteps_moves rest own (step.run own s).2 [] (driven_true rest)
    have first : Moves true ⟨s,[]⟩ _ := (Step.run_motions step own s [] (Step.every_of_all step fun step => step.within_free fun _ => rfl)).all
    obtain ⟨other,rerouted,prompt,agree⟩ := Step.run_rerouted step own beside (others.alive alive)
    obtain ⟨answer,u,v,ran,ran',after⟩ := agree.split
    rw [ran] at alive first ⊢
    obtain ⟨others,rerouted',prompt',agree'⟩ := runSteps_rerouted rest own u v after alive
    have attendance : u.attendance = s.attendance := first.attendance
    refine ⟨other :: others,.cons rerouted rerouted',fun always => ?_,?_⟩
    · rw [prompt always,prompt' (attendance.trans always)]
    · obtain ⟨answers,_,_,ran,ran'',past⟩ := agree'.split
      simp only [runSteps,ran',ran,ran'']
      exact ⟨rfl,past⟩

end

theorem State.bindActor_some {s t : State} (bound : s.bindActor b = (some a,t)) :
    s.binding = none ∧ a = s.actors.size ∧
      t = { (s.spawnActor b).2 with binding := some ⟨.actor s.actors.size,(s.bridge? b).bind (·.hook)⟩ } := by
  have same : (s.spawnActor b).2.binding = s.binding := rfl
  cases free : s.binding with
  | some binding =>
    simp only [bindActor,install,same,free] at bound
    cases bound
  | none =>
    simp only [bindActor,install,same,free] at bound
    cases bound
    exact ⟨rfl,rfl,rfl⟩

-- A session binds the callbacks to a new actor, or it starts the actor and binds them
-- directly: side by side from there.
theorem State.bindActor_beside {s t u : State} (none : s.binding = none → s.transit = [])
    (bound : s.bindActor b = (some a,t)) (direct : (s.spawnActor b).2.bindDirect b = some u) :
    ActorRoute.Beside ⟨a,b,(s.bridge? b).bind (·.hook)⟩ t u := by
  obtain ⟨free,rfl,rfl⟩ := bindActor_some bound
  have same : (s.spawnActor b).2.binding = .none := free
  have known : (s.spawnActor b).2.bridge? b = s.bridge? b := rfl
  simp only [bindDirect,install,same,known,Option.some.injEq] at direct
  have row : (s.spawnActor b).2.actors.get? s.actors.size = some ⟨b,[],true,[],[]⟩ :=
    Table.get?_push_new _ _
  refine ⟨[],u.routing,⟨rfl,?_,⟨[],[],row⟩,⟨[],[],?_⟩,?_,?_⟩,fun _ => rfl,?_⟩
  all_goals subst direct
  · rfl
  · exact (Table.set_same row).symm
  · exact none free
  · rfl
  · rfl

-- The detour through an actor that runs shows nowhere. Its session gives the answers, and
-- comes to the state, of a session whose callbacks wait on their threads, with what they
-- brought, and land when the actor handles them. What is not handled yet still waits in
-- the mailbox there and on the threads here; a prompt actor leaves nothing waiting, and
-- the sessions take the same steps. The mailbox loses nothing, repeats nothing and keeps
-- the order, and counters that are asked for count every delivery that came before.
theorem actor_refines_direct {s t u : State} (path : Visited attendance firsts plans before s)
    (bound : s.bindActor b = (some a,t)) (direct : (s.spawnActor b).2.bindDirect b = some u) (own : Handle)
    (steps : List Step) (running : ¬ (runSteps own t steps).2.halted a) :
    (∃ others ρ parcels, Rerouted a steps others ∧ (attendance = .prompt → others = steps ∧ parcels = []) ∧
      runSteps own u others = ((runSteps own t steps).1,(runSteps own t steps).2.withRouting ρ) ∧
      (runSteps own t steps).2.mailbox a = parcels.map QueuedItem.message ∧
      ρ.transit = parcels.filterMap QueuedItem.callback?) ∧
    (∀ (v : State) x hook actor errors (cb : Callback), v.binding = some ⟨.actor x,hook⟩ → v.actor? x = some actor →
      actor.running → (v.callBack errors cb).sent x = some (.deliver ⟨cb.handle,cb.code,cb.arguments.payload,
        (v.callbackDetails hook cb.code errors).1⟩ :: actor.accepted)) ∧
    ∀ v hands x actor, Moves true ⟨.start attendance firsts plans,[]⟩ ⟨v,hands⟩ → v.actor? x = some actor →
      actor.running → actor.accepted.reverse = actor.handled.reverse ++ actor.mailbox ∧
      ∀ awaited rest, actor.mailbox = .report awaited :: rest →
        actor.accepted = rest.reverse ++ .report awaited :: actor.handled ∧
        (v.attend x).1 = (if awaited then some (v.statsOf actor.bridge) else none) ∧
        actor.handled.countP Message.isDelivery ≤ (v.statsOf actor.bridge).resolved +
          (v.statsOf actor.bridge).orphaned + (v.statsOf actor.bridge).callerGone := by
  refine ⟨?_,fun v x hook actor errors cb routed present running => State.sent_callBack routed present running errors cb,?_⟩
  · obtain ⟨hands,before⟩ := path.moves (driven_true _)
    have chosen : s.attendance = attendance := before.attendance.trans (congrArg Routing.attendance (State.start_routing _ _ _))
    have attendance : t.attendance = s.attendance := by
      obtain ⟨_,_,rfl⟩ := State.bindActor_some bound
      rfl
    have beside := State.bindActor_beside (before.unbound fun _ => congrArg Routing.transit (State.start_routing _ _ _)) bound direct
    obtain ⟨others,rerouted,prompt,same,parcels,ρ,carries,quiet,after⟩ := runSteps_rerouted steps own t u beside running
    have moves : Moves true ⟨t,[]⟩ _ := runSteps_moves steps own t [] (driven_true steps)
    have still := moves.attendance.trans (attendance.trans chosen)
    obtain ⟨_,_,present⟩ := carries.present
    have row : (runSteps own t steps).2.actor? a = _ := present
    refine ⟨others,ρ,parcels,rerouted,fun always => ⟨prompt ?_,quiet (still.trans always)⟩,Prod.ext same after,?_,
      carries.transit⟩
    · exact (attendance.trans chosen).trans always
    · rw [State.mailbox,row]
  · intro v hands x actor moves present running
    have mailboxKept := moves.mailboxesKept (State.start_mailboxesKept attendance firsts plans) x actor present
    have conserved := mailboxKept.conserved running
    have blank := State.start_blank attendance firsts plans
    have balanced : (v.books hands).Balanced := moves.changes.balanced blank.sound blank.balanced
    refine ⟨?_,?_⟩
    · rw [conserved,List.reverse_append,List.reverse_reverse]
    · intro awaited rest first
      refine ⟨?_,?_,?_⟩
      · rw [conserved,first,List.reverse_cons,List.append_assoc]
        rfl
      · obtain ⟨bridge,mailbox,_,accepted,handled⟩ := actor
        cases first
        cases running
        exact State.attend_report present
      · rw [balanced.dispatches]
        exact mailboxKept.dispatched

-- A call is called back inside of itself, the counters are asked for, and the actor comes to
-- both messages before the result is looked for.
def detour : List Step :=
  [.submit 0 .int (.ok 0) [.act (.callback .own 0 (.int 7))],.act (.actorStats 0),.act (.attend 0),.act (.attend 0),
    .act (.poll 0 .quiet)]

theorem detour_refined :
    ∃ s t u others, Visited .onDemand [] [⟨.standard,none,none⟩] [] s ∧ s.bindActor 0 = (some 0,t) ∧
      (s.spawnActor 0).2.bindDirect 0 = some u ∧ Rerouted 0 detour others ∧
      (runSteps ⟨0⟩ u others).1 = (runSteps ⟨0⟩ t detour).1 ∧ (runSteps ⟨0⟩ u others).2.statsOf 0 = ⟨1,0,0⟩ := by
  have path : Visited .onDemand [] [⟨.standard,none,none⟩] [] _ := .here
  have bound : ((State.start .onDemand [] [⟨.standard,none,none⟩]).bindActor 0).1 = some 0 := by decide +kernel
  have direct : (((State.start .onDemand [] [⟨.standard,none,none⟩]).spawnActor 0).2.bindDirect 0).isSome := by decide +kernel
  have running : ((runSteps ⟨0⟩ ((State.start .onDemand [] [⟨.standard,none,none⟩]).bindActor 0).2 detour).2.actor? 0).map
      Actor.running = some true := by decide +kernel
  have counted : (runSteps ⟨0⟩ ((State.start .onDemand [] [⟨.standard,none,none⟩]).bindActor 0).2 detour).2.statsOf 0 =
      ⟨1,0,0⟩ := by decide +kernel
  generalize State.start .onDemand [] [⟨.standard,none,none⟩] = s at path bound direct running counted
  generalize after : s.bindActor 0 = x at bound running counted
  obtain ⟨_,t⟩ := x
  cases bound
  obtain ⟨u,direct⟩ := Option.isSome_iff_exists.mp direct
  have alive : ¬ (runSteps ⟨0⟩ t detour).2.halted 0 := by
    rintro ⟨actor,present,past⟩
    rw [present,Option.map_some,past] at running
    cases running
  obtain ⟨⟨others,ρ,_,rerouted,_,same,_⟩,_⟩ := actor_refines_direct path after direct ⟨0⟩ detour alive
  refine ⟨s,t,u,others,path,after,direct,rerouted,?_⟩
  simp only [same,State.statsOf_withRouting,counted,and_self]

end PendingCalls.Session
