import PendingCalls.Proofs.Routes

-- Only an attempt to bind changes the binding, and a callback that waits on its native
-- thread waits until it is the one that is told to go on.

namespace PendingCalls.Session

namespace State

variable {s t u : State}

-- The binding is the same, and what waits in transit still does, in front of whatever
-- has come since.
structure TransitExtends (s t : State) : Prop where
  binding : t.binding = s.binding
  transit : s.transit <+: t.transit

namespace TransitExtends

theorem routing (same : t.routing = s.routing) : s.TransitExtends t where
  binding := congrArg Routing.binding same
  transit := by
    have still : t.transit = s.transit := congrArg Routing.transit same
    exact still ▸ List.prefix_refl _

theorem refl (s : State) : s.TransitExtends s := routing rfl

theorem trans (first : s.TransitExtends t) (second : t.TransitExtends u) : s.TransitExtends u :=
  ⟨second.binding.trans first.binding,first.transit.trans second.transit⟩

theorem changeActor (s : State) (a : Nat) (f : Actor → Actor) : s.TransitExtends (s.changeActor a f) :=
  ⟨rfl,List.prefix_refl _⟩

theorem release (s : State) (r : Nat) : s.TransitExtends (s.release r).2 := routing (release_routing s r)

theorem dispatch (s : State) (b : Nat) (d : Delivery) : s.TransitExtends (s.dispatch b d).2 := routing (dispatch_routing s b d)

theorem service : ComposableActor TransitExtends where
  refl := refl
  trans := trans
  release := release
  dispatch := dispatch
  stopped s a := changeActor s a _
  next s a _ _ _ := changeActor s a _
  requesterGone _ := routing rfl

theorem stopActor (s : State) (a : Nat) : s.TransitExtends (s.stopActor a).2 := service.stopActor s a

theorem attend (s : State) (a : Nat) : s.TransitExtends (s.attend a).2 := service.attend s a

theorem post (s : State) (a : Nat) (m : Message) : s.TransitExtends (s.post a m).2 :=
  service.post attend fun _ _ => changeActor s a _

theorem deliver (s : State) (route : Route) (d : Delivery) : s.TransitExtends (s.deliver route d) :=
  service.deliver (dispatch s · d) ⟨rfl,List.prefix_append _ _⟩ (post s · _) (fun _ => routing rfl) route

theorem callbackDetails (s : State) (hook : Option Hook) (code : Int32) (errors : ThreadErrors) :
    s.TransitExtends (s.callbackDetails hook code errors).2 := routing (callbackDetails_routing _ _ _ _)

theorem callBack (s : State) (errors : ThreadErrors) (cb : Callback) : s.TransitExtends (s.callBack errors cb) := by
  unfold State.callBack
  split
  · exact routing rfl
  · exact (callbackDetails _ _ _ _).trans (deliver _ _ _)

theorem enterLibrary (s : State) (h : Handle) (call : NativeCall) : s.TransitExtends (s.enterLibrary h call).2 :=
  service.enterLibrary (fun _ _ => routing rfl) callBack s h call

theorem complete (s : State) (job : Job) : s.TransitExtends (s.complete job) := service.complete (fun _ _ => routing rfl) callBack s job

theorem completeAll (s : State) : s.TransitExtends s.completeAll := service.completeAll (fun _ _ => routing rfl) callBack s

theorem register (s : State) (b : Nat) : s.TransitExtends (s.register b).2 := routing (register_routing s b)

theorem settle (s : State) (bridge : Bridge) (op : Operation) (decoder : Decoder) (ending : Except Panic Int32) :
    s.TransitExtends (s.settle bridge op decoder ending).2 := routing (settle_routing s bridge op decoder ending)

theorem keep (s : State) (b : Nat) (outcome : Except Panic Promise) : s.TransitExtends (s.keep b outcome).2 := by
  cases outcome <;> exact routing rfl

theorem dropBridge (s : State) (b : Nat) : s.TransitExtends (s.dropBridge b).2 := service.dropBridge release (routing rfl)

theorem finish (s : State) (b : Nat) (r : Result) : s.TransitExtends (s.finish b r).2 := service.finish release (routing rfl) r

theorem endCall (s : State) (b : Nat) (r : Result) (extra : Option (List Answer)) : s.TransitExtends (s.endCall b r extra).2 :=
  (finish s b r).trans (routing rfl)

theorem submitted (b : Nat) (sub : Submission Unit) : sub.state.TransitExtends (submitted b sub).2 :=
  ((keep _ _ _).trans (completeAll _)).trans (finish _ _ _)

theorem awaitAtMost (s : State) (p : Promise) (limit : Option Duration) : s.TransitExtends (s.awaitAtMost p limit).2 :=
  routing (awaitAtMost_routing s p limit)

theorem hold (s : State) (b : Nat) : s.TransitExtends (s.hold b) := routing rfl

theorem calling : ComposableCall TransitExtends where
  toComposable := service.toComposable
  register := register
  enterLibrary := enterLibrary
  settle := settle
  completeAll := completeAll
  hold := hold
  finish := finish
  awaitAll ps s := routing (awaitAll_routing ps s)

theorem onBridge (s : State) (b : Nat) (f : Bridge → Result × State) (transitExtends : ∀ bridge, s.TransitExtends (f bridge).2) :
    s.TransitExtends (s.onBridge b f).2 := onBridge_kept (refl s) fun bridge _ => transitExtends bridge

theorem onSlot (s : State) (i : Nat) (f : Slot → Result × State) (transitExtends : ∀ x, s.TransitExtends (f x).2) :
    s.TransitExtends (s.onSlot i f).2 := onSlot_kept (refl s) fun x _ => transitExtends x

theorem onRuntime (s : State) (work : State → Result × State) (transitExtends : s.TransitExtends (work s).2) :
    s.TransitExtends (s.onRuntime work).2 := onRuntime_kept (refl s) transitExtends

end TransitExtends

end State

theorem State.bindActor_transit (s : State) (b : Nat) : (s.bindActor b).2.transit = s.transit := by
  have spawned : (s.spawnActor b).2.binding = s.binding := rfl
  unfold bindActor install
  simp only [spawned]
  cases s.binding <;> rfl

theorem State.land_cases (s : State) (k : Nat) : s.land k = s ∨
    ∃ b d, s.transit[k]? = some d ∧ s.land k = ({ s with transit := s.transit.eraseIdx k }.dispatch b d).2 := by
  unfold land
  split
  · rename_i there _
    exact .inr ⟨_,_,there,rfl⟩
  · exact .inl rfl

-- What changes the way of callbacks: the attempts to bind, and the landing of one that
-- waits.
def Action.changesRouting : Action → Bool
  | .bind _ | .bindActor _ | .land _ => true
  | _ => false

open State in
theorem Action.run_transitExtends (own : Handle) (s : State) {a : Action} (other : a.changesRouting = false) :
    s.TransitExtends (a.run own s).2 := by
  cases a with
  | bind | bindActor | land => cases other
  | dispatch b h o => exact .onBridge s b _ fun _ => .dispatch s b _
  | abandon b h => exact .onBridge s b _ fun _ => .routing (EntriesOnly.evict _ _ _ _).routing
  | allocate b => exact allocate_kept (.refl s) (fun bridge _ => .routing (EntriesOnly.draw s bridge.registry).routing) own
  | insert b h keep => exact .routing (EntriesOnly.insertFresh _ _ _ _).routing
  | receive i => exact .routing (EntriesOnly.receive _ _).routing
  | dropBridge b => exact dropBridge_kept (.refl s) (.dropBridge s b) own
  | poll i waker =>
    refine .onSlot s i _ fun x => ?_
    rw [pollSlot_state]
    exact .routing (poll_routing _ _ _)
  | wait i =>
    refine .onSlot s i _ fun x => ?_
    exact .routing (waitSlot_routing s i x)
  | withTimeout i after =>
    refine .onSlot s i _ fun x => ?_
    exact .routing (limitSlot_routing s i x after)
  | dropSlot i => exact .onSlot s i _ fun x => .routing (EntriesOnly.forget _ _).routing
  | spawnActor b => exact .onBridge s b _ fun _ => .onRuntime s _ ⟨rfl,List.prefix_refl _⟩
  | actorDeliver a h o => exact .post s a _
  | actorStats a => exact .onRuntime s _ (.post s a _)
  | actorStatsAbandoned a => exact .post s a _
  | actorStop a => exact actorStop_kept (.refl s) (.stopActor s a) own
  | attend a => exact .attend s a
  | callback h code arguments => exact .callBack s _ _
  | request b r =>
    refine .onBridge s b _ fun _ => ?_
    split
    · exact .refl s
    · rename_i ran
      exact ((TransitExtends.hold s b).trans (TransitExtends.calling.request ran)).trans (.submitted _ _)
  | native b call other decoder =>
    refine .onBridge s b _ fun _ => ?_
    exact ((TransitExtends.hold s b).trans (TransitExtends.calling.submitNative _ _ _ _ _)).trans (.submitted _ _)
  | stress b count => exact .onBridge s b _ fun _ => TransitExtends.calling.stress s b count
  | isPending b | stats b | config b => exact .onBridge s b _ fun _ => .refl s
  | handle i | isResolved i => exact .onSlot s i _ fun _ => .refl s
  | tell | isInstalled => exact .routing rfl

-- Those that have to do with the binding are the attempts alone.
def Action.binds : Action → Bool
  | .bind _ | .bindActor _ => true
  | _ => false

theorem Action.run_binding (own : Handle) (s : State) {a : Action} (other : a.binds = false) :
    (a.run own s).2.binding = s.binding := by
  by_cases straight : a.changesRouting = false
  · exact (a.run_transitExtends own s straight).binding
  · cases a with
    | bind | bindActor => cases other
    | land k =>
      rcases s.land_cases k with same | ⟨b,d,_,landed⟩
      · exact congrArg State.binding same
      · exact (congrArg State.binding landed).trans (State.TransitExtends.dispatch { s with transit := s.transit.eraseIdx k } b d).binding
    | _ => exact absurd rfl straight

-- The actions of a run, each with the state in which it begins.
inductive Does : Handle → State → List Step → State → Action → Prop where
  | here : Does own s (.act a :: rest) s a
  | later : Does own (step.run own s).2 rest v a → Does own s (step :: rest) v a
  | submitting (b bridge op decoder) (listed : (s.listed? b).isSome)
      (registered : (s.hold b).register b = (.ok (bridge,op),u)) :
      Does op.handle u during v a → Does own s (.submit b decoder ending during :: rest) v a
  | calling (b bridge op decoder) (listed : (s.listed? b).isSome) (free : s.driven = false)
      (registered : (s.hold b).register b = (.ok (bridge,op),u)) :
      Does op.handle { u with turn := some turnLength } during v a →
      Does own s (.call b decoder ending during :: rest) v a

theorem Does.first (does : Does own s [step] v a) : Does own s (step :: rest) v a := by
  cases does with
  | here => exact .here
  | later does => cases does
  | submitting b bridge op decoder listed registered does => exact .submitting b bridge op decoder listed registered does
  | calling b bridge op decoder listed free registered does =>
    exact .calling b bridge op decoder listed free registered does

theorem Does.visits (does : Does own s steps v a) : Visits own s steps v := by
  induction does with
  | here => exact .here
  | later _ ih => exact .later ih
  | submitting b bridge op decoder listed registered _ ih => exact .submitting b bridge op decoder listed registered ih
  | calling b bridge op decoder listed free registered _ ih =>
    exact .calling b bridge op decoder listed free registered ih

-- That a delivery was told to go on, by a step of the run that begins in a state where it
-- waits in that place.
def Lands (own : Handle) (s : State) (steps : List Step) (d : Delivery) : Prop :=
  ∃ v k, Does own s steps v (.land k) ∧ v.transit[k]? = some d

section

open State

theorem Action.run_transit (own : Handle) (s : State) (a : Action) (waits : d ∈ s.transit) :
    d ∈ (a.run own s).2.transit ∨ ∃ k, a = .land k ∧ s.transit[k]? = some d := by
  by_cases other : a.changesRouting = false
  · exact .inl ((a.run_transitExtends own s other).transit.subset waits)
  · cases a with
    | bind b =>
      refine .inl ?_
      cases listed : s.listed? b <;> cases bound : s.binding <;>
        simpa [Action.run,onBridge,listed,bindDirect,install,bound] using waits
    | bindActor b =>
      refine .inl ?_
      have same := bindActor_transit s b
      simp only [Action.run,onBridge,onRuntime]
      repeat' split
      all_goals first
        | exact waits
        | rename_i ran
          rw [ran] at same
          exact same ▸ waits
    | land k =>
      rcases land_cases s k with same | ⟨b,first,there,landed⟩
      · refine .inl ?_
        simp only [Action.run,same]
        exact waits
      · have erased : (s.land k).transit = s.transit.eraseIdx k := by
          rw [landed]
          exact congrArg Routing.transit (dispatch_routing _ _ _)
        obtain ⟨i,inside⟩ := List.mem_iff_getElem?.mp waits
        by_cases same : i = k
        · exact .inr ⟨k,rfl,same ▸ inside⟩
        · refine .inl ?_
          simp only [Action.run,erased]
          exact List.mem_eraseIdx_iff_getElem?.mpr ⟨i,same,inside⟩
    | _ => exact absurd rfl other

theorem submit_transit (native : Handle → State → NativeRun α) (landed : Handle → State → Prop)
    (runs : ∀ h u, d ∈ u.transit → d ∈ (native h u).state.transit ∨ landed h u) (s : State) (b : Nat) (decoder : Decoder)
    (waits : d ∈ s.transit) :
    d ∈ (s.submit b native decoder).state.transit ∨
      ∃ bridge op u, s.register b = (.ok (bridge,op),u) ∧ landed op.handle u := by
  have registering := TransitExtends.register s b
  unfold submit
  cases registered : s.register b with
  | mk outcome u =>
    rw [registered] at registering
    have here : d ∈ u.transit := registering.transit.subset waits
    cases outcome with
    | error p => exact .inl here
    | ok found =>
      obtain ⟨bridge,op⟩ := found
      rcases runs op.handle u here with still | landed
      · exact .inl ((TransitExtends.settle _ bridge op decoder _).transit.subset still)
      · exact .inr ⟨bridge,op,u,rfl,landed⟩

mutual

theorem Step.run_transit (own : Handle) (s : State) (step : Step) (waits : d ∈ s.transit) :
    d ∈ (step.run own s).2.transit ∨ Lands own s [step] d := by
  cases step with
  | act a =>
    simp only [Step.run]
    rcases a.run_transit own s waits with still | ⟨k,rfl,there⟩
    · exact .inl still
    · exact .inr ⟨s,k,.here,there⟩
  | submit b decoder ending during =>
    simp only [Step.run,submitScript]
    cases listed : s.listed? b with
    | none => exact .inl waits
    | some bridge =>
      have inside := submit_transit (fun h u => scripted ending (runSteps h u during))
        (fun h u => Lands h u during d)
        (fun h u here => by rw [scripted_state]; exact runSteps_transit h u during here) (s.hold b) b decoder waits
      rcases inside with still | ⟨bridge,op,u,registered,v,k,does,there⟩
      · exact .inl (((TransitExtends.keep _ b _).trans (.endCall _ b _ _)).transit.subset still)
      · exact .inr ⟨v,k,.submitting b bridge op decoder (by rw [listed]; rfl) registered does,there⟩
  | call b decoder ending during =>
    simp only [Step.run]
    cases listed : s.listed? b with
    | none =>
      rw [callScript_gone listed]
      exact .inl waits
    | some bridge =>
      cases driven : s.driven with
      | true =>
        rw [callScript_nested listed driven]
        exact .inl waits
      | false =>
        have inside := submit_transit (inTurn fun h u => scripted ending (runSteps h u during))
          (fun h u => Lands h { u with turn := some turnLength } during d)
          (fun h u here => by
            simp only [inTurn,scripted_state]
            exact runSteps_transit h { u with turn := some turnLength } during here) (s.hold b) b decoder waits
        rcases inside with still | ⟨bridge,op,u,registered,v,k,does,there⟩
        · refine .inl ?_
          cases outcome : ((s.hold b).submit b (inTurn fun h u => scripted ending (runSteps h u during)) decoder).outcome with
          | error p =>
            rw [callScript_panics listed driven rfl outcome]
            exact (TransitExtends.endCall _ b _ _).transit.subset still
          | ok p =>
            rw [callScript_waits listed driven rfl outcome]
            exact ((TransitExtends.awaitAtMost _ p _).trans (.endCall _ b _ _)).transit.subset still
        · exact .inr ⟨v,k,.calling b bridge op decoder (by rw [listed]; rfl) driven registered does,there⟩

theorem runSteps_transit (own : Handle) (s : State) (steps : List Step) (waits : d ∈ s.transit) :
    d ∈ (runSteps own s steps).2.transit ∨ Lands own s steps d := by
  cases steps with
  | nil =>
    simp only [runSteps]
    exact .inl waits
  | cons step rest =>
    simp only [runSteps]
    rcases Step.run_transit own s step waits with still | ⟨v,k,does,there⟩
    · rcases runSteps_transit own (step.run own s).2 rest still with last | ⟨v,k,does,there⟩
      · exact .inl last
      · exact .inr ⟨v,k,.later does,there⟩
    · exact .inr ⟨v,k,does.first,there⟩

end

end

end PendingCalls.Session
