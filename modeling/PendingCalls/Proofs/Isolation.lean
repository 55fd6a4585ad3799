import PendingCalls.Proofs.KeptRegistries

-- Registries are isolated from each other. A step that is addressed to one of them
-- reaches another only through a step inside that is addressed to the other, or through a
-- callback of the native library where callbacks go to the other.

namespace PendingCalls.Session

open Relation (ReflTransGen)

section

variable {R : State → State → Prop} {r b : Nat} {s : State} {hands : List Slot}

open State

-- A call that is submitted goes along a path, if its native side does and whatever keeps
-- the registry without looking at how callbacks travel is part of the path.
theorem submit_path (parts : ∀ {u v : State}, u.KeepsRegistry r v → v.routing = u.routing → R u v) (valid : BooksValid s hands)
    (away : s.registryOf b ≠ some r) (native : Handle → State → NativeRun α)
    (motions : ∀ h u hands, Motions .all ⟨u,hands⟩ ⟨(native h u).state,hands⟩)
    (runs : ∀ bridge op u, s.register b = (.ok (bridge,op),u) → ∀ others, BooksValid u others →
      ReflTransGen R u (native op.handle u).state) (decoder : Decoder) :
    ReflTransGen R s (s.submit b native decoder).state := by
  have registering := parts (KeepsRegistry.register valid away) (register_routing s b)
  unfold submit
  cases registered : s.register b with
  | mk outcome u =>
    rw [registered] at registering
    cases outcome with
    | error p => exact .single registering
    | ok found =>
      obtain ⟨bridge,op⟩ := found
      have other : bridge.registry ≠ r := by
        rintro rfl
        exact away (registryOf_bridge (registered_bridge registered))
      have entering : Motion .all ⟨s,hands⟩ ⟨u,⟨b,bridge.promise op decoder⟩ :: hands⟩ := .register registered decoder
      have ran := motions op.handle u (⟨b,bridge.promise op decoder⟩ :: hands)
      have before := entering.motions.keep_valid valid
      have after := ran.keep_valid before
      have home : (native op.handle u).state.registryOf b ≠ some r := by
        rw [ran.registryOf,entering.motions.registryOf]
        exact away
      have apart := after.apart (x := ⟨b,bridge.promise op decoder⟩) List.mem_cons_self home op.channel (some decoder) rfl
      have settled := parts (KeepsRegistry.settle after.sound.ledger other apart decoder (native op.handle u).ending)
        (settle_routing _ bridge op decoder _)
      exact ((ReflTransGen.single registering).trans (runs bridge op u registered _ before)).tail settled

end

namespace State

variable {r b : Nat} {s t : State} {hands : List Slot}

-- A part of a native library call. Either a registry is kept as it is, or a callback is made
-- while callbacks go to that registry; where they go never changes.
def LibraryEffect (r : Nat) (u v : State) : Prop :=
  v.destination = u.destination ∧ (u.KeepsRegistry r v ∨ u.destination = some r ∧ ∃ errors cb, u.callBack errors cb = v)

abbrev LibraryEffects (r : Nat) : State → State → Prop := ReflTransGen (LibraryEffect r)

theorem LibraryEffect.quiet (keepsRegistry : s.KeepsRegistry r t) (routing : t.routing = s.routing) : LibraryEffect r s t :=
  ⟨destination_routing routing keepsRegistry.registryOf,.inl keepsRegistry⟩

-- A call holds its bridge first, which touches no other registry.
theorem hold_apart (valid : BooksValid s hands) (away : s.registryOf b ≠ some r) (listed : s.listed? b = some bridge) :
    BooksValid (s.hold b) hands ∧ s.KeepsRegistry r (s.hold b) ∧ (s.hold b).registryOf b ≠ some r := by
  have holding : Motion .all ⟨s,hands⟩ ⟨s.hold b,hands⟩ := .hold listed
  refine ⟨holding.motions.keep_valid valid,.changeBridge away _ fun _ => rfl,?_⟩
  rw [holding.motions.registryOf]
  exact away

namespace LibraryEffects

theorem quiet (keepsRegistry : s.KeepsRegistry r t) (routing : t.routing = s.routing) :
    LibraryEffects r s t := .single (.quiet keepsRegistry routing)

theorem callBack (valid : BooksValid s hands) (errors : ThreadErrors) (cb : Callback) :
    LibraryEffects r s (s.callBack errors cb) := by
  refine .single ⟨callBack_destination s errors cb,?_⟩
  by_cases here : s.destination = some r
  · exact .inr ⟨here,errors,cb,rfl⟩
  · exact .inl (KeepsRegistry.callBack valid here errors cb)

theorem library (s : State) (library : Library) : LibraryEffects r s { s with library := library } :=
  quiet (.same rfl rfl rfl rfl rfl) rfl

theorem composable : Composable fun s t => BooksValid s hands → BooksValid t hands ∧ LibraryEffects r s t where
  refl _ valid := ⟨valid,.refl⟩
  trans first second valid := by
    obtain ⟨held,before⟩ := first valid
    obtain ⟨still,after⟩ := second held
    exact ⟨still,before.trans after⟩

theorem passed_library (s : State) (l : Library) :
    BooksValid s hands → BooksValid { s with library := l } hands ∧ LibraryEffects r s { s with library := l } :=
  fun valid => ⟨⟨valid.sound,valid.promisesEntered⟩,library s l⟩

theorem passed_callBack (s : State) (errors : ThreadErrors) (cb : Callback) :
    BooksValid s hands → BooksValid (s.callBack errors cb) hands ∧ LibraryEffects r s (s.callBack errors cb) := by
  intro valid
  have motions : Motions .all ⟨s,hands⟩ ⟨s.callBack errors cb,hands⟩ := callBack_motions s errors cb
  exact ⟨motions.keep_valid valid,callBack valid errors cb⟩

theorem enterLibrary (valid : BooksValid s hands) (h : Handle) (call : NativeCall) : LibraryEffects r s (s.enterLibrary h call).2 :=
  (composable.enterLibrary passed_library passed_callBack s h call valid).2

theorem completeAll (valid : BooksValid s hands) : LibraryEffects r s s.completeAll :=
  (composable.completeAll passed_library passed_callBack s valid).2

theorem submitNative (valid : BooksValid s hands) (away : s.registryOf b ≠ some r) (call : NativeCall) (other : Option Handle)
    (decoder : Decoder) : LibraryEffects r s (s.submitNative b call other decoder).state :=
  submit_path LibraryEffect.quiet valid away _ (fun _ _ _ => enterLibrary_motions _ _ _)
    (fun _ op _ _ _ valid => enterLibrary valid (other.getD op.handle) call) decoder

theorem request (valid : BooksValid s hands) (away : s.registryOf b ≠ some r) {request : Request}
    (accepted : s.request b request = .ok sub) :
    LibraryEffects r s sub.state := by
  unfold State.request at accepted
  split at accepted
  · cases accepted
  · cases accepted
    exact submitNative valid away _ _ _

theorem finish (valid : BooksValid s hands) (away : s.registryOf b ≠ some r) (result : Result) :
    LibraryEffects r s (s.finish b result).2 := by
  refine quiet (KeepsRegistry.finish valid.sound.ledger away result) ?_
  exact (Composable.same State.routing).finish release_routing rfl result

theorem submitted {sub : Submission Unit} (valid : BooksValid sub.state (given b sub.outcome ++ hands))
    (away : sub.state.registryOf b ≠ some r) : LibraryEffects r sub.state (State.submitted b sub).2 := by
  have keeping : Motions .all ⟨sub.state,given b sub.outcome ++ hands⟩ ⟨(sub.state.keep b sub.outcome).2,hands⟩ :=
    keep_motions _ _ _
  have kept := keeping.keep_valid valid
  have completing : Motions .all ⟨(sub.state.keep b sub.outcome).2,hands⟩ ⟨(sub.state.keep b sub.outcome).2.completeAll,hands⟩ :=
    completeAll_motions _
  have first : LibraryEffects r sub.state (sub.state.keep b sub.outcome).2 := by
    refine quiet (KeepsRegistry.keep away sub.outcome) ?_
    cases sub.outcome <;> rfl
  have home : (sub.state.keep b sub.outcome).2.completeAll.registryOf b ≠ some r := by
    rw [completing.registryOf,keeping.registryOf]
    exact away
  exact (first.trans (completeAll kept)).trans (finish (completing.keep_valid kept) home _)

theorem submitEchoes (count i : Nat) (collected : List Promise) (valid : BooksValid s (collected.map (Slot.mk b) ++ hands))
    (away : s.registryOf b ≠ some r) : LibraryEffects r s (submitEchoes b count i collected s).2 := by
  induction count generalizing i collected s with
  | zero => exact .refl
  | succ count ih =>
    simp only [State.submitEchoes]
    split
    · exact .refl
    · rename_i sub requested
      have submitting : Motions .all ⟨s,collected.map (Slot.mk b) ++ hands⟩
          ⟨sub.state,given b sub.outcome ++ (collected.map (Slot.mk b) ++ hands)⟩ := request_motions requested
      have first : LibraryEffects r s sub.state := request valid away requested
      split
      · exact first
      · rename_i p accepted
        rw [accepted] at submitting
        have completing : Motions .all ⟨sub.state,(p :: collected).map (Slot.mk b) ++ hands⟩
            ⟨sub.state.completeAll,(p :: collected).map (Slot.mk b) ++ hands⟩ := completeAll_motions _
        have held := submitting.keep_valid valid
        refine (first.trans (completeAll held)).trans (ih (i + 1) (p :: collected) (completing.keep_valid held) ?_)
        rw [completing.registryOf,submitting.registryOf]
        exact away

theorem stress (valid : BooksValid s hands) (listed : s.listed? b = some bridge) (away : s.registryOf b ≠ some r) (count : Nat) :
    LibraryEffects r s (s.stress b count).2 := by
  obtain ⟨held,spared,home⟩ := hold_apart valid away listed
  have first : LibraryEffects r s (s.hold b) := quiet spared rfl
  have echoed : LibraryEffects r s _ := first.trans (submitEchoes count 0 [] held home)
  have echoing : Motions .all ⟨s.hold b,hands⟩ _ := submitEchoes_motions b count 0 [] (s.hold b)
  unfold State.stress
  split
  · rename_i t ran
    rw [ran] at echoed echoing
    have after := echoing.keep_valid held
    have completing : Motions .all ⟨t,hands⟩ ⟨t.completeAll,hands⟩ := completeAll_motions t
    refine (echoed.trans (completeAll after)).trans (finish (completing.keep_valid after) ?_ _)
    rw [completing.registryOf,echoing.registryOf]
    exact home
  · rename_i promises t ran
    rw [ran] at echoed echoing
    have after := echoing.keep_valid held
    have awaiting : Motions .all ⟨t,promises.map (Slot.mk b) ++ hands⟩ ⟨(awaitAll promises t).2,hands⟩ := awaitAll_motions _ _ _
    have still : t.registryOf b ≠ some r := by
      rw [echoing.registryOf]
      exact home
    have spurned (p) (there : p ∈ promises) : t.ForeignPromise r p :=
      after.apart (x := ⟨b,p⟩) (List.mem_append_left _ (List.mem_append_left _ (List.mem_map_of_mem there))) still
    have awaited : LibraryEffects r t (awaitAll promises t).2 := quiet (KeepsRegistry.awaitAll promises spurned) (awaitAll_routing promises t)
    refine (echoed.trans awaited).trans (finish (awaiting.keep_valid after) ?_ _)
    rw [awaiting.registryOf]
    exact still

end LibraryEffects

-- The registry that the operation of a channel entered.
def entrance? (s : State) (c : Nat) : Option Nat :=
  s.journal.findSome? fun
    | .entered r op => if op.channel = c then some r else none
    | _ => none

theorem entrance_apart (ledger : (s.books hands).EntriesValid) (away : s.entrance? c ≠ some r) : s.ForeignChannel r c := by
  rintro op there rfl
  have found : (s.entrance? op.channel).isSome := by
    refine List.findSome?_isSome_iff.mpr ⟨_,there,?_⟩
    simp only [if_true,Option.isSome_some]
  obtain ⟨q,found⟩ := Option.isSome_iff_exists.mp found
  obtain ⟨e,entered,same⟩ := List.exists_of_findSome?_eq_some found
  cases e with
  | entered q' op' =>
    simp only at same
    split at same
    · rename_i shared
      cases same
      obtain ⟨rfl,_⟩ := ledger.same_channel (mem_entries.mpr there) (mem_entries.mpr entered) shared.symm
      exact away found
    · cases same
  | _ => cases same

end State

-- The registry that an action is addressed to, by the bridge, the result, the receiver or
-- the actor that it names. A callback goes where the trampolines are bound to.
def Action.address (s : State) : Action → Option Nat
  | .dispatch b .. | .abandon b _ | .isPending b _ | .stats b | .config b | .allocate b | .insert b .. | .dropBridge b
  | .spawnActor b | .bind b | .bindActor b | .request b _ | .native b .. | .stress b _ => s.registryOf b
  | .handle i | .isResolved i | .poll i _ | .wait i | .withTimeout i _ | .dropSlot i =>
      (s.slot? i).bind (fun x => s.registryOf x.bridge)
  | .receive i => (s.receivers.get? i).bind s.entrance?
  | .actorDeliver a .. | .actorStats a | .actorStatsAbandoned a | .actorStop a | .attend a => s.actorRegistry a
  | .callback .. | .land _ => s.destination
  | .tell _ | .isInstalled => none

def Step.address (s : State) : Step → Option Nat
  | .act a => a.address s
  | .submit b .. | .call b .. => s.registryOf b

-- Calls of the native library, which may call back before they are over.
def Action.callsLibrary : Action → Bool
  | .request .. | .native .. | .stress .. => true
  | _ => false

-- The steps of a run, also those inside of native calls, each with the handle that is its
-- own and the state in which it begins.
inductive Begins : Handle → State → List Step → Handle → State → Step → Prop where
  | here : Begins own s (step :: rest) own s step
  | later : Begins own (step.run own s).2 rest h u x → Begins own s (step :: rest) h u x
  | submitting (b bridge op decoder) (listed : (s.listed? b).isSome)
      (registered : (s.hold b).register b = (.ok (bridge,op),v)) :
      Begins op.handle v during h u x → Begins own s (.submit b decoder ending during :: rest) h u x
  | calling (b bridge op decoder) (listed : (s.listed? b).isSome) (free : s.driven = false)
      (registered : (s.hold b).register b = (.ok (bridge,op),v)) :
      Begins op.handle { v with turn := some turnLength } during h u x →
      Begins own s (.call b decoder ending during :: rest) h u x

theorem Begins.first (begins : Begins own s [step] h u x) : Begins own s (step :: rest) h u x := by
  cases begins with
  | here => exact .here
  | later begins => cases begins
  | submitting b bridge op decoder listed registered begins => exact .submitting b bridge op decoder listed registered begins
  | calling b bridge op decoder listed free registered begins =>
    exact .calling b bridge op decoder listed free registered begins

-- What steps do to a registry: those that are addressed to it, and the callbacks of the
-- native library that are made while one of its calls is under way and callbacks go to
-- the registry.
inductive ActsOn (own : Handle) (s : State) (steps : List Step) (r : Nat) (u v : State) : Prop where
  | step (begins : Begins own s steps h u x) (here : x.address u = some r) (ran : (x.run h u).2 = v)
  | callback (begins : Begins own s steps h w (.act a)) (library : a.callsLibrary) (here : w.destination = some r)
      (errors cb) (called : u.callBack errors cb = v)

theorem ActsOn.within (actsOn : ActsOn own s steps r u v)
    (inside : ∀ {h w x}, Begins own s steps h w x → Begins other t others h w x) : ActsOn other t others r u v := by
  cases actsOn with
  | step begins here ran => exact .step (inside begins) here ran
  | callback begins library here errors cb called => exact .callback (inside begins) library here errors cb called

-- The course of a run, as a registry sees it: it is kept as it is, or acted on.
abbrev RegistryRun (own : Handle) (s : State) (steps : List Step) (r : Nat) : State → State → Prop :=
  ReflTransGen fun u v => u.KeepsRegistry r v ∨ ActsOn own s steps r u v

theorem RegistryRun.within (registryRun : RegistryRun own s steps r u v)
    (inside : ∀ {h w x}, Begins own s steps h w x → Begins other t others h w x) : RegistryRun other t others r u v :=
  ReflTransGen.mono (fun _ _ part => part.imp_right fun actsOn => actsOn.within inside) _ _ registryRun

theorem RegistryRun.spared (registryRun : RegistryRun own s steps r u v) (alone : ∀ u v, ¬ ActsOn own s steps r u v) :
    u.KeepsRegistry r v := by
  induction registryRun with
  | refl => exact .refl r u
  | tail _ part ih => exact ih.trans (part.resolve_right (alone _ _))

theorem State.LibraryEffects.registryRun (libraryEffects : State.LibraryEffects r w v)
    (begins : Begins own s steps h w (.act a)) (library : a.callsLibrary) :
    RegistryRun own s steps r w v := by
  have along : v.destination = w.destination ∧ RegistryRun own s steps r w v := by
    induction libraryEffects with
    | refl => exact ⟨rfl,.refl⟩
    | tail _ libraryEffect ih =>
      obtain ⟨same,registryRun⟩ := ih
      obtain ⟨kept,part⟩ := libraryEffect
      refine ⟨kept.trans same,registryRun.tail (part.imp_right ?_)⟩
      rintro ⟨here,errors,cb,called⟩
      exact .callback begins library (same ▸ here) errors cb called
  exact along.2

section

open State

variable {s : State} {r : Nat} {hands : List Slot}

theorem onBridge_keepsRegistry (b : Nat) (f : Bridge → Result × State)
    (keepsRegistry : ∀ bridge, s.listed? b = some bridge → s.KeepsRegistry r (f bridge).2) : s.KeepsRegistry r (s.onBridge b f).2 :=
  onBridge_kept (.refl r s) keepsRegistry

theorem onSlot_keepsRegistry (valid : BooksValid s hands) (i : Nat) (f : Slot → Result × State)
    (away : ((s.slot? i).bind fun x => s.registryOf x.bridge) ≠ some r)
    (keepsRegistry : ∀ x, s.slot? i = some x → s.registryOf x.bridge ≠ some r → s.ForeignPromise r x.promise → s.KeepsRegistry r (f x).2) :
    s.KeepsRegistry r (s.onSlot i f).2 := by
  refine onSlot_kept (.refl r s) fun x there => ?_
  rw [there,Option.bind_some] at away
  exact keepsRegistry x there away (valid.apart (List.mem_append_right _ (Table.mem_full.mpr ⟨i,there⟩)) away)

theorem onRuntime_keepsRegistry (work : State → Result × State) (keepsRegistry : s.KeepsRegistry r (work s).2) :
    s.KeepsRegistry r (s.onRuntime work).2 :=
  onRuntime_kept (.refl r s) keepsRegistry

theorem Action.run_keepsRegistry (valid : BooksValid s hands) (own : Handle) {a : Action} (other : a.callsLibrary = false)
    (away : a.address s ≠ some r) : s.KeepsRegistry r (a.run own s).2 := by
  have ledger := valid.sound.ledger
  have elsewhere {b bridge} (away : s.registryOf b ≠ some r) (listed : s.listed? b = some bridge) : bridge.registry ≠ r := by
    rintro rfl
    exact away (registryOf_bridge (Option.filter_eq_some_iff.mp listed).1)
  have spawned (b : Nat) : s.KeepsRegistry r (s.spawnActor b).2 := .trans (.remark s (e := .actorStarted) rfl) (.same rfl rfl rfl rfl rfl)
  cases a with
  | request | native | stress => cases other
  | dispatch b h o => exact onBridge_keepsRegistry b _ fun _ _ => .dispatch ledger away _
  | abandon b h => exact onBridge_keepsRegistry b _ fun _ listed => .evict ledger (elsewhere away listed) _ _
  | isPending b | stats b | config b => exact onBridge_keepsRegistry b _ fun _ _ => .refl r s
  | allocate b => exact allocate_kept (.refl r s) (fun _ listed => .draw s (elsewhere away listed)) own
  | insert b h keep => exact .insertFresh valid away _ keep
  | receive i =>
    simp only [Action.run,State.receive]
    split
    · exact .refl r s
    · rename_i c channel found
      obtain ⟨c',there,row⟩ := Option.bind_eq_some_iff.mp found
      obtain ⟨_,_,same⟩ := Option.map_eq_some_iff.mp row
      cases same
      simp only [Action.address,there,Option.bind_some] at away
      exact .putChannel (entrance_apart ledger away) _
  | dropBridge b => exact dropBridge_kept (.refl r s) (.dropBridge ledger away) own
  | tell | isInstalled => exact .same rfl rfl rfl rfl rfl
  | handle i | isResolved i => exact onSlot_keepsRegistry valid i _ away fun _ _ _ _ => .refl r s
  | poll i waker => exact onSlot_keepsRegistry valid i _ away fun _ there home foreign => .pollSlot there home foreign waker
  | wait i => exact onSlot_keepsRegistry valid i _ away fun _ there home foreign => .waitSlot there home foreign
  | withTimeout i after => exact onSlot_keepsRegistry valid i _ away fun _ there home foreign => .limitSlot there home foreign after
  | dropSlot i =>
    refine onSlot_keepsRegistry valid i _ away fun x there home foreign => ?_
    have taken : s.KeepsRegistry r (s.clearSlot i) := .clearSlot there home
    exact taken.trans (.forget (taken.foreign foreign))
  | spawnActor b => exact onBridge_keepsRegistry b _ fun _ _ => onRuntime_keepsRegistry _ (spawned b)
  | actorDeliver a h o => exact .post valid away _
  | actorStats a => exact onRuntime_keepsRegistry _ (.post valid away _)
  | actorStatsAbandoned a => exact .post valid away _
  | actorStop a => exact actorStop_kept (.refl r s) (.stopActor valid away) own
  | attend a => exact .attend valid away
  | bind b =>
    refine onBridge_keepsRegistry b _ fun _ _ => ?_
    simp only [bindDirect,install]
    cases s.binding <;> exact .same rfl rfl rfl rfl rfl
  | bindActor b =>
    refine onBridge_keepsRegistry b _ fun _ _ => onRuntime_keepsRegistry _ ?_
    simp only [State.bindActor,install]
    cases (s.spawnActor b).2.binding with
    | some _ => exact .remark s rfl
    | none => exact (spawned b).trans (.same rfl rfl rfl rfl rfl)
  | callback h code arguments => exact .callBack valid away _ _
  | land k =>
    simp only [Action.run,State.land]
    split
    · rename_i d b hook _ bound
      have home : s.registryOf b ≠ some r := by simpa only [Action.address,destination,bound] using away
      have taken : s.KeepsRegistry r { s with transit := s.transit.eraseIdx k } := .same rfl rfl rfl rfl rfl
      have after : BooksValid { s with transit := s.transit.eraseIdx k } hands := ⟨valid.sound,valid.promisesEntered⟩
      exact taken.trans (.dispatch after.sound.ledger home d)
    · exact .refl r s

theorem Action.run_libraryEffects (valid : BooksValid s hands) (own : Handle) {a : Action} (library : a.callsLibrary)
    (away : a.address s ≠ some r) : LibraryEffects r s (a.run own s).2 := by
  cases a with
  | request b request =>
    simp only [Action.run,onBridge]
    split
    · rename_i listed
      obtain ⟨after,spared,home⟩ := hold_apart valid away listed
      have first : LibraryEffects r s (s.hold b) := LibraryEffects.quiet spared rfl
      split
      · exact .refl
      · rename_i sub requested
        have submitting : Motions .all ⟨s.hold b,hands⟩ ⟨sub.state,given b sub.outcome ++ hands⟩ := request_motions requested
        refine (first.trans (LibraryEffects.request after home requested)).trans (LibraryEffects.submitted (submitting.keep_valid after) ?_)
        rw [submitting.registryOf]
        exact home
    · exact .refl
  | native b call command decoder =>
    simp only [Action.run,onBridge]
    split
    · rename_i listed
      obtain ⟨after,spared,home⟩ := hold_apart valid away listed
      have first : LibraryEffects r s (s.hold b) := LibraryEffects.quiet spared rfl
      have submitting : Motions .all ⟨s.hold b,hands⟩ _ := submitNative_motions (s.hold b) b call (command.map (·.resolve own)) decoder
      refine (first.trans (LibraryEffects.submitNative after home _ _ _)).trans (LibraryEffects.submitted (submitting.keep_valid after) ?_)
      rw [submitting.registryOf]
      exact home
    · exact .refl
  | stress b count =>
    simp only [Action.run,onBridge]
    split
    · rename_i listed
      exact LibraryEffects.stress valid listed away count
    · exact .refl
  | _ => cases library

theorem Action.run_registryRun (valid : BooksValid s hands) (own : Handle) (a : Action) (away : a.address s ≠ some r) :
    RegistryRun own s [.act a] r s (a.run own s).2 := by
  cases library : a.callsLibrary with
  | false => exact .single (.inl (a.run_keepsRegistry valid own library away))
  | true => exact (a.run_libraryEffects valid own library away).registryRun .here library

theorem Step.within_all (step : Step) : step.Every fun step => step.within .all :=
  Step.every_of_all step fun step => step.within_free fun _ => rfl

theorem answer_keepsRegistry (s : State) (result : Result) (during : Option (List Answer)) :
    s.KeepsRegistry r (s.answer result during).2 :=
  .same rfl rfl rfl rfl rfl

theorem endCall_keepsRegistry (ledger : (s.books hands).EntriesValid) (away : s.registryOf b ≠ some r) (result : Result)
    (extra : Option (List Answer)) : s.KeepsRegistry r (s.endCall b result extra).2 :=
  (KeepsRegistry.finish ledger away result).trans (answer_keepsRegistry _ _ _)

variable {R : State → State → Prop}

-- The bridge is held and the call submitted, as both entries begin.
theorem entry_path (keepsRegistry : ∀ {u v : State}, u.KeepsRegistry r v → R u v) (valid : BooksValid s hands)
    (away : s.registryOf b ≠ some r) (listed : s.listed? b = some bridge) (native : Handle → State → NativeRun (List Answer))
    (motions : ∀ h u hands, Motions .all ⟨u,hands⟩ ⟨(native h u).state,hands⟩)
    (runs : ∀ bridge op u, (s.hold b).register b = (.ok (bridge,op),u) →
      ∀ others, BooksValid u others → ReflTransGen R u (native op.handle u).state)
    (submitted : (s.hold b).submit b native decoder = sub) :
    ReflTransGen R s sub.state ∧ BooksValid sub.state (given b sub.outcome ++ hands) ∧ sub.state.registryOf b ≠ some r := by
  obtain ⟨held,spared,home⟩ := hold_apart valid away listed
  have submitting : Motions .all ⟨s.hold b,hands⟩ _ := submit_motions native motions (s.hold b) b decoder
  have path := submit_path (fun part _ => keepsRegistry part) held home native motions runs decoder
  subst submitted
  refine ⟨path.head (keepsRegistry spared),submitting.keep_valid held,?_⟩
  rw [submitting.registryOf]
  exact home

theorem submitScript_path (keepsRegistry : ∀ {u v : State}, u.KeepsRegistry r v → R u v) (valid : BooksValid s hands)
    (away : s.registryOf b ≠ some r) (native : Handle → State → NativeRun (List Answer))
    (motions : ∀ h u hands, Motions .all ⟨u,hands⟩ ⟨(native h u).state,hands⟩)
    (runs : ∀ bridge op u, (s.listed? b).isSome → (s.hold b).register b = (.ok (bridge,op),u) →
      ∀ others, BooksValid u others → ReflTransGen R u (native op.handle u).state) (decoder : Decoder) :
    ReflTransGen R s (s.submitScript b native decoder).2 := by
  unfold submitScript
  cases listed : s.listed? b with
  | none => exact .single (keepsRegistry (answer_keepsRegistry _ _ _))
  | some bridge =>
    dsimp only
    generalize submitted : (s.hold b).submit b native decoder = sub
    obtain ⟨path,after,still⟩ := entry_path keepsRegistry valid away listed native motions
      (fun bridge op u registered => runs bridge op u (by rw [listed]; rfl) registered) submitted
    have kept := KeepsRegistry.keep still sub.outcome
    have keeping : Motions .all ⟨sub.state,_⟩ ⟨(sub.state.keep b sub.outcome).2,hands⟩ := keep_motions sub.state b sub.outcome
    have ledger := (keeping.keep_valid after).sound.ledger
    exact (path.tail (keepsRegistry kept)).tail (keepsRegistry (endCall_keepsRegistry ledger (kept.away still) _ _))

theorem callScript_path (keepsRegistry : ∀ {u v : State}, u.KeepsRegistry r v → R u v) (valid : BooksValid s hands)
    (away : s.registryOf b ≠ some r) (native : Handle → State → NativeRun (List Answer))
    (motions : ∀ h u hands, Motions .all ⟨u,hands⟩ ⟨(native h u).state,hands⟩)
    (runs : ∀ bridge op u, (s.listed? b).isSome → s.driven = false → (s.hold b).register b = (.ok (bridge,op),u) →
      ∀ others, BooksValid { u with turn := some turnLength } others →
        ReflTransGen R { u with turn := some turnLength } (native op.handle { u with turn := some turnLength }).state)
    (decoder : Decoder) : ReflTransGen R s (s.callScript b native decoder).2 := by
  have turned (u : State) (turn : Option Nat) : R u { u with turn := turn } := keepsRegistry (.same rfl rfl rfl rfl rfl)
  cases listed : s.listed? b with
  | none =>
    rw [callScript_gone listed]
    exact .single (keepsRegistry (answer_keepsRegistry _ _ _))
  | some bridge =>
    cases free : s.driven with
    | true =>
      rw [callScript_nested listed free]
      exact .single (keepsRegistry (answer_keepsRegistry _ _ _))
    | false =>
      generalize submitted : (s.hold b).submit b (inTurn native) decoder = sub
      obtain ⟨registryRun,after,still⟩ := entry_path keepsRegistry valid away listed (inTurn native) (inTurn_motions rfl native motions)
        (fun bridge op u registered others valid =>
          ((runs bridge op u (by rw [listed]; rfl) free registered others ⟨valid.sound,valid.promisesEntered⟩).head (turned u _)).tail
            (turned _ none)) submitted
      cases outcome : sub.outcome with
      | error p =>
        rw [callScript_panics listed free submitted outcome]
        exact registryRun.tail (keepsRegistry (endCall_keepsRegistry after.sound.ledger still _ _))
      | ok p =>
        rw [outcome] at after
        have awaiting : Motions .all ⟨sub.state,_⟩ ⟨_,hands⟩ :=
          awaitAtMost_motions sub.state b p bridge.config.defaultTimeout
        have awaited := KeepsRegistry.awaitAtMost (after.apart (x := ⟨b,p⟩) List.mem_cons_self still) bridge.config.defaultTimeout
        have ledger := (awaiting.keep_valid after).sound.ledger
        rw [callScript_waits listed free submitted outcome]
        exact (registryRun.tail (keepsRegistry awaited)).tail (keepsRegistry (endCall_keepsRegistry ledger (awaited.away still) _ _))

end

mutual

theorem Step.run_registryRun {r : Nat} (step : Step) (own : Handle) (s : State) (hands : List Slot) (valid : BooksValid s hands)
    (away : step.address s ≠ some r) : RegistryRun own s [step] r s (step.run own s).2 := by
  cases step with
  | act a =>
    simp only [Step.run]
    exact (a.run_registryRun valid own away).tail (.inl (answer_keepsRegistry _ _ _))
  | submit b decoder ending during =>
    simp only [Step.run]
    refine submitScript_path .inl valid away _ (fun h u others => ?_) (fun bridge op u listed registered others held => ?_) decoder
    · rw [State.scripted_state]
      exact runSteps_motions during h u others (driven_true during).licensed
    · rw [State.scripted_state]
      exact (runSteps_registryRun during op.handle u others held).within (.submitting b bridge op decoder listed registered ·)
  | call b decoder ending during =>
    simp only [Step.run]
    refine callScript_path .inl valid away _ (fun h u others => ?_) (fun bridge op u listed free registered others held => ?_) decoder
    · rw [State.scripted_state]
      exact runSteps_motions during h u others (driven_true during).licensed
    · rw [State.scripted_state]
      exact (runSteps_registryRun during op.handle _ others held).within (.calling b bridge op decoder listed free registered ·)

theorem runSteps_registryRun {r : Nat} (steps : List Step) (own : Handle) (s : State) (hands : List Slot)
    (valid : BooksValid s hands) :
    RegistryRun own s steps r s (runSteps own s steps).2 := by
  cases steps with
  | nil =>
    simp only [runSteps]
    exact .refl
  | cons step rest =>
    simp only [runSteps]
    have first : RegistryRun own s (step :: rest) r s (step.run own s).2 := by
      by_cases here : step.address s = some r
      · exact .single (.inr (.step .here here rfl))
      · exact (Step.run_registryRun step own s hands valid here).within .first
    have after : Motions .all ⟨s,hands⟩ ⟨(step.run own s).2,hands⟩ := step.run_motions own s hands step.within_all
    exact first.trans ((runSteps_registryRun rest own _ hands (after.keep_valid valid)).within .later)

end

namespace State

variable {s t : State}

theorem KeepsRegistry.pendingIn (keepsRegistry : s.KeepsRegistry r t) : t.pendingIn r = s.pendingIn r := by
  rw [State.pendingIn,State.pendingIn,keepsRegistry.registry]

theorem KeepsRegistry.departures (keepsRegistry : s.KeepsRegistry r t) (op : Operation) :
    t.departures r op = s.departures r op := by
  obtain ⟨more,journal,others⟩ := keepsRegistry.journal
  simp only [State.departures,journal,List.filterMap_append]
  refine (congrArg (· ++ _) (List.filterMap_eq_nil_iff.mpr fun e there => ?_)).trans (List.nil_append _)
  have other := others e there
  cases e with
  | left q =>
    refine if_neg ?_
    rintro ⟨rfl,_⟩
    exact other rfl
  | _ => rfl

-- The results of a registry that is kept look as before, as long as the turn allows to look.
theorem KeepsRegistry.poll_same (keepsRegistry : s.KeepsRegistry r t) (valid : BooksValid s hands)
    (there : x ∈ hands ++ s.slots.full)
    (home : s.registryOf x.bridge = some r) (turn : t.exhausted = s.exhausted) (waker : Waker) :
    (t.poll x.promise waker).1 = (s.poll x.promise waker).1 := by
  refine (poll_alike (fun c decoder waits => ?_) turn waker).1
  obtain ⟨q,op,desk,entered,rfl⟩ := valid.promisesEntered x there c (Slot.channel_waiting waits)
  cases home.symm.trans desk
  exact keepsRegistry.channels op (mem_entries.mp entered)

end State

-- In every state of every session, a step that is not addressed to a registry keeps it,
-- however the step ends, but for the steps inside of it that are addressed to the registry
-- and the callbacks of the native library that go there. Where the registry is kept, its
-- results look as before. A callback through a bridge of another registry takes nothing
-- out, also where an operation has the same handle, and whatever was delivered came
-- through a bridge of the registry.
theorem registries_isolated (reached : Motions .all ⟨.start attendance firsts plans,[]⟩ ⟨s,hands⟩) (own : Handle)
    {step : Step} (elsewhere : step.address s ≠ some r) :
    RegistryRun own s [step] r s (step.run own s).2 ∧
    ((∀ h u x, Begins own s [step] h u x → x.address u ≠ some r ∧
        ∀ a, x = .act a → a.callsLibrary → u.destination ≠ some r) → s.KeepsRegistry r (step.run own s).2) ∧
    (∀ t, s.KeepsRegistry r t → t.exhausted = s.exhausted →
      ∀ x ∈ hands ++ s.slots.full, s.registryOf x.bridge = some r → ∀ waker,
        (t.poll x.promise waker).1 = (s.poll x.promise waker).1) ∧
    (∀ b d, s.registryOf b ≠ some r → ∀ op ∈ s.pendingIn r,
      op ∈ (s.dispatch b d).2.pendingIn r ∧ (s.dispatch b d).2.departures r op = []) ∧
    ∀ op b d, .delivered b d ∈ s.departures r op → s.registryOf b = some r ∧ op.handle = d.handle := by
  have valid := reached.valid
  have ledger := valid.sound.ledger
  have registryRun := step.run_registryRun own s hands valid elsewhere
  refine ⟨registryRun,fun alone => ?_,fun t keepsRegistry turn x there home waker => keepsRegistry.poll_same valid there home turn waker,
    fun b d away op present => ?_,fun op b d left => ?_⟩
  · refine registryRun.spared fun u v actsOn => ?_
    cases actsOn with
    | step begins here => exact (alone _ _ _ begins).1 here
    | callback begins library here => exact (alone _ _ _ begins).2 _ rfl library here
  · have keepsRegistry : s.KeepsRegistry r (s.dispatch b d).2 := .dispatch ledger away d
    rw [keepsRegistry.pendingIn,keepsRegistry.departures]
    exact ⟨present,State.departures_none ledger present⟩
  · rw [State.departures_books s hands] at left
    obtain ⟨same,home⟩ := ledger.delivered r op b d (Books.mem_departures.mp left)
    exact ⟨home,same⟩

-- Two registries, each with an operation under the first handle.
def neighbours : List BridgePlan := [⟨.standard,some 0,none⟩,⟨.standard,some 1,none⟩]

def pairing : List Step := [.submit 0 .int (.ok 0) [],.submit 1 .int (.ok 0) []]

def paired : State := (run (.start .prompt [1,1] neighbours) pairing).2

-- A call on the one that panics, after the first handle was answered there.
def quarrel : Step := .submit 1 .int (.error "gone") [.act (.dispatch 1 (.given ⟨1⟩) ⟨0,[.i32 7],none⟩)]

theorem neighbour_spared :
    Visited .prompt [1,1] neighbours pairing paired ∧ paired.KeepsRegistry 0 (quarrel.run ⟨0⟩ paired).2 ∧
      (quarrel.run ⟨0⟩ paired).2.pendingIn 0 = [⟨⟨1⟩,0⟩] ∧ (quarrel.run ⟨0⟩ paired).2.pendingIn 1 = [] := by
  have visited : Visited .prompt [1,1] neighbours pairing paired := Visited.end .prompt [1,1] neighbours pairing
  obtain ⟨hands,reached⟩ := visited.motions (driven_true pairing).licensed
  have home : paired.registryOf 1 = some 1 := by decide +kernel
  have before : paired.pendingIn 0 = [⟨⟨1⟩,0⟩] := by cbv
  have after : (quarrel.run ⟨0⟩ paired).2.pendingIn 1 = [] := by cbv
  have elsewhere : quarrel.address paired ≠ some 0 := by
    rw [quarrel,Step.address,home]
    decide
  obtain ⟨_,spared,_⟩ := registries_isolated reached ⟨0⟩ elsewhere
  have keepsRegistry : paired.KeepsRegistry 0 (quarrel.run ⟨0⟩ paired).2 := by
    refine spared fun h u x begins => ?_
    cases begins with
    | here =>
      refine ⟨elsewhere,?_⟩
      rintro _ ⟨⟩
    | later begins => cases begins
    | submitting _ bridge op _ listed registered begins =>
      have entered : Motion .all ⟨paired.hold 1,[]⟩ ⟨_,_⟩ := .register registered .int
      have held : (paired.hold 1).registryOf = paired.registryOf := State.registryOf_changeBridge paired 1 _ fun _ => rfl
      have still := (congrFun (entered.motions.registryOf.trans held) 1).trans home
      cases begins with
      | here =>
        refine ⟨?_,?_⟩
        · simp only [Step.address,Action.address,still]
          decide
        · rintro _ ⟨⟩ library
          cases library
      | later begins => cases begins
  exact ⟨visited,keepsRegistry,keepsRegistry.pendingIn.trans before,after⟩

end PendingCalls.Session
