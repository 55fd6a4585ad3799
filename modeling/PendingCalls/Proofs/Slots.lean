import PendingCalls.Proofs.DetailsOrigin

-- What leaves the slots alone. Only those who look at a slot, or take its promise, touch
-- it, and a promise that is kept gets a slot of its own.

namespace PendingCalls.Session

namespace State

variable {s t : State}

theorem enterLibrary_slots (s : State) (h : Handle) (call : NativeCall) : (s.enterLibrary h call).2.slots = s.slots :=
  (Composable.same State.slots).enterLibrary (fun _ _ => rfl) callBack_slots s h call

theorem completeAll_slots (s : State) : s.completeAll.slots = s.slots :=
  (Composable.same State.slots).completeAll (fun _ _ => rfl) callBack_slots s

theorem register_slots (s : State) (b : Nat) : (s.register b).2.slots = s.slots :=
  (Composable.same State.slots).register (fun _ _ => (EntriesOnly.draw _ _).slots) (fun _ _ _ => (EntriesOnly.enter rfl).slots) s b

theorem slots_waiting : ComposableWait fun s t : State => t.slots = s.slots where
  toComposable := .same State.slots
  look s p := slots_poll s p .quiet
  forget s p := (EntriesOnly.forget s p).slots
  timedOut _ _ _ := rfl

theorem withTimeout_slots (s : State) (p : Promise) (after : Duration) : (s.withTimeout p after).2.slots = s.slots :=
  slots_waiting.withTimeout s p after

theorem awaitAtMost_slots (s : State) (p : Promise) (limit : Option Duration) : (s.awaitAtMost p limit).2.slots = s.slots :=
  slots_waiting.awaitAtMost s p limit

theorem wait_slots (s : State) (p : Promise) : (s.wait p).2.slots = s.slots := slots_waiting.wait s p

theorem slots_calling : ComposableCall fun s t : State => t.slots = s.slots where
  toComposable := .same State.slots
  register := register_slots
  enterLibrary := enterLibrary_slots
  settle := settle_slots
  completeAll := completeAll_slots
  hold _ _ := rfl
  finish := finish_slots
  awaitAll := slots_waiting.awaitAll

theorem submitNative_slots (s : State) (b : Nat) (call : NativeCall) (other : Option Handle) (decoder : Decoder) :
    (s.submitNative b call other decoder).state.slots = s.slots := slots_calling.submitNative s b call other decoder

theorem request_slots (requested : s.request b r = .ok sub) : sub.state.slots = s.slots := slots_calling.request requested

end State

-- The actions that look at a slot, empty it or fill a new one.
def Action.slotted : Action → Bool
  | .poll .. | .wait _ | .withTimeout .. | .dropSlot _ | .request .. | .native .. => true
  | _ => false

open State in
theorem Action.run_slots (own : Handle) (s : State) (a : Action) (calm : a.slotted = false) :
    (a.run own s).2.slots = s.slots := by
  have kept {b : Nat} {f : Bridge → Result × State} (same : ∀ bridge, (f bridge).2.slots = s.slots) :
      (s.onBridge b f).2.slots = s.slots :=
    onBridge_kept (P := fun t => t.slots = s.slots) rfl fun bridge _ => same bridge
  cases a with
  | dispatch => exact kept fun _ => (ReadsNothing.dispatch _ _ _).slots
  | abandon => exact kept fun _ => (EntriesOnly.evict _ _ _ _).slots
  | isPending | stats | config => exact kept fun _ => rfl
  | allocate => exact allocate_kept (P := fun t => t.slots = s.slots) rfl (fun _ _ => (EntriesOnly.draw _ _).slots) own
  | insert => exact (EntriesOnly.insertFresh _ _ _ _).slots
  | receive => exact (EntriesOnly.receive _ _).slots
  | dropBridge =>
    exact dropBridge_kept (P := fun t => t.slots = s.slots) rfl ((Composable.same State.slots).dropBridge (fun s r => (ReadsNothing.release s r).slots) rfl) own
  | tell | isInstalled => rfl
  | handle | isResolved => exact onSlot_kept (P := fun t => t.slots = s.slots) rfl fun _ _ => rfl
  | spawnActor => exact kept fun _ => onRuntime_kept (P := fun t => t.slots = s.slots) rfl rfl
  | actorDeliver | actorStatsAbandoned => exact (ReadsNothing.post _ _ _).slots
  | actorStats => exact onRuntime_kept (P := fun t => t.slots = s.slots) rfl (ReadsNothing.post _ _ _).slots
  | actorStop => exact actorStop_kept (P := fun t => t.slots = s.slots) rfl (ReadsNothing.service.stopActor _ _).slots own
  | attend => exact (ReadsNothing.service.attend _ _).slots
  | bind b =>
    refine kept fun _ => ?_
    simp only [bindDirect,install]
    cases s.binding <;> rfl
  | bindActor b =>
    refine kept fun _ => onRuntime_kept (P := fun t => t.slots = s.slots) rfl ?_
    simp only [State.bindActor,install]
    cases (s.spawnActor b).2.binding <;> rfl
  | callback => exact callBack_slots _ _ _
  | land place =>
    simp only [run,State.land]
    split
    · exact (ReadsNothing.dispatch _ _ _).slots
    · rfl
  | stress b count => exact kept fun _ => slots_calling.stress s b count
  | _ => cases calm

theorem State.start_slots (attendance : Attendance) (firsts : List Int32) (plans : List BridgePlan) :
    (State.start attendance firsts plans).slots = .empty := by
  rw [State.start_rest]
  rfl

end PendingCalls.Session
