import Mathlib.Data.List.InsertIdx
import PendingCalls.Proofs.Books
import PendingCalls.Proofs.Renaming

-- Everything that a session does is the same under other names: an operation on a renamed
-- state gives the renamed result and leaves the renamed state.

namespace PendingCalls

namespace Registry

theorem same_of {r q : Registry} (counter : r.counter = q.counter) (pending : r.pending = q.pending) : r = q := by
  obtain ⟨_,_,_⟩ := r
  obtain ⟨_,_,_⟩ := q
  cases counter
  cases pending
  rfl

variable (σ : Renaming) (r : Registry)

theorem size_renamed : (r.renamed σ).size = r.size := List.length_map _

theorem find?_renamed (h : Handle) : (r.renamed σ).find? (σ.handle h) = (r.find? h).map (Operation.renamed σ) := by
  have same : ((fun op : Operation => decide (op.handle = σ.handle h)) ∘ Operation.renamed σ) =
      fun op => decide (op.handle = h) := by
    funext op
    exact decide_eq_decide.mpr σ.injective.eq_iff
  rw [find?,find?,← same]
  exact List.find?_map

theorem contains_renamed (h : Handle) : (r.renamed σ).contains (σ.handle h) = r.contains h := by
  rw [contains,contains,find?_renamed,Option.isSome_map]

theorem insert?_renamed (op : Operation) : (r.renamed σ).insert? (op.renamed σ) = (r.insert? op).map (renamed σ) := by
  have found : (r.renamed σ).find? (op.renamed σ).handle = (r.find? op.handle).map (Operation.renamed σ) := find?_renamed σ r op.handle
  unfold insert?
  split
  · rename_i there
    rw [there] at found
    split
    · rfl
    · rename_i missing
      rw [missing] at found
      cases found
  · rename_i missing
    rw [missing] at found
    split
    · rename_i there
      rw [there] at found
      cases found
    · exact congrArg some (same_of rfl rfl)

theorem erase_renamed (h : Handle) : (r.renamed σ).erase (σ.handle h) = (r.erase h).renamed σ := by
  refine same_of rfl ?_
  have same : ((fun op : Operation => decide (op.handle ≠ σ.handle h)) ∘ Operation.renamed σ) =
      fun op => decide (op.handle ≠ h) := by
    funext op
    exact decide_eq_decide.mpr σ.injective.ne_iff
  simp only [erase,renamed]
  rw [← same]
  exact List.filter_map

theorem remove_renamed (h : Handle) : (r.renamed σ).remove (σ.handle h) =
    (r.remove h).map fun x => (x.1.renamed σ,x.2.renamed σ) := by
  rw [remove,remove,find?_renamed,erase_renamed,Option.map_map,Option.map_map]
  rfl

theorem allocate_renamed : (r.renamed σ).allocate = (σ.handle r.allocate.1,r.allocate.2.renamed σ) := by
  have issued := σ.issues r.counter
  simp only [allocate,renamed,issued]

end Registry

namespace Session

namespace State

variable (σ : Renaming) (s : State)

@[simp] theorem registry?_renamed (r : Nat) : State.registry? (s.renamed σ) r = (s.registry? r).map (Registry.renamed σ) :=
  Table.get?_map _ _ _

@[simp] theorem bridge?_renamed (b : Nat) : (s.renamed σ).bridge? b = (s.bridge? b).map Bridge.aside := Table.get?_map _ _ _

@[simp] theorem channel?_renamed (c : Nat) : (s.renamed σ).channel? c = s.channel? c := rfl

@[simp] theorem actor?_renamed (a : Nat) : (s.renamed σ).actor? a = (s.actor? a).map (Actor.renamed σ) := Table.get?_map _ _ _

@[simp] theorem slot?_renamed (i : Nat) : (s.renamed σ).slot? i = (s.slot? i).map (Slot.renamed σ) := by
  simp only [slot?,renamed,Table.get?_map]
  rcases s.slots.get? i with _ | _ | x <;> rfl

@[simp] theorem exhausted_renamed : (s.renamed σ).exhausted = s.exhausted := rfl

@[simp] theorem listed?_renamed (b : Nat) : (s.renamed σ).listed? b = (s.listed? b).map Bridge.aside := by
  simp only [listed?,bridge?_renamed]
  cases s.bridge? b with
  | none => rfl
  | some bridge =>
    simp only [Option.map_some,Option.filter_some]
    cases listed : bridge.listed <;> simp [Bridge.aside,listed]

theorem putRegistry_renamed (r : Nat) (registry : Registry) :
    (s.renamed σ).putRegistry r (registry.renamed σ) = (s.putRegistry r registry).renamed σ := by
  simp only [putRegistry,renamed,Table.map_set]

theorem changeBridge_renamed (b : Nat) {f : Bridge → Bridge} (same : ∀ bridge, (f bridge).aside = f bridge.aside) :
    (s.renamed σ).changeBridge b f = (s.changeBridge b f).renamed σ := by
  simp only [changeBridge,renamed,Table.map_modify same]

theorem changeStats_renamed (b : Nat) (f : Stats → Stats) :
    (s.renamed σ).changeStats b f = (s.changeStats b f).renamed σ := changeBridge_renamed σ s b fun _ => rfl

theorem changeActor_renamed (a : Nat) {f g : Actor → Actor} (same : ∀ actor, (f actor).renamed σ = g (actor.renamed σ)) :
    (s.renamed σ).changeActor a g = (s.changeActor a f).renamed σ := by
  simp only [changeActor,renamed,Table.map_modify same]

theorem statsOf_renamed (b : Nat) : (s.renamed σ).statsOf b = s.statsOf b := by
  simp only [statsOf,bridge?_renamed]
  cases s.bridge? b <;> rfl

theorem withdraw_renamed (r : Nat) (h : Handle) (why : Departure) :
    (s.renamed σ).withdraw r (σ.handle h) (why.renamed σ) =
      ((s.withdraw r h why).1.map (Operation.renamed σ),(s.withdraw r h why).2.renamed σ) := by
  simp only [withdraw, registry?_renamed]
  cases s.registry? r with
  | none => rfl
  | some registry =>
    simp only [Option.map_some,Registry.remove_renamed]
    cases registry.remove h with
    | none => rfl
    | some found =>
      simp only [Option.map_some,putRegistry_renamed]
      rfl

theorem outcome_map (x : Except Panic α) (f : α → β) : (σ.outcome id x).map f = σ.outcome id (x.map f) := by
  cases x <;> rfl

theorem wake_renamed (waker : Option Waker) : wake waker = σ.outcome id (wake waker) := by
  rcases waker with _ | _ | _ <;> rfl

theorem hangUp_renamed (c : Nat) : (s.renamed σ).hangUp c = (σ.outcome id (s.hangUp c).1,(s.hangUp c).2.renamed σ) := by
  simp only [hangUp,channel?_renamed]
  cases s.channel? c with
  | none => rfl
  | some channel => exact Prod.ext (wake_renamed σ _) rfl

theorem send_renamed (c : Nat) (o : Outcome) : (s.renamed σ).send c o = ((s.send c o).1,(s.send c o).2.renamed σ) := by
  simp only [send,channel?_renamed]
  cases s.channel? c <;> rfl

theorem dispatch_renamed (b : Nat) (d : Delivery) :
    (s.renamed σ).dispatch b (d.renamed σ) = (σ.outcome id (s.dispatch b d).1,(s.dispatch b d).2.renamed σ) := by
  simp only [dispatch,bridge?_renamed]
  cases s.bridge? b with
  | none => rfl
  | some bridge =>
    have left : (s.renamed σ).withdraw bridge.aside.registry (d.renamed σ).handle (.delivered b (d.renamed σ)) = _ :=
      withdraw_renamed σ s bridge.registry d.handle (.delivered b d)
    simp only [Option.map_some,left]
    rcases s.withdraw bridge.registry d.handle (.delivered b d) with ⟨_ | op,t⟩
    · simp only [Option.map_none,changeStats_renamed]
      rfl
    · have sent : ((t.renamed σ).changeStats b countResolved).send (op.renamed σ).channel (d.renamed σ).outcome = _ :=
        (congrArg (State.send · op.channel d.outcome) (changeStats_renamed σ t b countResolved)).trans (send_renamed σ _ _ _)
      simp only [Option.map_some,sent]
      rcases (t.changeStats b countResolved).send op.channel d.outcome with ⟨waker | _,u⟩
      · exact Prod.ext ((congrArg _ (wake_renamed σ waker)).trans (outcome_map σ _ _)) rfl
      · simp only [changeStats_renamed]
        rfl

-- The reasons that name no handle.
theorem evict_renamed (r : Nat) (h : Handle) {why : Departure} (plain : why.renamed σ = why) :
    (s.renamed σ).evict r (σ.handle h) why = (σ.outcome id (s.evict r h why).1,(s.evict r h why).2.renamed σ) := by
  have left := withdraw_renamed σ s r h why
  rw [plain] at left
  simp only [evict,left]
  rcases s.withdraw r h why with ⟨_ | op,t⟩
  · rfl
  · have gone : (t.renamed σ).hangUp (op.renamed σ).channel = _ := hangUp_renamed σ t op.channel
    simp only [Option.map_some,gone,outcome_map]

-- Whether an operation is pending under a handle.
theorem pending_renamed (r : Nat) (h : Handle) : (State.registry? (s.renamed σ) r).map (·.contains (σ.handle h)) =
    (s.registry? r).map (·.contains h) := by
  rw [registry?_renamed,Option.map_map]
  exact congrArg (Option.map · _) (funext fun registry => Registry.contains_renamed σ registry h)

theorem ownedBy_renamed (r b : Nat) : (s.renamed σ).ownedBy r b = s.ownedBy r b := by
  simp only [ownedBy,bridge?_renamed]
  cases s.bridge? b <;> rfl

theorem owned_renamed (r : Nat) : (s.renamed σ).owned r = s.owned r := by
  have bridges : (s.renamed σ).bridges.toList = s.bridges.toList.map Bridge.aside := Table.toList_map _ _
  have actors : (s.renamed σ).actors.toList = s.actors.toList.map (Actor.renamed σ) := Table.toList_map _ _
  have binding : (s.renamed σ).binding = s.binding := rfl
  simp only [owned,bridges,actors,binding,List.any_map,ownedBy_renamed]
  rfl

theorem leaveBehind_renamed (r : Nat) (ops : List Operation) :
    (s.renamed σ).leaveBehind r (ops.map (Operation.renamed σ)) = (s.leaveBehind r ops).renamed σ := by
  induction ops generalizing s with
  | nil => rfl
  | cons op rest ih => exact ih (s.note (.left r op .leftBehind))

theorem hangUpAll_renamed (r : Nat) (ops : List Operation) :
    hangUpAll r (ops.map (Operation.renamed σ)) (s.renamed σ) =
      (σ.outcome id (hangUpAll r ops s).1,(hangUpAll r ops s).2.renamed σ) := by
  induction ops generalizing s with
  | nil => rfl
  | cons op rest ih =>
    have gone : ((s.renamed σ).note (.left r (op.renamed σ) .registryClosed)).hangUp (op.renamed σ).channel = _ :=
      hangUp_renamed σ (s.note (.left r op .registryClosed)) op.channel
    simp only [List.map_cons,hangUpAll,gone]
    rcases (s.note (.left r op .registryClosed)).hangUp op.channel with ⟨p | ⟨⟩,t⟩
    · exact Prod.ext rfl (leaveBehind_renamed σ t r rest)
    · exact ih t

theorem pendingIn_renamed (r : Nat) : (s.renamed σ).pendingIn r = (s.pendingIn r).map (Operation.renamed σ) := by
  simp only [pendingIn, registry?_renamed]
  cases s.registry? r <;> rfl

theorem endRegistry_renamed (r : Nat) (order : List Operation) :
    (s.renamed σ).endRegistry r (order.map (Operation.renamed σ)) =
      (σ.outcome id (s.endRegistry r order).1,(s.endRegistry r order).2.renamed σ) := by
  simp only [endRegistry, registry?_renamed]
  cases s.registry? r with
  | none => rfl
  | some registry =>
    have cleared : (s.renamed σ).putRegistry r (registry.renamed σ).clear = _ := putRegistry_renamed σ s r registry.clear
    have ended := hangUpAll_renamed σ (s.putRegistry r registry.clear) r order
    rw [← cleared] at ended
    exact ended

theorem release_renamed (r : Nat) : (s.renamed σ).release r = (σ.outcome id (s.release r).1,(s.release r).2.renamed σ) := by
  simp only [release,owned_renamed,pendingIn_renamed]
  cases s.owned r with
  | true => rfl
  | false => exact endRegistry_renamed σ s r (s.pendingIn r)

theorem hold_renamed (b : Nat) : (s.renamed σ).hold b = (s.hold b).renamed σ := changeBridge_renamed σ s b fun _ => rfl

theorem letGo_renamed (b : Nat) : (s.renamed σ).letGo b = (σ.outcome id (s.letGo b).1,(s.letGo b).2.renamed σ) := by
  have unheld : (s.renamed σ).unhold b = (s.unhold b).renamed σ := changeBridge_renamed σ s b fun _ => rfl
  simp only [letGo,bridge?_renamed,unheld]
  cases s.bridge? b with
  | none => rfl
  | some bridge => exact release_renamed σ (s.unhold b) bridge.registry

theorem dropBridge_renamed (b : Nat) :
    (s.renamed σ).dropBridge b = (σ.outcome id (s.dropBridge b).1,(s.dropBridge b).2.renamed σ) := by
  have unlisted : (s.renamed σ).unlist b = (s.unlist b).renamed σ := changeBridge_renamed σ s b fun _ => rfl
  simp only [dropBridge,bridge?_renamed,unlisted]
  cases s.bridge? b with
  | none => rfl
  | some bridge => exact release_renamed σ (s.unlist b) bridge.registry

theorem interpret_renamed (c : Nat) (o : Outcome) (decoder : Decoder) :
    (s.renamed σ).interpret c o decoder = ((s.interpret c o decoder).1,(s.interpret c o decoder).2.renamed σ) := by
  simp only [interpret]
  split <;> rfl

theorem take_renamed (p : Promise) (c : Nat) (decoder : Option Decoder) (o : Outcome) :
    (s.renamed σ).take (p.renamed σ) c decoder o =
      ((s.take p c decoder o).1.renamed σ,(s.take p c decoder o).2.1.renamed σ,(s.take p c decoder o).2.2.renamed σ) := by
  cases decoder with
  | none => rfl
  | some decode =>
    simp only [take,interpret_renamed]
    rcases s.interpret c o decode with ⟨v | f | text,t⟩
    · rfl
    · cases f <;> rfl
    · rfl

theorem poll_renamed (p : Promise) (waker : Waker) :
    (s.renamed σ).poll (p.renamed σ) waker =
      ((s.poll p waker).1.renamed σ,(s.poll p waker).2.1.renamed σ,(s.poll p waker).2.2.renamed σ) := by
  obtain ⟨h,timeout,state⟩ := p
  cases state with
  | ready result => cases result <;> rfl
  | waiting c decoder =>
    simp only [poll,Promise.renamed,PromiseState.renamed,channel?_renamed,exhausted_renamed]
    rcases (s.channel? c).map (Channel.poll waker) with _ | ⟨channel,o | _ | _ | _⟩ <;> cases s.exhausted
    all_goals first
      | rfl
      | exact take_renamed σ (s.putChannel c channel).spend ⟨h,timeout,.waiting c decoder⟩ c decoder o
      | cases waker <;> rfl

theorem forget_renamed (p : Promise) : (s.renamed σ).forget (p.renamed σ) = (s.forget p).renamed σ := by
  obtain ⟨h,timeout,state⟩ := p
  cases state <;> rfl

theorem withTimeout_renamed (p : Promise) (after : Duration) :
    (s.renamed σ).withTimeout (p.renamed σ) after =
      (σ.outcome σ.result (s.withTimeout p after).1,(s.withTimeout p after).2.renamed σ) := by
  simp only [withTimeout,poll_renamed]
  rcases s.poll p .quiet with ⟨_ | result | panic,q,t⟩
  · exact Prod.ext rfl (forget_renamed σ (t.note (.timedOut q.handle after)) q)
  · exact Prod.ext rfl (forget_renamed σ t q)
  · exact Prod.ext rfl (forget_renamed σ t q)

theorem await_renamed (p : Promise) :
    (s.renamed σ).await (p.renamed σ) = (σ.outcome (Option.map σ.result) (s.await p).1,(s.await p).2.renamed σ) := by
  simp only [await,poll_renamed]
  rcases s.poll p .quiet with ⟨_ | result | panic,q,t⟩
  · rfl
  · exact Prod.ext rfl (forget_renamed σ t q)
  · exact Prod.ext rfl (forget_renamed σ t q)

theorem awaitAtMost_renamed (p : Promise) (limit : Option Duration) :
    (s.renamed σ).awaitAtMost (p.renamed σ) limit =
      (σ.outcome (Option.map σ.result) (s.awaitAtMost p limit).1,(s.awaitAtMost p limit).2.renamed σ) := by
  cases limit with
  | none => exact await_renamed σ s p
  | some after =>
    simp only [awaitAtMost,withTimeout_renamed]
    cases (s.withTimeout p after).1 <;> rfl

theorem wait_renamed (p : Promise) :
    (s.renamed σ).wait (p.renamed σ) = (σ.outcome (Option.map σ.result) (s.wait p).1,(s.wait p).2.renamed σ) := by
  have driven : (s.renamed σ).driven = s.driven := rfl
  have timeout : (p.renamed σ).timeout = p.timeout := rfl
  simp only [wait,driven,timeout]
  split
  · exact Prod.ext rfl (forget_renamed σ s p)
  · exact awaitAtMost_renamed σ s p p.timeout

theorem readDetails_renamed (hook : Option Hook) (errors : ThreadErrors) :
    (s.renamed σ).readDetails hook errors = ((s.readDetails hook errors).1,(s.readDetails hook errors).2.renamed σ) := by
  cases hook with
  | none => rfl
  | some own =>
    simp only [readDetails]
    rcases ErrorDetails.ofReport (own.report errors) with ⟨details,_ | e⟩ <;> rfl

theorem draw_renamed (r : Nat) : (s.renamed σ).draw r = ((s.draw r).1.map σ.handle,(s.draw r).2.renamed σ) := by
  simp only [draw, registry?_renamed]
  cases s.registry? r with
  | none => rfl
  | some registry =>
    simp only [Option.map_some,Registry.allocate_renamed,putRegistry_renamed]
    rfl

theorem enter_renamed (r : Nat) (h : Handle) :
    (s.renamed σ).enter r (σ.handle h) = (σ.outcome (Operation.renamed σ) (s.enter r h).1,(s.enter r h).2.renamed σ) := by
  have inserted : (State.registry? (s.renamed σ) r).bind (·.insert? ⟨σ.handle h,s.channels.size⟩) =
      ((s.registry? r).bind (·.insert? ⟨h,s.channels.size⟩)).map (Registry.renamed σ) := by
    rw [registry?_renamed]
    cases s.registry? r with
    | none => rfl
    | some registry => exact Registry.insert?_renamed σ registry ⟨h,s.channels.size⟩
  have size : (s.renamed σ).channels.size = s.channels.size := rfl
  rw [enter_eq,enter_eq,size,inserted]
  cases (s.registry? r).bind (·.insert? ⟨h,s.channels.size⟩) with
  | none => rfl
  | some after =>
    refine Prod.ext rfl ?_
    exact congrArg (note · (.entered r ⟨σ.handle h,s.channels.size⟩))
      (putRegistry_renamed σ { s with channels := s.channels.push .fresh } r after)

theorem register_renamed (b : Nat) :
    (s.renamed σ).register b =
      (σ.outcome (fun x => (x.1.aside,x.2.renamed σ)) (s.register b).1,(s.register b).2.renamed σ) := by
  simp only [register,bridge?_renamed]
  cases s.bridge? b with
  | none => rfl
  | some bridge =>
    have drew : (s.renamed σ).draw bridge.aside.registry = _ := draw_renamed σ s bridge.registry
    simp only [Option.map_some,drew]
    rcases s.draw bridge.registry with ⟨_ | h,t⟩
    · rfl
    · have entered : (t.renamed σ).enter bridge.aside.registry (σ.handle h) = _ := enter_renamed σ t bridge.registry h
      simp only [Option.map_some,entered]
      rcases t.enter bridge.registry h with ⟨_ | op,u⟩ <;> rfl

theorem unwind_renamed (r : Nat) (op : Operation) (p : Panic) :
    (s.renamed σ).unwind r (op.renamed σ) (p.renamed σ) =
      (σ.outcome (Promise.renamed σ) (s.unwind r op p).1,(s.unwind r op p).2.renamed σ) := by
  have left : (s.renamed σ).evict r (op.renamed σ).handle .unwound = _ := evict_renamed σ s r op.handle rfl
  simp only [unwind,left]
  rcases s.evict r op.handle .unwound with ⟨_ | found,t⟩ <;> rfl

theorem refusal_renamed (bridge : Bridge) (op : Operation) (status : Int32) :
    (s.renamed σ).refusal bridge.aside (op.renamed σ) status =
      ((s.refusal bridge op status).1.renamed σ,(s.refusal bridge op status).2.renamed σ) := by
  have read : (s.renamed σ).readDetails bridge.aside.hook (s.renamed σ).ownErrors = _ :=
    readDetails_renamed σ s bridge.hook s.ownErrors
  simp only [refusal,read]
  rfl

theorem reject_renamed (bridge : Bridge) (op : Operation) (status : Int32) :
    (s.renamed σ).reject bridge.aside (op.renamed σ) status =
      (σ.outcome (Promise.renamed σ) (s.reject bridge op status).1,(s.reject bridge op status).2.renamed σ) := by
  have left : (s.renamed σ).evict bridge.aside.registry (op.renamed σ).handle (.rejected status) = _ :=
    evict_renamed σ s bridge.registry op.handle rfl
  simp only [reject,left]
  rcases s.evict bridge.registry op.handle (.rejected status) with ⟨_ | found,t⟩
  · rfl
  · have refused (u : State) := refusal_renamed σ u bridge op status
    cases found with
    | true =>
      simp only [Renaming.outcome,id_eq,if_true,refused]
    | false =>
      have noted : (t.renamed σ).note (.lateRejection (op.renamed σ).handle status) = (t.note (.lateRejection op.handle status)).renamed σ := rfl
      simp only [Renaming.outcome,id_eq,Bool.false_eq_true,if_false,noted,refused]

theorem settle_renamed (bridge : Bridge) (op : Operation) (decoder : Decoder) (ending : Except Panic Int32) :
    (s.renamed σ).settle bridge.aside (op.renamed σ) decoder (σ.outcome id ending) =
      (σ.outcome (Promise.renamed σ) (s.settle bridge op decoder ending).1,(s.settle bridge op decoder ending).2.renamed σ) := by
  cases ending with
  | error p => exact unwind_renamed σ s bridge.registry op p
  | ok status =>
    simp only [settle,Renaming.outcome,id_eq]
    split
    · rfl
    · exact reject_renamed σ s bridge op status

end State

-- What a native call leaves and what a submission comes to, where what they have to tell is
-- renamed by itself.
def NativeRun.renamed (σ : Renaming) (f : α → α) (run : NativeRun α) : NativeRun α :=
  ⟨σ.outcome id run.ending,f run.extra,run.state.renamed σ⟩

def Submission.renamed (σ : Renaming) (f : α → α) (sub : Submission α) : Submission α :=
  ⟨σ.outcome (Promise.renamed σ) sub.outcome,sub.extra.map f,sub.state.renamed σ⟩

namespace State

variable (σ : Renaming) (s : State)

theorem submit_renamed {native other : Handle → State → NativeRun α} {f : α → α}
    (same : ∀ h t, other (σ.handle h) (t.renamed σ) = (native h t).renamed σ f) (b : Nat) (decoder : Decoder) :
    (s.renamed σ).submit b other decoder = (s.submit b native decoder).renamed σ f := by
  simp only [submit,register_renamed]
  rcases s.register b with ⟨p | ⟨bridge,op⟩,t⟩
  · rfl
  · have ran : other (op.renamed σ).handle (t.renamed σ) = _ := same op.handle t
    simp only [Renaming.outcome,ran]
    have settled := settle_renamed σ (native op.handle t).state bridge op decoder (native op.handle t).ending
    simp only [NativeRun.renamed,settled]
    rfl

theorem stopActor_renamed (a : Nat) :
    (s.renamed σ).stopActor a = (σ.outcome id (s.stopActor a).1,(s.stopActor a).2.renamed σ) := by
  have stopped : (s.renamed σ).changeActor a Actor.stopped = _ :=
    changeActor_renamed σ s a (f := Actor.stopped) fun _ => rfl
  simp only [stopActor,actor?_renamed,stopped]
  cases s.actor? a with
  | none => rfl
  | some actor =>
    have bridge : ((s.changeActor a Actor.stopped).renamed σ).bridge? (actor.renamed σ).bridge = _ := bridge?_renamed σ _ actor.bridge
    simp only [Option.map_some,bridge]
    cases (s.changeActor a Actor.stopped).bridge? actor.bridge with
    | none => rfl
    | some bridge => exact release_renamed σ _ bridge.registry

theorem handleMessage_renamed (a b : Nat) (m : Message) :
    (s.renamed σ).handleMessage a b (m.renamed σ) = ((s.handleMessage a b m).1,(s.handleMessage a b m).2.renamed σ) := by
  cases m with
  | deliver d =>
    simp only [handleMessage,Message.renamed,dispatch_renamed]
    rcases s.dispatch b d with ⟨_ | _,t⟩
    · simp only [Renaming.outcome,stopActor_renamed]
    · rfl
  | report awaited =>
    cases awaited with
    | true => exact Prod.ext (congrArg some (statsOf_renamed σ s b)) rfl
    | false => rfl

theorem attend_renamed (a : Nat) : (s.renamed σ).attend a = ((s.attend a).1,(s.attend a).2.renamed σ) := by
  simp only [attend,actor?_renamed]
  rcases s.actor? a with _ | ⟨b,_ | ⟨message,rest⟩,_ | _,accepted,handled⟩
  all_goals try rfl
  have taken : (s.renamed σ).changeActor a (Actor.next (message.renamed σ) (rest.map (Message.renamed σ))) =
      (s.changeActor a (Actor.next message rest)).renamed σ := changeActor_renamed σ s a fun _ => rfl
  simp only [Option.map_some,Actor.renamed,List.map_cons,taken]
  exact handleMessage_renamed σ _ a b message

theorem attendMany_renamed (a turns : Nat) :
    (s.renamed σ).attendMany a turns = ((s.attendMany a turns).1,(s.attendMany a turns).2.renamed σ) := by
  induction turns generalizing s with
  | zero => rfl
  | succ turns ih => simp only [attendMany,attend_renamed,ih]

theorem drain_renamed (a : Nat) : (s.renamed σ).drain a = ((s.drain a).1,(s.drain a).2.renamed σ) := by
  have waiting : ((s.renamed σ).mailbox a).length = (s.mailbox a).length := by
    simp only [mailbox,actor?_renamed]
    cases s.actor? a with
    | none => rfl
    | some actor => exact List.length_map _
  simp only [drain,waiting]
  exact attendMany_renamed σ s a _

theorem post_renamed (a : Nat) (m : Message) :
    (s.renamed σ).post a (m.renamed σ) = ((s.post a m).1,(s.post a m).2.renamed σ) := by
  have accepted : (s.renamed σ).changeActor a (Actor.accept (m.renamed σ)) = (s.changeActor a (Actor.accept m)).renamed σ :=
    changeActor_renamed σ s a fun actor => by simp only [Actor.renamed,Actor.accept,List.map_append,List.map_cons,List.map_nil]
  simp only [post,actor?_renamed,accepted]
  cases s.actor? a with
  | none => rfl
  | some actor =>
    have running : (actor.renamed σ).running = actor.running := rfl
    have attendance (t : State) : (t.renamed σ).attendance = t.attendance := rfl
    simp only [Option.map_some,running,attendance,drain_renamed]
    cases actor.running with
    | false => rfl
    | true =>
      simp only [if_true]
      cases (s.changeActor a (Actor.accept m)).attendance <;> rfl

theorem spawnActor_renamed (b : Nat) :
    (s.renamed σ).spawnActor b = ((s.spawnActor b).1,(s.spawnActor b).2.renamed σ) := by
  have size : (s.renamed σ).actors.size = s.actors.size := Table.size_map _ _
  have pushed : (s.renamed σ).actors.push (Actor.fresh b) = (s.actors.push (Actor.fresh b)).map (Actor.renamed σ) :=
    (Table.map_push (Actor.renamed σ) s.actors (Actor.fresh b)).symm
  simp only [spawnActor,size,pushed]
  rfl

theorem deliver_renamed (route : Route) (d : Delivery) :
    (s.renamed σ).deliver route (d.renamed σ) = (s.deliver route d).renamed σ := by
  cases route with
  | direct b =>
    have attendance : (s.renamed σ).attendance = s.attendance := rfl
    simp only [deliver,attendance,dispatch_renamed]
    cases s.attendance with
    | prompt => rfl
    | onDemand =>
      simp only [renamed,List.map_append,List.map_cons,List.map_nil]
  | actor a =>
    have posted : (s.renamed σ).post a (.deliver (d.renamed σ)) = _ := post_renamed σ s a (.deliver d)
    simp only [deliver,posted]
    rcases s.post a (.deliver d) with ⟨_ | _,t⟩ <;> rfl

theorem callBack_renamed (errors : ThreadErrors) (cb : Callback) :
    (s.renamed σ).callBack errors (cb.renamed σ) = (s.callBack errors cb).renamed σ := by
  have binding : (s.renamed σ).binding = s.binding := rfl
  have told (hook : Option Hook) : (s.renamed σ).callbackDetails hook (cb.renamed σ).code errors =
      ((s.callbackDetails hook cb.code errors).1,(s.callbackDetails hook cb.code errors).2.renamed σ) := by
    have code : (cb.renamed σ).code = cb.code := rfl
    simp only [callbackDetails,code]
    split
    · rfl
    · exact readDetails_renamed σ s hook errors
  simp only [callBack,binding,told]
  cases s.binding with
  | none => rfl
  | some β =>
    exact deliver_renamed σ (s.callbackDetails β.hook cb.code errors).2 β.route
      ⟨cb.handle,cb.code,cb.arguments.payload,(s.callbackDetails β.hook cb.code errors).1⟩

theorem land_renamed (k : Nat) : (s.renamed σ).land k = (s.land k).renamed σ := by
  have transit : (s.renamed σ).transit = s.transit.map (Delivery.renamed σ) := rfl
  have binding : (s.renamed σ).binding = s.binding := rfl
  simp only [land,transit,binding,List.getElem?_map]
  cases s.transit[k]? with
  | none => rfl
  | some d =>
    rcases s.binding with _ | ⟨b | a,hook⟩
    · rfl
    · rw [List.eraseIdx_map]
      exact congrArg Prod.snd (dispatch_renamed σ
        { s with binding := some ⟨.direct b,hook⟩, transit := s.transit.eraseIdx k } b d)
    · rfl

theorem install_renamed (binding : Binding) : (s.renamed σ).install binding = (s.install binding).map (renamed σ) := by
  have same : (s.renamed σ).binding = s.binding := rfl
  simp only [install,same]
  cases s.binding <;> rfl

theorem hook_renamed (b : Nat) : ((s.renamed σ).bridge? b).bind (·.hook) = (s.bridge? b).bind (·.hook) := by
  rw [bridge?_renamed]
  cases s.bridge? b <;> rfl

theorem bindDirect_renamed (b : Nat) : (s.renamed σ).bindDirect b = (s.bindDirect b).map (renamed σ) := by
  rw [bindDirect,hook_renamed]
  exact install_renamed σ s _

theorem bindActor_renamed (b : Nat) : (s.renamed σ).bindActor b = ((s.bindActor b).1,(s.bindActor b).2.renamed σ) := by
  simp only [bindActor,spawnActor_renamed,hook_renamed,install_renamed]
  cases ((s.spawnActor b).2.install ⟨.actor (s.spawnActor b).1,(s.bridge? b).bind (·.hook)⟩) <;> rfl

theorem accept_renamed (job : Job) :
    (s.renamed σ).accept (job.renamed σ) = ((s.accept job).1,(s.accept job).2.renamed σ) := by
  simp only [accept,renamed,Library.renamed,List.map_append,List.map_cons,List.map_nil]

theorem callBackNow_renamed (cb : Callback) : (s.renamed σ).callBackNow (cb.renamed σ) = (s.callBackNow cb).renamed σ :=
  callBack_renamed σ s s.ownErrors cb

theorem enterLibrary_renamed (h : Handle) (call : NativeCall) :
    (s.renamed σ).enterLibrary (σ.handle h) call = ((s.enterLibrary h call).1,(s.enterLibrary h call).2.renamed σ) := by
  have accepted {job other : Job} (same : other = job.renamed σ) :
      (s.renamed σ).accept other = ((s.accept job).1,(s.accept job).2.renamed σ) := same ▸ accept_renamed σ s job
  cases call with
  | pingSync callback =>
    cases callback with
    | true => exact Prod.ext rfl (callBackNow_renamed σ s ⟨h,Status.successRaw,.int 42⟩)
    | false => rfl
  | rejectAfterCallback callback =>
    cases callback with
    | true =>
      have called := callBackNow_renamed σ s ⟨h,Status.successRaw,.int 7⟩
      exact congrArg (refuse · Library.invalidState "rejected after calling back") called
    | false => rfl
  | _ =>
    simp only [enterLibrary]
    repeat' split
    all_goals first | rfl | exact accepted rfl

theorem succeed_renamed (h : Handle) (arguments : Arguments) :
    (s.renamed σ).succeed (σ.handle h) arguments = (s.succeed h arguments).renamed σ :=
  callBack_renamed σ s (.ofWorker none) ⟨h,Status.successRaw,arguments⟩

theorem complete_renamed (job : Job) : (s.renamed σ).complete (job.renamed σ) = (s.complete job).renamed σ := by
  cases job with
  | fail h code message =>
    exact callBack_renamed σ s (.ofWorker (some (Library.errorDocument message))) ⟨h,code,.empty⟩
  | openWallet h id =>
    simp only [complete,Job.renamed]
    split
    · exact callBack_renamed σ s _ ⟨h,Library.walletNotFound,.int 0⟩
    · exact succeed_renamed σ { s with library := { s.library with nextWallet := s.library.nextWallet + 1 } } h _
  | doubleCallback h =>
    simp only [complete,Job.renamed,succeed_renamed]
  | _ => exact succeed_renamed σ s _ _

theorem completeAll_renamed : (s.renamed σ).completeAll = s.completeAll.renamed σ := by
  have completed (jobs : List Job) (s : State) :
      (jobs.map (Job.renamed σ)).foldl complete (s.renamed σ) = (jobs.foldl complete s).renamed σ := by
    rw [List.foldl_map]
    exact List.foldl_hom (renamed σ) fun t job => complete_renamed σ t job
  exact completed s.library.jobs { s with library := { s.library with jobs := [] } }

theorem submitNative_renamed (b : Nat) (call : NativeCall) (other : Option Handle) (decoder : Decoder) :
    (s.renamed σ).submitNative b call (other.map σ.handle) decoder =
      (s.submitNative b call other decoder).renamed σ id := by
  refine submit_renamed σ s (fun h t => ?_) b decoder
  have told : (other.map σ.handle).getD (σ.handle h) = σ.handle (other.getD h) := by cases other <;> rfl
  simp only [told,enterLibrary_renamed]
  rfl

theorem request_renamed (b : Nat) (r : Request) :
    (s.renamed σ).request b r = (s.request b r).map (Submission.renamed σ id) := by
  simp only [request]
  split
  · rfl
  · exact congrArg Except.ok (submitNative_renamed σ s b r.nativeCall none r.decoder)

end State

end Session

end PendingCalls
