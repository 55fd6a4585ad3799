import PendingCalls.Proofs.Books

-- What the parts of a session leave alone. Most of them change registries and channels and
-- write it down, and nothing else. How callbacks travel is one part of a state, and most of
-- what a session does never looks at it. The turn and the bridges are another.

namespace PendingCalls.Session

structure Routing where
  attendance : Attendance
  binding : Option Binding
  actors : Table Actor
  transit : List Delivery

namespace State

def routing (s : State) : Routing := ⟨s.attendance,s.binding,s.actors,s.transit⟩

def withRouting (s : State) (ρ : Routing) : State :=
  { s with attendance := ρ.attendance, binding := ρ.binding, actors := ρ.actors, transit := ρ.transit }

variable {s t u : State}

-- What does the same however callbacks travel leaves that alone.
theorem routing_kept {f : State → State} (blind : ∀ ρ, f (s.withRouting ρ) = (f s).withRouting ρ) : (f s).routing = s.routing := by
  have same := congrArg routing (blind s.routing)
  exact same

theorem actor?_routing {t : State} (routing : t.routing = s.routing) (a : Nat) : t.actor? a = s.actor? a :=
  congrArg (Table.get? · a) (congrArg Routing.actors routing)

def turnAndBridges (s : State) : Option Nat × Table Bridge := (s.turn,s.bridges)

-- Nothing differs but registries, channels, receivers and the journal.
structure EntriesOnly (s t : State) : Prop where
  rest : t = { s with registries := t.registries, channels := t.channels, receivers := t.receivers, journal := t.journal }

namespace EntriesOnly

theorem refl (s : State) : s.EntriesOnly s := ⟨rfl⟩

theorem trans (first : s.EntriesOnly t) (second : t.EntriesOnly u) : s.EntriesOnly u :=
  ⟨second.rest.trans (congrArg (fun v : State => { v with
    registries := u.registries, channels := u.channels, receivers := u.receivers, journal := u.journal }) first.rest)⟩

theorem routing (entriesOnly : s.EntriesOnly t) : t.routing = s.routing := by
  rw [entriesOnly.rest]
  rfl

theorem turnAndBridges (entriesOnly : s.EntriesOnly t) : t.turnAndBridges = s.turnAndBridges := by
  rw [entriesOnly.rest]
  rfl

theorem slots (entriesOnly : s.EntriesOnly t) : t.slots = s.slots := by rw [entriesOnly.rest]

theorem library (entriesOnly : s.EntriesOnly t) : t.library = s.library := by rw [entriesOnly.rest]

theorem evict (s : State) (r : Nat) (h : Handle) (why : Departure) : s.EntriesOnly (s.evict r h why).2 := by
  rcases evict_cases s r h why with ⟨same,_⟩ | ⟨_,_,_,_,_,evicted⟩
  · rw [same]
    exact refl s
  · rw [evicted]
    exact ⟨rfl⟩

theorem withdraw (s : State) (r : Nat) (h : Handle) (why : Departure) : s.EntriesOnly (s.withdraw r h why).2 := by
  rcases withdraw_cases s r h why with ⟨same,_⟩ | ⟨_,_,_,_,_,left⟩
  · rw [same]
    exact refl s
  · rw [left]
    exact ⟨rfl⟩

theorem enter (entered : s.enter r h = (outcome,t)) : s.EntriesOnly t := by
  cases outcome with
  | ok op =>
    obtain ⟨_,_,_,_,_,rfl⟩ := enter_ok entered
    exact ⟨rfl⟩
  | error p =>
    obtain ⟨_,rfl⟩ := enter_error entered
    exact ⟨rfl⟩

theorem draw (s : State) (r : Nat) : s.EntriesOnly (s.draw r).2 := by
  unfold State.draw
  split <;> exact ⟨rfl⟩

theorem insertFresh (s : State) (b : Nat) (h : Handle) (keep : Bool) : s.EntriesOnly (s.insertFresh b h keep).2 := by
  have received (c : Nat) : s.EntriesOnly (s.addReceiver c) := ⟨rfl⟩
  have deserted (t : State) (c : Nat) : t.EntriesOnly (t.desert c) := ⟨rfl⟩
  unfold State.insertFresh
  dsimp only
  split
  · cases keep <;> exact ⟨rfl⟩
  · split
    all_goals
      rename_i ran
      have entered := enter ran
      cases keep with
      | false => exact entered.trans (deserted _ _)
      | true => exact (received _).trans entered

theorem forget (s : State) (p : Promise) : s.EntriesOnly (s.forget p) := by
  unfold State.forget
  split <;> exact ⟨rfl⟩

theorem receive (s : State) (i : Nat) : s.EntriesOnly (s.receive i).2 := by
  unfold State.receive
  split <;> exact ⟨rfl⟩

end EntriesOnly

@[simp] theorem registry?_withRouting (s : State) (ρ : Routing) (r : Nat) : State.registry? (s.withRouting ρ) r = s.registry? r := rfl

@[simp] theorem bridge?_withRouting (s : State) (ρ : Routing) (b : Nat) : (s.withRouting ρ).bridge? b = s.bridge? b := rfl

@[simp] theorem channel?_withRouting (s : State) (ρ : Routing) (c : Nat) : (s.withRouting ρ).channel? c = s.channel? c := rfl

@[simp] theorem listed?_withRouting (s : State) (ρ : Routing) (b : Nat) : (s.withRouting ρ).listed? b = s.listed? b := rfl

@[simp] theorem exhausted_withRouting (s : State) (ρ : Routing) : (s.withRouting ρ).exhausted = s.exhausted := rfl

@[simp] theorem statsOf_withRouting (s : State) (ρ : Routing) (b : Nat) : (s.withRouting ρ).statsOf b = s.statsOf b := rfl

theorem withdraw_withRouting (s : State) (ρ : Routing) (r : Nat) (h : Handle) (why : Departure) :
    (s.withRouting ρ).withdraw r h why = ((s.withdraw r h why).1,(s.withdraw r h why).2.withRouting ρ) := by
  simp only [withdraw, registry?_withRouting]
  cases s.registry? r with
  | none => rfl
  | some registry =>
    dsimp only
    cases registry.remove h <;> rfl

theorem hangUp_withRouting (s : State) (ρ : Routing) (c : Nat) :
    (s.withRouting ρ).hangUp c = ((s.hangUp c).1,(s.hangUp c).2.withRouting ρ) := by
  simp only [hangUp,channel?_withRouting]
  cases s.channel? c <;> rfl

theorem send_withRouting (s : State) (ρ : Routing) (c : Nat) (o : Outcome) :
    (s.withRouting ρ).send c o = ((s.send c o).1,(s.send c o).2.withRouting ρ) := by
  simp only [send,channel?_withRouting]
  cases s.channel? c <;> rfl

theorem changeStats_withRouting (s : State) (ρ : Routing) (b : Nat) (f : Stats → Stats) :
    (s.withRouting ρ).changeStats b f = (s.changeStats b f).withRouting ρ := rfl

theorem evict_withRouting (s : State) (ρ : Routing) (r : Nat) (h : Handle) (why : Departure) :
    (s.withRouting ρ).evict r h why = ((s.evict r h why).1,(s.evict r h why).2.withRouting ρ) := by
  simp only [evict,withdraw_withRouting]
  rcases s.withdraw r h why with ⟨_ | op,t⟩
  · rfl
  · simp only [hangUp_withRouting]

theorem dispatch_withRouting (s : State) (ρ : Routing) (b : Nat) (d : Delivery) :
    (s.withRouting ρ).dispatch b d = ((s.dispatch b d).1,(s.dispatch b d).2.withRouting ρ) := by
  simp only [dispatch,bridge?_withRouting,withdraw_withRouting]
  cases s.bridge? b with
  | none => rfl
  | some bridge =>
    dsimp only
    rcases s.withdraw bridge.registry d.handle (.delivered b d) with ⟨_ | op,t⟩
    · rfl
    · simp only [changeStats_withRouting,send_withRouting]
      rcases (t.changeStats b countResolved).send op.channel d.outcome with ⟨_ | _,u⟩ <;> rfl

theorem dispatch_routing (s : State) (b : Nat) (d : Delivery) : (s.dispatch b d).2.routing = s.routing :=
  routing_kept (f := fun s => (s.dispatch b d).2) fun ρ => congrArg Prod.snd (dispatch_withRouting s ρ b d)

theorem draw_withRouting (s : State) (ρ : Routing) (r : Nat) :
    (s.withRouting ρ).draw r = ((s.draw r).1,(s.draw r).2.withRouting ρ) := by
  simp only [draw, registry?_withRouting]
  cases s.registry? r <;> rfl

theorem enter_withRouting (s : State) (ρ : Routing) (r : Nat) (h : Handle) :
    (s.withRouting ρ).enter r h = ((s.enter r h).1,(s.enter r h).2.withRouting ρ) := by
  have inserted : (State.registry? (s.withRouting ρ) r).bind (·.insert? ⟨h,(s.withRouting ρ).channels.size⟩) =
      (s.registry? r).bind (·.insert? ⟨h,s.channels.size⟩) := rfl
  rw [enter_eq,enter_eq,inserted]
  cases (s.registry? r).bind (·.insert? ⟨h,s.channels.size⟩) <;> rfl

theorem insertFresh_withRouting (s : State) (ρ : Routing) (b : Nat) (h : Handle) (keep : Bool) :
    (s.withRouting ρ).insertFresh b h keep = ((s.insertFresh b h keep).1,(s.insertFresh b h keep).2.withRouting ρ) := by
  have started : (if keep then (s.withRouting ρ).addReceiver (s.withRouting ρ).channels.size else s.withRouting ρ) =
      (if keep then s.addReceiver s.channels.size else s).withRouting ρ := by
    cases keep <;> rfl
  simp only [insertFresh,started,listed?_withRouting,enter_withRouting]
  generalize (if keep then s.addReceiver s.channels.size else s) = t
  cases t.listed? b with
  | none => rfl
  | some bridge =>
    dsimp only
    rcases t.enter bridge.registry h with ⟨_ | _,u⟩ <;> cases keep <;> rfl

theorem forget_withRouting (s : State) (ρ : Routing) (p : Promise) : (s.withRouting ρ).forget p = (s.forget p).withRouting ρ := by
  simp only [forget]
  cases p.state <;> rfl

theorem interpret_withRouting (s : State) (ρ : Routing) (c : Nat) (o : Outcome) (decoder : Decoder) :
    (s.withRouting ρ).interpret c o decoder = ((s.interpret c o decoder).1,(s.interpret c o decoder).2.withRouting ρ) := by
  simp only [interpret]
  split <;> rfl

theorem take_withRouting (s : State) (ρ : Routing) (p : Promise) (c : Nat) (decoder : Option Decoder) (o : Outcome) :
    (s.withRouting ρ).take p c decoder o =
      ((s.take p c decoder o).1,(s.take p c decoder o).2.1,(s.take p c decoder o).2.2.withRouting ρ) := by
  cases decoder with
  | none => rfl
  | some decode =>
    simp only [take,interpret_withRouting]
    rcases s.interpret c o decode with ⟨_ | _ | _,t⟩ <;> rfl

theorem poll_withRouting (s : State) (ρ : Routing) (p : Promise) (waker : Waker) :
    (s.withRouting ρ).poll p waker =
      ((s.poll p waker).1,(s.poll p waker).2.1,(s.poll p waker).2.2.withRouting ρ) := by
  simp only [poll,channel?_withRouting,exhausted_withRouting]
  split
  · rfl
  · rfl
  · split
    all_goals first | rfl | exact take_withRouting (s.putChannel _ _).spend ρ _ _ _ _

theorem poll_routing (s : State) (p : Promise) (waker : Waker) : (s.poll p waker).2.2.routing = s.routing :=
  routing_kept (f := fun s => (s.poll p waker).2.2) fun ρ => congrArg (·.2.2) (poll_withRouting s ρ p waker)

theorem receive_withRouting (s : State) (ρ : Routing) (i : Nat) :
    (s.withRouting ρ).receive i = ((s.receive i).1,(s.receive i).2.withRouting ρ) := by
  have found : ((s.withRouting ρ).receivers.get? i).bind (fun c => ((s.withRouting ρ).channel? c).map (fun channel => (c, channel))) =
      (s.receivers.get? i).bind (fun c => (s.channel? c).map (fun channel => (c, channel))) := rfl
  simp only [receive,found]
  cases (s.receivers.get? i).bind (fun c => (s.channel? c).map (fun channel => (c, channel))) <;> rfl

theorem pollSlot_withRouting (s : State) (ρ : Routing) (i : Nat) (x : Slot) (waker : Waker) :
    (s.withRouting ρ).pollSlot i x waker = ((s.pollSlot i x waker).1,(s.pollSlot i x waker).2.withRouting ρ) := by
  simp only [pollSlot,poll_withRouting]
  rcases s.poll x.promise waker with ⟨_ | _ | _,p,t⟩ <;> rfl

theorem readDetails_withRouting (s : State) (ρ : Routing) (hook : Option Hook) (errors : ThreadErrors) :
    (s.withRouting ρ).readDetails hook errors =
      ((s.readDetails hook errors).1,(s.readDetails hook errors).2.withRouting ρ) := by
  cases hook with
  | none => rfl
  | some hook =>
    simp only [readDetails]
    rcases ErrorDetails.ofReport (hook.report errors) with ⟨_,_ | _⟩ <;> rfl

theorem callbackDetails_withRouting (s : State) (ρ : Routing) (hook : Option Hook) (code : Int32) (errors : ThreadErrors) :
    (s.withRouting ρ).callbackDetails hook code errors =
      ((s.callbackDetails hook code errors).1,(s.callbackDetails hook code errors).2.withRouting ρ) := by
  simp only [callbackDetails]
  split
  · rfl
  · exact readDetails_withRouting _ _ _ _

theorem callbackDetails_routing (s : State) (hook : Option Hook) (code : Int32) (errors : ThreadErrors) :
    (s.callbackDetails hook code errors).2.routing = s.routing :=
  routing_kept (f := fun s => (s.callbackDetails hook code errors).2) fun ρ =>
    congrArg Prod.snd (callbackDetails_withRouting s ρ hook code errors)

theorem register_withRouting (s : State) (ρ : Routing) (b : Nat) :
    (s.withRouting ρ).register b = ((s.register b).1,(s.register b).2.withRouting ρ) := by
  simp only [register,bridge?_withRouting]
  cases s.bridge? b with
  | none => rfl
  | some bridge =>
    simp only [draw_withRouting]
    rcases s.draw bridge.registry with ⟨_ | h,t⟩
    · rfl
    · simp only [enter_withRouting]
      rcases t.enter bridge.registry h with ⟨_ | _,u⟩ <;> rfl

theorem register_routing (s : State) (b : Nat) : (s.register b).2.routing = s.routing :=
  routing_kept (f := fun s => (s.register b).2) fun ρ => congrArg Prod.snd (register_withRouting s ρ b)

theorem unwind_withRouting (s : State) (ρ : Routing) (r : Nat) (op : Operation) (p : Panic) :
    (s.withRouting ρ).unwind r op p = ((s.unwind r op p).1,(s.unwind r op p).2.withRouting ρ) := by
  simp only [unwind,evict_withRouting]
  rcases s.evict r op.handle .unwound with ⟨_ | _,t⟩ <;> rfl

theorem refusal_withRouting (s : State) (ρ : Routing) (bridge : Bridge) (op : Operation) (status : Int32) :
    (s.withRouting ρ).refusal bridge op status =
      ((s.refusal bridge op status).1,(s.refusal bridge op status).2.withRouting ρ) := by
  have errors : (s.withRouting ρ).ownErrors = s.ownErrors := rfl
  simp only [refusal,errors,readDetails_withRouting]
  rfl

theorem reject_withRouting (s : State) (ρ : Routing) (bridge : Bridge) (op : Operation) (status : Int32) :
    (s.withRouting ρ).reject bridge op status = ((s.reject bridge op status).1,(s.reject bridge op status).2.withRouting ρ) := by
  simp only [reject,evict_withRouting]
  rcases s.evict bridge.registry op.handle (.rejected status) with ⟨_ | found,t⟩
  · rfl
  · have noted : (if found then t.withRouting ρ else (t.withRouting ρ).note (.lateRejection op.handle status)) =
        (if found then t else t.note (.lateRejection op.handle status)).withRouting ρ := by
      cases found <;> rfl
    simp only [noted,refusal_withRouting]

theorem settle_withRouting (s : State) (ρ : Routing) (bridge : Bridge) (op : Operation) (decoder : Decoder)
    (ending : Except Panic Int32) : (s.withRouting ρ).settle bridge op decoder ending =
      ((s.settle bridge op decoder ending).1,(s.settle bridge op decoder ending).2.withRouting ρ) := by
  cases ending with
  | error p => exact unwind_withRouting _ _ _ _ _
  | ok status =>
    simp only [settle]
    split
    · rfl
    · exact reject_withRouting _ _ _ _ _

theorem settle_routing (s : State) (bridge : Bridge) (op : Operation) (decoder : Decoder) (ending : Except Panic Int32) :
    (s.settle bridge op decoder ending).2.routing = s.routing :=
  routing_kept (f := fun s => (s.settle bridge op decoder ending).2) fun ρ => congrArg Prod.snd (settle_withRouting s ρ bridge op decoder ending)

theorem keep_withRouting (s : State) (ρ : Routing) (b : Nat) (outcome : Except Panic Promise) :
    (s.withRouting ρ).keep b outcome = ((s.keep b outcome).1,(s.keep b outcome).2.withRouting ρ) := by
  cases outcome <;> rfl

theorem withTimeout_withRouting (s : State) (ρ : Routing) (p : Promise) (after : Duration) :
    (s.withRouting ρ).withTimeout p after = ((s.withTimeout p after).1,(s.withTimeout p after).2.withRouting ρ) := by
  simp only [withTimeout,poll_withRouting]
  rcases s.poll p .quiet with ⟨_ | _ | _,q,t⟩ <;> simp only [forget_withRouting]
  exact congrArg (Prod.mk _) (forget_withRouting (t.note _) ρ q)

theorem await_withRouting (s : State) (ρ : Routing) (p : Promise) :
    (s.withRouting ρ).await p = ((s.await p).1,(s.await p).2.withRouting ρ) := by
  simp only [await,poll_withRouting]
  rcases s.poll p .quiet with ⟨_ | _ | _,q,t⟩ <;> simp only [forget_withRouting]

theorem awaitAtMost_withRouting (s : State) (ρ : Routing) (p : Promise) (limit : Option Duration) :
    (s.withRouting ρ).awaitAtMost p limit = ((s.awaitAtMost p limit).1,(s.awaitAtMost p limit).2.withRouting ρ) := by
  cases limit with
  | none => exact await_withRouting _ _ _
  | some after => simp only [awaitAtMost,withTimeout_withRouting]

theorem awaitAtMost_routing (s : State) (p : Promise) (limit : Option Duration) : (s.awaitAtMost p limit).2.routing = s.routing :=
  routing_kept (f := fun s => (s.awaitAtMost p limit).2) fun ρ => congrArg Prod.snd (awaitAtMost_withRouting s ρ p limit)

theorem wait_withRouting (s : State) (ρ : Routing) (p : Promise) :
    (s.withRouting ρ).wait p = ((s.wait p).1,(s.wait p).2.withRouting ρ) := by
  have driven : (s.withRouting ρ).driven = s.driven := rfl
  simp only [wait,driven,forget_withRouting]
  split
  · rfl
  · exact awaitAtMost_withRouting _ _ _ _

theorem forgetAll_withRouting (ps : List Promise) (s : State) (ρ : Routing) :
    ps.foldl forget (s.withRouting ρ) = (ps.foldl forget s).withRouting ρ := by
  induction ps generalizing s with
  | nil => rfl
  | cons p rest ih =>
    rw [List.foldl_cons,forget_withRouting,ih]
    rfl

theorem awaitAll_withRouting (ps : List Promise) (s : State) (ρ : Routing) :
    awaitAll ps (s.withRouting ρ) = ((awaitAll ps s).1,(awaitAll ps s).2.withRouting ρ) := by
  induction ps generalizing s with
  | nil => rfl
  | cons p rest ih =>
    simp only [awaitAll,wait_withRouting]
    rcases s.wait p with ⟨_ | _ | _,t⟩
    · simp only [forgetAll_withRouting]
    · exact ih t
    · simp only [ih]

theorem awaitAll_routing (ps : List Promise) (s : State) : (awaitAll ps s).2.routing = s.routing :=
  routing_kept (f := fun s => (awaitAll ps s).2) fun ρ => congrArg Prod.snd (awaitAll_withRouting ps s ρ)

theorem waitSlot_withRouting (s : State) (ρ : Routing) (i : Nat) (x : Slot) :
    (s.withRouting ρ).waitSlot i x = ((s.waitSlot i x).1,(s.waitSlot i x).2.withRouting ρ) := by
  have blocked : (s.withRouting ρ).wouldBlock x = s.wouldBlock x := rfl
  have waited : ((s.withRouting ρ).clearSlot i).wait x.promise = _ := wait_withRouting (s.clearSlot i) ρ x.promise
  simp only [waitSlot,blocked,waited]
  split
  · rfl
  · rcases (s.clearSlot i).wait x.promise with ⟨_ | _ | _,t⟩ <;> rfl

theorem waitSlot_routing (s : State) (i : Nat) (x : Slot) : (s.waitSlot i x).2.routing = s.routing :=
  routing_kept (f := fun s => (s.waitSlot i x).2) fun ρ => congrArg Prod.snd (waitSlot_withRouting s ρ i x)

theorem limitSlot_withRouting (s : State) (ρ : Routing) (i : Nat) (x : Slot) (after : Duration) :
    (s.withRouting ρ).limitSlot i x after = ((s.limitSlot i x after).1,(s.limitSlot i x after).2.withRouting ρ) := by
  have driven : (s.withRouting ρ).driven = s.driven := rfl
  have cleared : (s.withRouting ρ).clearSlot i = (s.clearSlot i).withRouting ρ := rfl
  simp only [limitSlot,driven,cleared,forget_withRouting,withTimeout_withRouting]
  split <;> rfl

theorem limitSlot_routing (s : State) (i : Nat) (x : Slot) (after : Duration) : (s.limitSlot i x after).2.routing = s.routing :=
  routing_kept (f := fun s => (s.limitSlot i x after).2) fun ρ => congrArg Prod.snd (limitSlot_withRouting s ρ i x after)

theorem answer_withRouting (s : State) (ρ : Routing) (result : Result) (during : Option (List Answer)) :
    (s.withRouting ρ).answer result during = ((s.answer result during).1,(s.answer result during).2.withRouting ρ) := rfl

theorem leaveBehind_withRouting (s : State) (ρ : Routing) (r : Nat) (ops : List Operation) :
    (s.withRouting ρ).leaveBehind r ops = (s.leaveBehind r ops).withRouting ρ := by
  induction ops generalizing s with
  | nil => rfl
  | cons op rest ih => exact ih (s.note (.left r op .leftBehind))

theorem hangUpAll_withRouting (s : State) (ρ : Routing) (r : Nat) (ops : List Operation) :
    hangUpAll r ops (s.withRouting ρ) = ((hangUpAll r ops s).1,(hangUpAll r ops s).2.withRouting ρ) := by
  induction ops generalizing s with
  | nil => rfl
  | cons op rest ih =>
    have first : ((s.withRouting ρ).note (.left r op .registryClosed)).hangUp op.channel =
        (((s.note (.left r op .registryClosed)).hangUp op.channel).1,
          ((s.note (.left r op .registryClosed)).hangUp op.channel).2.withRouting ρ) := hangUp_withRouting (s.note (.left r op .registryClosed)) ρ op.channel
    simp only [hangUpAll,first]
    rcases (s.note (.left r op .registryClosed)).hangUp op.channel with ⟨p | ⟨⟩,t⟩
    · exact Prod.ext rfl (leaveBehind_withRouting t ρ r rest)
    · exact ih t

theorem endRegistry_withRouting (s : State) (ρ : Routing) (r : Nat) (order : List Operation) :
    (s.withRouting ρ).endRegistry r order = ((s.endRegistry r order).1,(s.endRegistry r order).2.withRouting ρ) := by
  simp only [endRegistry, registry?_withRouting]
  cases s.registry? r with
  | none => rfl
  | some registry => exact hangUpAll_withRouting (s.putRegistry r registry.clear) ρ r order

theorem release_withRouting (s : State) (ρ : Routing) (r : Nat) (owners : (s.withRouting ρ).owned r = s.owned r) :
    (s.withRouting ρ).release r = ((s.release r).1,(s.release r).2.withRouting ρ) := by
  simp only [release,owners]
  cases s.owned r with
  | true => rfl
  | false => exact endRegistry_withRouting s ρ r (s.pendingIn r)

theorem release_routing (s : State) (r : Nat) : (s.release r).2.routing = s.routing :=
  congrArg (fun x => routing x.2) (release_withRouting s s.routing r rfl)

theorem poll_turnAndBridges (s : State) (p : Promise) (waker : Waker) :
    (s.poll p waker).2.2.bridges = s.bridges ∧ (s.turn = none → (s.poll p waker).2.2.turn = none) := by
  have took (t : State) (c decoder o) : (t.take p c decoder o).2.2.turnAndBridges = t.turnAndBridges := by
    rcases take_state t p c decoder o with same | noted
    · rw [same]
    · rw [noted]
      rfl
  have spent (t : State) (still : t.turn = none) : t.spend.turn = none := by simp only [spend,still,Option.map_none]
  unfold poll
  repeat' split
  all_goals first
    | exact ⟨rfl,id⟩
    | exact ⟨rfl,spent _⟩
    | exact ⟨congrArg Prod.snd (took _ _ _ _),fun still => (congrArg Prod.fst (took _ _ _ _)).trans (spent _ still)⟩

-- Who has a bridge in use, besides actors and the binding.
def standing (s : State) (b : Nat) : Option (Bool × Nat) :=
  (s.bridge? b).map (fun bridge => (bridge.listed, bridge.running))

theorem standing_bridges (same : t.bridges = s.bridges) : t.standing = s.standing := by
  funext b
  rw [standing,standing,bridge?,bridge?,same]

theorem dispatch_turnAndBridges (s : State) (b : Nat) (d : Delivery) :
    (s.dispatch b d).2.turn = s.turn ∧ (s.dispatch b d).2.standing = s.standing := by
  have counted (t : State) (f : Stats → Stats) : (t.changeStats b f).standing = t.standing := by
    funext a
    simp only [standing,bridge?,changeStats,changeBridge,Table.get?_modify]
    split
    · cases t.bridges.get? a <;> rfl
    · rfl
  cases known : s.bridge? b with
  | none =>
    rw [dispatch_unknown known]
    exact ⟨rfl,rfl⟩
  | some bridge =>
    rcases dispatch_cases known d with ⟨_,ran⟩ | ⟨_,_,_,_,_,⟨_,_,ran⟩ | ⟨_,ran⟩⟩
    · rw [ran]
      exact ⟨rfl,counted s _⟩
    · rw [ran]
      exact ⟨rfl,counted _ _⟩
    · rw [ran]
      exact ⟨rfl,(counted (changeStats _ _ _) _).trans (counted _ _)⟩

-- What is there from the start are bridges and registries.
theorem start_rest (attendance : Attendance) (firsts : List Int32) (plans : List BridgePlan) :
    State.start attendance firsts plans =
      { State.empty attendance firsts with
        registries := (State.start attendance firsts plans).registries
        bridges := (State.start attendance firsts plans).bridges } := by
  have composable : Composable fun s t => t = { s with registries := t.registries, bridges := t.bridges } :=
    ⟨fun _ => rfl,fun {_ _ u} first second =>
      second.trans (congrArg (fun v : State => { v with registries := u.registries, bridges := u.bridges }) first)⟩
  refine composable.start (fun s plan => ?_) attendance firsts plans
  unfold addBridge
  split <;> rfl

end State

end PendingCalls.Session
