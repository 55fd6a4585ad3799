import PendingCalls.Proofs.Equivariance

-- A script under other names: every step of it answers the same under the new names.

namespace PendingCalls.Session

theorem HandleRef.resolve_renamed (σ : Renaming) (own : Handle) (h : HandleRef) :
    (h.renamed σ).resolve (σ.handle own) = σ.handle (h.resolve own) := by
  cases h <;> rfl

theorem renamedAnswers_map (σ : Renaming) (answers : List Answer) : renamedAnswers σ answers = answers.map (Answer.renamed σ) := by
  induction answers with
  | nil => rfl
  | cons answer rest ih => rw [renamedAnswers,ih,List.map_cons]

theorem renamedSteps_map (σ : Renaming) (steps : List Step) : renamedSteps σ steps = steps.map (Step.renamed σ) := by
  induction steps with
  | nil => rfl
  | cons step rest ih => rw [renamedSteps,ih,List.map_cons]

namespace State

variable (σ : Renaming) (s : State)

theorem ofExcept_renamed {f : α → Result} {g : β → Result} {k : α → β} (same : ∀ x, g (k x) = (f x).renamed σ)
    (x : Except Panic α) : ofExcept g (σ.outcome k x) = (ofExcept f x).renamed σ := by
  cases x with
  | error p => rfl
  | ok x => exact same x

theorem onBridge_renamed {f g : Bridge → Result × State} (b : Nat)
    (same : ∀ bridge, g bridge.aside = ((f bridge).1.renamed σ,(f bridge).2.renamed σ)) :
    (s.renamed σ).onBridge b g = ((s.onBridge b f).1.renamed σ,(s.onBridge b f).2.renamed σ) := by
  simp only [onBridge,listed?_renamed]
  cases s.listed? b with
  | none => rfl
  | some bridge => exact same bridge

theorem onSlot_renamed {f g : Slot → Result × State} (i : Nat)
    (same : ∀ x, g (x.renamed σ) = ((f x).1.renamed σ,(f x).2.renamed σ)) :
    (s.renamed σ).onSlot i g = ((s.onSlot i f).1.renamed σ,(s.onSlot i f).2.renamed σ) := by
  simp only [onSlot,slot?_renamed]
  cases s.slot? i with
  | none => rfl
  | some x => exact same x

theorem onRuntime_renamed {f g : State → Result × State}
    (same : g (s.renamed σ) = ((f s).1.renamed σ,(f s).2.renamed σ)) :
    (s.renamed σ).onRuntime g = ((s.onRuntime f).1.renamed σ,(s.onRuntime f).2.renamed σ) := by
  have driven : (s.renamed σ).driven = s.driven := rfl
  simp only [onRuntime,driven]
  split
  · rfl
  · exact same

theorem clearSlot_renamed (i : Nat) : (s.renamed σ).clearSlot i = (s.clearSlot i).renamed σ := by
  simp only [clearSlot,renamed,Table.map_set]
  rfl

theorem finish_renamed (b : Nat) (r : Result) :
    (s.renamed σ).finish b (r.renamed σ) = ((s.finish b r).1.renamed σ,(s.finish b r).2.renamed σ) := by
  simp only [finish,letGo_renamed]
  rcases s.letGo b with ⟨_ | _,t⟩ <;> rfl

theorem keep_renamed (b : Nat) (outcome : Except Panic Promise) :
    (s.renamed σ).keep b (σ.outcome (Promise.renamed σ) outcome) =
      ((s.keep b outcome).1.renamed σ,(s.keep b outcome).2.renamed σ) := by
  cases outcome with
  | error p => rfl
  | ok p =>
    have size : (s.renamed σ).slots.size = s.slots.size := Table.size_map _ _
    have resolved : (p.renamed σ).isResolved = p.isResolved := by
      obtain ⟨h,timeout,(_ | _) | _⟩ := p <;> rfl
    have pushed : (s.renamed σ).slots.push (some ⟨b,p.renamed σ⟩) =
        (s.slots.push (some ⟨b,p⟩)).map (Option.map (Slot.renamed σ)) := (Table.map_push (Option.map (Slot.renamed σ)) s.slots (some ⟨b,p⟩)).symm
    simp only [keep,Renaming.outcome,size,resolved,pushed]
    rfl

theorem submitted_renamed (b : Nat) (sub : Submission Unit) :
    submitted b (sub.renamed σ id) = ((submitted b sub).1.renamed σ,(submitted b sub).2.renamed σ) := by
  simp only [submitted,Submission.renamed,keep_renamed,completeAll_renamed,finish_renamed]

theorem insertFresh_renamed (b : Nat) (h : Handle) (keep : Bool) :
    (s.renamed σ).insertFresh b (σ.handle h) keep =
      ((s.insertFresh b h keep).1.renamed σ,(s.insertFresh b h keep).2.renamed σ) := by
  have size : (s.renamed σ).channels.size = s.channels.size := rfl
  have received : (s.renamed σ).addReceiver s.channels.size = (s.addReceiver s.channels.size).renamed σ := rfl
  have entered (t : State) (bridge : Bridge) : (t.renamed σ).enter bridge.aside.registry (σ.handle h) = _ :=
    enter_renamed σ t bridge.registry h
  cases keep with
  | false =>
    simp only [insertFresh,Bool.false_eq_true,if_false,listed?_renamed]
    cases s.listed? b with
    | none => rfl
    | some bridge =>
      simp only [Option.map_some,entered]
      rcases s.enter bridge.registry h with ⟨_ | op,t⟩ <;> rfl
  | true =>
    simp only [insertFresh,size,received,if_true,listed?_renamed]
    cases (s.addReceiver s.channels.size).listed? b with
    | none => rfl
    | some bridge =>
      simp only [Option.map_some,entered]
      rcases (s.addReceiver s.channels.size).enter bridge.registry h with ⟨_ | op,t⟩ <;> rfl

theorem receive_renamed (i : Nat) : (s.renamed σ).receive i = ((s.receive i).1.renamed σ,(s.receive i).2.renamed σ) := by
  have receivers : (s.renamed σ).receivers = s.receivers := rfl
  simp only [receive,receivers,channel?_renamed]
  cases (s.receivers.get? i).bind fun c => (s.channel? c).map fun channel => (c,channel) <;> rfl

theorem putSlot_renamed (i : Nat) (x : Slot) :
    { s.renamed σ with slots := (s.renamed σ).slots.set i (some (x.renamed σ)) } =
      { s with slots := s.slots.set i (some x) }.renamed σ := by
  simp only [renamed,Table.map_set]
  rfl

theorem pollSlot_renamed (i : Nat) (x : Slot) (waker : Waker) :
    (s.renamed σ).pollSlot i (x.renamed σ) waker =
      ((s.pollSlot i x waker).1.renamed σ,(s.pollSlot i x waker).2.renamed σ) := by
  have polled : (s.renamed σ).poll (x.renamed σ).promise waker = _ := poll_renamed σ s x.promise waker
  simp only [pollSlot,polled]
  rcases s.poll x.promise waker with ⟨_ | result | panic,p,t⟩
  all_goals exact Prod.ext rfl (putSlot_renamed σ t i ⟨x.bridge,p⟩)

theorem wouldBlock_renamed (x : Slot) : (s.renamed σ).wouldBlock (x.renamed σ) = s.wouldBlock x := by
  have bridge : (s.renamed σ).bridge? (x.renamed σ).bridge = _ := bridge?_renamed σ s x.bridge
  simp only [wouldBlock,bridge]
  cases s.bridge? x.bridge with
  | none => rfl
  | some bridge =>
    have pending : (State.registry? (s.renamed σ) bridge.aside.registry).map (·.contains (x.renamed σ).promise.handle) = _ :=
      pending_renamed σ s bridge.registry x.promise.handle
    simp only [Option.map_some,pending]
    rfl

theorem waitSlot_renamed (i : Nat) (x : Slot) :
    (s.renamed σ).waitSlot i (x.renamed σ) = ((s.waitSlot i x).1.renamed σ,(s.waitSlot i x).2.renamed σ) := by
  have waited : ((s.renamed σ).clearSlot i).wait (x.renamed σ).promise = _ :=
    (congrArg (wait · _) (clearSlot_renamed σ s i)).trans (wait_renamed σ (s.clearSlot i) x.promise)
  simp only [waitSlot,wouldBlock_renamed,waited]
  split
  · rfl
  · rcases (s.clearSlot i).wait x.promise with ⟨_ | _ | result,t⟩ <;> rfl

theorem limitSlot_renamed (i : Nat) (x : Slot) (after : Duration) :
    (s.renamed σ).limitSlot i (x.renamed σ) after =
      ((s.limitSlot i x after).1.renamed σ,(s.limitSlot i x after).2.renamed σ) := by
  have driven : (s.renamed σ).driven = s.driven := rfl
  have limited : ((s.renamed σ).clearSlot i).withTimeout (x.renamed σ).promise after = _ :=
    (congrArg (withTimeout · _ after) (clearSlot_renamed σ s i)).trans (withTimeout_renamed σ (s.clearSlot i) x.promise after)
  have forgotten : ((s.renamed σ).clearSlot i).forget (x.renamed σ).promise = _ :=
    (congrArg (forget · _) (clearSlot_renamed σ s i)).trans (forget_renamed σ (s.clearSlot i) x.promise)
  simp only [limitSlot,driven,limited,forgotten]
  split
  · rfl
  · exact Prod.ext (ofExcept_renamed σ (f := .settled) (g := .settled) (k := σ.result) (fun _ => rfl) _) rfl

theorem awaitAll_renamed (ps : List Promise) :
    awaitAll (ps.map (Promise.renamed σ)) (s.renamed σ) =
      (σ.outcome (List.map σ.result) (awaitAll ps s).1,(awaitAll ps s).2.renamed σ) := by
  have forgotten (ps : List Promise) (s : State) :
      (ps.map (Promise.renamed σ)).foldl forget (s.renamed σ) = (ps.foldl forget s).renamed σ := by
    rw [List.foldl_map]
    exact List.foldl_hom (renamed σ) fun t p => forget_renamed σ t p
  induction ps generalizing s with
  | nil => rfl
  | cons p rest ih =>
    simp only [List.map_cons,awaitAll,wait_renamed]
    rcases s.wait p with ⟨_ | _ | result,t⟩
    · exact Prod.ext rfl (forgotten rest t)
    · exact ih t
    · simp only [Renaming.outcome,Option.map_some,ih]
      cases (awaitAll rest t).1 <;> rfl

theorem submitEchoes_renamed (b count i : Nat) (collected : List Promise) :
    submitEchoes b count i (collected.map (Promise.renamed σ)) (s.renamed σ) =
      (σ.outcome (List.map (Promise.renamed σ)) (submitEchoes b count i collected s).1,
        (submitEchoes b count i collected s).2.renamed σ) := by
  induction count generalizing i collected s with
  | zero =>
    simp only [submitEchoes,← List.map_reverse]
    rfl
  | succ count ih =>
    simp only [submitEchoes,request_renamed]
    rcases s.request b (.echo ("call " ++ toString i)) with _ | ⟨_ | p,extra,t⟩
    · simp only [Except.map,← List.map_reverse]
      rfl
    · rfl
    · simp only [Except.map,Submission.renamed,Renaming.outcome,completeAll_renamed]
      exact ih t.completeAll (i + 1) (p :: collected)

theorem stress_renamed (b count : Nat) :
    (s.renamed σ).stress b count = ((s.stress b count).1.renamed σ,(s.stress b count).2.renamed σ) := by
  have echoed : submitEchoes b count 0 [] ((s.renamed σ).hold b) = _ :=
    (congrArg (submitEchoes b count 0 []) (hold_renamed σ s b)).trans (submitEchoes_renamed σ (s.hold b) b count 0 [])
  simp only [stress,echoed]
  rcases submitEchoes b count 0 [] (s.hold b) with ⟨p | promises,t⟩
  · have panicked := finish_renamed σ t.completeAll b (.panicked p)
    simp only [Renaming.outcome_error,completeAll_renamed]
    exact panicked
  · have awaited := awaitAll_renamed σ t promises
    simp only [Renaming.outcome_ok,awaited]
    have results := ofExcept_renamed σ (f := .stressed (promises.map Promise.handle))
      (g := .stressed ((promises.map (Promise.renamed σ)).map Promise.handle)) (k := List.map σ.result) (fun results => by
        simp only [Result.renamed,List.map_map]
        rfl) (awaitAll promises t).1
    rw [results]
    exact finish_renamed σ _ b _

end State

open State in
theorem Action.run_renamed (σ : Renaming) (own : Handle) (s : State) (a : Action) :
    (a.renamed σ).run (σ.handle own) (s.renamed σ) = ((a.run own s).1.renamed σ,(a.run own s).2.renamed σ) := by
  cases a with
  | dispatch b h o =>
    refine onBridge_renamed σ s b fun bridge => ?_
    have ran : (s.renamed σ).dispatch b ⟨σ.handle (h.resolve own),o.code,o.payload,o.details⟩ = _ :=
      dispatch_renamed σ s b ⟨h.resolve own,o.code,o.payload,o.details⟩
    rw [HandleRef.resolve_renamed,ran]
    exact Prod.ext (ofExcept_renamed σ (f := .dispatched) (g := .dispatched) (k := id) (fun _ => rfl) _) rfl
  | abandon b h =>
    refine onBridge_renamed σ s b fun bridge => ?_
    have ran : (s.renamed σ).abandon bridge.aside.registry (σ.handle (h.resolve own)) = _ :=
      evict_renamed σ s bridge.registry (h.resolve own) rfl
    rw [HandleRef.resolve_renamed,ran]
    exact Prod.ext (ofExcept_renamed σ (f := .flag) (g := .flag) (k := id) (fun _ => rfl) _) rfl
  | isPending b h =>
    refine onBridge_renamed σ s b fun bridge => ?_
    have pending : (State.registry? (s.renamed σ) bridge.aside.registry).map (·.contains (σ.handle (h.resolve own))) = _ :=
      pending_renamed σ s bridge.registry (h.resolve own)
    rw [HandleRef.resolve_renamed,pending]
    rfl
  | stats b => exact onBridge_renamed σ s b fun bridge => rfl
  | config b => exact onBridge_renamed σ s b fun bridge => rfl
  | allocate b =>
    refine onBridge_renamed σ s b fun bridge => ?_
    have drew : (s.renamed σ).draw bridge.aside.registry = _ := draw_renamed σ s bridge.registry
    rw [drew]
    rcases s.draw bridge.registry with ⟨_ | h,t⟩ <;> rfl
  | insert b h keep =>
    simp only [Action.run,Action.renamed,HandleRef.resolve_renamed]
    exact insertFresh_renamed σ s b (h.resolve own) keep
  | receive i => exact receive_renamed σ s i
  | dropBridge b =>
    simp only [Action.run,Action.renamed,listed?_renamed,dropBridge_renamed]
    cases s.listed? b with
    | none => rfl
    | some bridge =>
      exact Prod.ext (ofExcept_renamed σ (f := fun _ => .nothing) (g := fun _ => .nothing) (k := id) (fun _ => rfl) _) rfl
  | tell report => rfl
  | handle i => exact onSlot_renamed σ s i fun x => rfl
  | isResolved i =>
    refine onSlot_renamed σ s i fun x => ?_
    obtain ⟨b,h,timeout,(_ | _) | _⟩ := x <;> rfl
  | poll i waker => exact onSlot_renamed σ s i fun x => pollSlot_renamed σ s i x waker
  | wait i => exact onSlot_renamed σ s i fun x => waitSlot_renamed σ s i x
  | withTimeout i after => exact onSlot_renamed σ s i fun x => limitSlot_renamed σ s i x after
  | dropSlot i =>
    refine onSlot_renamed σ s i fun x => Prod.ext rfl ?_
    exact (congrArg (forget · _) (clearSlot_renamed σ s i)).trans (forget_renamed σ (s.clearSlot i) x.promise)
  | spawnActor b =>
    refine onBridge_renamed σ s b fun bridge => onRuntime_renamed σ s ?_
    simp only [spawnActor_renamed]
    rfl
  | actorDeliver a h o =>
    have posted : (s.renamed σ).post a (.deliver ⟨σ.handle (h.resolve own),o.code,o.payload,o.details⟩) = _ :=
      post_renamed σ s a (.deliver ⟨h.resolve own,o.code,o.payload,o.details⟩)
    simp only [Action.run,Action.renamed,HandleRef.resolve_renamed,posted]
    rcases s.post a (.deliver ⟨h.resolve own,o.code,o.payload,o.details⟩) with ⟨_ | _,t⟩ <;> rfl
  | actorStats a =>
    simp only [Action.run,Action.renamed]
    refine onRuntime_renamed σ s ?_
    have posted : (s.renamed σ).post a (.report true) = _ := post_renamed σ s a (.report true)
    rw [posted]
    rcases s.post a (.report true) with ⟨(_ | _) | _,t⟩ <;> rfl
  | actorStatsAbandoned a =>
    have posted : (s.renamed σ).post a (.report false) = _ := post_renamed σ s a (.report false)
    simp only [Action.run,Action.renamed,posted]
    rcases s.post a (.report false) with ⟨_ | _,t⟩ <;> rfl
  | actorStop a =>
    simp only [Action.run,Action.renamed,actor?_renamed,stopActor_renamed]
    cases s.actor? a with
    | none => rfl
    | some actor =>
      have running : (actor.renamed σ).running = actor.running := rfl
      simp only [Option.map_some,running]
      cases actor.running with
      | false => rfl
      | true =>
        exact Prod.ext (ofExcept_renamed σ (f := fun _ => .flag true) (g := fun _ => .flag true) (k := id) (fun _ => rfl) _) rfl
  | attend a =>
    simp only [Action.run,Action.renamed,attend_renamed]
    cases (s.attend a).1 <;> rfl
  | bind b =>
    refine onBridge_renamed σ s b fun bridge => ?_
    rw [bindDirect_renamed]
    cases s.bindDirect b <;> rfl
  | bindActor b =>
    refine onBridge_renamed σ s b fun bridge => onRuntime_renamed σ s ?_
    rw [bindActor_renamed]
    rcases s.bindActor b with ⟨_ | a,t⟩ <;> rfl
  | isInstalled => rfl
  | callback h code arguments =>
    simp only [Action.run,Action.renamed,HandleRef.resolve_renamed]
    exact Prod.ext rfl (callBackNow_renamed σ s ⟨h.resolve own,code,arguments⟩)
  | land place => exact Prod.ext rfl (land_renamed σ s place)
  | request b r =>
    refine onBridge_renamed σ s b fun bridge => ?_
    have requested : ((s.renamed σ).hold b).request b r = _ :=
      (congrArg (State.request · b r) (hold_renamed σ s b)).trans (request_renamed σ (s.hold b) b r)
    rw [requested]
    cases (s.hold b).request b r with
    | error position => rfl
    | ok sub => exact submitted_renamed σ b sub
  | native b call other decoder =>
    refine onBridge_renamed σ s b fun bridge => ?_
    have told : (other.map (HandleRef.renamed σ)).map (·.resolve (σ.handle own)) = (other.map (·.resolve own)).map σ.handle := by
      cases other with
      | none => rfl
      | some h => exact congrArg some (HandleRef.resolve_renamed σ own h)
    have called : ((s.renamed σ).hold b).submitNative b call ((other.map (·.resolve own)).map σ.handle) decoder = _ :=
      (congrArg (submitNative · b call _ decoder) (hold_renamed σ s b)).trans (submitNative_renamed σ (s.hold b) b call _ decoder)
    rw [told,called]
    exact submitted_renamed σ b _
  | stress b count => exact onBridge_renamed σ s b fun bridge => stress_renamed σ s b count

namespace State

variable (σ : Renaming) (s : State)

theorem gauges_renamed : (s.renamed σ).gauges = s.gauges := by
  have bridges : (s.renamed σ).bridges.toList = s.bridges.toList.map Bridge.aside := Table.toList_map _ _
  rw [gauges,gauges,bridges,List.map_map]
  refine List.map_congr_left fun bridge _ => ?_
  have row : State.registry? (s.renamed σ) bridge.aside.registry = _ := registry?_renamed σ s bridge.registry
  simp only [Function.comp_apply,gauge,row,Option.map_map]
  have size : Registry.size ∘ Registry.renamed σ = Registry.size := funext fun registry => Registry.size_renamed σ registry
  rw [size]
  rfl

theorem unreported_renamed : (s.renamed σ).unreported = s.unreported.map (Event.renamed σ) := by
  have length : (s.renamed σ).journal.length = s.journal.length := List.length_map _
  have reported : (s.renamed σ).reported = s.reported := rfl
  rw [unreported,unreported,length,reported,List.map_reverse,List.map_take]
  rfl

theorem answer_renamed (r : Result) (during : Option (List Answer)) :
    (s.renamed σ).answer (r.renamed σ) (renamedDuring σ during) =
      ((s.answer r during).1.renamed σ,(s.answer r during).2.renamed σ) := by
  have length : (s.renamed σ).journal.length = s.journal.length := List.length_map _
  simp only [answer,gauges_renamed,unreported_renamed,length,Answer.renamed]
  rfl

theorem endCall_renamed (b : Nat) (r : Result) (extra : Option (List Answer)) :
    (s.renamed σ).endCall b (r.renamed σ) (extra.map (renamedAnswers σ)) =
      ((s.endCall b r extra).1.renamed σ,(s.endCall b r extra).2.renamed σ) := by
  have during : (extra.map (renamedAnswers σ)).bind (fun answers => if answers.isEmpty then none else some answers) =
      renamedDuring σ (extra.bind fun answers => if answers.isEmpty then none else some answers) := by
    rcases extra with _ | _ | ⟨answer,rest⟩ <;> simp [renamedAnswers,renamedDuring]
  simp only [endCall,finish_renamed,during]
  exact answer_renamed σ _ _ _

theorem submitScript_renamed {native other : Handle → State → NativeRun (List Answer)}
    (same : ∀ h t, other (σ.handle h) (t.renamed σ) = (native h t).renamed σ (renamedAnswers σ)) (b : Nat) (decoder : Decoder) :
    (s.renamed σ).submitScript b other decoder =
      ((s.submitScript b native decoder).1.renamed σ,(s.submitScript b native decoder).2.renamed σ) := by
  have submitted : ((s.renamed σ).hold b).submit b other decoder = _ :=
    (congrArg (submit · b other decoder) (hold_renamed σ s b)).trans (submit_renamed σ (s.hold b) same b decoder)
  simp only [submitScript,listed?_renamed,submitted]
  cases s.listed? b with
  | none => exact answer_renamed σ s (.panicked .bridgeGone) none
  | some bridge =>
    simp only [Option.map_some,Submission.renamed,keep_renamed]
    exact endCall_renamed σ _ b _ _

theorem inTurn_renamed {native other : Handle → State → NativeRun α} {f : α → α}
    (same : ∀ h t, other (σ.handle h) (t.renamed σ) = (native h t).renamed σ f) (h : Handle) :
    inTurn other (σ.handle h) (s.renamed σ) = (inTurn native h s).renamed σ f := by
  have ran : other (σ.handle h) { s.renamed σ with turn := some turnLength } = _ := same h { s with turn := some turnLength }
  simp only [inTurn,ran]
  rfl

theorem callScript_renamed {native other : Handle → State → NativeRun (List Answer)}
    (same : ∀ h t, other (σ.handle h) (t.renamed σ) = (native h t).renamed σ (renamedAnswers σ)) (b : Nat) (decoder : Decoder) :
    (s.renamed σ).callScript b other decoder =
      ((s.callScript b native decoder).1.renamed σ,(s.callScript b native decoder).2.renamed σ) := by
  have driven : (s.renamed σ).driven = s.driven := rfl
  have submitted : ((s.renamed σ).hold b).submit b (inTurn other) decoder = _ :=
    (congrArg (submit · b (inTurn other) decoder) (hold_renamed σ s b)).trans
      (submit_renamed σ (s.hold b) (fun h t => inTurn_renamed σ t same h) b decoder)
  simp only [callScript,listed?_renamed,driven,submitted]
  cases s.listed? b with
  | none => exact answer_renamed σ s (.panicked .bridgeGone) none
  | some bridge =>
    cases s.driven with
    | true => exact answer_renamed σ s (.panicked .nestedRuntime) none
    | false =>
      rcases (s.hold b).submit b (inTurn native) decoder with ⟨p | p,extra,t⟩
      · exact endCall_renamed σ t b (.panicked p) extra
      · have awaited : (t.renamed σ).awaitAtMost (p.renamed σ) bridge.aside.config.defaultTimeout = _ :=
          awaitAtMost_renamed σ t p bridge.config.defaultTimeout
        simp only [Option.map_some,Bool.false_eq_true,if_false,Submission.renamed,Renaming.outcome_ok,awaited]
        rcases t.awaitAtMost p bridge.config.defaultTimeout with ⟨panic | _ | result,u⟩
        · exact endCall_renamed σ u b (.panicked panic) extra
        · exact endCall_renamed σ u b .blocked extra
        · exact endCall_renamed σ u b (.settled result) extra

theorem scripted_renamed (ending : Except String Int32) (script : List Answer × State) :
    scripted ending (renamedAnswers σ script.1,script.2.renamed σ) = (scripted ending script).renamed σ (renamedAnswers σ) := by
  cases ending <;> rfl

end State

mutual

theorem Step.run_renamed (σ : Renaming) (own : Handle) (s : State) (step : Step) :
    (step.renamed σ).run (σ.handle own) (s.renamed σ) = ((step.run own s).1.renamed σ,(step.run own s).2.renamed σ) := by
  cases step with
  | act a =>
    simp only [Step.renamed,Step.run,Action.run_renamed]
    exact State.answer_renamed σ _ _ none
  | submit b decoder ending during =>
    simp only [Step.renamed,Step.run]
    refine State.submitScript_renamed σ s (fun h t => ?_) b decoder
    rw [runSteps_renamed σ h t during]
    exact State.scripted_renamed σ ending _
  | call b decoder ending during =>
    simp only [Step.renamed,Step.run]
    refine State.callScript_renamed σ s (fun h t => ?_) b decoder
    rw [runSteps_renamed σ h t during]
    exact State.scripted_renamed σ ending _

theorem runSteps_renamed (σ : Renaming) (own : Handle) (s : State) (steps : List Step) :
    runSteps (σ.handle own) (s.renamed σ) (renamedSteps σ steps) =
      (renamedAnswers σ (runSteps own s steps).1,(runSteps own s steps).2.renamed σ) := by
  cases steps with
  | nil =>
    simp only [renamedSteps,runSteps]
    rfl
  | cons step rest =>
    simp only [renamedSteps,runSteps,Step.run_renamed σ own s step,runSteps_renamed σ own (step.run own s).2 rest]
    rfl

end

end PendingCalls.Session
