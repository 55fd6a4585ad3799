import PendingCalls.Proofs.Motions
import PendingCalls.Proofs.Composition

-- Every step of a session is made of motions, and so is the way to every state that
-- a session visits, between its steps and inside of them.

namespace PendingCalls.Session

variable {license : License} {hands : List Slot}

theorem lose_all (xs : List Slot) : Motions license ⟨s,xs ++ hands⟩ ⟨s,hands⟩ := by
  induction xs with
  | nil => exact .refl
  | cons x rest ih => exact .head (.lose x) ih

namespace State

theorem motions_composable : Composable fun s t => Motions license ⟨s,hands⟩ ⟨t,hands⟩ where
  refl _ := .refl
  trans first second := first.trans second

theorem stopActor_motions (s : State) (a : Nat) : Motions license ⟨s,hands⟩ ⟨(s.stopActor a).2,hands⟩ :=
  motions_composable.stopActor release_motions (fun _ a => .single (.stop a)) s a

theorem handleMessage_motions {s t : State} (a b : Nat) (m : Message)
    (taken : Motion license ⟨s,hands⟩ ⟨match m with | .deliver d => (t.dispatch b d).2 | .report _ => t,hands⟩) :
    Motions license ⟨s,hands⟩ ⟨(t.handleMessage a b m).2,hands⟩ := by
  cases m with
  | deliver d =>
    simp only [handleMessage]
    dsimp only at taken
    split
    · rename_i ran
      rw [ran] at taken
      exact taken.motions
    · rename_i ran
      rw [ran] at taken
      exact .head taken (stopActor_motions _ _)
  | report awaited =>
    cases awaited with
    | true => exact taken.motions
    | false => exact .head taken (.single (.note rfl))

theorem attend_motions (s : State) (a : Nat) : Motions license ⟨s,hands⟩ ⟨(s.attend a).2,hands⟩ := by
  unfold attend
  split
  · rename_i b m rest accepted handled present
    refine handleMessage_motions a b m ?_
    cases m with
    | deliver d => exact .serve present rfl rfl
    | report awaited => exact .reply present rfl rfl
  · exact .refl

theorem attendMany_motions (s : State) (a turns : Nat) :
    Motions license ⟨s,hands⟩ ⟨(s.attendMany a turns).2,hands⟩ := motions_composable.attendMany attend_motions s a turns

theorem post_motions (s : State) (a : Nat) (m : Message) :
    Motions license ⟨s,hands⟩ ⟨(s.post a m).2,hands⟩ :=
  motions_composable.post attend_motions fun present running => .single (.accept present running m)

theorem readDetails_motions (s : State) (hook : Option Hook) (errors : ThreadErrors) :
    Motions license ⟨s,hands⟩ ⟨(s.readDetails hook errors).2,hands⟩ := by
  unfold readDetails
  split
  · exact .refl
  · split
    · exact .refl
    · exact .single (.note rfl)

theorem callbackDetails_motions (s : State) (hook : Option Hook) (code : Int32) (errors : ThreadErrors) :
    Motions license ⟨s,hands⟩ ⟨(s.callbackDetails hook code errors).2,hands⟩ := by
  unfold callbackDetails
  split
  · exact .refl
  · exact readDetails_motions _ _ _

theorem deliver_motions (s : State) (bound : s.binding ≠ none) (route : Route) (d : Delivery) :
    Motions license ⟨s,hands⟩ ⟨s.deliver route d,hands⟩ :=
  motions_composable.deliver (fun b => .single (.dispatch b d)) (.single (.transit bound _)) (post_motions s · _)
    (fun _ => .single (.note rfl)) route

theorem callBack_motions (s : State) (errors : ThreadErrors) (cb : Callback) :
    Motions license ⟨s,hands⟩ ⟨s.callBack errors cb,hands⟩ := by
  have kept (hook) : (s.callbackDetails hook cb.code errors).2.binding = s.binding := by
    unfold callbackDetails readDetails
    repeat' split
    all_goals rfl
  unfold callBack
  split
  · exact .single (.note rfl)
  · rename_i there
    refine (callbackDetails_motions _ _ _ _).trans (deliver_motions _ ?_ _ _)
    rw [kept,there]
    exact Option.some_ne_none _

theorem land_motions (s : State) (k : Nat) : Motions license ⟨s,hands⟩ ⟨s.land k,hands⟩ := by
  unfold land
  split
  · rename_i there
    refine .head (.transit ?_ _) (.single (.dispatch _ _))
    rw [there]
    exact Option.some_ne_none _
  · exact .refl

theorem enterLibrary_motions (s : State) (h : Handle) (call : NativeCall) :
    Motions license ⟨s,hands⟩ ⟨(s.enterLibrary h call).2,hands⟩ :=
  motions_composable.enterLibrary (fun _ _ => .single (.library _)) callBack_motions s h call

theorem succeed_motions (s : State) (h : Handle) (arguments : Arguments) :
    Motions license ⟨s,hands⟩ ⟨s.succeed h arguments,hands⟩ := callBack_motions _ _ _

theorem complete_motions (s : State) (job : Job) : Motions license ⟨s,hands⟩ ⟨s.complete job,hands⟩ :=
  motions_composable.complete (fun _ _ => .single (.library _)) callBack_motions s job

theorem completions_motions (jobs : List Job) (s : State) :
    Motions license ⟨s,hands⟩ ⟨jobs.foldl complete s,hands⟩ := motions_composable.completions complete_motions jobs s

theorem completeAll_motions (s : State) : Motions license ⟨s,hands⟩ ⟨s.completeAll,hands⟩ :=
  motions_composable.completeAll (fun _ _ => .single (.library _)) callBack_motions s

def given (b : Nat) : Except Panic Promise → List Slot
  | .ok p => [⟨b,p⟩]
  | .error _ => []

theorem settle_motions (s : State) (b : Nat) (bridge : Bridge) (op : Operation) (decoder : Decoder)
    (ending : Except Panic Int32) :
    Motions license ⟨s,⟨b,bridge.promise op decoder⟩ :: hands⟩
      ⟨(s.settle bridge op decoder ending).2,given b (s.settle bridge op decoder ending).1 ++ hands⟩ := by
  have desert (t : State) : Motions license ⟨t,⟨b,bridge.promise op decoder⟩ :: hands⟩
      ⟨t.desert op.channel,hands⟩ := .single (.forget _)
  cases ending with
  | error p =>
    have evicted : Motion license ⟨s,⟨b,bridge.promise op decoder⟩ :: hands⟩
        ⟨(s.evict bridge.registry op.handle .unwound).2,_⟩ := .evict rfl _ _
    simp only [settle,unwind]
    split
    all_goals
      rename_i ran
      rw [ran] at evicted
      exact .head evicted (desert _)
  | ok status =>
    simp only [settle]
    split
    · exact .refl
    · have evicted : Motion license ⟨s,⟨b,bridge.promise op decoder⟩ :: hands⟩
          ⟨(s.evict bridge.registry op.handle (.rejected status)).2,_⟩ := .evict rfl _ _
      simp only [reject]
      split
      · rename_i ran
        rw [ran] at evicted
        exact .head evicted (desert _)
      · rename_i found after ran
        rw [ran] at evicted
        have noted : Motions license ⟨after,⟨b,bridge.promise op decoder⟩ :: hands⟩
            ⟨if found then after else after.note (.lateRejection op.handle status),
              ⟨b,bridge.promise op decoder⟩ :: hands⟩ := by
          cases found with
          | true => exact .refl
          | false => exact .single (.note rfl)
        refine .head evicted (noted.trans ?_)
        have remarked (t : State) : Motions license ⟨t,⟨b,bridge.promise op decoder⟩ :: hands⟩
            ⟨t.note (.rejected op.handle status),_⟩ := .single (.note rfl)
        have refused (t : State) (details) : Motions license ⟨t,⟨b,bridge.promise op decoder⟩ :: hands⟩
            ⟨t.desert op.channel,⟨b,.refused op.handle status details⟩ :: hands⟩ := .single (.refuse _ _ _)
        exact (readDetails_motions _ _ _).trans ((remarked _).trans (refused _ _))

theorem submit_motions (native : Handle → State → NativeRun α)
    (runs : ∀ h s hands, Motions license ⟨s,hands⟩ ⟨(native h s).state,hands⟩)
    (s : State) (b : Nat) (decoder : Decoder) :
    Motions license ⟨s,hands⟩
      ⟨(s.submit b native decoder).state,given b (s.submit b native decoder).outcome ++ hands⟩ := by
  unfold submit
  split
  · rename_i failed
    exact .single (.collide failed)
  · rename_i op _ registered
    exact .head (.register registered decoder) ((runs op.handle _ _).trans (settle_motions _ _ _ _ _ _))

theorem submitNative_motions (s : State) (b : Nat) (call : NativeCall) (other : Option Handle) (decoder : Decoder) :
    Motions license ⟨s,hands⟩ ⟨(s.submitNative b call other decoder).state,
      given b (s.submitNative b call other decoder).outcome ++ hands⟩ :=
  submit_motions _ (fun _ _ _ => enterLibrary_motions _ _ _) _ _ _

theorem request_motions (accepted : s.request b r = .ok sub) :
    Motions license ⟨s,hands⟩ ⟨sub.state,given b sub.outcome ++ hands⟩ := by
  unfold request at accepted
  split at accepted
  · cases accepted
  · cases accepted
    exact submitNative_motions _ _ _ _ _

theorem keep_motions (s : State) (b : Nat) (outcome : Except Panic Promise) :
    Motions license ⟨s,given b outcome ++ hands⟩ ⟨(s.keep b outcome).2,hands⟩ := by
  cases outcome with
  | error p => exact .refl
  | ok p => exact .single (.keep _)

theorem dropBridge_motions (s : State) (b : Nat) : Motions license ⟨s,hands⟩ ⟨(s.dropBridge b).2,hands⟩ :=
  motions_composable.dropBridge release_motions (.single (.unlist b))

theorem finish_motions (s : State) (b : Nat) (r : Result) :
    Motions license ⟨s,hands⟩ ⟨(s.finish b r).2,hands⟩ := motions_composable.finish release_motions (.single (.unhold b)) r

theorem submitted_motions (b : Nat) (sub : Submission Unit) :
    Motions license ⟨sub.state,given b sub.outcome ++ hands⟩ ⟨(submitted b sub).2,hands⟩ :=
  (keep_motions _ _ _).trans ((completeAll_motions _).trans (finish_motions _ _ _))

theorem withTimeout_motions (s : State) (b : Nat) (p : Promise) (after : Duration) :
    Motions license ⟨s,⟨b,p⟩ :: hands⟩ ⟨(s.withTimeout p after).2,hands⟩ := by
  have looked : Motion license ⟨s,⟨b,p⟩ :: hands⟩
      ⟨(s.poll p .quiet).2.2,⟨b,(s.poll p .quiet).2.1⟩ :: hands⟩ := .look ⟨b,p⟩ nofun
  unfold withTimeout
  split
  all_goals
    rename_i ran
    rw [ran] at looked
  · exact .head looked (.single (.forget _))
  · exact .head looked (.single (.forget _))
  · exact .head looked (.head (.note rfl) (.single (.forget _)))

theorem await_motions (s : State) (b : Nat) (p : Promise) :
    Motions license ⟨s,⟨b,p⟩ :: hands⟩ ⟨(s.await p).2,hands⟩ := by
  have looked : Motion license ⟨s,⟨b,p⟩ :: hands⟩
      ⟨(s.poll p .quiet).2.2,⟨b,(s.poll p .quiet).2.1⟩ :: hands⟩ := .look ⟨b,p⟩ nofun
  unfold await
  split
  all_goals
    rename_i ran
    rw [ran] at looked
  · exact .head looked (.single (.forget _))
  · exact .head looked (.single (.forget _))
  · exact .head looked (.single (.lose _))

theorem awaitAtMost_motions (s : State) (b : Nat) (p : Promise) (limit : Option Duration) :
    Motions license ⟨s,⟨b,p⟩ :: hands⟩ ⟨(s.awaitAtMost p limit).2,hands⟩ := by
  cases limit with
  | none => exact await_motions _ _ _
  | some after => exact withTimeout_motions _ _ _ _

theorem wait_motions (s : State) (b : Nat) (p : Promise) :
    Motions license ⟨s,⟨b,p⟩ :: hands⟩ ⟨(s.wait p).2,hands⟩ := by
  unfold wait
  split
  · exact .single (.forget _)
  · exact awaitAtMost_motions _ _ _ _

theorem forget_all (ps : List Promise) (s : State) (b : Nat) :
    Motions license ⟨s,ps.map (Slot.mk b) ++ hands⟩ ⟨ps.foldl forget s,hands⟩ := by
  induction ps generalizing s with
  | nil => exact .refl
  | cons p rest ih => exact .head (.forget ⟨b,p⟩) (ih _)

theorem awaitAll_motions (ps : List Promise) (s : State) (b : Nat) :
    Motions license ⟨s,ps.map (Slot.mk b) ++ hands⟩ ⟨(awaitAll ps s).2,hands⟩ := by
  induction ps generalizing s with
  | nil => exact .refl
  | cons p rest ih =>
    have waited : Motions license ⟨s,(p :: rest).map (Slot.mk b) ++ hands⟩
        ⟨(s.wait p).2,rest.map (Slot.mk b) ++ hands⟩ := wait_motions s b p
    simp only [awaitAll]
    split
    all_goals
      rename_i ran
      rw [ran] at waited
    · exact waited.trans (forget_all _ _ _)
    · exact waited.trans (ih _)
    · exact waited.trans (ih _)

-- The promises of the calls that were submitted before are in hand, newest first.
theorem submitEchoes_motions (b count i : Nat) (collected : List Promise) (s : State) :
    Motions license ⟨s,collected.map (Slot.mk b) ++ hands⟩ ⟨(submitEchoes b count i collected s).2,
      (match (submitEchoes b count i collected s).1 with
        | .ok ps => ps.map (Slot.mk b)
        | .error _ => []) ++ hands⟩ := by
  have turned : Motions license ⟨s,collected.map (Slot.mk b) ++ hands⟩
      ⟨s,collected.reverse.map (Slot.mk b) ++ hands⟩ :=
    .single (.swap (((List.reverse_perm collected).symm.map _).append_right hands))
  induction count generalizing i collected s with
  | zero => exact turned
  | succ count ih =>
    simp only [submitEchoes]
    split
    · exact turned
    · rename_i sub requested
      have submitted : Motions license ⟨s,collected.map (Slot.mk b) ++ hands⟩
          ⟨sub.state,given b sub.outcome ++ (collected.map (Slot.mk b) ++ hands)⟩ := request_motions requested
      split
      · rename_i panicked
        rw [panicked] at submitted
        exact submitted.trans (lose_all (collected.map (Slot.mk b)))
      · rename_i p accepted
        rw [accepted] at submitted
        refine submitted.trans ((completeAll_motions _).trans (ih (i + 1) (p :: collected) _ ?_))
        exact .single (.swap (((List.reverse_perm _).symm.map _).append_right hands))

theorem stress_motions (s : State) (b count : Nat) (listed : s.listed? b = some bridge) :
    Motions license ⟨s,hands⟩ ⟨(s.stress b count).2,hands⟩ := by
  have held : Motions license ⟨s,hands⟩ ⟨s.hold b,hands⟩ := .single (.hold listed)
  have submitted : Motions license ⟨s.hold b,hands⟩ _ := submitEchoes_motions b count 0 [] (s.hold b)
  unfold stress
  split
  all_goals
    rename_i ran
    rw [ran] at submitted
  · exact held.trans (submitted.trans ((completeAll_motions _).trans (finish_motions _ _ _)))
  · exact held.trans (submitted.trans ((awaitAll_motions _ _ b).trans (finish_motions _ _ _)))

theorem waitSlot_motions (there : s.slot? i = some x) : Motions license ⟨s,hands⟩ ⟨(s.waitSlot i x).2,hands⟩ := by
  have waited : Motions license ⟨s,hands⟩ ⟨((s.clearSlot i).wait x.promise).2,hands⟩ :=
    .head (.take there) (wait_motions _ x.bridge x.promise)
  rw [waitSlot_state]
  split
  · exact .refl
  · exact waited

theorem limitSlot_motions (there : s.slot? i = some x) (after : Duration) :
    Motions license ⟨s,hands⟩ ⟨(s.limitSlot i x after).2,hands⟩ := by
  rw [limitSlot_state]
  split
  · exact .head (.take there) (.single (.forget x))
  · exact .head (.take there) (withTimeout_motions _ x.bridge x.promise after)

theorem onBridge_motions (s : State) (b : Nat) (f : Bridge → Result × State)
    (motions : ∀ bridge, s.listed? b = some bridge → Motions license ⟨s,hands⟩ ⟨(f bridge).2,hands⟩) :
    Motions license ⟨s,hands⟩ ⟨(s.onBridge b f).2,hands⟩ :=
  onBridge_kept (P := fun t => Motions license ⟨s,hands⟩ ⟨t,hands⟩) .refl motions

theorem onSlot_motions (s : State) (i : Nat) (f : Slot → Result × State)
    (motions : ∀ x, s.slot? i = some x → Motions license ⟨s,hands⟩ ⟨(f x).2,hands⟩) :
    Motions license ⟨s,hands⟩ ⟨(s.onSlot i f).2,hands⟩ :=
  onSlot_kept (P := fun t => Motions license ⟨s,hands⟩ ⟨t,hands⟩) .refl motions

theorem onRuntime_motions (s : State) (work : State → Result × State)
    (motions : Motions license ⟨s,hands⟩ ⟨(work s).2,hands⟩) :
    Motions license ⟨s,hands⟩ ⟨(s.onRuntime work).2,hands⟩ :=
  onRuntime_kept (P := fun t => Motions license ⟨s,hands⟩ ⟨t,hands⟩) .refl motions

end State

def Action.within (license : License) : Action → Bool
  | .insert .. => license.inserting
  | .poll _ .panicking => license.panicking
  | _ => true

theorem Action.run_motions (own : Handle) (s : State) (a : Action) (licensed : a.within license) :
    Motions license ⟨s,hands⟩ ⟨(a.run own s).2,hands⟩ := by
  cases a with
  | dispatch b h o => exact s.onBridge_motions b _ fun _ _ => .single (.dispatch _ _)
  | abandon b h => exact s.onBridge_motions b _ fun _ _ => .single (.evict rfl _ _)
  | isPending b h => exact s.onBridge_motions b _ fun _ _ => .refl
  | stats b => exact s.onBridge_motions b _ fun _ _ => .refl
  | config b => exact s.onBridge_motions b _ fun _ _ => .refl
  | allocate b => exact allocate_kept (P := fun t => Motions license ⟨s,hands⟩ ⟨t,hands⟩) .refl (fun _ _ => .single (.draw _)) own
  | insert b h keep => exact .single (.insert licensed _ _ _)
  | receive i => exact .single (.receive i)
  | dropBridge b => exact dropBridge_kept (P := fun t => Motions license ⟨s,hands⟩ ⟨t,hands⟩) .refl (s.dropBridge_motions b) own
  | tell report => exact .single (.tell _)
  | handle i => exact s.onSlot_motions i _ fun _ _ => .refl
  | isResolved i => exact s.onSlot_motions i _ fun _ _ => .refl
  | poll i waker =>
    refine s.onSlot_motions i _ fun _ there => .single (.lookAt there ?_)
    rintro rfl
    exact licensed
  | wait i => exact s.onSlot_motions i _ fun _ there => State.waitSlot_motions there
  | withTimeout i after => exact s.onSlot_motions i _ fun _ there => State.limitSlot_motions there after
  | dropSlot i => exact s.onSlot_motions i _ fun x there => .head (.take there) (.single (.forget x))
  | spawnActor b =>
    exact s.onBridge_motions b _ fun _ listed => s.onRuntime_motions _ (.single (.spawn listed))
  | actorDeliver a h o => exact s.post_motions a _
  | actorStats a => exact s.onRuntime_motions _ (s.post_motions a _)
  | actorStatsAbandoned a => exact s.post_motions a _
  | actorStop a => exact actorStop_kept (P := fun t => Motions license ⟨s,hands⟩ ⟨t,hands⟩) .refl (s.stopActor_motions a) own
  | attend a => exact s.attend_motions a
  | bind b =>
    refine s.onBridge_motions b _ fun bridge listed => ?_
    simp only [State.bindDirect,State.install]
    cases free : s.binding with
    | some binding => exact .refl
    | none => exact .single (.bindDirect listed free _)
  | bindActor b =>
    refine s.onBridge_motions b _ fun bridge listed => s.onRuntime_motions _ ?_
    simp only [State.bindActor,State.install]
    cases free : (s.spawnActor b).2.binding with
    | some binding => exact .single (.note rfl)
    | none => exact .head (.spawn listed) (.single (.bindActor free _ _))
  | isInstalled => exact .refl
  | callback h code arguments => exact s.callBack_motions _ _
  | land place => exact s.land_motions place
  | request b r =>
    refine s.onBridge_motions b _ fun bridge listed => ?_
    split
    · exact .refl
    · rename_i requested
      exact .head (.hold listed) ((State.request_motions requested).trans (State.submitted_motions _ _))
  | native b call other decoder =>
    refine s.onBridge_motions b _ fun bridge listed => .head (.hold listed) ?_
    exact (State.submitNative_motions _ _ _ _ _).trans (State.submitted_motions _ _)
  | stress b count => exact s.onBridge_motions b _ fun _ listed => s.stress_motions b count listed

namespace State

theorem answer_motions (s : State) (result : Result) (during : Option (List Answer)) :
    Motions license ⟨s,hands⟩ ⟨(s.answer result during).2,hands⟩ := .single (.report _)

theorem endCall_motions (s : State) (b : Nat) (r : Result) (extra : Option (List Answer)) :
    Motions license ⟨s,hands⟩ ⟨(s.endCall b r extra).2,hands⟩ :=
  (finish_motions s b r).trans (answer_motions _ _ _)

theorem submitScript_motions (native : Handle → State → NativeRun (List Answer))
    (runs : ∀ h s hands, Motions license ⟨s,hands⟩ ⟨(native h s).state,hands⟩)
    (s : State) (b : Nat) (decoder : Decoder) :
    Motions license ⟨s,hands⟩ ⟨(s.submitScript b native decoder).2,hands⟩ := by
  unfold submitScript
  split
  · exact answer_motions _ _ _
  · rename_i listed
    exact .head (.hold listed) ((submit_motions native runs _ b decoder).trans
      ((keep_motions _ _ _).trans (endCall_motions _ _ _ _)))

theorem inTurn_motions (allowed : license.driving) (native : Handle → State → NativeRun α)
    (runs : ∀ h s hands, Motions license ⟨s,hands⟩ ⟨(native h s).state,hands⟩)
    (h : Handle) (s : State) (hands : List Slot) :
    Motions license ⟨s,hands⟩ ⟨(inTurn native h s).state,hands⟩ :=
  .head (.turn allowed _) ((runs h _ hands).trans (.single (.turn allowed none)))

theorem callScript_motions (allowed : license.driving) (native : Handle → State → NativeRun (List Answer))
    (runs : ∀ h s hands, Motions license ⟨s,hands⟩ ⟨(native h s).state,hands⟩)
    (s : State) (b : Nat) (decoder : Decoder) :
    Motions license ⟨s,hands⟩ ⟨(s.callScript b native decoder).2,hands⟩ := by
  cases listed : s.listed? b with
  | none =>
    rw [callScript_gone listed]
    exact answer_motions _ _ _
  | some bridge =>
    cases driven : s.driven with
    | true =>
      rw [callScript_nested listed driven]
      exact answer_motions _ _ _
    | false =>
      have submitted : Motions license ⟨s,hands⟩ ⟨((s.hold b).submit b (inTurn native) decoder).state,
          given b ((s.hold b).submit b (inTurn native) decoder).outcome ++ hands⟩ :=
        .head (.hold listed) (submit_motions _ (inTurn_motions allowed native runs) _ b decoder)
      cases outcome : ((s.hold b).submit b (inTurn native) decoder).outcome with
      | error p =>
        rw [outcome] at submitted
        rw [callScript_panics listed driven rfl outcome]
        exact submitted.trans (endCall_motions _ _ _ _)
      | ok p =>
        rw [outcome] at submitted
        rw [callScript_waits listed driven rfl outcome]
        exact (submitted.trans (awaitAtMost_motions _ b p _)).trans (endCall_motions _ _ _ _)

theorem scripted_state (ending : Except String Int32) (script : List Answer × State) :
    (scripted ending script).state = script.2 := by
  cases ending <;> rfl

end State

def Step.isCall : Step → Bool
  | .call .. => true
  | _ => false

def Step.within (license : License) : Step → Bool
  | .act a => a.within license
  | .submit .. => true
  | .call .. => license.driving

mutual

-- A property of a step and of all steps inside of it.
def Step.Every (p : Step → Prop) : Step → Prop
  | .act a => p (.act a)
  | .submit b decoder ending during => p (.submit b decoder ending during) ∧ EveryStep p during
  | .call b decoder ending during => p (.call b decoder ending during) ∧ EveryStep p during

def EveryStep (p : Step → Prop) : List Step → Prop
  | [] => True
  | step :: rest => step.Every p ∧ EveryStep p rest

end

-- The steps may call only where calls are allowed to drive the thread.
def Driven (driving : Bool) (steps : List Step) : Prop := EveryStep (fun step => step.isCall → driving) steps

-- The steps do nothing that they may not do.
def Licensed (license : License) (steps : List Step) : Prop := EveryStep (fun step => step.within license) steps

mutual

theorem Step.every_imp (step : Step) {p q : Step → Prop} (implies : ∀ step, p step → q step) (every : step.Every p) :
    step.Every q := by
  cases step with
  | act a =>
    simp only [Step.Every] at every ⊢
    exact implies _ every
  | submit b decoder ending during | call b decoder ending during =>
    simp only [Step.Every] at every ⊢
    exact ⟨implies _ every.1,everyStep_imp during implies every.2⟩

theorem everyStep_imp (steps : List Step) {p q : Step → Prop} (implies : ∀ step, p step → q step) (every : EveryStep p steps) :
    EveryStep q steps := by
  cases steps with
  | nil =>
    simp only [EveryStep]
  | cons step rest =>
    simp only [EveryStep] at every ⊢
    exact ⟨Step.every_imp step implies every.1,everyStep_imp rest implies every.2⟩

end

mutual

theorem Step.every_of_all (step : Step) {p : Step → Prop} (all : ∀ step, p step) : step.Every p := by
  cases step with
  | act a =>
    simp only [Step.Every]
    exact all _
  | submit b decoder ending during | call b decoder ending during =>
    simp only [Step.Every]
    exact ⟨all _,everyStep_of_all during all⟩

theorem everyStep_of_all (steps : List Step) {p : Step → Prop} (all : ∀ step, p step) : EveryStep p steps := by
  cases steps with
  | nil =>
    simp only [EveryStep]
  | cons step rest =>
    simp only [EveryStep]
    exact ⟨Step.every_of_all step all,everyStep_of_all rest all⟩

end

theorem Action.within_free (driving : Bool) (a : Action) : a.within ⟨driving,true,true⟩ := by
  cases a with
  | poll i waker => cases waker <;> rfl
  | _ => rfl

-- Only calls ask for more than that.
theorem Step.within_free {driving : Bool} (step : Step) (allowed : step.isCall → driving) : step.within ⟨driving,true,true⟩ := by
  cases step with
  | act a => exact a.within_free driving
  | submit => rfl
  | call => exact allowed rfl

theorem Driven.licensed (driven : Driven driving steps) : Licensed ⟨driving,true,true⟩ steps :=
  everyStep_imp steps (fun step allowed => step.within_free allowed) driven

mutual

theorem Step.run_motions (step : Step) (own : Handle) (s : State) (hands : List Slot)
    (licensed : step.Every (fun step => step.within license)) :
    Motions license ⟨s,hands⟩ ⟨(step.run own s).2,hands⟩ := by
  cases step with
  | act a =>
    simp only [Step.Every] at licensed
    simp only [Step.run]
    exact (a.run_motions own s licensed).trans (State.answer_motions _ _ _)
  | submit b decoder ending during =>
    simp only [Step.Every] at licensed
    simp only [Step.run]
    refine State.submitScript_motions _ (fun h t others => ?_) _ _ _
    rw [State.scripted_state]
    exact runSteps_motions during h t others licensed.2
  | call b decoder ending during =>
    simp only [Step.Every] at licensed
    simp only [Step.run]
    refine State.callScript_motions licensed.1 _ (fun h t others => ?_) _ _ _
    rw [State.scripted_state]
    exact runSteps_motions during h t others licensed.2

theorem runSteps_motions (steps : List Step) (own : Handle) (s : State) (hands : List Slot)
    (licensed : Licensed license steps) : Motions license ⟨s,hands⟩ ⟨(runSteps own s steps).2,hands⟩ := by
  cases steps with
  | nil =>
    simp only [runSteps]
    exact .refl
  | cons step rest =>
    simp only [Licensed,EveryStep] at licensed
    simp only [runSteps]
    exact (Step.run_motions step own s hands licensed.1).trans (runSteps_motions rest own _ hands licensed.2)

end

theorem runSteps_moves (steps : List Step) (own : Handle) (s : State) (hands : List Slot)
    (driven : Driven driving steps) : Moves driving ⟨s,hands⟩ ⟨(runSteps own s steps).2,hands⟩ :=
  (runSteps_motions steps own s hands driven.licensed).moves

-- The states that steps visit: in between, and inside the native calls that are
-- scripts, where the operation of the call is registered already.
inductive Visits : Handle → State → List Step → State → Prop where
  | here : Visits own s steps s
  | later : Visits own (step.run own s).2 rest t → Visits own s (step :: rest) t
  | submitting (b bridge op decoder) (listed : (s.listed? b).isSome)
      (registered : (s.hold b).register b = (.ok (bridge,op),u)) :
      Visits op.handle u during t → Visits own s (.submit b decoder ending during :: rest) t
  | calling (b bridge op decoder) (listed : (s.listed? b).isSome) (free : s.driven = false)
      (registered : (s.hold b).register b = (.ok (bridge,op),u)) :
      Visits op.handle { u with turn := some turnLength } during t →
      Visits own s (.call b decoder ending during :: rest) t

theorem Visits.motions (path : Visits own s steps t) (licensed : Licensed license steps) (hands : List Slot) :
    ∃ more, Motions license ⟨s,hands⟩ ⟨t,more ++ hands⟩ := by
  induction path generalizing hands with
  | here => exact ⟨[],.refl⟩
  | later _ ih =>
    simp only [Licensed,EveryStep] at licensed
    obtain ⟨more,rest⟩ := ih licensed.2 hands
    exact ⟨more,(Step.run_motions _ _ _ hands licensed.1).trans rest⟩
  | submitting b bridge op decoder listed registered _ ih =>
    simp only [Licensed,EveryStep,Step.Every] at licensed
    obtain ⟨_,there⟩ := Option.isSome_iff_exists.mp listed
    obtain ⟨more,inside⟩ := ih licensed.1.2 (⟨b,bridge.promise op decoder⟩ :: hands)
    refine ⟨more ++ [⟨b,bridge.promise op decoder⟩],?_⟩
    rw [List.append_assoc]
    exact .head (.hold there) (.head (.register registered decoder) inside)
  | calling b bridge op decoder listed free registered _ ih =>
    simp only [Licensed,EveryStep,Step.Every] at licensed
    obtain ⟨_,there⟩ := Option.isSome_iff_exists.mp listed
    obtain ⟨more,inside⟩ := ih licensed.1.2 (⟨b,bridge.promise op decoder⟩ :: hands)
    refine ⟨more ++ [⟨b,bridge.promise op decoder⟩],?_⟩
    rw [List.append_assoc]
    exact .head (.hold there) (.head (.register registered decoder) (.head (.turn licensed.1.1 _) inside))

-- The states of whole sessions.
def Visited (attendance : Attendance) (firsts : List Int32) (plans : List BridgePlan)
    (steps : List Step) (s : State) : Prop :=
  Visits ⟨0⟩ (.start attendance firsts plans) steps s

theorem driven_true (steps : List Step) : Driven true steps := everyStep_of_all steps fun _ _ => rfl

theorem Visited.motions (path : Visited attendance firsts plans steps s) (licensed : Licensed license steps) :
    ∃ hands, Motions license ⟨.start attendance firsts plans,[]⟩ ⟨s,hands⟩ := by
  obtain ⟨hands,motions⟩ := Visits.motions path licensed []
  rw [List.append_nil] at motions
  exact ⟨hands,motions⟩

theorem Visited.moves (path : Visited attendance firsts plans steps s) (driven : Driven driving steps) :
    ∃ hands, Moves driving ⟨.start attendance firsts plans,[]⟩ ⟨s,hands⟩ := by
  obtain ⟨hands,motions⟩ := path.motions driven.licensed
  exact ⟨hands,motions.moves⟩

theorem Visits.end (steps : List Step) (own : Handle) (s : State) : Visits own s steps (runSteps own s steps).2 := by
  induction steps generalizing s with
  | nil =>
    rw [runSteps]
    exact .here
  | cons step rest ih =>
    rw [runSteps]
    exact .later (ih _)

theorem runSteps_append (own : Handle) (s : State) (first second : List Step) :
    (runSteps own s (first ++ second)).2 = (runSteps own (runSteps own s first).2 second).2 := by
  induction first generalizing s with
  | nil => rw [List.nil_append,runSteps]
  | cons step rest ih =>
    simp only [List.cons_append,runSteps]
    exact ih _

theorem Visited.end (attendance : Attendance) (firsts : List Int32) (plans : List BridgePlan) (steps : List Step) :
    Visited attendance firsts plans steps (run (.start attendance firsts plans) steps).2 := Visits.end _ _ _

end PendingCalls.Session
