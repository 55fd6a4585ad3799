import PendingCalls.Proofs.Routes

-- What is done on both sides, as long as the actor runs that has the callbacks: calls of
-- the native library, submissions, and all actions but those that work off callbacks.

namespace PendingCalls.Session

variable {l : ActorRoute}

-- What a native call gives back is the same, and still side by side.
def ActorRoute.Returns (l : ActorRoute) (x y : NativeRun α) : Prop :=
  y.ending = x.ending ∧ y.extra = x.extra ∧ l.Beside x.state y.state

-- That is so for the native call of a submission, where it is made.
def ActorRoute.Follows (l : ActorRoute) (b : Nat) (s t : State) (native other : Handle → State → NativeRun α) : Prop :=
  ∀ bridge op u v, s.register b = (.ok (bridge,op),u) → t.register b = (.ok (bridge,op),v) → l.Beside u v →
    ¬ (native op.handle u).state.halted l.actor → l.Returns (native op.handle u) (other op.handle v)

def ActorRoute.Submits (l : ActorRoute) (x y : Submission α) : Prop :=
  y.outcome = x.outcome ∧ y.extra = x.extra ∧ l.Beside x.state y.state

namespace State

variable {s t : State}

theorem callBackNow_beside (beside : l.Beside s t) (cb : Callback) (alive : ¬ (s.callBackNow cb).halted l.actor) :
    l.Beside (s.callBackNow cb) (t.callBackNow cb) := by
  have errors : t.ownErrors = s.ownErrors := by
    obtain ⟨_,_,_,_,rfl⟩ := beside
    rfl
  unfold callBackNow at alive ⊢
  rw [errors]
  exact callBack_beside beside _ _ alive

theorem enterLibrary_beside (beside : l.Beside s t) (h : Handle) (call : NativeCall)
    (alive : ¬ (s.enterLibrary h call).2.halted l.actor) : l.Agree (s.enterLibrary h call) (t.enterLibrary h call) := by
  have refused {s t : State} (beside : l.Beside s t) (status message) :
      l.Agree (s.refuse status message) (t.refuse status message) :=
    blind (f := (·.refuse status message)) (fun _ _ => rfl) beside
  have accepted (job) : l.Agree (s.accept job) (t.accept job) := blind (f := (·.accept job)) (fun _ _ => rfl) beside
  cases call with
  | pingSync callback =>
    cases callback with
    | false => exact refused beside _ _
    | true => exact ⟨rfl,callBackNow_beside beside _ alive⟩
  | rejectAfterCallback callback =>
    cases callback with
    | false => exact refused beside _ _
    | true =>
      have rest : Moves true ⟨s.callBackNow ⟨h,Status.successRaw,.int 7⟩,[]⟩
          ⟨(s.enterLibrary h (.rejectAfterCallback true)).2,[]⟩ := .single (.library _)
      exact refused (callBackNow_beside beside _ (rest.alive alive)) _ _
  | _ =>
    simp only [enterLibrary]
    repeat' split
    all_goals first | exact refused beside _ _ | exact accepted _

theorem succeed_beside (beside : l.Beside s t) (h : Handle) (arguments : Arguments)
    (alive : ¬ (s.succeed h arguments).halted l.actor) : l.Beside (s.succeed h arguments) (t.succeed h arguments) :=
  callBack_beside beside _ _ alive

theorem complete_beside (beside : l.Beside s t) (job : Job) (alive : ¬ (s.complete job).halted l.actor) :
    l.Beside (s.complete job) (t.complete job) := by
  have wallets : t.library = s.library := by
    obtain ⟨_,_,_,_,rfl⟩ := beside
    rfl
  cases job with
  | openWallet h id =>
    simp only [complete] at alive ⊢
    split
    · rename_i missing
      rw [if_pos missing] at alive
      exact callBack_beside beside _ _ alive
    · rename_i there
      rw [if_neg there] at alive
      rw [wallets]
      refine succeed_beside (blindly (f := fun t => { t with library := { s.library with nextWallet := s.library.nextWallet + 1 } })
        (fun _ _ => rfl) beside) _ _ alive
  | doubleCallback h =>
    have rest : Moves true ⟨s.succeed h (.int 1),[]⟩ ⟨s.complete (.doubleCallback h),[]⟩ := (succeed_motions _ _ _).all
    exact succeed_beside (succeed_beside beside _ _ (rest.alive alive)) _ _ alive
  | fail h code message => exact callBack_beside beside _ _ alive
  | _ => exact succeed_beside beside _ _ alive

theorem completions_beside (jobs : List Job) (beside : l.Beside s t) (alive : ¬ (jobs.foldl complete s).halted l.actor) :
    l.Beside (jobs.foldl complete s) (jobs.foldl complete t) := by
  induction jobs generalizing s t with
  | nil => exact beside
  | cons job rest ih =>
    have others : Moves true ⟨s.complete job,[]⟩ ⟨(job :: rest).foldl complete s,[]⟩ := (completions_motions rest _).all
    exact ih (complete_beside beside job (others.alive alive)) alive

theorem completeAll_beside (beside : l.Beside s t) (alive : ¬ s.completeAll.halted l.actor) :
    l.Beside s.completeAll t.completeAll := by
  have library : t.library = s.library := by
    obtain ⟨_,_,_,_,rfl⟩ := beside
    rfl
  unfold completeAll at alive ⊢
  rw [library]
  exact completions_beside _ (blindly (f := fun t => { t with library := { s.library with jobs := [] } })
    (fun _ _ => rfl) beside) alive

theorem letGo_beside (beside : l.Beside s t) (b : Nat) : l.Agree (s.letGo b) (t.letGo b) := by
  unfold letGo
  rw [beside_bridge beside]
  cases s.bridge? b with
  | none => exact ⟨rfl,beside⟩
  | some bridge => exact release_beside (blindly (f := (·.unhold b)) (fun _ _ => rfl) beside) _

theorem dropBridge_beside (beside : l.Beside s t) (b : Nat) : l.Agree (s.dropBridge b) (t.dropBridge b) := by
  unfold dropBridge
  rw [beside_bridge beside]
  cases s.bridge? b with
  | none => exact ⟨rfl,beside⟩
  | some bridge => exact release_beside (blindly (f := (·.unlist b)) (fun _ _ => rfl) beside) _

theorem finish_beside (beside : l.Beside s t) (b : Nat) (r : Result) : l.Agree (s.finish b r) (t.finish b r) := by
  obtain ⟨ending,_,_,ran,ran',after⟩ := (letGo_beside beside b).split
  unfold finish
  rw [ran,ran']
  cases ending <;> exact ⟨rfl,after⟩

theorem endCall_beside (beside : l.Beside s t) (b : Nat) (r : Result) (extra : Option (List Answer)) :
    l.Agree (s.endCall b r extra) (t.endCall b r extra) := by
  obtain ⟨result,_,_,ran,ran',after⟩ := (finish_beside beside b r).split
  unfold endCall
  rw [ran,ran']
  exact blind (f := (·.answer result _)) (answer_withRouting · · _ _) after

-- Submissions, given that what the native calls do is the same on both sides.
theorem submit_beside {native other : Handle → State → NativeRun α} (beside : l.Beside s t)
    (follows : l.Follows b s t native other) (decoder : Decoder) (alive : ¬ (s.submit b native decoder).state.halted l.actor) :
    l.Submits (s.submit b native decoder) (t.submit b other decoder) := by
  obtain ⟨registered,u,v,ran,ran',after⟩ := (blind (f := (·.register b)) (register_withRouting · · b) beside).split
  unfold submit at alive ⊢
  rw [ran] at alive ⊢
  rw [ran']
  cases registered with
  | error p => exact ⟨rfl,rfl,after⟩
  | ok pair =>
    obtain ⟨bridge,op⟩ := pair
    have follows := follows bridge op u v ran ran' after
    dsimp only at alive ⊢
    generalize native op.handle u = x at follows alive ⊢
    generalize other op.handle v = y at follows ⊢
    obtain ⟨ending,extra,w⟩ := x
    have settled : Moves true ⟨w,[⟨b,bridge.promise op decoder⟩]⟩ _ := (settle_motions w b bridge op decoder ending).all
    obtain ⟨ended,told,inside⟩ := follows (settled.alive alive)
    obtain ⟨same,past⟩ := blind (f := (·.settle bridge op decoder ending)) (settle_withRouting · · _ _ _ _) inside
    dsimp only
    rw [ended,told]
    exact ⟨same,rfl,past⟩

theorem submitNative_beside (beside : l.Beside s t) (b : Nat) (call : NativeCall) (command : Option Handle)
    (decoder : Decoder) (alive : ¬ (s.submitNative b call command decoder).state.halted l.actor) :
    l.Submits (s.submitNative b call command decoder) (t.submitNative b call command decoder) := by
  refine submit_beside beside (fun bridge op u v _ _ after running => ?_) decoder alive
  obtain ⟨same,inside⟩ := enterLibrary_beside after (command.getD op.handle) call running
  exact ⟨congrArg Except.ok same,rfl,inside⟩

theorem submitted_beside {sub other : Submission Unit} (submits : l.Submits sub other) (b : Nat)
    (alive : ¬ (submitted b sub).2.halted l.actor) : l.Agree (submitted b sub) (submitted b other) := by
  obtain ⟨outcome,_,beside⟩ := submits
  obtain ⟨result,u,v,ran,ran',after⟩ := (blind (f := (·.keep b sub.outcome)) (keep_withRouting · · _ _) beside).split
  have finished : Moves true ⟨u.completeAll,[]⟩ ⟨(u.completeAll.finish b result).2,[]⟩ := (finish_motions _ _ _).all
  unfold submitted at alive ⊢
  rw [outcome]
  simp only [ran,ran'] at alive ⊢
  exact finish_beside (completeAll_beside after (finished.alive alive)) b result

theorem submittedNative_beside (beside : l.Beside s t) (b : Nat) (call : NativeCall) (command : Option Handle)
    (decoder : Decoder) (alive : ¬ (submitted b (s.submitNative b call command decoder)).2.halted l.actor) :
    l.Agree (submitted b (s.submitNative b call command decoder)) (submitted b (t.submitNative b call command decoder)) := by
  have rest : Moves true ⟨_,_ ++ []⟩ _ := (submitted_motions b (s.submitNative b call command decoder)).all
  exact submitted_beside (submitNative_beside beside _ _ _ _ (rest.alive alive)) b alive

theorem request_cases (r : Request) : (∃ position, ∀ (s : State) b, s.request b r = .error position) ∨
    ∀ (s : State) b, s.request b r = .ok (s.submitNative b r.nativeCall none r.decoder) := by
  cases refused : r.nulPosition? with
  | some position => exact .inl ⟨position,fun s b => by simp only [request,refused]⟩
  | none => exact .inr fun s b => by simp only [request,refused]

theorem submitEchoes_beside (beside : l.Beside s t) (b count i : Nat) (collected : List Promise)
    (alive : ¬ (submitEchoes b count i collected s).2.halted l.actor) :
    l.Agree (submitEchoes b count i collected s) (submitEchoes b count i collected t) := by
  induction count generalizing i collected s t with
  | zero => exact ⟨rfl,beside⟩
  | succ count ih =>
    unfold submitEchoes at alive ⊢
    rcases request_cases (.echo ("call " ++ toString i)) with ⟨position,refused⟩ | accepted
    · rw [refused,refused]
      exact ⟨rfl,beside⟩
    · rw [accepted] at alive ⊢
      rw [accepted]
      have submits := submitNative_beside (l := l) beside b (Request.echo ("call " ++ toString i)).nativeCall none
        (Request.echo ("call " ++ toString i)).decoder
      generalize s.submitNative b (Request.echo ("call " ++ toString i)).nativeCall none
        (Request.echo ("call " ++ toString i)).decoder = sub at alive submits ⊢
      generalize t.submitNative b (Request.echo ("call " ++ toString i)).nativeCall none
        (Request.echo ("call " ++ toString i)).decoder = other at submits ⊢
      obtain ⟨outcome,extra,u⟩ := sub
      dsimp only at alive ⊢
      cases outcome with
      | error p =>
        obtain ⟨same,_,after⟩ := submits alive
        rw [same]
        exact ⟨rfl,after⟩
      | ok p =>
        have rest : Moves true ⟨u.completeAll,(p :: collected).map (Slot.mk b) ++ []⟩ _ :=
          (submitEchoes_motions b count (i + 1) (p :: collected) u.completeAll).all
        have completed := rest.alive alive
        have all : Moves true ⟨u,[]⟩ ⟨u.completeAll,[]⟩ := (completeAll_motions _).all
        obtain ⟨same,_,after⟩ := submits (all.alive completed)
        rw [same]
        exact ih (completeAll_beside after completed) _ _ alive

theorem stress_beside (beside : l.Beside s t) (b count : Nat) (alive : ¬ (s.stress b count).2.halted l.actor) :
    l.Agree (s.stress b count) (t.stress b count) := by
  have held : l.Beside (s.hold b) (t.hold b) := blindly (f := (·.hold b)) (fun _ _ => rfl) beside
  have echoes := submitEchoes_beside held b count 0 []
  unfold stress at alive ⊢
  generalize submitEchoes b count 0 [] (s.hold b) = x at alive echoes ⊢
  generalize submitEchoes b count 0 [] (t.hold b) = y at echoes ⊢
  obtain ⟨promises,u⟩ := x
  cases promises with
  | error p =>
    have finished : Moves true ⟨u.completeAll,[]⟩ _ := (finish_motions u.completeAll b (.panicked p)).all
    have completed := finished.alive alive
    have all : Moves true ⟨u,[]⟩ ⟨u.completeAll,[]⟩ := (completeAll_motions _).all
    obtain ⟨_,_,v,⟨⟩,rfl,after⟩ := (echoes (all.alive completed)).split
    exact finish_beside (completeAll_beside after completed) _ _
  | ok promises =>
    have finished : Moves true ⟨(awaitAll promises u).2,[]⟩ _ := (finish_motions _ b (ofExcept (.stressed (promises.map Promise.handle)) (awaitAll promises u).1)).all
    have waited : Moves true ⟨u,promises.map (Slot.mk b) ++ []⟩ ⟨(awaitAll promises u).2,[]⟩ := (awaitAll_motions _ _ _).all
    obtain ⟨_,_,v,⟨⟩,rfl,after⟩ := (echoes (waited.alive (finished.alive alive))).split
    obtain ⟨_,_,_,ran,ran',settled⟩ := (blind (f := awaitAll promises) (awaitAll_withRouting promises) after).split
    simp only [ran,ran']
    exact finish_beside settled _ _

theorem onBridge_beside {f g : Bridge → Result × State} (beside : l.Beside s t)
    (alive : ¬ (s.onBridge b f).2.halted l.actor)
    (same : ∀ bridge, ¬ (f bridge).2.halted l.actor → l.Agree (f bridge) (g bridge)) :
    l.Agree (s.onBridge b f) (t.onBridge b g) := by
  unfold onBridge at alive ⊢
  rw [beside_listed beside]
  cases listed : s.listed? b with
  | none => exact ⟨rfl,beside⟩
  | some bridge =>
    rw [listed] at alive
    exact same bridge alive

theorem onSlot_beside {f g : Slot → Result × State} (beside : l.Beside s t)
    (same : ∀ x, l.Agree (f x) (g x)) : l.Agree (s.onSlot i f) (t.onSlot i g) := by
  unfold onSlot
  rw [beside_slot beside]
  cases s.slot? i with
  | none => exact ⟨rfl,beside⟩
  | some x => exact same x

theorem onRuntime_beside {work : State → Result × State} (beside : l.Beside s t)
    (alive : ¬ (s.onRuntime work).2.halted l.actor)
    (same : ¬ (work s).2.halted l.actor → l.Agree (work s) (work t)) :
    l.Agree (s.onRuntime work) (t.onRuntime work) := by
  have driven : t.driven = s.driven := by
    obtain ⟨_,_,_,_,rfl⟩ := beside
    rfl
  unfold onRuntime at alive ⊢
  rw [driven]
  split
  · exact ⟨rfl,beside⟩
  · rename_i free
    rw [if_neg free] at alive
    exact same alive

theorem bindActor_taken {binding : Binding} (there : s.binding = some binding) : s.bindActor b = (none,s.note .actorStarted) := by
  have spawned : (s.spawnActor b).2.binding = some binding := there
  simp only [bindActor,install,spawned]

-- The actor that has the callbacks cannot be the one that stops, if it still runs after.
theorem actorStop_beside (beside : l.Beside s t) (own : Handle)
    (alive : ¬ ((Action.actorStop a).run own s).2.halted l.actor) :
    l.Agree ((Action.actorStop a).run own s) ((Action.actorStop a).run own t) := by
  simp only [Action.run] at alive ⊢
  by_cases same : a = l.actor
  · obtain ⟨_,_,carries,_⟩ := beside
    obtain ⟨_,_,present⟩ := carries.present
    have present : s.actor? a = some _ := same ▸ present
    rw [present] at alive
    exact absurd (same ▸ stopActor_halted present) alive
  · rw [actor_beside beside same]
    split
    · exact ⟨rfl,beside⟩
    · rename_i present
      rw [present] at alive
      dsimp only at alive
      split
      · rename_i running
        rw [if_pos running] at alive
        exact (stopActor_beside beside alive).told (ofExcept fun _ => .flag true)
      · exact ⟨rfl,beside⟩

end State

open State in
theorem Action.run_beside {s t : State} (beside : l.Beside s t) (own : Handle) (a : Action)
    (alive : ¬ (a.run own s).2.halted l.actor) (other : a ≠ .attend l.actor) (landless : ∀ k, a ≠ .land k) :
    l.Agree (a.run own s) (a.run own t) := by
  cases a with
  | dispatch b h o =>
    refine onBridge_beside beside alive fun bridge _ => ?_
    have agree := blind (f := (·.dispatch b ⟨h.resolve own,o.code,o.payload,o.details⟩)) (dispatch_withRouting · · _ _) beside
    exact agree.told (ofExcept .dispatched)
  | abandon b h =>
    refine onBridge_beside beside alive fun bridge _ => ?_
    have agree := blind (f := (·.abandon bridge.registry (h.resolve own))) (evict_withRouting · · _ _ _) beside
    exact agree.told (ofExcept .flag)
  | isPending b h =>
    refine onBridge_beside beside alive fun bridge _ => ⟨?_,beside⟩
    obtain ⟨_,_,_,_,rfl⟩ := beside
    rfl
  | stats b | config b => exact onBridge_beside beside alive fun bridge _ => ⟨rfl,beside⟩
  | allocate b =>
    refine onBridge_beside beside alive fun bridge _ => ?_
    obtain ⟨h,_,_,ran,ran',after⟩ := (blind (f := (·.draw bridge.registry)) (draw_withRouting · · _) beside).split
    simp only [ran,ran']
    cases h <;> exact ⟨rfl,after⟩
  | insert b h keep => exact blind (f := (·.insertFresh b (h.resolve own) keep)) (insertFresh_withRouting · · _ _ _) beside
  | receive i => exact blind (f := (·.receive i)) (receive_withRouting · · i) beside
  | dropBridge b =>
    simp only [Action.run]
    rw [beside_listed beside]
    split
    · exact ⟨rfl,beside⟩
    · exact (dropBridge_beside beside b).told (ofExcept fun _ => .nothing)
  | tell report => exact ⟨rfl,blindly (f := fun s => { s with told := report }) (fun _ _ => rfl) beside⟩
  | handle i | isResolved i => exact onSlot_beside beside fun x => ⟨rfl,beside⟩
  | poll i waker => exact onSlot_beside beside fun x => blind (f := (·.pollSlot i x waker)) (pollSlot_withRouting · · _ _ _) beside
  | wait i => exact onSlot_beside beside fun x => blind (f := (·.waitSlot i x)) (waitSlot_withRouting · · _ _) beside
  | withTimeout i after =>
    exact onSlot_beside beside fun x => blind (f := (·.limitSlot i x after)) (limitSlot_withRouting · · _ _ _) beside
  | dropSlot i =>
    refine onSlot_beside beside fun x => ⟨rfl,?_⟩
    exact blindly (f := fun s => (s.clearSlot i).forget x.promise) (fun s ρ => forget_withRouting (s.clearSlot i) ρ _) beside
  | spawnActor b =>
    refine onBridge_beside beside alive fun bridge alive => onRuntime_beside beside alive fun _ => ?_
    exact (spawnActor_beside beside b).told Result.actor
  | actorDeliver a h o => exact (post_beside beside alive).told (ofPosted (fun _ => .sent) .actorStopped)
  | actorStats a =>
    refine onRuntime_beside beside alive fun alive => ?_
    exact (post_beside beside alive).told (ofPosted statsReply .statsUnreachable)
  | actorStatsAbandoned a => exact (post_beside beside alive).told (ofPosted (fun _ => .flag true) (.flag false))
  | actorStop a => exact actorStop_beside beside own alive
  | attend a =>
    have same : a ≠ l.actor := fun same => other (congrArg Action.attend same)
    exact (attend_beside beside same alive).told statsReply
  | bind b =>
    refine onBridge_beside beside alive fun bridge _ => ?_
    simp only [bindDirect,install,(beside_bound beside).1,(beside_bound beside).2]
    exact ⟨rfl,beside⟩
  | bindActor b =>
    refine onBridge_beside beside alive fun bridge alive => onRuntime_beside beside alive fun _ => ?_
    rw [bindActor_taken (beside_bound beside).1,bindActor_taken (beside_bound beside).2]
    exact ⟨rfl,blindly (f := (·.note .actorStarted)) (fun _ _ => rfl) beside⟩
  | isInstalled =>
    refine ⟨?_,beside⟩
    simp only [Action.run,(beside_bound beside).1,(beside_bound beside).2]
    rfl
  | callback h code arguments => exact ⟨rfl,callBackNow_beside beside _ alive⟩
  | land place => exact absurd rfl (landless place)
  | request b r =>
    refine onBridge_beside beside alive fun bridge alive => ?_
    have held : l.Beside (s.hold b) (t.hold b) := blindly (f := (·.hold b)) (fun _ _ => rfl) beside
    rcases request_cases r with ⟨position,refused⟩ | accepted
    · rw [refused,refused]
      exact ⟨rfl,beside⟩
    · rw [accepted] at alive ⊢
      rw [accepted]
      exact submittedNative_beside held b _ _ _ alive
  | native b call command decoder =>
    refine onBridge_beside beside alive fun bridge alive => ?_
    have held : l.Beside (s.hold b) (t.hold b) := blindly (f := (·.hold b)) (fun _ _ => rfl) beside
    exact submittedNative_beside held b call _ decoder alive
  | stress b count => exact onBridge_beside beside alive fun bridge alive => stress_beside beside b count alive

namespace State

variable {s t : State} {native other : Handle → State → NativeRun (List Answer)}

theorem submitScript_beside (beside : l.Beside s t) (follows : l.Follows b (s.hold b) (t.hold b) native other)
    (alive : ¬ (s.submitScript b native decoder).2.halted l.actor) :
    l.Agree (s.submitScript b native decoder) (t.submitScript b other decoder) := by
  have held : l.Beside (s.hold b) (t.hold b) := blindly (f := (·.hold b)) (fun _ _ => rfl) beside
  unfold submitScript at alive ⊢
  rw [beside_listed beside]
  cases listed : s.listed? b with
  | none => exact blind (f := (·.answer (.panicked .bridgeGone) none)) (answer_withRouting · · _ _) beside
  | some bridge =>
    rw [listed] at alive
    dsimp only at alive ⊢
    have submits := submit_beside held follows decoder
    generalize (s.hold b).submit b native decoder = sub at alive submits ⊢
    generalize (t.hold b).submit b other decoder = sub' at submits ⊢
    have kept : Moves true ⟨sub.state,given b sub.outcome ++ []⟩ ⟨(sub.state.keep b sub.outcome).2,[]⟩ := (keep_motions _ _ _).all
    have ended : Moves true ⟨(sub.state.keep b sub.outcome).2,[]⟩ _ := (endCall_motions _ b (sub.state.keep b sub.outcome).1 sub.extra).all
    obtain ⟨outcome,extra,after⟩ := submits (kept.alive (ended.alive alive))
    obtain ⟨_,_,_,ran,ran',stored⟩ := (blind (f := (·.keep b sub.outcome)) (keep_withRouting · · _ _) after).split
    rw [outcome,extra]
    simp only [ran,ran']
    exact endCall_beside stored _ _ _

theorem callScript_beside (beside : l.Beside s t) (follows : l.Follows b (s.hold b) (t.hold b) (inTurn native) (inTurn other))
    (alive : ¬ (s.callScript b native decoder).2.halted l.actor) :
    l.Agree (s.callScript b native decoder) (t.callScript b other decoder) := by
  have held : l.Beside (s.hold b) (t.hold b) := blindly (f := (·.hold b)) (fun _ _ => rfl) beside
  have driven : t.driven = s.driven := by
    obtain ⟨_,_,_,_,rfl⟩ := beside
    rfl
  unfold callScript at alive ⊢
  rw [beside_listed beside,driven]
  cases listed : s.listed? b with
  | none => exact blind (f := (·.answer (.panicked .bridgeGone) none)) (answer_withRouting · · _ _) beside
  | some bridge =>
    rw [listed] at alive
    dsimp only at alive ⊢
    split
    · exact blind (f := (·.answer (.panicked .nestedRuntime) none)) (answer_withRouting · · _ _) beside
    · rename_i free
      rw [if_neg free] at alive
      have submits := submit_beside held follows decoder
      generalize (s.hold b).submit b (inTurn native) decoder = sub at alive submits ⊢
      generalize (t.hold b).submit b (inTurn other) decoder = sub' at submits ⊢
      obtain ⟨outcome,extra,u⟩ := sub
      have ended (w : State) (r : Result) : Moves true ⟨w,[]⟩ ⟨(w.endCall b r extra).2,[]⟩ := (endCall_motions _ _ _ _).all
      dsimp only at alive ⊢
      cases outcome with
      | error p =>
        obtain ⟨outcome,told,after⟩ := submits ((ended _ _).alive alive)
        rw [outcome,told]
        exact endCall_beside after _ _ _
      | ok p =>
        dsimp only at alive
        have awaited : Moves true ⟨u,[⟨b,p⟩]⟩ _ := (awaitAtMost_motions u b p bridge.config.defaultTimeout).all
        have running : ¬ (u.awaitAtMost p bridge.config.defaultTimeout).2.halted l.actor := by
          generalize u.awaitAtMost p bridge.config.defaultTimeout = z at alive
          rcases z with ⟨_ | _ | _,w⟩ <;> exact (ended _ _).alive alive
        obtain ⟨outcome,told,after⟩ := submits (awaited.alive running)
        obtain ⟨result,_,_,ran,ran',settled⟩ :=
          (blind (f := (·.awaitAtMost p bridge.config.defaultTimeout)) (awaitAtMost_withRouting · · _ _) after).split
        rw [outcome,told]
        simp only [ran,ran']
        rcases result with _ | _ | _ <;> exact endCall_beside settled _ _ _

end State

end PendingCalls.Session
