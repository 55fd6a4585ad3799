import PendingCalls.Proofs.Moves

-- What is told of the states before and after each small change is told, in the same
-- words, of the parts of a session that are made of such changes.

namespace PendingCalls.Session

-- What a call answers when it has waited.
def Result.ofWait : Except Panic (Option (Except CallError Datum)) → Result
  | .error p => .panicked p
  | .ok (some result) => .settled result
  | .ok none => .blocked

namespace State

variable {P : State → Prop} {s : State}

theorem finish_state (s : State) (b : Nat) (r : Result) : (s.finish b r).2 = (s.letGo b).2 := by
  unfold finish
  split
  all_goals
    rename_i ran
    rw [ran]

theorem waitSlot_state (s : State) (i : Nat) (x : Slot) :
    (s.waitSlot i x).2 = if s.wouldBlock x then s else ((s.clearSlot i).wait x.promise).2 := by
  unfold waitSlot
  split
  · rfl
  · split
    all_goals
      rename_i ran
      rw [ran]

theorem limitSlot_state (s : State) (i : Nat) (x : Slot) (after : Duration) : (s.limitSlot i x after).2 =
    if s.driven then (s.clearSlot i).forget x.promise else ((s.clearSlot i).withTimeout x.promise after).2 := by
  unfold limitSlot
  split <;> rfl

-- A submission promises what will come through the channel, or an error at hand.
theorem settle_promised (promised : (s.settle bridge op decoder ending).1 = .ok p) :
    (ending = .ok Status.successRaw ∧ p = bridge.promise op decoder) ∨
    ∃ status details, status ≠ Status.successRaw ∧ ending = .ok status ∧ p = .refused op.handle status details := by
  cases ending with
  | error q =>
    simp only [settle,unwind] at promised
    split at promised <;> cases promised
  | ok status =>
    simp only [settle] at promised
    split at promised
    · rename_i success
      cases promised
      exact .inl ⟨congrArg Except.ok success,rfl⟩
    · rename_i failed
      simp only [reject] at promised
      split at promised <;> cases promised
      exact .inr ⟨status,_,failed,rfl,rfl⟩

section

variable {native : Handle → State → NativeRun (List Answer)} {decoder : Decoder} {sub : Submission (List Answer)}

theorem callScript_gone (gone : s.listed? b = none) : s.callScript b native decoder = s.answer (.panicked .bridgeGone) none := by
  simp only [callScript,gone]

theorem callScript_nested (listed : s.listed? b = some bridge) (driven : s.driven = true) :
    s.callScript b native decoder = s.answer (.panicked .nestedRuntime) none := by
  simp only [callScript,listed,driven,if_true]

theorem callScript_panics (listed : s.listed? b = some bridge) (free : s.driven = false)
    (submitted : (s.hold b).submit b (inTurn native) decoder = sub) (panicked : sub.outcome = .error p) :
    s.callScript b native decoder = sub.state.endCall b (.panicked p) sub.extra := by
  simp only [callScript,listed,free,Bool.false_eq_true,if_false,submitted,panicked]

theorem callScript_waits (listed : s.listed? b = some bridge) (free : s.driven = false)
    (submitted : (s.hold b).submit b (inTurn native) decoder = sub) (promised : sub.outcome = .ok p) :
    s.callScript b native decoder = (sub.state.awaitAtMost p bridge.config.defaultTimeout).2.endCall b
      (.ofWait (sub.state.awaitAtMost p bridge.config.defaultTimeout).1) sub.extra := by
  simp only [callScript,listed,free,Bool.false_eq_true,if_false,submitted,promised]
  rcases sub.state.awaitAtMost p bridge.config.defaultTimeout with ⟨_ | _ | result,t⟩ <;> rfl

end

theorem onBridge_cases {Q : Result × State → Prop} (gone : Q (.panicked .bridgeGone,s))
    (does : ∀ bridge, s.listed? b = some bridge → Q (f bridge)) : Q (s.onBridge b f) := by
  unfold onBridge
  split
  · rename_i listed
    exact does _ listed
  · exact gone

theorem onSlot_cases {Q : Result × State → Prop} (gone : Q (.panicked .slotGone,s)) (does : ∀ x, s.slot? i = some x → Q (f x)) :
    Q (s.onSlot i f) := by
  unfold onSlot
  split
  · rename_i there
    exact does _ there
  · exact gone

theorem onRuntime_cases {Q : Result × State → Prop} (nested : Q (.panicked .nestedRuntime,s)) (does : Q (work s)) :
    Q (s.onRuntime work) := by
  unfold onRuntime
  split
  · exact nested
  · exact does

theorem onBridge_kept (before : P s) (does : ∀ bridge, s.listed? b = some bridge → P (f bridge).2) : P (s.onBridge b f).2 :=
  onBridge_cases (Q := fun ran => P ran.2) before does

theorem onSlot_kept (before : P s) (does : ∀ x, s.slot? i = some x → P (f x).2) : P (s.onSlot i f).2 :=
  onSlot_cases (Q := fun ran => P ran.2) before does

theorem onRuntime_kept (before : P s) (does : P (work s).2) : P (s.onRuntime work).2 :=
  onRuntime_cases (Q := fun ran => P ran.2) before does

end State

namespace Action

variable {P : State → Prop} {s : State}

theorem allocate_kept (before : P s) (drew : ∀ bridge, s.listed? b = some bridge → P (s.draw bridge.registry).2) (own : Handle) :
    P ((allocate b).run own s).2 := by
  refine State.onBridge_kept before fun bridge listed => ?_
  have after := drew bridge listed
  split
  all_goals
    rename_i ran
    rw [ran] at after
    exact after

theorem dropBridge_kept (before : P s) (dropped : P (s.dropBridge b).2) (own : Handle) : P ((dropBridge b).run own s).2 := by
  simp only [run]
  split
  · exact before
  · exact dropped

theorem actorStop_kept (before : P s) (stopped : P (s.stopActor a).2) (own : Handle) : P ((actorStop a).run own s).2 := by
  simp only [run]
  split
  · exact before
  · split
    · exact stopped
    · exact before

end Action

-- It holds where nothing happens, and over one thing after another.
structure Composable (R : State → State → Prop) : Prop where
  refl (s : State) : R s s
  trans {s t u : State} (first : R s t) (second : R t u) : R s u

namespace Composable

variable {R : State → State → Prop}

-- A part of the state that stays the same.
theorem same (f : State → α) : Composable fun s t => f t = f s where
  refl _ := rfl
  trans first second := second.trans first

-- A session starts with its bridges added one by one.
theorem start (composable : Composable R) (add : ∀ s plan, R s (State.addBridge s plan)) (attendance : Attendance)
    (firsts : List Int32)
    (plans : List BridgePlan) : R (.empty attendance firsts) (.start attendance firsts plans) := by
  have added (plans : List BridgePlan) (s : State) : R s (plans.foldl State.addBridge s) := by
    induction plans generalizing s with
    | nil => exact composable.refl s
    | cons plan rest ih => exact composable.trans (add s plan) (ih _)
  exact added plans _

theorem stopActor (composable : Composable R) (release : ∀ s r, R s (State.release s r).2)
    (stopped : ∀ s a, R s (State.changeActor s a Actor.stopped)) (s : State) (a : Nat) : R s (s.stopActor a).2 := by
  unfold State.stopActor
  split
  · exact composable.refl s
  · dsimp only
    split
    · exact stopped s a
    · exact composable.trans (stopped s a) (release _ _)

theorem attendMany (composable : Composable R) (attend : ∀ s a, R s (s.attend a).2) (s : State) (a turns : Nat) :
    R s (s.attendMany a turns).2 := by
  induction turns generalizing s with
  | zero => exact composable.refl s
  | succ turns ih => exact composable.trans (attend s a) (ih _)

theorem post (composable : Composable R) (attend : ∀ s a, R s (s.attend a).2)
    (accept : ∀ {actor}, s.actor? a = some actor → actor.running → R s (s.changeActor a (Actor.accept m))) :
    R s (s.post a m).2 := by
  unfold State.post
  split
  · exact composable.refl s
  · rename_i present
    split
    · rename_i running
      dsimp only
      split
      · exact composable.trans (accept present running) (composable.attendMany attend _ _ _)
      · exact accept present running
    · exact composable.refl s

theorem deliver (composable : Composable R) (dispatch : ∀ b, R s (s.dispatch b d).2)
    (transit : R s { s with transit := s.transit ++ [d] }) (post : ∀ a, R s (s.post a (.deliver d)).2)
    (gone : ∀ t : State, R t (t.note (.actorGone d.handle))) (route : Route) : R s (s.deliver route d) := by
  cases route with
  | direct b =>
    simp only [State.deliver]
    split
    · exact dispatch b
    · exact transit
  | actor a =>
    have posted := post a
    simp only [State.deliver]
    split
    all_goals
      rename_i ran
      rw [ran] at posted
    · exact posted
    · exact composable.trans posted (gone _)

theorem finish (composable : Composable R) (release : ∀ s r, R s (State.release s r).2) (unhold : R s (s.unhold b)) (r : Result) :
    R s (s.finish b r).2 := by
  rw [State.finish_state,State.letGo]
  split
  · exact composable.refl s
  · exact composable.trans unhold (release _ _)

theorem dropBridge (composable : Composable R) (release : ∀ s r, R s (State.release s r).2) (unlist : R s (s.unlist b)) :
    R s (s.dropBridge b).2 := by
  unfold State.dropBridge
  split
  · exact composable.refl s
  · exact composable.trans unlist (release _ _)

-- What the library does is to change its own part of the state and to call back.
theorem enterLibrary (composable : Composable R) (library : ∀ (s : State) l, R s { s with library := l })
    (callBack : ∀ (s : State) errors cb, R s (s.callBack errors cb)) (s : State) (h : Handle) (call : NativeCall) :
    R s (s.enterLibrary h call).2 := by
  have refused (s : State) (status message) : R s (s.refuse status message).2 := library s _
  have accepted (job) : R s (s.accept job).2 := library s _
  have called (cb) : R s (s.callBackNow cb) := callBack s _ cb
  cases call with
  | pingSync callback =>
    cases callback with
    | false => exact refused _ _ _
    | true => exact called _
  | rejectAfterCallback callback =>
    cases callback with
    | false => exact refused _ _ _
    | true => exact composable.trans (called _) (refused _ _ _)
  | _ =>
    simp only [State.enterLibrary]
    repeat' split
    all_goals first | exact refused _ _ _ | exact accepted _

theorem complete (composable : Composable R) (library : ∀ (s : State) l, R s { s with library := l })
    (callBack : ∀ (s : State) errors cb, R s (s.callBack errors cb)) (s : State) (job : Job) : R s (s.complete job) := by
  have succeeded (s : State) (h : Handle) (arguments : Arguments) : R s (s.succeed h arguments) := callBack _ _ _
  cases job with
  | fail => exact callBack _ _ _
  | openWallet h id =>
    simp only [State.complete]
    split
    · exact callBack _ _ _
    · exact composable.trans (library _ _) (succeeded _ _ _)
  | doubleCallback h => exact composable.trans (succeeded _ _ _) (succeeded _ _ _)
  | _ => exact succeeded _ _ _

theorem completions (composable : Composable R) (complete : ∀ s job, R s (s.complete job)) (jobs : List Job) (s : State) :
    R s (jobs.foldl State.complete s) := by
  induction jobs generalizing s with
  | nil => exact composable.refl s
  | cons job rest ih => exact composable.trans (complete s job) (ih _)

theorem completeAll (composable : Composable R) (library : ∀ (s : State) l, R s { s with library := l })
    (callBack : ∀ (s : State) errors cb, R s (s.callBack errors cb)) (s : State) : R s s.completeAll :=
  composable.trans (library s _) (composable.completions (composable.complete library callBack) _ _)

theorem register (composable : Composable R) (draw : ∀ s r, R s (State.draw s r).2)
    (enter : ∀ s r h, R s (State.enter s r h).2) (s : State) (b : Nat) : R s (s.register b).2 := by
  unfold State.register
  split
  · exact composable.refl s
  · rename_i bridge _
    have drew := draw s bridge.registry
    split
    all_goals
      rename_i ran
      rw [ran] at drew
    · exact drew
    · rename_i h t
      have entered := composable.trans drew (enter t bridge.registry h)
      split
      all_goals
        rename_i ran
        rw [ran] at entered
        exact entered

-- What happens to the operation of a call that is refused or has panicked.
theorem settle (composable : Composable R) (evict : ∀ s r h why, R s (State.evict s r h why).2)
    (desert : ∀ s c, R s (State.desert s c))
    (note : ∀ s e, e.plain → R s (State.note s e)) (s : State) (bridge : Bridge) (op : Operation) (decoder : Decoder)
    (ending : Except Panic Int32) : R s (s.settle bridge op decoder ending).2 := by
  have read (s : State) (hook : Option Hook) (errors : ThreadErrors) : R s (s.readDetails hook errors).2 := by
    unfold State.readDetails
    repeat' split
    all_goals first | exact composable.refl s | exact note s _ rfl
  have refusal (s : State) (status : Int32) : R s (s.refusal bridge op status).2 :=
    composable.trans (read s _ _) (composable.trans (note _ _ rfl) (desert _ _))
  cases ending with
  | error p =>
    have evicted := evict s bridge.registry op.handle .unwound
    simp only [State.settle,State.unwind]
    split
    all_goals
      rename_i ran
      rw [ran] at evicted
      exact composable.trans evicted (desert _ _)
  | ok status =>
    have evicted := evict s bridge.registry op.handle (.rejected status)
    simp only [State.settle,State.reject]
    split
    · exact composable.refl s
    · split
      all_goals
        rename_i ran
        rw [ran] at evicted
      · exact composable.trans evicted (desert _ _)
      · refine composable.trans ?_ (refusal _ status)
        split
        · exact evicted
        · exact composable.trans evicted (note _ _ rfl)

end Composable

-- It holds as well over looks at promises, and over giving them up.
structure ComposableWait (R : State → State → Prop) : Prop extends Composable R where
  look (s : State) (p : Promise) : R s (s.poll p .quiet).2.2
  forget (s : State) (p : Promise) : R s (s.forget p)
  timedOut (s : State) (h : Handle) (after : Duration) : R s (s.note (.timedOut h after))

namespace ComposableWait

variable {R : State → State → Prop}

theorem withTimeout (waiting : ComposableWait R) (s : State) (p : Promise) (after : Duration) : R s (s.withTimeout p after).2 := by
  have looked := waiting.look s p
  unfold State.withTimeout
  split
  all_goals
    rename_i ran
    rw [ran] at looked
  · exact waiting.trans looked (waiting.forget _ _)
  · exact waiting.trans looked (waiting.forget _ _)
  · exact waiting.trans looked (waiting.trans (waiting.timedOut _ _ _) (waiting.forget _ _))

theorem await (waiting : ComposableWait R) (s : State) (p : Promise) : R s (s.await p).2 := by
  have looked := waiting.look s p
  unfold State.await
  split
  all_goals
    rename_i ran
    rw [ran] at looked
  · exact waiting.trans looked (waiting.forget _ _)
  · exact waiting.trans looked (waiting.forget _ _)
  · exact looked

theorem awaitAtMost (waiting : ComposableWait R) (s : State) (p : Promise) (limit : Option Duration) :
    R s (s.awaitAtMost p limit).2 := by
  cases limit with
  | none => exact waiting.await s p
  | some after => exact waiting.withTimeout s p after

theorem wait (waiting : ComposableWait R) (s : State) (p : Promise) : R s (s.wait p).2 := by
  unfold State.wait
  split
  · exact waiting.forget s p
  · exact waiting.awaitAtMost s p _

theorem forgetAll (waiting : ComposableWait R) (ps : List Promise) (s : State) : R s (ps.foldl State.forget s) := by
  induction ps generalizing s with
  | nil => exact waiting.refl s
  | cons p rest ih => exact waiting.trans (waiting.forget s p) (ih _)

theorem awaitAll (waiting : ComposableWait R) (ps : List Promise) (s : State) : R s (State.awaitAll ps s).2 := by
  induction ps generalizing s with
  | nil => exact waiting.refl s
  | cons p rest ih =>
    have waited := waiting.wait s p
    simp only [State.awaitAll]
    split
    all_goals
      rename_i ran
      rw [ran] at waited
    · exact waiting.trans waited (waiting.forgetAll rest _)
    · exact waiting.trans waited (ih _)
    · exact waiting.trans waited (ih _)

end ComposableWait

-- It holds as well over all that a call is made of.
structure ComposableCall (R : State → State → Prop) : Prop extends Composable R where
  register (s : State) (b : Nat) : R s (s.register b).2
  enterLibrary (s : State) (h : Handle) (call : NativeCall) : R s (s.enterLibrary h call).2
  settle (s : State) (bridge : Bridge) (op : Operation) (decoder : Decoder) (ending : Except Panic Int32) :
    R s (s.settle bridge op decoder ending).2
  completeAll (s : State) : R s s.completeAll
  hold (s : State) (b : Nat) : R s (s.hold b)
  finish (s : State) (b : Nat) (r : Result) : R s (s.finish b r).2
  awaitAll (ps : List Promise) (s : State) : R s (State.awaitAll ps s).2

namespace ComposableCall

variable {R : State → State → Prop}

theorem submit (calling : ComposableCall R) (native : Handle → State → NativeRun α) (runs : ∀ h s, R s (native h s).state)
    (s : State) (b : Nat) (decoder : Decoder) : R s (s.submit b native decoder).state := by
  have registered := calling.register s b
  unfold State.submit
  split
  all_goals
    rename_i ran
    rw [ran] at registered
  · exact registered
  · exact calling.trans registered (calling.trans (runs _ _) (calling.settle _ _ _ _ _))

theorem submitNative (calling : ComposableCall R) (s : State) (b : Nat) (call : NativeCall) (other : Option Handle)
    (decoder : Decoder) :
    R s (s.submitNative b call other decoder).state :=
  calling.submit _ (fun h s => calling.enterLibrary s (other.getD h) call) s b decoder

theorem request (calling : ComposableCall R) (accepted : State.request s b r = .ok sub) : R s sub.state := by
  unfold State.request at accepted
  split at accepted
  · cases accepted
  · cases accepted
    exact calling.submitNative _ _ _ _ _

theorem submitEchoes (calling : ComposableCall R) (b count i : Nat) (collected : List Promise) (s : State) :
    R s (State.submitEchoes b count i collected s).2 := by
  induction count generalizing i collected s with
  | zero => exact calling.refl s
  | succ count ih =>
    simp only [State.submitEchoes]
    split
    · exact calling.refl s
    · rename_i requested
      have submitted := calling.request requested
      split
      · exact submitted
      · exact calling.trans submitted (calling.trans (calling.completeAll _) (ih _ _ _))

theorem stress (calling : ComposableCall R) (s : State) (b count : Nat) : R s (s.stress b count).2 := by
  have echoed := calling.trans (calling.hold s b) (calling.submitEchoes b count 0 [] (s.hold b))
  unfold State.stress
  split
  all_goals
    rename_i ran
    rw [ran] at echoed
  · exact calling.trans echoed (calling.trans (calling.completeAll _) (calling.finish _ _ _))
  · exact calling.trans echoed (calling.trans (calling.awaitAll _ _) (calling.finish _ _ _))

end ComposableCall

-- It holds as well over all that an actor does with a message.
structure ComposableActor (R : State → State → Prop) : Prop extends Composable R where
  release (s : State) (r : Nat) : R s (s.release r).2
  dispatch (s : State) (b : Nat) (d : Delivery) : R s (s.dispatch b d).2
  stopped (s : State) (a : Nat) : R s (s.changeActor a Actor.stopped)
  next (s : State) (a : Nat) (m : Message) (rest : List Message)
    (present : s.actor? a = some ⟨b,m :: rest,true,accepted,handled⟩) : R s (s.changeActor a (Actor.next m rest))
  requesterGone (s : State) : R s (s.note .requesterGone)

namespace ComposableActor

variable {R : State → State → Prop}

theorem stopActor (service : ComposableActor R) (s : State) (a : Nat) : R s (s.stopActor a).2 :=
  service.toComposable.stopActor service.release service.stopped s a

theorem handleMessage (service : ComposableActor R) (s : State) (a b : Nat) (m : Message) : R s (s.handleMessage a b m).2 := by
  cases m with
  | deliver d =>
    have dispatched := service.dispatch s b d
    simp only [State.handleMessage]
    split
    all_goals
      rename_i ran
      rw [ran] at dispatched
    · exact dispatched
    · exact service.trans dispatched (service.stopActor _ _)
  | report awaited => cases awaited with
    | true => exact service.refl s
    | false => exact service.requesterGone s

theorem attend (service : ComposableActor R) (s : State) (a : Nat) : R s (s.attend a).2 := by
  unfold State.attend
  split
  · rename_i present
    exact service.trans (service.next _ _ _ _ present) (service.handleMessage _ _ _ _)
  · exact service.refl s

end ComposableActor

end PendingCalls.Session
