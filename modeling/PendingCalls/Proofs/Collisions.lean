import PendingCalls.Proofs.Draws

-- Only the registration of a call tells of another operation under its handle, and
-- whoever answers so has tried one on the way.

namespace PendingCalls.Session

def NoCollision (outcome : Except Panic α) : Prop := ∀ h, outcome ≠ .error (.collision h)

def Result.NoCollision (r : Result) : Prop := ∀ h, r ≠ .panicked (.collision h)

theorem NoCollision.ok (x : α) : NoCollision (.ok x) := nofun

theorem NoCollision.map {outcome : Except Panic α} (noCollision : NoCollision outcome) (f : α → β) :
    NoCollision (outcome.map f) := by
  cases outcome with
  | ok x => exact .ok _
  | error p =>
    rintro h ⟨⟩
    exact noCollision h rfl

theorem NoCollision.result {outcome : Except Panic α} (noCollision : NoCollision outcome) {f : α → Result}
    (quiet : ∀ x, (f x).NoCollision) : (State.ofExcept f outcome).NoCollision := by
  cases outcome with
  | ok x => exact quiet x
  | error p =>
    rintro h ⟨⟩
    exact noCollision h rfl

theorem NoCollision.ofWait {waited : Except Panic (Option (Except CallError Datum))} (noCollision : NoCollision waited) :
    (Result.ofWait waited).NoCollision := by
  obtain p | _ | result := waited
  · rintro h ⟨⟩
    exact noCollision h rfl
  · nofun
  · nofun

-- A panic is passed on.
theorem NoCollision.failed {outcome : Except Panic α} (noCollision : NoCollision outcome) (same : outcome = .error p) :
    NoCollision (.error p : Except Panic β) := by
  subst same
  rintro h ⟨⟩
  exact noCollision h rfl

theorem Result.NoCollision.panicked (noCollision : Session.NoCollision (.error p : Except Panic Unit)) :
    (Result.panicked p).NoCollision := by
  rintro h ⟨⟩
  exact noCollision h rfl

theorem wake_noCollision (waker : Option Waker) : NoCollision (wake waker) := by
  unfold wake
  split <;> nofun

namespace State

theorem hangUp_noCollision (s : State) (c : Nat) : NoCollision (s.hangUp c).1 := by
  unfold hangUp
  split
  · exact .ok _
  · exact wake_noCollision _

theorem evict_noCollision (s : State) (r : Nat) (h : Handle) (why : Departure) : NoCollision (s.evict r h why).1 := by
  unfold evict
  split
  · exact .ok _
  · exact (hangUp_noCollision _ _).map _

theorem dispatch_noCollision (s : State) (b : Nat) (d : Delivery) : NoCollision (s.dispatch b d).1 := by
  unfold dispatch
  repeat' split
  all_goals first
    | exact .ok _
    | exact (wake_noCollision _).map _

theorem hangUpAll_noCollision (r : Nat) (ops : List Operation) (s : State) : NoCollision (hangUpAll r ops s).1 := by
  induction ops generalizing s with
  | nil => exact .ok _
  | cons op rest ih =>
    have first := hangUp_noCollision (s.note (.left r op .registryClosed)) op.channel
    simp only [hangUpAll]
    split
    · exact ih _
    · rename_i p t woken
      exact first.failed (congrArg Prod.fst woken)

theorem endRegistry_noCollision (s : State) (r : Nat) (order : List Operation) : NoCollision (s.endRegistry r order).1 := by
  unfold endRegistry
  split
  · exact .ok _
  · exact hangUpAll_noCollision _ _ _

theorem release_noCollision (s : State) (r : Nat) : NoCollision (s.release r).1 := by
  unfold release
  split
  · exact .ok _
  · exact endRegistry_noCollision _ _ _

theorem letGo_noCollision (s : State) (b : Nat) : NoCollision (s.letGo b).1 := by
  unfold letGo
  split
  · exact .ok _
  · exact release_noCollision _ _

theorem dropBridge_noCollision (s : State) (b : Nat) : NoCollision (s.dropBridge b).1 := by
  unfold dropBridge
  split
  · exact .ok _
  · exact release_noCollision _ _

theorem stopActor_noCollision (s : State) (a : Nat) : NoCollision (s.stopActor a).1 := by
  unfold stopActor
  dsimp only
  repeat' split
  all_goals first
    | exact .ok _
    | exact release_noCollision _ _

theorem poll_noCollision (s : State) (p : Promise) (waker : Waker) (h : Handle) :
    (s.poll p waker).1 ≠ .panicked (.collision h) := by
  have turned : Poll.turnedAway waker ≠ .panicked (.collision h) := by cases waker <;> nofun
  have took (t : State) (c decoder o) : (t.take p c decoder o).1 ≠ .panicked (.collision h) := by
    unfold take
    repeat' split
    all_goals nofun
  unfold poll
  repeat' split
  all_goals first
    | exact turned
    | exact took _ _ _ _
    | nofun

theorem poll_failed (polled : (poll s p waker).1 = .panicked q) : NoCollision (.error q : Except Panic α) := by
  rintro h ⟨⟩
  exact poll_noCollision s p waker h polled

theorem withTimeout_noCollision (s : State) (p : Promise) (after : Duration) : NoCollision (s.withTimeout p after).1 := by
  unfold withTimeout
  split
  · exact .ok _
  · rename_i polled
    exact poll_failed (congrArg Prod.fst polled)
  · exact .ok _

theorem await_noCollision (s : State) (p : Promise) : NoCollision (s.await p).1 := by
  unfold await
  split
  · exact .ok _
  · rename_i polled
    exact poll_failed (congrArg Prod.fst polled)
  · exact .ok _

theorem awaitAtMost_noCollision (s : State) (p : Promise) (limit : Option Duration) : NoCollision (s.awaitAtMost p limit).1 := by
  cases limit with
  | none => exact await_noCollision _ _
  | some after => exact (withTimeout_noCollision _ _ _).map _

theorem wait_noCollision (s : State) (p : Promise) : NoCollision (s.wait p).1 := by
  unfold wait
  split
  · nofun
  · exact awaitAtMost_noCollision _ _ _

theorem awaitAll_noCollision (ps : List Promise) (s : State) : NoCollision (awaitAll ps s).1 := by
  induction ps generalizing s with
  | nil => exact .ok _
  | cons p rest ih =>
    have first := wait_noCollision s p
    simp only [awaitAll]
    split
    · rename_i waited
      exact first.failed (congrArg Prod.fst waited)
    · exact ih _
    · exact (ih _).map _

theorem settle_noCollision (s : State) (bridge : Bridge) (op : Operation) (decoder : Decoder) {ending : Except Panic Int32}
    (noCollision : NoCollision ending) : NoCollision (s.settle bridge op decoder ending).1 := by
  cases ending with
  | error p =>
    have evicted := evict_noCollision s bridge.registry op.handle .unwound
    simp only [settle,unwind]
    split
    · rename_i ran
      exact evicted.failed (congrArg Prod.fst ran)
    · rintro h ⟨⟩
      exact noCollision h rfl
  | ok status =>
    have evicted := evict_noCollision s bridge.registry op.handle (.rejected status)
    simp only [settle]
    split
    · exact .ok _
    · simp only [reject]
      split
      · rename_i ran
        exact evicted.failed (congrArg Prod.fst ran)
      · exact .ok _

theorem finish_noCollision (s : State) (b : Nat) {r : Result} (quiet : r.NoCollision) : (s.finish b r).1.NoCollision := by
  have gone := letGo_noCollision s b
  unfold finish
  split
  · rename_i ran
    exact .panicked (gone.failed (congrArg Prod.fst ran))
  · exact quiet

theorem pollSlot_noCollision (s : State) (i : Nat) (x : Slot) (waker : Waker) : (s.pollSlot i x waker).1.NoCollision := by
  unfold pollSlot
  dsimp only
  split
  · nofun
  · nofun
  · rename_i polled
    exact .panicked (poll_failed polled)

theorem waitSlot_noCollision (s : State) (i : Nat) (x : Slot) : (s.waitSlot i x).1.NoCollision := by
  have waited := wait_noCollision (s.clearSlot i) x.promise
  unfold waitSlot
  split
  · nofun
  · split
    · rename_i ran
      exact .panicked (waited.failed (congrArg Prod.fst ran))
    · nofun
    · nofun

theorem limitSlot_noCollision (s : State) (i : Nat) (x : Slot) (after : Duration) : (s.limitSlot i x after).1.NoCollision := by
  unfold limitSlot
  split
  · nofun
  · exact (withTimeout_noCollision _ _ _).result fun _ _ other => by cases other

end State

-- On the way from one scene to another, the registration of a call met an operation
-- under its handle.
def Collides (license : License) (x y : Scene) (h : Handle) : Prop :=
  ∃ s hands b t, Motions license x ⟨s,hands⟩ ∧ s.register b = (.error (.collision h),t) ∧ Motions license ⟨t,hands⟩ y

variable {license : License} {hands : List Slot} {h : Handle}

namespace Collides

theorem after (collides : Collides license y z h) (before : Motions license x y) : Collides license x z h := by
  obtain ⟨s,hands,b,t,first,failed,rest⟩ := collides
  exact ⟨s,hands,b,t,before.trans first,failed,rest⟩

theorem before (collides : Collides license x y h) (after : Motions license y z) : Collides license x z h := by
  obtain ⟨s,hands,b,t,first,failed,rest⟩ := collides
  exact ⟨s,hands,b,t,first,failed,rest.trans after⟩

end Collides

namespace State

theorem submit_refused (failed : register s b = (.error p,t)) (native : Handle → State → NativeRun α) (decoder : Decoder) :
    s.submit b native decoder = ⟨.error p,none,t⟩ := by
  rw [submit,failed]

theorem submit_collided {native : Handle → State → NativeRun α} (noCollision : ∀ h s, NoCollision (native h s).ending)
    (s : State) (b : Nat) (decoder : Decoder) (told : (s.submit b native decoder).outcome = .error (.collision h)) :
    s.register b = (.error (.collision h),(s.submit b native decoder).state) := by
  unfold submit at told ⊢
  split at told
  · rename_i failed
    cases told
    exact failed
  · exact absurd told (settle_noCollision _ _ _ _ (noCollision _ _) h)

theorem submit_collides {native : Handle → State → NativeRun α} (noCollision : ∀ h s, NoCollision (native h s).ending)
    (s : State) (b : Nat) (decoder : Decoder) (told : (s.submit b native decoder).outcome = .error (.collision h)) :
    Collides license ⟨s,hands⟩ ⟨(s.submit b native decoder).state,given b (s.submit b native decoder).outcome ++ hands⟩ h := by
  have failed := submit_collided noCollision s b decoder told
  rw [told]
  exact ⟨s,hands,b,_,.refl,failed,.refl⟩

theorem submitNative_collides (s : State) (b : Nat) (call : NativeCall) (other : Option Handle) (decoder : Decoder)
    (told : (s.submitNative b call other decoder).outcome = .error (.collision h)) :
    Collides license ⟨s,hands⟩ ⟨(s.submitNative b call other decoder).state,
      given b (s.submitNative b call other decoder).outcome ++ hands⟩ h :=
  submit_collides (fun _ _ => .ok _) s b decoder told

theorem request_collides (accepted : s.request b r = .ok sub) (told : sub.outcome = .error (.collision h)) :
    Collides license ⟨s,hands⟩ ⟨sub.state,given b sub.outcome ++ hands⟩ h := by
  unfold request at accepted
  split at accepted
  · cases accepted
  · cases accepted
    exact submitNative_collides _ _ _ _ _ told

theorem keep_told {outcome : Except Panic Promise} (told : (keep s b outcome).1 = .panicked (.collision h)) :
    outcome = .error (.collision h) := by
  cases outcome with
  | ok p => cases told
  | error p =>
    cases told
    rfl

theorem finish_told (told : (finish s b r).1 = .panicked (.collision h)) : r = .panicked (.collision h) := by
  by_contra other
  have gone := letGo_noCollision s b
  unfold finish at told
  split at told
  · rename_i ran
    cases told
    exact gone h (congrArg Prod.fst ran)
  · exact other told

theorem submitted_collides {sub : Submission Unit} (told : (submitted b sub).1 = .panicked (.collision h))
    (inside : sub.outcome = .error (.collision h) →
      Collides license ⟨s,hands⟩ ⟨sub.state,given b sub.outcome ++ hands⟩ h) :
    Collides license ⟨s,hands⟩ ⟨(submitted b sub).2,hands⟩ h :=
  (inside (keep_told (finish_told told))).before (submitted_motions b sub)

theorem submitEchoes_collides (b count i : Nat) (collected : List Promise) (s : State)
    (told : (submitEchoes b count i collected s).1 = .error (.collision h)) :
    Collides license ⟨s,collected.map (Slot.mk b) ++ hands⟩ ⟨(submitEchoes b count i collected s).2,hands⟩ h := by
  induction count generalizing i collected s with
  | zero => cases told
  | succ count ih =>
    simp only [submitEchoes] at told ⊢
    split at told
    · cases told
    · rename_i sub requested
      split at told
      · rename_i failed
        cases told
        have collides : Collides license ⟨s,collected.map (Slot.mk b) ++ hands⟩ _ h := request_collides requested failed
        rw [failed] at collides
        exact collides.before (lose_all (collected.map (Slot.mk b)))
      · rename_i p accepted
        have submitted : Motions license ⟨s,collected.map (Slot.mk b) ++ hands⟩
            ⟨sub.state,given b sub.outcome ++ (collected.map (Slot.mk b) ++ hands)⟩ := request_motions requested
        rw [accepted] at submitted
        exact (ih _ (p :: collected) _ told).after (submitted.trans (completeAll_motions _))

theorem stress_collides (s : State) (b count : Nat) (listed : s.listed? b = some bridge)
    (told : (s.stress b count).1 = .panicked (.collision h)) :
    Collides license ⟨s,hands⟩ ⟨(s.stress b count).2,hands⟩ h := by
  have held : Motions license ⟨s,hands⟩ ⟨s.hold b,hands⟩ := .single (.hold listed)
  have submitted : _ → Collides license ⟨s.hold b,hands⟩ _ h := submitEchoes_collides b count 0 [] (s.hold b)
  unfold stress at told ⊢
  split at told
  all_goals
    rename_i ran
    rw [ran] at submitted
  · have same := finish_told told
    rw [Result.panicked.injEq] at same
    subst same
    exact ((submitted rfl).after held).before ((completeAll_motions _).trans (finish_motions _ _ _))
  · refine absurd told (finish_noCollision _ _ ?_ h)
    exact (awaitAll_noCollision _ _).result nofun

theorem onBridge_collides {f : Bridge → Result × State} (told : (onBridge s b f).1 = .panicked (.collision h))
    (inside : ∀ bridge, s.listed? b = some bridge → (f bridge).1 = .panicked (.collision h) →
      Collides license ⟨s,hands⟩ ⟨(f bridge).2,hands⟩ h) :
    Collides license ⟨s,hands⟩ ⟨(s.onBridge b f).2,hands⟩ h := by
  unfold onBridge at told ⊢
  split at told
  · rename_i bridge listed
    exact inside bridge listed told
  · cases told

end State

def Action.registers : Action → Bool
  | .insert .. | .request .. | .native .. | .stress .. => true
  | _ => false

-- The actions that show a result of a call.
def Action.shows : Action → Bool
  | .poll .. | .wait _ | .withTimeout .. | .stress .. => true
  | _ => false

-- It is no result of a call, and tells of no other operation.
def Result.Plain : Result → Prop
  | .panicked p => Session.NoCollision (.error p : Except Panic Unit)
  | .settled _ | .stressed .. => False
  | _ => True

theorem Result.Plain.noCollision {r : Result} (plain : r.Plain) : r.NoCollision := by
  cases r with
  | panicked p => exact .panicked plain
  | _ => rintro h ⟨⟩

theorem NoCollision.plain {outcome : Except Panic α} (noCollision : NoCollision outcome) {f : α → Result}
    (plain : ∀ x, (f x).Plain) :
    (State.ofExcept f outcome).Plain := by
  cases outcome with
  | ok x => exact plain x
  | error p => exact noCollision.failed rfl

-- Whatever an action says that neither looks at a result nor registers a call.
theorem Action.run_plain (own : Handle) (s : State) (a : Action) (blind : a.shows = false) (quiet : a.registers = false) :
    (a.run own s).1.Plain := by
  have bridged {b : Nat} {f : Bridge → Result × State} (plain : ∀ bridge, (f bridge).1.Plain) : (s.onBridge b f).1.Plain :=
    State.onBridge_cases (Q := fun ran => ran.1.Plain) (by rintro h ⟨⟩) fun bridge _ => plain bridge
  have driven {work : State → Result × State} (plain : (work s).1.Plain) : (s.onRuntime work).1.Plain :=
    State.onRuntime_cases (Q := fun ran => ran.1.Plain) (by rintro h ⟨⟩) plain
  have looked {i : Nat} {f : Slot → Result × State} (plain : ∀ x, (f x).1.Plain) : (s.onSlot i f).1.Plain :=
    State.onSlot_cases (Q := fun ran => ran.1.Plain) (by rintro h ⟨⟩) fun x _ => plain x
  have posted (sent : Option Stats → Result) (stopped : Result) (told : Posted) (plain : ∀ reply, (sent reply).Plain)
      (other : stopped.Plain) : (State.ofPosted sent stopped told).Plain := by
    cases told with
    | sent reply => exact plain reply
    | refused => exact other
  have replied (reply : Option Stats) : (State.statsReply reply).Plain := by cases reply <;> trivial
  cases a with
  | insert | request | native | stress => cases quiet
  | poll | wait | withTimeout => cases blind
  | dispatch => exact bridged fun _ => (State.dispatch_noCollision _ _ _).plain fun _ => trivial
  | abandon => exact bridged fun _ => (State.evict_noCollision _ _ _ _).plain fun _ => trivial
  | isPending | stats | config => exact bridged fun _ => trivial
  | allocate =>
    refine bridged fun _ => ?_
    split <;> trivial
  | receive =>
    simp only [run,State.receive]
    split <;> trivial
  | dropBridge =>
    simp only [run]
    split
    · trivial
    · exact (State.dropBridge_noCollision _ _).plain fun _ => trivial
  | handle | isResolved | dropSlot => exact looked fun _ => trivial
  | spawnActor => exact bridged fun _ => driven trivial
  | actorDeliver | actorStatsAbandoned => exact posted _ _ _ (fun _ => trivial) trivial
  | actorStats => exact driven (posted _ _ _ replied trivial)
  | actorStop =>
    simp only [run]
    split
    · trivial
    · split
      · exact (State.stopActor_noCollision _ _).plain fun _ => trivial
      · trivial
  | attend => exact replied _
  | bind =>
    refine bridged fun _ => ?_
    split <;> trivial
  | bindActor =>
    refine bridged fun _ => driven ?_
    split <;> trivial
  | tell | isInstalled | callback | land => trivial

theorem Action.run_noCollision (own : Handle) (s : State) (a : Action) (quiet : a.registers = false) :
    (a.run own s).1.NoCollision := by
  have looked {i : Nat} {f : Slot → Result × State} (quiet : ∀ x, (f x).1.NoCollision) : (s.onSlot i f).1.NoCollision :=
    State.onSlot_cases (Q := fun ran => ran.1.NoCollision) nofun fun x _ => quiet x
  cases a with
  | insert | request | native | stress => cases quiet
  | poll i waker => exact looked fun _ => State.pollSlot_noCollision _ _ _ _
  | wait i => exact looked fun _ => State.waitSlot_noCollision _ _ _
  | withTimeout i after => exact looked fun _ => State.limitSlot_noCollision _ _ _ _
  | _ => exact (run_plain own s _ rfl rfl).noCollision

theorem Action.run_collides (own : Handle) (s : State) (a : Action) (calls : license.inserting = false)
    (licensed : a.within license) (told : (a.run own s).1 = .panicked (.collision h)) :
    Collides license ⟨s,hands⟩ ⟨(a.run own s).2,hands⟩ h := by
  cases a with
  | request b r =>
    refine State.onBridge_collides told fun bridge listed told => ?_
    split at told
    · cases told
    · rename_i requested
      exact (State.submitted_collides told (State.request_collides requested)).after (.single (.hold listed))
  | native b call other decoder =>
    refine State.onBridge_collides told fun bridge listed told => ?_
    exact (State.submitted_collides told (State.submitNative_collides _ _ _ _ _)).after (.single (.hold listed))
  | stress b count => exact State.onBridge_collides told fun bridge listed told => s.stress_collides b count listed told
  | insert => cases calls.symm.trans licensed
  | _ => exact absurd told (run_noCollision own s _ rfl h)

-- What an answer tells, by itself or by the answers inside of it.
inductive Answer.Tells (r : Result) : Answer → Prop where
  | here : Tells r (.mk r during gauges events)
  | inside (there : a ∈ answers) : Tells r a → Tells r (.mk other (some answers) gauges events)

-- A native call that tells of other operations under a handle only where one was met.
structure ReportsCollisions (license : License) (h : Handle) (native : Handle → State → NativeRun (List Answer)) : Prop where
  runs : ∀ own s hands, Motions license ⟨s,hands⟩ ⟨(native own s).state,hands⟩
  noCollision : ∀ own s, NoCollision (native own s).ending
  inside : ∀ own s hands, ∀ a ∈ (native own s).extra, a.Tells (.panicked (.collision h)) →
    Collides license ⟨s,hands⟩ ⟨(native own s).state,hands⟩ h

namespace State

theorem answer_tells (told : (answer s r none).1.Tells x) : r = x := by
  cases told with
  | here => rfl

theorem endCall_tells (told : (endCall s b r extra).1.Tells x) :
    (s.finish b r).1 = x ∨ ∃ answers, extra = some answers ∧ ∃ a ∈ answers, a.Tells x := by
  generalize ended : (s.endCall b r extra).1 = a at told
  cases told with
  | here =>
    cases ended
    exact .inl rfl
  | inside there told =>
    injection ended with _ during
    obtain ⟨others,some,same⟩ := Option.bind_eq_some_iff.mp during
    split at same
    · cases same
    · cases same
      exact .inr ⟨_,some,_,there,told⟩

variable {native : Handle → State → NativeRun (List Answer)}

theorem submit_inside (reportsCollisions : ReportsCollisions license h native) (s : State) (b : Nat) (decoder : Decoder)
    (extra : (s.submit b native decoder).extra = some answers) (there : a ∈ answers)
    (told : a.Tells (.panicked (.collision h))) :
    Collides license ⟨s,hands⟩ ⟨(s.submit b native decoder).state,given b (s.submit b native decoder).outcome ++ hands⟩ h := by
  unfold submit at extra ⊢
  split at extra
  · cases extra
  · rename_i op _ registered
    cases extra
    have registering : Motions license ⟨s,hands⟩ _ := .single (.register registered decoder)
    exact ((reportsCollisions.inside op.handle _ _ _ there told).after registering).before (settle_motions _ _ _ _ _ _)

theorem submit_endCall (reportsCollisions : ReportsCollisions license h native) (s : State) (b : Nat) (decoder : Decoder)
    (reached : Motions license ⟨(s.submit b native decoder).state,given b (s.submit b native decoder).outcome ++ hands⟩ ⟨u,hands⟩)
    (own : r = .panicked (.collision h) → (s.submit b native decoder).outcome = .error (.collision h))
    (told : (u.endCall b r (s.submit b native decoder).extra).1.Tells (.panicked (.collision h))) :
    Collides license ⟨s,hands⟩ ⟨(u.endCall b r (s.submit b native decoder).extra).2,hands⟩ h := by
  have submitted : Collides license ⟨s,hands⟩ ⟨(s.submit b native decoder).state,
      given b (s.submit b native decoder).outcome ++ hands⟩ h := by
    rcases endCall_tells told with panicked | ⟨answers,extra,a,there,told⟩
    · exact submit_collides reportsCollisions.noCollision _ _ _ (own (finish_told panicked))
    · exact submit_inside reportsCollisions _ _ _ extra there told
  exact submitted.before (reached.trans (endCall_motions _ _ _ _))

theorem submitScript_collides (reportsCollisions : ReportsCollisions license h native) (s : State) (b : Nat) (decoder : Decoder)
    (told : (s.submitScript b native decoder).1.Tells (.panicked (.collision h))) :
    Collides license ⟨s,hands⟩ ⟨(s.submitScript b native decoder).2,hands⟩ h := by
  unfold submitScript at told ⊢
  split at told
  · cases answer_tells told
  · rename_i listed
    exact (submit_endCall reportsCollisions (s.hold b) b decoder (keep_motions _ _ _) keep_told told).after (.single (.hold listed))

theorem inTurn_reportsCollisions (allowed : license.driving) (reportsCollisions : ReportsCollisions license h native) :
    ReportsCollisions license h (inTurn native) where
  runs := inTurn_motions allowed native reportsCollisions.runs
  noCollision own _ := reportsCollisions.noCollision own _
  inside own _ hands a there told :=
    ((reportsCollisions.inside own _ hands a there told).after (.single (.turn allowed _))).before (.single (.turn allowed none))

theorem callScript_collides (allowed : license.driving) (reportsCollisions : ReportsCollisions license h native) (s : State)
    (b : Nat)
    (decoder : Decoder) (told : (s.callScript b native decoder).1.Tells (.panicked (.collision h))) :
    Collides license ⟨s,hands⟩ ⟨(s.callScript b native decoder).2,hands⟩ h := by
  cases listed : s.listed? b with
  | none =>
    rw [callScript_gone listed] at told
    cases answer_tells told
  | some bridge =>
    cases free : s.driven with
    | true =>
      rw [callScript_nested listed free] at told
      cases answer_tells told
    | false =>
      have held : Motions license ⟨s,hands⟩ ⟨s.hold b,hands⟩ := .single (.hold listed)
      have called {u r} (reached : Motions license _ ⟨u,hands⟩) :=
        submit_endCall (r := r) (inTurn_reportsCollisions allowed reportsCollisions) (s.hold b) b decoder reached
      cases outcome : ((s.hold b).submit b (inTurn native) decoder).outcome with
      | error p =>
        rw [outcome] at called
        rw [callScript_panics listed free rfl outcome] at told ⊢
        refine (called .refl ?_ told).after held
        rintro ⟨⟩
        rfl
      | ok p =>
        rw [outcome] at called
        rw [callScript_waits listed free rfl outcome] at told ⊢
        have quiet := awaitAtMost_noCollision ((s.hold b).submit b (inTurn native) decoder).state p bridge.config.defaultTimeout
        refine (called (awaitAtMost_motions _ b p _) (fun panicked => ?_) told).after held
        exact absurd panicked (quiet.ofWait h)

theorem scripted_reportsCollisions (ending : Except String Int32) (during : List Step)
    (runs : ∀ own s hands, Motions license ⟨s,hands⟩ ⟨(runSteps own s during).2,hands⟩)
    (inside : ∀ own s hands, ∀ a ∈ (runSteps own s during).1, a.Tells (.panicked (.collision h)) →
      Collides license ⟨s,hands⟩ ⟨(runSteps own s during).2,hands⟩ h) :
    ReportsCollisions license h (fun own s => scripted ending (runSteps own s during)) := by
  refine ⟨fun own s hands => ?_,fun own s => ?_,fun own s hands a there told => ?_⟩
  · rw [scripted_state]
    exact runs own s hands
  · cases ending <;> nofun
  · rw [scripted_state]
    refine inside own s hands a ?_ told
    cases ending <;> exact there

end State

mutual

theorem Step.run_collides (step : Step) (own : Handle) (s : State) (hands : List Slot) (calls : license.inserting = false)
    (licensed : step.Every (fun step => step.within license)) (told : (step.run own s).1.Tells (.panicked (.collision h))) :
    Collides license ⟨s,hands⟩ ⟨(step.run own s).2,hands⟩ h := by
  cases step with
  | act a =>
    simp only [Step.Every] at licensed
    simp only [Step.run] at told ⊢
    exact (a.run_collides own s calls licensed (State.answer_tells told)).before (State.answer_motions _ _ _)
  | submit b decoder ending during =>
    simp only [Step.Every] at licensed
    simp only [Step.run] at told ⊢
    refine State.submitScript_collides (State.scripted_reportsCollisions ending during ?_ ?_) _ _ _ told
    · exact fun own s hands => runSteps_motions during own s hands licensed.2
    · exact fun own s hands a there told => runSteps_collides during own s hands calls licensed.2 there told
  | call b decoder ending during =>
    simp only [Step.Every] at licensed
    simp only [Step.run] at told ⊢
    refine State.callScript_collides licensed.1 (State.scripted_reportsCollisions ending during ?_ ?_) _ _ _ told
    · exact fun own s hands => runSteps_motions during own s hands licensed.2
    · exact fun own s hands a there told => runSteps_collides during own s hands calls licensed.2 there told

theorem runSteps_collides (steps : List Step) (own : Handle) (s : State) (hands : List Slot) (calls : license.inserting = false)
    (licensed : Licensed license steps) (there : a ∈ (runSteps own s steps).1) (told : a.Tells (.panicked (.collision h))) :
    Collides license ⟨s,hands⟩ ⟨(runSteps own s steps).2,hands⟩ h := by
  cases steps with
  | nil =>
    simp only [runSteps] at there
    cases there
  | cons step rest =>
    simp only [Licensed,EveryStep] at licensed
    simp only [runSteps] at there ⊢
    rcases List.mem_cons.mp there with rfl | later
    · exact (Step.run_collides step own s hands calls licensed.1 told).before (runSteps_motions rest own _ hands licensed.2)
    · exact (runSteps_collides rest own _ hands calls licensed.2 later told).after (Step.run_motions step own s hands licensed.1)

end

-- A call panics because of an operation under its handle only if the operation is overtaken:
-- its handle was drawn whole turns of the registry before, and it has been pending ever
-- since. So that does not happen before the registry has gone through all the handles.
theorem collisions_take_a_turn (calls : Licensed .calling steps) :
    (∀ (α : Type) (native : Handle → State → NativeRun α) (decoder : Decoder) (s : State) (hands : List Slot) (b : Nat)
      (h : Handle), Motions .calling ⟨.start attendance firsts plans,[]⟩ ⟨s,hands⟩ → (∀ h s, NoCollision (native h s).ending) →
      (s.submit b native decoder).outcome = .error (.collision h) →
        ∃ r op, s.registryOf b = some r ∧ op.handle = h ∧ s.DrawnAgain r op ∧
          (s.submit b native decoder).state.journal = .drew r h :: s.journal ∧
          Handle.turn < drawn r (s.submit b native decoder).state.journal ∧
          ∀ u others, Motions .calling ⟨.start attendance firsts plans,[]⟩ ⟨u,others⟩ →
            Motions .calling ⟨u,others⟩ ⟨s,hands⟩ → .entered r op ∈ u.journal → op ∈ u.pendingIn r) ∧
    (∀ a ∈ (run (.start attendance firsts plans) steps).1, ∀ h, a.Tells (.panicked (.collision h)) →
      Collides .calling ⟨.start attendance firsts plans,[]⟩ ⟨(run (.start attendance firsts plans) steps).2,[]⟩ h) ∧
    (∀ r, drawn r (run (.start attendance firsts plans) steps).2.journal ≤ Handle.turn →
      ∀ s hands b h t, Motions .calling ⟨.start attendance firsts plans,[]⟩ ⟨s,hands⟩ → s.registryOf b = some r →
        Motions .calling ⟨t,hands⟩ ⟨(run (.start attendance firsts plans) steps).2,[]⟩ →
          s.register b ≠ (.error (.collision h),t)) ∧
    ((∀ r, drawn r (run (.start attendance firsts plans) steps).2.journal ≤ Handle.turn) →
      ∀ a ∈ (run (.start attendance firsts plans) steps).1, ∀ h, ¬ a.Tells (.panicked (.collision h))) := by
  have tells (a) (there : a ∈ (run (.start attendance firsts plans) steps).1) (h) (told : a.Tells (.panicked (.collision h))) :
      Collides .calling ⟨.start attendance firsts plans,[]⟩ ⟨(run (.start attendance firsts plans) steps).2,[]⟩ h :=
    runSteps_collides steps ⟨0⟩ _ [] rfl calls there told
  have few (r s hands b h t) (bound : drawn r (run (.start attendance firsts plans) steps).2.journal ≤ Handle.turn)
      (before : Motions .calling ⟨.start attendance firsts plans,[]⟩ ⟨s,hands⟩) (desk : s.registryOf b = some r)
      (after : Motions .calling ⟨t,hands⟩ ⟨(run (.start attendance firsts plans) steps).2,[]⟩) :
      s.register b ≠ (.error (.collision h),t) := by
    intro collided
    obtain ⟨q,op,home,_,drawnAgain,journal⟩ := before.drawnAgain rfl collided
    cases home.symm.trans desk
    have more := drawn_mono (after.grows rfl) r
    rw [journal,drawn_drew] at more
    exact Nat.not_lt.mpr bound (Nat.lt_of_lt_of_le (Nat.lt_succ_of_le drawnAgain.drawn) more)
  refine ⟨?_,tells,fun r bound s hands b h t => few r s hands b h t bound,?_⟩
  · intro α native decoder s hands b h motions noCollision told
    have collided := State.submit_collided noCollision s b decoder told
    obtain ⟨r,op,desk,same,drawnAgain,journal⟩ := motions.drawnAgain rfl collided
    refine ⟨r,op,desk,same,drawnAgain,journal,?_,?_⟩
    · rw [journal,drawn_drew]
      exact Nat.lt_succ_of_le drawnAgain.drawn
    · intro u others before after entered
      exact before.still_pending after rfl entered drawnAgain.stayed
  · intro bound a there h told
    obtain ⟨s,hands,b,t,before,collided,after⟩ := tells a there h told
    obtain ⟨r,_,desk,_⟩ := before.drawnAgain rfl collided
    exact few r s hands b h t (bound r) before desk after collided

theorem runSteps_state (step : Step) (rest : List Step) (own : Handle) (s : State) :
    (runSteps own s (step :: rest)).2 = (runSteps own (step.run own s).2 rest).2 := by
  simp only [runSteps]

-- A call, and then draws until its handle is the next one.
def goingAround : List Step := .submit 0 .int (.ok 0) [] :: List.replicate (Handle.turn - 1) (.act (.allocate 0))

theorem allocate_many (own : Handle) (n : Nat) (listed : s.listed? b = some bridge)
    (row : s.registry? bridge.registry = some registry) :
    ∃ after, State.registry? (runSteps own s (List.replicate n (.act (.allocate b)))).2 bridge.registry = some after ∧
      State.listed? (runSteps own s (List.replicate n (.act (.allocate b)))).2 b = some bridge ∧
      after.pending = registry.pending ∧ after.counter.place = (registry.counter.place + n) % Handle.turn := by
  induction n generalizing s registry with
  | zero =>
    rw [List.replicate_zero,runSteps]
    exact ⟨registry,row,listed,rfl,(Nat.mod_eq_of_lt registry.counter.place_lt).symm⟩
  | succ n ih =>
    have step : ((Step.act (.allocate b)).run own s).2 =
        { s.issuing bridge.registry registry with reported := (s.issuing bridge.registry registry).journal.length } := by
      have drawn : s.draw bridge.registry = (some registry.allocate.1,s.issuing bridge.registry registry) := by
        rw [State.draw,row]
        rfl
      simp only [Step.run,Action.run,State.onBridge,listed,drawn,State.answer]
    rw [List.replicate_succ,runSteps_state,step]
    obtain ⟨after,there,still,pending,place⟩ := ih
      (s := { s.issuing bridge.registry registry with reported := (s.issuing bridge.registry registry).journal.length })
      listed (State.issuing_row row)
    refine ⟨after,there,still,pending,?_⟩
    have moved : registry.allocate.2.counter.place = (registry.counter.place + 1) % Handle.turn := registry.counter.issue_place
    rw [place,moved,Nat.mod_add_mod,Nat.add_assoc,Nat.add_comm 1 n]

theorem goingAround_calls : Licensed .calling goingAround := by
  have many (n : Nat) : EveryStep (fun step => step.within .calling) (List.replicate n (.act (.allocate 0))) := by
    induction n with
    | zero => simp only [List.replicate_zero,EveryStep]
    | succ n ih =>
      simp only [List.replicate_succ,EveryStep,Step.Every]
      exact ⟨rfl,ih⟩
  simp only [Licensed,goingAround,EveryStep,Step.Every]
  exact ⟨⟨rfl,trivial⟩,many _⟩

theorem goingAround_end (s : State) (ended : (run (.start .prompt [2147483647] [⟨.standard,some 0,none⟩]) goingAround).2 = s) :
    s.bridge? 0 = some ⟨.standard,0,none,.none,true,0⟩ ∧ ∃ after, s.registry? 0 = some after ∧
      after.pending = [⟨⟨2147483647⟩,0⟩] ∧ after.allocate.1 = ⟨2147483647⟩ := by
  let first := ((Step.submit 0 .int (.ok 0) []).run ⟨0⟩ (.start .prompt [2147483647] [⟨.standard,some 0,none⟩])).2
  have listed : first.listed? 0 = some ⟨.standard,0,none,.none,true,0⟩ := by cbv
  have row : first.registry? 0 = some ⟨⟨-2147483648⟩,[⟨⟨2147483647⟩,0⟩],by decide⟩ := by cbv
  obtain ⟨after,there,still,pending,place⟩ := allocate_many ⟨0⟩ (Handle.turn - 1) listed row
  rw [← runSteps_state] at there still
  refine ⟨ended ▸ (Option.filter_eq_some_iff.mp still).1,after,ended ▸ there,pending,?_⟩
  have last : after.allocate.1.raw.toInt = after.counter.place + 1 := after.counter.issue_handle
  have start : (⟨⟨-2147483648⟩,[⟨⟨2147483647⟩,0⟩],by decide⟩ : Registry).counter.place = 0 := rfl
  rw [place,start] at last
  have same : after.allocate.1.raw.toInt = (2147483647 : Int32).toInt := last.trans rfl
  exact congrArg Handle.mk (Int32.toInt_inj.mp same)

-- The bound is exact, also where the counter starts at its last handle.
theorem goingAround_meets :
    ∃ s hands, Motions .calling ⟨.start .prompt [2147483647] [⟨.standard,some 0,none⟩],[]⟩ ⟨s,hands⟩ ∧
      (s.submit 0 (fun _ t => ⟨.ok 0,(),t⟩) .int).outcome = .error (.collision ⟨2147483647⟩) ∧
      s.DrawnAgain 0 ⟨⟨2147483647⟩,0⟩ ∧ Handle.turn < drawn 0 (s.submit 0 (fun _ t => ⟨.ok 0,(),t⟩) .int).state.journal := by
  have path : Visited .prompt [2147483647] [⟨.standard,some 0,none⟩] goingAround _ := Visited.end _ _ _ _
  obtain ⟨hands,motions⟩ := path.motions goingAround_calls
  generalize ended : (run (.start .prompt [2147483647] [⟨.standard,some 0,none⟩]) goingAround).2 = s at motions
  obtain ⟨known,after,row,pending,next⟩ := goingAround_end s ended
  have found : after.find? after.allocate.1 = some ⟨⟨2147483647⟩,0⟩ := by
    rw [next]
    exact Registry.find?_exact.mpr ⟨by rw [pending]; exact List.mem_singleton_self _,rfl⟩
  rcases s.register_cases 0 with ⟨_,none⟩ | ⟨bridge,registry,known',row',⟨op,_,collided⟩ | ⟨_,free,_⟩⟩
  · cases (none _ known).symm.trans row
  · cases known.symm.trans known'
    cases row.symm.trans row'
    rw [next] at collided
    have told : (s.submit 0 (fun _ t => ⟨.ok 0,(),t⟩) .int).outcome = .error (.collision ⟨2147483647⟩) :=
      congrArg Submission.outcome (State.submit_refused collided _ _)
    obtain ⟨r,op,desk,_,drawnAgain,_,more,_⟩ :=
      (collisions_take_a_turn goingAround_calls).1 Unit _ .int s hands 0 _ motions (fun _ _ => .ok _) told
    rw [State.registryOf,known] at desk
    cases desk
    have one := drawnAgain.pending
    rw [State.pendingIn_row row,pending] at one
    rw [List.mem_singleton.mp one] at drawnAgain
    exact ⟨s,hands,motions,told,drawnAgain,more⟩
  · cases known.symm.trans known'
    cases row.symm.trans row'
    cases free.symm.trans found

end PendingCalls.Session
