import PendingCalls.Proofs.DetailsOrigin

-- What a session leaves behind after each of its steps: no job that the library has
-- accepted and not completed, no message in the mailbox of an actor that handles its
-- messages as they come, and a count of the wallets that were opened.

namespace PendingCalls.Session

def Job.opens : Job → Bool
  | .openWallet _ id => id ≠ Library.missingWallet
  | _ => false

-- The job that comes of a call, if the call is accepted.
def NativeCall.job? (h : Handle) : NativeCall → Option Job
  | .echo message true => (Library.textOf message).map (.echo h)
  | .fail code message true => some (.fail h code ((Library.textOf message).getD "operation failed".toList))
  | .openWallet config true => ((Library.textOf config).bind Library.walletId).map (.openWallet h)
  | .walletInfo wallet true => if wallet ≤ 0 then none else some (.walletInfo h wallet)
  | .isKnownDid did true => (Library.textOf did).map (.isKnownDid h)
  | .createKeyPair seed true => (Library.textOf seed).map (.createKeyPair h)
  | .sign (some data) length true => some (.sign h (data.take length.toNat))
  | .doubleCallback true => some (.doubleCallback h)
  | _ => none

namespace State

variable {s t u : State}

-- Only native calls use the library: whatever else a session does leaves it as it is.
theorem poll_library (s : State) (p : Promise) (waker : Waker) : (s.poll p waker).2.2.library = s.library := by
  have took (t : State) (c decoder o) : (t.take p c decoder o).2.2.library = t.library := by
    rcases take_state t p c decoder o with same | noted
    · rw [same]
    · rw [noted]
      rfl
  unfold poll
  repeat' split
  all_goals first
    | rfl
    | exact took _ _ _ _

theorem dispatch_library (s : State) (b : Nat) (d : Delivery) : (s.dispatch b d).2.library = s.library := by
  cases known : s.bridge? b with
  | none => rw [dispatch_unknown known]
  | some bridge =>
    rcases dispatch_cases known d with ⟨_,ran⟩ | ⟨_,_,_,_,_,⟨_,_,ran⟩ | ⟨_,ran⟩⟩
    all_goals
      rw [ran]
      rfl

theorem release_library (s : State) (r : Nat) : (s.release r).2.library = s.library := by
  cases owned : s.owned r with
  | true => rw [release_owned owned]
  | false =>
    rw [release_ended owned]
    rfl

theorem callbackDetails_library (s : State) (hook : Option Hook) (code : Int32) (errors : ThreadErrors) :
    (s.callbackDetails hook code errors).2.library = s.library := by
  rcases callbackDetails_state s hook code errors with same | ⟨_,noted⟩
  · rw [same]
  · rw [noted]
    rfl

-- What an entry point does: it takes a job, it refuses, or it calls back at once.
inductive Entry (s : State) (h : Handle) : Option Job → Int32 × State → Prop where
  | accepted (job) : Entry s h (some job) (s.accept job)
  | refused (status message) (bad : status ≠ Status.successRaw) : Entry s h none (s.refuse status message)
  | called (cb) (own : cb.handle = h) : Entry s h none (Status.successRaw,s.callBackNow cb)
  | taken_back (cb status message) (own : cb.handle = h) (bad : status ≠ Status.successRaw) :
      Entry s h none ((s.callBackNow cb).refuse status message)

theorem enterLibrary_entry (s : State) (h : Handle) (call : NativeCall) : Entry s h (call.job? h) (s.enterLibrary h call) := by
  cases call with
  | pingSync callback => cases callback with
    | true => exact .called _ rfl
    | false => exact .refused _ _ (by decide)
  | rejectAfterCallback callback => cases callback with
    | true => exact .taken_back _ _ _ rfl (by decide)
    | false => exact .refused _ _ (by decide)
  | doubleCallback callback => cases callback with
    | true => exact .accepted _
    | false => exact .refused _ _ (by decide)
  | fail code message callback => cases callback with
    | true => exact .accepted _
    | false => exact .refused _ _ (by decide)
  | walletInfo wallet callback =>
    by_cases low : wallet ≤ 0
    all_goals cases callback <;> simp only [enterLibrary,NativeCall.job?,low,if_true,if_false]
    case neg.true => exact .accepted _
    all_goals exact .refused _ _ (by decide)
  | sign data length callback =>
    cases data <;> cases callback
    case some.true => exact .accepted _
    all_goals exact .refused _ _ (by decide)
  | openWallet config callback =>
    simp only [enterLibrary]
    cases told : Library.textOf config with
    | none =>
      cases callback <;> simp only [NativeCall.job?,told,Option.bind_none,Option.map_none]
      all_goals exact .refused _ _ (by decide)
    | some text =>
      cases callback with
      | false => exact .refused _ _ (by decide)
      | true =>
        simp only [NativeCall.job?,told,Option.bind_some,if_true]
        cases Library.walletId text with
        | none => exact .refused _ _ (by decide)
        | some id => exact .accepted _
  | echo text callback | isKnownDid text callback | createKeyPair text callback =>
    simp only [enterLibrary]
    cases told : Library.textOf text with
    | none =>
      cases callback <;> simp only [NativeCall.job?,told,Option.map_none]
      all_goals exact .refused _ _ (by decide)
    | some text =>
      cases callback <;> simp only [NativeCall.job?,told,Option.map_some]
      · exact .refused _ _ (by decide)
      · exact .accepted _

theorem enterLibrary_accepts (taken : call.job? h = some job) : s.enterLibrary h call = s.accept job := by
  have entry := enterLibrary_entry s h call
  rw [taken] at entry
  generalize s.enterLibrary h call = entered at entry
  cases entry
  rfl

-- An actor that handles its messages as they come leaves none for later.
def Idle (s : State) : Prop := s.attendance = .prompt → ∀ a actor, s.actor? a = some actor → actor.mailbox = []

-- What happens on the way: the library takes these jobs, opens so many wallets, and no
-- mailbox is filled for good.
structure LibraryWork (taken : List Job) (opened : Nat) (s t : State) : Prop where
  attendance : t.attendance = s.attendance
  idle : s.Idle → t.Idle
  jobs : t.library.jobs = s.library.jobs ++ taken
  wallets : t.library.nextWallet = s.library.nextWallet + Int32.ofNat opened

abbrev NoLibraryWork (s t : State) : Prop := LibraryWork [] 0 s t

theorem LibraryWork.trans (first : LibraryWork taken m s t) (second : LibraryWork others n t u) :
    LibraryWork (taken ++ others) (m + n) s u where
  attendance := second.attendance.trans first.attendance
  idle idle := second.idle (first.idle idle)
  jobs := by rw [second.jobs,first.jobs,List.append_assoc]
  wallets := by rw [second.wallets,first.wallets,Int32.ofNat_add,Int32.add_assoc]

theorem LibraryWork.after (first : LibraryWork taken n s t) (second : t.NoLibraryWork u) : LibraryWork taken n s u := by
  have whole := first.trans second
  rwa [List.append_nil] at whole

theorem LibraryWork.before (first : s.NoLibraryWork t) (second : LibraryWork taken n t u) : LibraryWork taken n s u := by
  have whole := first.trans second
  rwa [List.nil_append,Nat.zero_add] at whole

namespace NoLibraryWork

theorem idle_same (routing : t.routing = s.routing) (idle : s.Idle) : t.Idle := by
  intro prompt a actor present
  have same : s.attendance = .prompt := (congrArg Routing.attendance routing).symm.trans prompt
  rw [actor?_routing routing] at present
  exact idle same a actor present

-- The library as it was, or at most with another error.
theorem of_idle (attendance : t.attendance = s.attendance) (idle : s.Idle → t.Idle) (jobs : t.library.jobs = s.library.jobs)
    (wallets : t.library.nextWallet = s.library.nextWallet) : s.NoLibraryWork t :=
  ⟨attendance,idle,jobs.trans (List.append_nil _).symm,wallets.trans (Int32.add_zero _).symm⟩

theorem same (routing : t.routing = s.routing) (library : t.library = s.library) : s.NoLibraryWork t :=
  of_idle (congrArg Routing.attendance routing) (idle_same routing) (congrArg Library.jobs library) (congrArg Library.nextWallet library)

theorem refl (s : State) : s.NoLibraryWork s := same rfl rfl

theorem entriesOnly (entriesOnly : s.EntriesOnly t) : s.NoLibraryWork t := same entriesOnly.routing entriesOnly.library

theorem changeActor (s : State) (a : Nat) {f : Actor → Actor} (keeps : ∀ actor, actor.mailbox = [] → (f actor).mailbox = []) :
    s.NoLibraryWork (s.changeActor a f) := by
  refine of_idle rfl ?_ rfl rfl
  intro idle prompt i actor present
  simp only [actor?,State.changeActor,Table.get?_modify] at present
  split at present
  · obtain ⟨before,there,rfl⟩ := Option.map_eq_some_iff.mp present
    exact keeps before (idle prompt i before there)
  · exact idle prompt i actor present

theorem spawnActor (s : State) (b : Nat) : s.NoLibraryWork (s.spawnActor b).2 := by
  refine of_idle rfl ?_ rfl rfl
  intro idle prompt i actor present
  rcases actor_spawned present with rfl | there
  · rfl
  · exact idle prompt i actor there

theorem dispatch (s : State) (b : Nat) (d : Delivery) : s.NoLibraryWork (s.dispatch b d).2 :=
  same (dispatch_routing s b d) (dispatch_library s b d)

theorem release (s : State) (r : Nat) : s.NoLibraryWork (s.release r).2 := same (release_routing s r) (release_library s r)

-- One message fewer is in the mailbox when the next one is handled.
theorem next (present : s.actor? a = some ⟨b,m :: rest,true,accepted,handled⟩) :
    s.NoLibraryWork (s.changeActor a (Actor.next m rest)) := by
  refine of_idle rfl ?_ rfl rfl
  intro idle prompt
  exact absurd (idle prompt a _ present) (List.cons_ne_nil m rest)

theorem service : ComposableActor NoLibraryWork where
  refl := refl
  trans first second := first.after second
  release := release
  dispatch := dispatch
  stopped s a := changeActor s a fun _ _ => rfl
  next _ _ _ _ := next
  requesterGone _ := same rfl rfl

theorem stopActor (s : State) (a : Nat) : s.NoLibraryWork (s.stopActor a).2 := service.stopActor s a

theorem attend (s : State) (a : Nat) : s.NoLibraryWork (s.attend a).2 := service.attend s a

-- A message that comes to an idle actor is its only one, and handled at once.
theorem post_only (present : s.actor? a = some actor) (running : actor.running) (prompt : s.attendance = .prompt)
    (m : Message) (idle : s.Idle) : Idle (s.post a m).2 := by
  obtain ⟨b,mailbox,_,accepted,handled⟩ := actor
  cases (running : _ = true)
  cases (idle prompt a _ present : mailbox = [])
  have row := changeActor_row present (Actor.accept m)
  have both : (s.changeActor a (Actor.accept m)).changeActor a (Actor.next m []) =
      s.changeActor a (Actor.next m [] ∘ Actor.accept m) := by
    simp only [State.changeActor,Table.modify_modify]
  have emptied : s.NoLibraryWork (s.changeActor a (Actor.next m [] ∘ Actor.accept m)) := changeActor s a fun _ _ => rfl
  rw [post_idle present rfl rfl prompt,attend_row row,both]
  exact (emptied.after (service.handleMessage _ a b m)).idle idle

theorem post (s : State) (a : Nat) (m : Message) : s.NoLibraryWork (s.post a m).2 := by
  cases present : s.actor? a with
  | none =>
    simp only [State.post,present]
    exact refl s
  | some actor =>
    cases running : actor.running with
    | false =>
      simp only [State.post,present,running]
      exact refl s
    | true =>
      have only := post_only present running (m := m)
      rw [post_running present running] at only ⊢
      cases attends : s.attendance with
      | prompt =>
        rw [attends] at only
        have drained := service.attendMany attend (s.changeActor a (Actor.accept m)) a ((s.changeActor a (Actor.accept m)).mailbox a).length
        exact ⟨drained.attendance,only rfl,drained.jobs,drained.wallets⟩
      | onDemand =>
        refine of_idle rfl ?_ rfl rfl
        intro _ prompt
        cases attends.symm.trans prompt

theorem deliver (s : State) (route : Route) (d : Delivery) : s.NoLibraryWork (s.deliver route d) :=
  service.deliver (dispatch s · d) (of_idle rfl id rfl rfl) (post s · _) (fun _ => same rfl rfl) route

theorem callBack (s : State) (errors : ThreadErrors) (cb : Callback) : s.NoLibraryWork (s.callBack errors cb) := by
  unfold State.callBack
  split
  · exact same rfl rfl
  · exact .after (same (callbackDetails_routing _ _ _ _) (callbackDetails_library _ _ _ _)) (deliver _ _ _)

theorem keep (s : State) (b : Nat) (outcome : Except Panic Promise) : s.NoLibraryWork (s.keep b outcome).2 := by
  cases outcome <;> exact same rfl rfl

theorem dropBridge (s : State) (b : Nat) : s.NoLibraryWork (s.dropBridge b).2 := service.dropBridge release (same rfl rfl)

theorem finish (s : State) (b : Nat) (r : Result) : s.NoLibraryWork (s.finish b r).2 := service.finish release (same rfl rfl) r

theorem endCall (s : State) (b : Nat) (r : Result) (extra : Option (List Answer)) : s.NoLibraryWork (s.endCall b r extra).2 :=
  (finish s b r).after (same rfl rfl)

theorem register (s : State) (b : Nat) : s.NoLibraryWork (s.register b).2 :=
  service.register (fun _ _ => entriesOnly (.draw _ _)) (fun _ _ _ => entriesOnly (.enter rfl)) s b

theorem settle (s : State) (bridge : Bridge) (op : Operation) (decoder : Decoder) (ending : Except Panic Int32) :
    s.NoLibraryWork (s.settle bridge op decoder ending).2 :=
  service.settle (fun _ _ _ _ => entriesOnly (.evict _ _ _ _)) (fun _ _ => same rfl rfl) (fun _ _ _ => same rfl rfl) s bridge op decoder ending

theorem waiting : ComposableWait NoLibraryWork where
  toComposable := service.toComposable
  look s p := same (poll_routing s p .quiet) (poll_library s p .quiet)
  forget s p := entriesOnly (.forget s p)
  timedOut _ _ _ := same rfl rfl

theorem clearSlot (s : State) (i : Nat) : s.NoLibraryWork (s.clearSlot i) := same rfl rfl

theorem dropSlot (s : State) (i : Nat) (x : Slot) : s.NoLibraryWork ((s.clearSlot i).forget x.promise) :=
  (clearSlot s i).after (waiting.forget _ _)

theorem waitSlot (s : State) (i : Nat) (x : Slot) : s.NoLibraryWork (s.waitSlot i x).2 := by
  rw [waitSlot_state]
  split
  · exact refl s
  · exact (clearSlot s i).after (waiting.wait _ _)

theorem limitSlot (s : State) (i : Nat) (x : Slot) (after : Duration) : s.NoLibraryWork (s.limitSlot i x after).2 := by
  rw [limitSlot_state]
  split
  · exact dropSlot s i x
  · exact (clearSlot s i).after (waiting.withTimeout _ _ _)

theorem refuse (s : State) (status : Int32) (message : String) : s.NoLibraryWork (s.refuse status message).2 :=
  of_idle rfl id rfl rfl

theorem hold (s : State) (b : Nat) : s.NoLibraryWork (s.hold b) := same rfl rfl

end NoLibraryWork

namespace LibraryWork

theorem accept (s : State) (job : Job) : LibraryWork [job] 0 s (s.accept job).2 :=
  ⟨rfl,id,rfl,(Int32.add_zero _).symm⟩

theorem enterLibrary (s : State) (h : Handle) (call : NativeCall) :
    LibraryWork (call.job? h).toList 0 s (s.enterLibrary h call).2 := by
  have called (cb : Callback) : s.NoLibraryWork (s.callBackNow cb) := NoLibraryWork.callBack s s.ownErrors cb
  have entry := enterLibrary_entry s h call
  generalize call.job? h = taken,s.enterLibrary h call = entered at entry
  cases entry with
  | accepted job => exact accept s job
  | refused status message => exact NoLibraryWork.refuse s status message
  | called cb => exact called cb
  | taken_back cb status message => exact (called cb).after (NoLibraryWork.refuse _ status message)

theorem complete (s : State) (job : Job) : LibraryWork [] (if job.opens then 1 else 0) s (s.complete job) := by
  have succeeded (s : State) (h : Handle) (arguments : Arguments) : s.NoLibraryWork (s.succeed h arguments) :=
    NoLibraryWork.callBack _ _ _
  cases job with
  | fail => exact NoLibraryWork.callBack _ _ _
  | openWallet h id =>
    by_cases gone : id = Library.missingWallet
    · simp only [State.complete,Job.opens,gone,ne_eq,not_true_eq_false,decide_false,Bool.false_eq_true,if_true,if_false]
      exact NoLibraryWork.callBack _ _ _
    · have opened : LibraryWork [] 1 s { s with library := { s.library with nextWallet := s.library.nextWallet + 1 } } :=
        ⟨rfl,fun idle => idle,(List.append_nil _).symm,rfl⟩
      simp only [State.complete,Job.opens,gone,if_false,ne_eq,not_false_eq_true,decide_true,if_true]
      exact opened.after (succeeded _ _ _)
  | doubleCallback h => exact (succeeded _ _ _).after (succeeded _ _ _)
  | _ => exact succeeded _ _ _

-- All jobs are done then, and those that open a wallet have opened one each.
theorem completeAll (s : State) : s.completeAll.attendance = s.attendance ∧ (s.Idle → s.completeAll.Idle) ∧
    s.completeAll.library.jobs = [] ∧
    s.completeAll.library.nextWallet = s.library.nextWallet + Int32.ofNat (s.library.jobs.countP Job.opens) := by
  have completed (jobs : List Job) (s : State) : LibraryWork [] (jobs.countP Job.opens) s (jobs.foldl State.complete s) := by
    induction jobs generalizing s with
    | nil => exact NoLibraryWork.refl s
    | cons job rest ih =>
      rw [List.countP_cons,Nat.add_comm]
      exact (complete s job).trans (ih _)
  have whole := completed s.library.jobs { s with library := { s.library with jobs := [] } }
  exact ⟨whole.attendance,whole.idle,whole.jobs,whole.wallets⟩

-- What was taken meanwhile is done then.
theorem done (libraryWork : LibraryWork taken n s t) (before : s.library.jobs = []) :
    LibraryWork [] (n + taken.countP Job.opens) s t.completeAll := by
  obtain ⟨attendance,idle,jobs,wallets⟩ := completeAll t
  have taken : t.library.jobs = taken := libraryWork.jobs.trans (by rw [before,List.nil_append])
  refine ⟨attendance.trans libraryWork.attendance,fun still => idle (libraryWork.idle still),?_,?_⟩
  · rw [jobs,before,List.nil_append]
  · rw [wallets,libraryWork.wallets,taken,Int32.ofNat_add,Int32.add_assoc]

end LibraryWork

-- What a call on a bridge comes to under the handle that is drawn for it, if it gets one.
def duringCall (s : State) (b : Nat) (nothing : α) (script : Handle → State → α) : α :=
  match s.register b with
  | (.error _, _) => nothing
  | (.ok (_, op), s) => script op.handle s

theorem duringCall_same (s : State) (b : Nat) (x : α) : s.duringCall b x (fun _ _ => x) = x := by
  unfold duringCall
  split <;> rfl

-- The jobs that come of a native call.
def ordered (s : State) (b : Nat) (call : NativeCall) (other : Option Handle) : List Job :=
  s.duringCall b [] fun h _ => (call.job? (other.getD h)).toList

namespace LibraryWork

theorem submit (native : Handle → State → NativeRun α) (taken : Handle → State → List Job) (opened : Handle → State → Nat)
    (s : State) (b : Nat) (decoder : Decoder)
    (runs : ∀ h u, u.library.jobs = s.library.jobs → LibraryWork (taken h u) (opened h u) u (native h u).state) :
    LibraryWork (s.duringCall b [] taken) (s.duringCall b 0 opened) s (s.submit b native decoder).state := by
  have registered := NoLibraryWork.register s b
  unfold duringCall State.submit
  cases ran : s.register b with
  | mk outcome u =>
    rw [ran] at registered
    cases outcome with
    | error p => exact registered
    | ok found =>
      have same : u.library.jobs = s.library.jobs := registered.jobs.trans (List.append_nil _)
      exact (registered.before (runs found.2.handle u same)).after (NoLibraryWork.settle _ _ _ _ _)

theorem submitNative (s : State) (b : Nat) (call : NativeCall) (other : Option Handle) (decoder : Decoder) :
    LibraryWork (s.ordered b call other) 0 s (s.submitNative b call other decoder).state := by
  have submitted := submit (fun h s => ⟨.ok (s.enterLibrary (other.getD h) call).1,(),(s.enterLibrary (other.getD h) call).2⟩)
    (fun h _ => (call.job? (other.getD h)).toList) (fun _ _ => 0) s b decoder
    fun h u _ => enterLibrary u (other.getD h) call
  rw [duringCall_same] at submitted
  exact submitted

theorem submitted (libraryWork : LibraryWork taken n s sub.state) (before : s.library.jobs = []) (b : Nat) :
    LibraryWork [] (n + taken.countP Job.opens) s (State.submitted b sub).2 :=
  ((libraryWork.after (NoLibraryWork.keep _ b _)).done before).after (NoLibraryWork.finish _ _ _)

end LibraryWork

namespace NoLibraryWork

-- Echoes open no wallets.
theorem echo_opens (s : State) (b : Nat) (message : Option (List UInt8)) :
    (s.ordered b (.echo message true) none).countP Job.opens = 0 := by
  unfold ordered duringCall
  split
  · rfl
  · simp only [NativeCall.job?]
    cases Library.textOf message <;> rfl

theorem submitEchoes (b count i : Nat) (collected : List Promise) (s : State) (before : s.library.jobs = []) :
    (∀ ps, (State.submitEchoes b count i collected s).1 = .ok ps → s.NoLibraryWork (State.submitEchoes b count i collected s).2) ∧
    s.NoLibraryWork (State.submitEchoes b count i collected s).2.completeAll := by
  induction count generalizing i collected s with
  | zero => exact ⟨fun _ _ => refl s,(refl s).done before⟩
  | succ count ih =>
    simp only [State.submitEchoes]
    split
    · exact ⟨fun _ _ => refl s,(refl s).done before⟩
    · rename_i sub ran
      have echoed : s.NoLibraryWork sub.state.completeAll := by
        unfold State.request at ran
        split at ran
        · cases ran
        · cases ran
          have submitted := (LibraryWork.submitNative s b (Request.echo ("call " ++ toString i)).nativeCall none
            (Request.echo ("call " ++ toString i)).decoder).done before
          rwa [Request.nativeCall,echo_opens] at submitted
      split
      · refine ⟨?_,echoed⟩
        intro ps wrong
        cases wrong
      · rename_i p _
        have rest := ih (i + 1) (p :: collected) sub.state.completeAll (echoed.jobs.trans (by rw [before]; rfl))
        exact ⟨fun ps ok => echoed.after (rest.1 ps ok),echoed.after rest.2⟩

theorem stress (s : State) (b count : Nat) (before : s.library.jobs = []) : s.NoLibraryWork (s.stress b count).2 := by
  have echoed := submitEchoes b count 0 [] (s.hold b) before
  unfold State.stress
  split
  all_goals
    rename_i ran
    rw [ran] at echoed
  · exact ((hold s b).after echoed.2).after (finish _ _ _)
  · exact (((hold s b).after (echoed.1 _ rfl)).after (waiting.awaitAll _ _)).after (finish _ _ _)

end NoLibraryWork

end State

-- The wallets that an action opens.
def Action.opened (own : Handle) (s : State) : Action → Nat
  | .request b r =>
      if (s.listed? b).isSome && r.nulPosition?.isNone then ((s.hold b).ordered b r.nativeCall none).countP Job.opens else 0
  | .native b call other _ =>
      if (s.listed? b).isSome then ((s.hold b).ordered b call (other.map (·.resolve own))).countP Job.opens else 0
  | _ => 0

mutual

def Step.opened (own : Handle) (s : State) : Step → Nat
  | .act a => a.opened own s
  | .submit b _ _ during =>
      if (s.listed? b).isSome then (s.hold b).duringCall b 0 (fun h s => openedBy h s during) else 0
  | .call b _ _ during =>
      if (s.listed? b).isSome && !s.driven then
        (s.hold b).duringCall b 0 (fun h s => openedBy h { s with turn := some turnLength } during)
      else 0

def openedBy (own : Handle) (s : State) : List Step → Nat
  | [] => 0
  | step :: rest => step.opened own s + openedBy own (step.run own s).2 rest

end

-- The states that steps visit, each with the wallets that were opened until then.
inductive Opened : Handle → State → List Step → Nat → State → Prop where
  | here : Opened own s steps 0 s
  | later : Opened own (step.run own s).2 rest n t → Opened own s (step :: rest) (step.opened own s + n) t
  | submitting (b bridge op decoder) (listed : (s.listed? b).isSome)
      (registered : (s.hold b).register b = (.ok (bridge,op),u)) :
      Opened op.handle u during n t → Opened own s (.submit b decoder ending during :: rest) n t
  | calling (b bridge op decoder) (listed : (s.listed? b).isSome) (free : s.driven = false)
      (registered : (s.hold b).register b = (.ok (bridge,op),u)) :
      Opened op.handle { u with turn := some turnLength } during n t →
      Opened own s (.call b decoder ending during :: rest) n t

namespace State.NoLibraryWork

theorem onBridge (s : State) (b : Nat) {f : Bridge → Result × State} (does : ∀ bridge, s.NoLibraryWork (f bridge).2) :
    s.NoLibraryWork (s.onBridge b f).2 := onBridge_kept (refl s) fun bridge _ => does bridge

theorem onSlot (s : State) (i : Nat) {f : Slot → Result × State} (does : ∀ x, s.NoLibraryWork (f x).2) :
    s.NoLibraryWork (s.onSlot i f).2 := onSlot_kept (refl s) fun x _ => does x

theorem onRuntime (s : State) {work : State → Result × State} (does : s.NoLibraryWork (work s).2) :
    s.NoLibraryWork (s.onRuntime work).2 :=
  onRuntime_kept (refl s) does

theorem bindActor (s : State) (b : Nat) : s.NoLibraryWork (s.bindActor b).2 := by
  unfold State.bindActor
  dsimp only
  split
  · rename_i u installed
    unfold install at installed
    split at installed
    · cases installed
    · cases installed
      exact .after (spawnActor s b) (of_idle rfl id rfl rfl)
  · exact same rfl rfl

end State.NoLibraryWork

section

open State

-- An action that begins with no job left over ends so.
theorem Action.libraryWork (own : Handle) (s : State) (a : Action) (before : s.library.jobs = []) :
    LibraryWork [] (a.opened own s) s (a.run own s).2 := by
  cases a with
  | request b r =>
    simp only [opened,Action.run,onBridge]
    cases listed : s.listed? b with
    | none => exact NoLibraryWork.refl s
    | some bridge =>
      simp only [State.request]
      cases r.nulPosition? with
      | some position => exact NoLibraryWork.refl s
      | none =>
        have submitted := (LibraryWork.submitNative (s.hold b) b r.nativeCall none r.decoder).submitted before b
        rw [Nat.zero_add] at submitted
        exact (NoLibraryWork.hold s b).before submitted
  | native b call other decoder =>
    simp only [opened,Action.run,onBridge]
    cases listed : s.listed? b with
    | none => exact NoLibraryWork.refl s
    | some bridge =>
      have submitted := (LibraryWork.submitNative (s.hold b) b call (other.map (·.resolve own)) decoder).submitted before b
      rw [Nat.zero_add] at submitted
      exact (NoLibraryWork.hold s b).before submitted
  | stress b count => exact NoLibraryWork.onBridge s b fun _ => .stress s b count before
  | dispatch b h o => exact NoLibraryWork.onBridge s b fun _ => .dispatch s b _
  | abandon b h => exact NoLibraryWork.onBridge s b fun _ => .entriesOnly (.evict _ _ _ _)
  | allocate b =>
    exact allocate_kept (NoLibraryWork.refl s) (fun _ _ => .entriesOnly (.draw _ _)) own
  | insert b h keep => exact NoLibraryWork.entriesOnly (.insertFresh _ _ _ _)
  | receive i => exact NoLibraryWork.entriesOnly (.receive _ _)
  | dropBridge b => exact dropBridge_kept (NoLibraryWork.refl s) (NoLibraryWork.dropBridge s b) own
  | poll i waker =>
    refine NoLibraryWork.onSlot s i fun x => ?_
    rw [pollSlot_state]
    exact .same (poll_routing _ _ _) (poll_library _ _ _)
  | wait i => exact NoLibraryWork.onSlot s i fun x => .waitSlot s i x
  | withTimeout i after => exact NoLibraryWork.onSlot s i fun x => .limitSlot s i x after
  | dropSlot i => exact NoLibraryWork.onSlot s i fun x => .dropSlot s i x
  | spawnActor b => exact NoLibraryWork.onBridge s b fun _ => .onRuntime s (.spawnActor s b)
  | actorDeliver a h o => exact NoLibraryWork.post s a _
  | actorStats a => exact NoLibraryWork.onRuntime s (.post s a _)
  | actorStatsAbandoned a => exact NoLibraryWork.post s a _
  | actorStop a => exact actorStop_kept (NoLibraryWork.refl s) (NoLibraryWork.stopActor s a) own
  | attend a => exact NoLibraryWork.attend s a
  | bind b =>
    refine NoLibraryWork.onBridge s b fun _ => ?_
    cases bound : s.binding
    all_goals
      simp only [bindDirect,install,bound]
      exact .of_idle rfl id rfl rfl
  | bindActor b =>
    refine NoLibraryWork.onBridge s b fun _ => .onRuntime s ?_
    have bound := NoLibraryWork.bindActor s b
    split
    all_goals
      rename_i ran
      rw [ran] at bound
      exact bound
  | callback h code arguments => exact NoLibraryWork.callBack s _ _
  | land k =>
    simp only [Action.run,opened]
    rcases land_cases s k with same | ⟨b,d,_,landed⟩
    · rw [same]
      exact NoLibraryWork.refl s
    · rw [landed]
      exact .before (t := { s with transit := s.transit.eraseIdx k }) (NoLibraryWork.of_idle rfl id rfl rfl) (NoLibraryWork.dispatch _ _ _)
  | isPending b | stats b | config b => exact NoLibraryWork.onBridge s b fun _ => .refl s
  | handle i | isResolved i => exact NoLibraryWork.onSlot s i fun _ => .refl s
  | tell | isInstalled => exact NoLibraryWork.same rfl rfl

mutual

theorem Step.libraryWork (own : Handle) (s : State) (step : Step) (before : s.library.jobs = []) :
    LibraryWork [] (step.opened own s) s (step.run own s).2 := by
  cases step with
  | act a =>
    simp only [Step.opened,Step.run]
    exact (a.libraryWork own s before).after (NoLibraryWork.same rfl rfl)
  | submit b decoder ending during =>
    simp only [Step.opened,Step.run,submitScript]
    cases s.listed? b with
    | none => exact NoLibraryWork.same rfl rfl
    | some bridge =>
      have ran := LibraryWork.submit (fun h u => scripted ending (runSteps h u during)) (fun _ _ => []) (fun h u => openedBy h u during)
        (s.hold b) b decoder fun h u same => by
          rw [scripted_state]
          exact openedBy_libraryWork h u during (same.trans before)
      rw [duringCall_same] at ran
      simp only [Option.isSome_some,if_true]
      exact (((NoLibraryWork.hold s b).before ran).after (NoLibraryWork.keep _ b _)).after (NoLibraryWork.endCall _ _ _ _)
  | call b decoder ending during =>
    simp only [Step.opened,Step.run]
    cases listed : s.listed? b with
    | none =>
      rw [callScript_gone listed]
      exact NoLibraryWork.same rfl rfl
    | some bridge =>
      cases driven : s.driven with
      | true =>
        rw [callScript_nested listed driven]
        exact NoLibraryWork.same rfl rfl
      | false =>
        have ran := LibraryWork.submit (inTurn fun h u => scripted ending (runSteps h u during)) (fun _ _ => [])
          (fun h u => openedBy h { u with turn := some turnLength } during) (s.hold b) b decoder fun h u same => by
            have turned : u.NoLibraryWork { u with turn := some turnLength } := .same rfl rfl
            simp only [inTurn,scripted_state]
            exact (turned.before (openedBy_libraryWork h { u with turn := some turnLength } during (same.trans before))).after
              (NoLibraryWork.same rfl rfl)
        rw [duringCall_same] at ran
        have submitted := (NoLibraryWork.hold s b).before ran
        simp only [Option.isSome_some,Bool.not_false,Bool.and_true,if_true]
        cases outcome : ((s.hold b).submit b (inTurn fun h u => scripted ending (runSteps h u during)) decoder).outcome with
        | error p =>
          rw [callScript_panics listed driven rfl outcome]
          exact submitted.after (NoLibraryWork.endCall _ _ _ _)
        | ok p =>
          rw [callScript_waits listed driven rfl outcome]
          exact (submitted.after (NoLibraryWork.waiting.awaitAtMost _ p _)).after (NoLibraryWork.endCall _ _ _ _)

theorem openedBy_libraryWork (own : Handle) (s : State) (steps : List Step) (before : s.library.jobs = []) :
    LibraryWork [] (openedBy own s steps) s (runSteps own s steps).2 := by
  cases steps with
  | nil =>
    simp only [openedBy,runSteps]
    exact NoLibraryWork.refl s
  | cons step rest =>
    simp only [openedBy,runSteps]
    have first := Step.libraryWork own s step before
    exact first.trans (openedBy_libraryWork own _ rest (first.jobs.trans (by rw [before]; rfl)))

end

end

open State in
theorem Opened.libraryWork (path : Opened own s steps n t) (before : s.library.jobs = []) : LibraryWork [] n s t := by
  have entered {s u : State} {b : Nat} {bridge : Bridge} {op : Operation}
      (registered : (s.hold b).register b = (.ok (bridge,op),u)) : s.NoLibraryWork u := by
    have whole := (NoLibraryWork.hold s b).after (NoLibraryWork.register (s.hold b) b)
    rwa [registered] at whole
  have left {s t : State} {n : Nat} (libraryWork : LibraryWork [] n s t) (before : s.library.jobs = []) : t.library.jobs = [] := by
    rw [libraryWork.jobs,before,List.append_nil]
  induction path with
  | here => exact NoLibraryWork.refl _
  | later _ ih => exact (Step.libraryWork _ _ _ before).trans (ih (left (Step.libraryWork _ _ _ before) before))
  | submitting b bridge op decoder listed registered _ ih =>
    have start := entered registered
    exact start.before (ih (left start before))
  | calling b bridge op decoder listed free registered _ ih =>
    have turned (u : State) : u.NoLibraryWork { u with turn := some turnLength } := NoLibraryWork.same rfl rfl
    have start := (entered registered).after (turned _)
    exact start.before (ih (left start before))

theorem visits_opened (path : Visits own s steps t) : ∃ n, Opened own s steps n t := by
  induction path with
  | here => exact ⟨_,.here⟩
  | later _ ih =>
    obtain ⟨_,rest⟩ := ih
    exact ⟨_,.later rest⟩
  | submitting b bridge op decoder listed registered _ ih =>
    obtain ⟨_,inside⟩ := ih
    exact ⟨_,.submitting b bridge op decoder listed registered inside⟩
  | calling b bridge op decoder listed free registered _ ih =>
    obtain ⟨_,inside⟩ := ih
    exact ⟨_,.calling b bridge op decoder listed free registered inside⟩

theorem Opened.visits (path : Opened own s steps n t) : Visits own s steps t := by
  induction path with
  | here => exact .here
  | later _ ih => exact .later ih
  | submitting b bridge op decoder listed registered _ ih => exact .submitting b bridge op decoder listed registered ih
  | calling b bridge op decoder listed free registered _ ih => exact .calling b bridge op decoder listed free registered ih

theorem start_library (attendance : Attendance) (firsts : List Int32) (plans : List BridgePlan) :
    (State.start attendance firsts plans).library = .fresh := by
  rw [State.start_rest]
  rfl

-- Wherever a session is, no job is left over, no prompt actor has a message before it, and
-- the next wallet gets the number behind those that were opened.
theorem Opened.housekept (path : Opened ⟨0⟩ (.start attendance firsts plans) steps n s) :
    s.attendance = attendance ∧ s.library.jobs = [] ∧ s.Idle ∧ s.library.nextWallet = 1 + Int32.ofNat n := by
  have routing := State.start_routing attendance firsts plans
  have library := start_library attendance firsts plans
  have libraryWork := path.libraryWork (congrArg Library.jobs library)
  have idle : (State.start attendance firsts plans).Idle := by
    intro _ a actor present
    rw [State.actor?,show (State.start attendance firsts plans).actors = .empty from congrArg Routing.actors routing] at present
    cases present
  refine ⟨libraryWork.attendance.trans (congrArg Routing.attendance routing),?_,libraryWork.idle idle,?_⟩
  · rw [libraryWork.jobs,library]
    rfl
  · rw [libraryWork.wallets,library]
    rfl

end PendingCalls.Session
