import PendingCalls.Proofs.Resolution
import PendingCalls.Proofs.Collisions
import PendingCalls.Proofs.Reports

-- Requests that never wait for a callback: those that the library refuses, and those that
-- find no free handle. They leave the registries and the counters as they were.

namespace PendingCalls.Session

namespace State

variable {s t u : State}

theorem completeAll_idle (idle : s.library.jobs = []) : s.completeAll = s := by
  have emptied : (⟨s.library.nextWallet,s.library.error,[]⟩ : Library) = s.library := by rw [← idle]
  rw [completeAll,idle,List.foldl_nil,emptied]

theorem keep_rest (s : State) (b : Nat) (outcome : Except Panic Promise) :
    (s.keep b outcome).2.bridges = s.bridges ∧ (s.keep b outcome).2.library = s.library := by
  cases outcome <;> exact ⟨rfl,rfl⟩

-- Where a submission has ordered nothing, its promise is kept and that is all.
theorem submitted_idle (sub : Submission Unit) (idle : sub.state.library.jobs = [])
    (standing : sub.state.standing b = some (true,n)) :
    submitted b sub = ((sub.state.keep b sub.outcome).1,(sub.state.keep b sub.outcome).2.unhold b) := by
  obtain ⟨bridges,library⟩ := keep_rest sub.state b sub.outcome
  have still : (sub.state.keep b sub.outcome).2.library.jobs = [] := (congrArg Library.jobs library).trans idle
  have stands : (sub.state.keep b sub.outcome).2.standing b = some (true,n) := (congrFun (standing_bridges bridges) b).trans standing
  rw [submitted]
  simp only [completeAll_idle still,finish_kept stands]

-- What is left of a request that has failed before any callback.
structure Spent (s t : State) : Prop where
  pending : t.pendingIn = s.pendingIn
  stats : t.statsOf = s.statsOf
  wallets : t.library.nextWallet = s.library.nextWallet

-- An operation that nobody has looked at yet leaves with its refusal, and nothing else does.
theorem settle_refused (bridge : Bridge)
    (pending : u.pendingIn = Function.update s.pendingIn bridge.registry (op :: s.pendingIn bridge.registry))
    (free : ∀ other ∈ s.pendingIn bridge.registry, other.handle ≠ op.handle) (fresh : u.channel? op.channel = some .fresh)
    (bad : status ≠ Status.successRaw) (decoder : Decoder) :
    ∃ details t, u.settle bridge op decoder (.ok status) = (.ok (.refused op.handle status details),t) ∧
      details = (u.readDetails bridge.hook u.ownErrors).1 ∧ t.pendingIn = s.pendingIn ∧ t.bridges = u.bridges ∧
      t.library = u.library ∧ t.slots = u.slots := by
  have quietRemoval : u.QuietRemoval bridge.registry op.handle := by
    intro other present same waker waits
    rw [pending,Function.update_self] at present
    rcases List.mem_cons.mp present with rfl | there
    · rw [fresh] at waits
      cases waits
    · exact absurd same (free other there)
  have failed : (.ok status : Except String Int32) ≠ .ok Status.successRaw := fun same => bad (Except.ok.inj same)
  have cleared : u.Cleared bridge.registry op (.rejected status) (u.settle bridge op decoder (.ok status)).2 :=
    u.settle_cleared bridge op failed decoder
  refine ⟨_,_,Prod.ext (settle_rejected quietRemoval decoder bad) rfl,rfl,?_,cleared.bridges,
    (congrArg State.library cleared.rest).trans rfl,(congrArg State.slots cleared.rest).trans rfl⟩
  · funext q
    rw [cleared.pendingIn,pending]
    by_cases same : bridge.registry = q
    · rw [if_pos same,← same,Function.update_self,List.filter_cons_of_neg (by simp),List.filter_eq_self]
      intro other there
      exact decide_eq_true (free other there)
    · rw [if_neg same,Function.update_of_ne (Ne.symm same)]

-- A request on a bridge whose next handle is free, and which the library refuses: the
-- promise has the error at once, with the details that the bridge's own hook tells.
def Declines (s : State) (own : Handle) (b : Nat) (bridge : Bridge) (registry : Registry) (r : Request) (status : Int32)
    (message : String) : Prop :=
  ∃ details t, (Action.request b r).run own s = (.submitted s.slots.size registry.allocate.1 true,t) ∧
    t.slot? s.slots.size = some ⟨b,.refused registry.allocate.1 status details⟩ ∧
    t.Ends (.refused registry.allocate.1 status details)
      (.ok (.error (.rejected registry.allocate.1 (Status.lookup status) status details))) ∧
    (bridge.hook = some .native → details = some (Library.detailsOf message)) ∧ s.Spent t

theorem request_refused (listed : s.listed? b = some bridge) (row : s.registry? bridge.registry = some registry)
    (free : registry.contains registry.allocate.1 = false) (before : s.library.jobs = []) {r : Request}
    (whole : r.nulPosition? = none) (bad : status ≠ Status.successRaw)
    (refuses : ∀ u : State, u.enterLibrary registry.allocate.1 r.nativeCall = u.refuse status message) (own : Handle) :
    s.Declines own b bridge registry r status message := by
  obtain ⟨u,registered⟩ := register_free (hold_row listed) row free
  obtain ⟨library,slots⟩ := register_rest registered
  have takes := register_takes listed registered r.decoder
  obtain ⟨details,t,settled,told,pending,bridges,kept,same⟩ :=
    settle_refused (u := (u.refuse status message).2) { bridge with running := bridge.running + 1 } takes.pending takes.free
      takes.channel bad r.decoder
  have ran : (s.hold b).submitNative b r.nativeCall none r.decoder =
      ⟨.ok (.refused registry.allocate.1 status details),some (),t⟩ := by
    simp only [submitNative,submit,registered,Option.getD_none,refuses]
    exact congrArg (fun x : Except Panic Promise × State => (⟨x.1,some (),x.2⟩ : Submission Unit)) settled
  have idle : t.library.jobs = [] := (congrArg Library.jobs kept).trans ((congrArg Library.jobs library).trans before)
  have standing : t.standing b = some (true,bridge.running + 1) := (congrFun (standing_bridges bridges) b).trans takes.standing
  have size : t.slots.size = s.slots.size := congrArg Table.size (same.trans slots)
  have ended := submitted_idle ⟨.ok (.refused registry.allocate.1 status details),some (),t⟩ idle standing
  refine ⟨details,({ t with slots := t.slots.push (some ⟨b,.refused registry.allocate.1 status details⟩) } : State).unhold b,
    ?_,?_,refused_ends _ _ _ _,?_,pending,?_,?_⟩
  · simp only [Action.run,onBridge,listed,request,whole,ran,ended,keep,size]
    rfl
  · rw [← size]
    exact congrArg Option.join (Table.get?_push_new _ _)
  · intro native
    have report : Hook.report (u.refuse status message).2.ownErrors .native = some (Library.errorDocument message.toList) := rfl
    rw [told,native,readDetails,report,ErrorDetails.ofReport_errorDocument,String.ofList_toList]
  · have counted : t.statsOf = u.statsOf := by
      funext b
      rw [statsOf,bridge?,bridges]
      rfl
    rw [statsOf_unhold,← takes.stats]
    exact counted
  · have wallets : u.library.nextWallet = s.library.nextWallet := congrArg Library.nextWallet library
    exact (congrArg Library.nextWallet kept).trans wallets

-- The next handle is pending: the call ends in a panic before the library sees it.
theorem request_collided (listed : s.listed? b = some bridge) (row : s.registry? bridge.registry = some registry)
    (taken : registry.contains registry.allocate.1 = true) (before : s.library.jobs = []) {r : Request}
    (whole : r.nulPosition? = none) (own : Handle) :
    ∃ t, (Action.request b r).run own s = (.panicked (.collision registry.allocate.1),t) ∧ s.Spent t := by
  have here : bridge.listed = true := (Option.filter_eq_some_iff.mp listed).2
  have held := hold_row listed
  have refused := register_collides held row taken
  have failed : (s.hold b).register b = (.error (.collision registry.allocate.1),
      { (s.hold b).issuing bridge.registry registry with channels := s.channels.push .closed }) := refused
  have issued : State.pendingIn { (s.hold b).issuing bridge.registry registry with channels := s.channels.push .closed } =
      s.pendingIn := pendingIn_issuing (s := s.hold b) row
  generalize after : ({ (s.hold b).issuing bridge.registry registry with channels := s.channels.push .closed } : State) = t
    at failed issued
  have standing : t.standing b = some (true,bridge.running + 1) := by
    have shown : (s.hold b).standing b = some (bridge.listed,bridge.running + 1) := by
      rw [State.standing,held,Option.map_some]
    rw [← after,← here]
    exact shown
  have idle : t.library.jobs = [] := by
    rw [← after]
    exact before
  have ran : (s.hold b).submitNative b r.nativeCall none r.decoder = ⟨.error (.collision registry.allocate.1),none,t⟩ := by
    rw [submitNative,submit_refused failed]
  have ended := submitted_idle ⟨.error (.collision registry.allocate.1),none,t⟩ idle standing
  refine ⟨t.unhold b,?_,issued,?_,?_⟩
  · simp only [Action.run,onBridge,listed,request,whole,ran,ended,keep]
  · rw [statsOf_unhold,← after]
    exact statsOf_changeBridge s b (fun bridge => { bridge with running := bridge.running + 1 }) fun _ => rfl
  · rw [← after]
    rfl

end State

end PendingCalls.Session
