import PendingCalls.Proofs.LibraryWork
import PendingCalls.Proofs.Timeouts

-- What becomes of a call that the library accepts, while its promise is kept: its callback
-- takes its operation out of the registry, is counted once, and decides what everybody gets
-- who looks at the promise from then on.

namespace PendingCalls.Session

namespace State

variable {s t u w : State}

-- Callbacks get to a bridge on a route: straight, or through an actor that runs.
inductive Reaches (s : State) (b : Nat) : Route → Prop where
  | direct : Reaches s b (.direct b)
  | actor (present : s.actor? a = some actor) (running : actor.running) (serves : actor.bridge = b) : Reaches s b (.actor a)

-- What waits on a route to be dispatched, in the order of arrival.
def queue (s : State) : Route → List Message
  | .direct _ => s.transit.map .deliver
  | .actor a => s.mailbox a

-- A delivery that waits on a route is dispatched: it is told to go on, or its actor comes
-- to it.
inductive Serves (s : State) (b : Nat) (d : Delivery) : Route → State → Prop where
  | landed (waits : s.transit[k]? = some d) : Serves s b d (.direct b) (s.land k)
  | attended (present : s.actor? a = some ⟨b,.deliver d :: rest,true,accepted,handled⟩) :
      Serves s b d (.actor a) (s.attend a).2

-- Somebody has the promise of an operation and has not taken its result.
def PromiseHeld (s : State) (hands : List Slot) (op : Operation) (decoder : Decoder) : Prop :=
  ∃ x ∈ hands ++ s.slots.full, x.promise.handle = op.handle ∧ x.promise.state = .waiting op.channel (some decoder)

-- From then on, whoever looks at the promise gets the result, or is told to look again in
-- the next turn, and whoever waits for it gets the result whatever his limit is.
def Gets (t : State) (hands : List Slot) (op : Operation) (decoder : Decoder) (result : Except CallError Datum) : Prop :=
  ∀ u others, Moves true ⟨t,hands⟩ ⟨u,others⟩ → ∀ x ∈ others ++ u.slots.full, x.promise.handle = op.handle →
    x.promise.state = .waiting op.channel (some decoder) →
      (∀ waker, (u.poll x.promise waker).1 = if u.exhausted then .turnedAway waker else .ready result) ∧
      u.Ends x.promise (.ok result)

-- A callback resolves the operation that it is for.
structure Resolves (s : State) (hands : List Slot) (b r : Nat) (op : Operation) (decoder : Decoder)
    (result : Except CallError Datum) (t : State) : Prop where
  removed : ∀ other ∈ t.pendingIn r, other.handle ≠ op.handle
  counted : t.statsOf = Function.update s.statsOf b (countResolved (s.statsOf b))
  gets : t.Gets hands op decoder result

theorem PromiseHeld.waits (expects : s.PromiseHeld hands op decoder) (sound : (s.books hands).Sound)
    (pending : op ∈ s.pendingIn r) :
    ∃ waker, s.channel? op.channel = some (.waiting waker) := by
  obtain ⟨x,there,handle,waits⟩ := expects
  obtain ⟨q,_,entered,shows⟩ := sound.receipts.backed x there op.channel decoder waits
  rw [handle] at entered shows
  obtain ⟨rfl,_⟩ := sound.ledger.same_channel entered (sound.ledger.pending_entered pending) rfl
  exact shows.waits (.inl pending)

theorem Settles.gets (settles : s.Settles r b d t) (sound : (t.books hands).Sound) (pending : op ∈ s.pendingIn r)
    (same : op.handle = d.handle) (verdict : (Departure.delivered b d).verdict op.handle decoder = .ready result) :
    t.Gets hands op decoder result := by
  intro u others moves x there handle waits
  have left : .delivered b d ∈ u.departures r ⟨x.promise.handle,op.channel⟩ := by
    rw [handle,settles.moves sound moves op pending same]
    exact List.mem_singleton_self _
  have after : (u.books others).Sound := moves.changes.sound sound
  refine ⟨fun waker => ?_,?_⟩
  · rw [poll_departed after there waits left waker,handle,verdict]
  · obtain ⟨ending,ended,ends⟩ := departed_ends after there waits left (by rintro ⟨⟩)
    rw [handle,verdict] at ended
    cases ending with
    | ok other =>
      cases ended
      exact ends
    | error p => cases ended

-- The books after the dispatch of a callback whose caller waits.
theorem dispatch_heard (sound : (s.books hands).Sound) (home : s.registryOf b = some r) (pending : op ∈ s.pendingIn r)
    (same : op.handle = d.handle) (expects : s.PromiseHeld hands op decoder) :
    (s.dispatch b d).2.pendingIn = Function.update s.pendingIn r ((s.pendingIn r).filter (·.handle ≠ op.handle)) ∧
    (s.dispatch b d).2.statsOf = Function.update s.statsOf b (countResolved (s.statsOf b)) := by
  obtain ⟨bridge,known,rfl⟩ := Option.map_eq_some_iff.mp home
  obtain ⟨waker,waits⟩ := expects.waits sound pending
  rcases dispatch_books known d hands with ⟨unknown,_⟩ | ⟨other,there,handles,books⟩
  · exact absurd same (unknown op pending)
  · cases sound.ledger.same_handle pending there (same.trans handles.symm)
    have heard : (s.books hands).reaches op.channel = true := by
      have row : (s.books hands).channels.get? op.channel = some (.waiting waker) := waits
      rw [Books.reaches,row]
      rfl
    rw [Books.resolve,heard] at books
    exact ⟨congrArg Books.pending books,congrArg Books.stats books⟩

theorem dispatch_resolves (sound : (s.books hands).Sound) (home : s.registryOf b = some r) (pending : op ∈ s.pendingIn r)
    (same : op.handle = d.handle) (expects : s.PromiseHeld hands op decoder)
    (verdict : (Departure.delivered b d).verdict op.handle decoder = .ready result) :
    s.Resolves hands b r op decoder result (s.dispatch b d).2 := by
  obtain ⟨left,counted⟩ := dispatch_heard sound home pending same expects
  have after : ((s.dispatch b d).2.books hands).Sound := dispatch_sound sound b d
  refine ⟨?_,counted,(dispatch_settled sound home d).gets after pending same verdict⟩
  intro other there
  rw [left,Function.update_self] at there
  exact of_decide_eq_true (List.mem_filter.mp there).2

-- An actor that stops counts nothing and lets nothing in.
theorem stopActor_less (s : State) (a : Nat) :
    (s.stopActor a).2.statsOf = s.statsOf ∧ ∀ r, ∀ op ∈ (s.stopActor a).2.pendingIn r, op ∈ s.pendingIn r := by
  have released (s : State) (q : Nat) :
      (s.release q).2.statsOf = s.statsOf ∧ ∀ r, ∀ op ∈ (s.release q).2.pendingIn r, op ∈ s.pendingIn r := by
    cases owned : s.owned q with
    | true =>
      rw [release_owned owned]
      exact ⟨rfl,fun _ _ => id⟩
    | false =>
      rw [release_ended owned]
      refine ⟨rfl,fun r op there => ?_⟩
      rw [ended_pendingIn] at there
      split at there
      · cases there
      · exact there
  unfold stopActor
  split
  · exact ⟨rfl,fun _ _ => id⟩
  · dsimp only
    split
    · exact ⟨rfl,fun _ _ => id⟩
    · exact released (s.changeActor a Actor.stopped) _

theorem serves_resolves (sound : (s.books hands).Sound) (home : s.registryOf b = some r) (pending : op ∈ s.pendingIn r)
    (same : op.handle = d.handle) (expects : s.PromiseHeld hands op decoder)
    (verdict : (Departure.delivered b d).verdict op.handle decoder = .ready result)
    (bound : s.binding = some ⟨route,hook⟩) (serves : s.Serves b d route t) :
    s.Resolves hands b r op decoder result t := by
  cases serves with
  | @landed k waits =>
    rw [land_row waits bound]
    have dispatched :=
      dispatch_resolves (s := { s with transit := s.transit.eraseIdx k }) sound home pending same expects verdict
    exact ⟨dispatched.removed,dispatched.counted,dispatched.gets⟩
  | @attended a rest accepted handled present =>
    have came : Moves true ⟨s,hands⟩ ⟨(s.attend a).2,hands⟩ := (attend_motions s a : Motions .all _ _).all
    have settles := attend_settles sound home present rfl rfl
    have gets := settles.gets (came.changes.sound sound) pending same verdict
    have dispatched := dispatch_resolves (s := s.changeActor a (Actor.next (.deliver d) rest)) sound home pending same expects verdict
    rw [attend_row present] at gets ⊢
    simp only [handleMessage] at gets ⊢
    split at gets
    all_goals
      rename_i ran
      rw [ran] at dispatched
    · exact ⟨dispatched.removed,dispatched.counted,gets⟩
    · refine ⟨?_,(stopActor_less _ a).1.trans dispatched.counted,gets⟩
      intro other there
      exact dispatched.removed other ((stopActor_less _ a).2 r other there)

-- The library has taken a call, and its promise is in the last slot. Apart from that and
-- from what registering takes nothing has happened.
structure Takes (s : State) (b : Nat) (bridge : Bridge) (op : Operation) (decoder : Decoder) (w : State) : Prop where
  moves : ∀ hands, Moves true ⟨s,hands⟩ ⟨w,hands⟩
  pending : w.pendingIn = Function.update s.pendingIn bridge.registry (op :: s.pendingIn bridge.registry)
  free : ∀ other ∈ s.pendingIn bridge.registry, other.handle ≠ op.handle
  stats : w.statsOf = s.statsOf
  routing : w.routing = s.routing
  slots : w.slots = s.slots.push (some ⟨b,bridge.promise op decoder⟩)
  channel : w.channel? op.channel = some .fresh
  standing : w.standing b = some (true,bridge.running + 1)

theorem changeBridge_row (known : s.bridge? b = some bridge) (f : Bridge → Bridge) :
    (s.changeBridge b f).bridge? b = some (f bridge) := by
  have row : s.bridges.get? b = some bridge := known
  rw [bridge?,changeBridge,Table.get?_modify,if_pos rfl,row,Option.map_some]

theorem hold_row (listed : s.listed? b = some bridge) :
    (s.hold b).bridge? b = some { bridge with running := bridge.running + 1 } :=
  changeBridge_row (Option.filter_eq_some_iff.mp listed).1 _

theorem register_rest (registered : (s.hold b).register b = (.ok (bridge,op),u)) : u.library = s.library ∧ u.slots = s.slots := by
  obtain ⟨_,_,_,_,_,_,rfl⟩ := register_some registered
  exact ⟨rfl,rfl⟩

theorem register_takes (listed : s.listed? b = some bridge)
    (registered : (s.hold b).register b = (.ok ({ bridge with running := bridge.running + 1 },op),u)) (decoder : Decoder) :
    s.Takes b bridge op decoder { u with slots := u.slots.push (some ⟨b,bridge.promise op decoder⟩) } := by
  have moves (hands) : Moves true ⟨s.hold b,hands⟩ ⟨u,⟨b,bridge.promise op decoder⟩ :: hands⟩ :=
    register_ok registered decoder
  have entered := register_enters registered
  have pending : u.pendingIn = Function.update s.pendingIn bridge.registry (op :: s.pendingIn bridge.registry) := entered
  obtain ⟨row,registry,after,there,new,inserted,rfl⟩ := register_some registered
  obtain ⟨_,_,missing⟩ := Registry.insert?_some inserted
  have waiting : s.pendingIn bridge.registry = registry.pending := pendingIn_row there
  refine ⟨?_,pending,?_,?_,rfl,rfl,?_,?_⟩
  · intro hands
    exact ((Move.moves (.hold listed)).trans (moves hands)).tail (.keep _)
  · intro other present same
    rw [waiting] at present
    exact Registry.find?_none missing (List.mem_map.mpr ⟨other,present,same⟩)
  · exact statsOf_changeBridge s b (fun bridge => { bridge with running := bridge.running + 1 }) fun _ => rfl
  · rw [new]
    exact Table.get?_push_new _ _
  · have here : bridge.listed = true := (Option.filter_eq_some_iff.mp listed).2
    have shown : (s.hold b).standing b = some (bridge.listed,bridge.running + 1) := by
      rw [standing,row,Option.map_some]
    rw [← here]
    exact shown

theorem Takes.restock (takes : s.Takes b bridge op decoder w) (library : Library) :
    s.Takes b bridge op decoder { w with library := library } :=
  ⟨fun hands => (takes.moves hands).tail (.library library),takes.pending,takes.free,takes.stats,takes.routing,takes.slots,
    takes.channel,takes.standing⟩

-- A request that the library accepts comes to its job, done on a state where the promise is
-- kept already.
theorem request_takes (listed : s.listed? b = some bridge) (row : s.registry? bridge.registry = some registry)
    (free : registry.contains registry.allocate.1 = false) (before : s.library.jobs = []) {r : Request}
    (whole : r.nulPosition? = none) (taken : r.nativeCall.job? registry.allocate.1 = some job) (own : Handle) :
    ∃ w, s.Takes b bridge ⟨registry.allocate.1,s.channels.size⟩ r.decoder w ∧ w.library = s.library ∧
      (Action.request b r).run own s =
        (w.complete job).finish b (.submitted s.slots.size registry.allocate.1 false) := by
  obtain ⟨u,registered⟩ := register_free (hold_row listed) row free
  obtain ⟨library,slots⟩ := register_rest registered
  have idle : u.library.jobs = [] := (congrArg Library.jobs library).trans before
  have emptied : (⟨u.library.nextWallet,u.library.error,[]⟩ : Library) = u.library := by rw [← idle]
  have ran : (s.hold b).submitNative b r.nativeCall none r.decoder =
      ⟨.ok (bridge.promise ⟨registry.allocate.1,s.channels.size⟩ r.decoder),some (),
        { u with library := { u.library with jobs := u.library.jobs ++ [job] } }⟩ := by
    simp only [submitNative,submit,registered,Option.getD_none,enterLibrary_accepts taken]
    rfl
  refine ⟨_,register_takes listed registered r.decoder,library,?_⟩
  simp only [Action.run,onBridge,listed,request,whole,ran,submitted,keep,completeAll,idle,emptied,slots,List.nil_append,
    List.foldl_cons,List.foldl_nil]
  rfl

-- A call on a bridge that the session still has changes nothing more when it is over.
theorem finish_kept (standing : s.standing b = some (true,n)) (result : Result) : s.finish b result = (result,s.unhold b) := by
  obtain ⟨bridge,row,same⟩ := Option.map_eq_some_iff.mp standing
  have listed : bridge.listed = true := congrArg Prod.fst same
  have row' : (s.unhold b).bridge? b = some { bridge with running := bridge.running - 1 } := changeBridge_row row _
  have home : (s.unhold b).registryOf b = some bridge.registry := by
    rw [registryOf,row']
    rfl
  have owned : (s.unhold b).owned bridge.registry := owned_iff.mpr ⟨b,home,.kept row' (.inl listed)⟩
  simp only [finish,letGo,row,release_owned owned]

theorem deliver_posted (present : s.actor? a = some actor) (running : actor.running) (d : Delivery) :
    s.deliver (.actor a) d = (s.post a (.deliver d)).2 := by
  obtain ⟨reply,sent,_⟩ := sent_post present running (.deliver d)
  simp only [deliver]
  split
  · rename_i ran
    rw [ran]
  · rename_i ran
    rw [ran] at sent
    cases sent

-- A callback that comes to a prompt route is dispatched at once; apart from that, at most
-- an actor's records change.
theorem deliver_reached (reaches : s.Reaches b route) (prompt : s.attendance = .prompt) (idle : s.Idle)
    (calm : (s.dispatch b d).1 = .ok outcome) : ∃ ρ, s.deliver route d = (s.dispatch b d).2.withRouting ρ := by
  cases reaches with
  | direct =>
    refine ⟨(s.dispatch b d).2.routing,?_⟩
    rw [deliver_prompt prompt]
    rfl
  | @actor a actor present running serves =>
    obtain ⟨_,mailbox,_,accepted,handled⟩ := actor
    cases (running : _ = true)
    cases (serves : _ = b)
    cases (idle prompt a _ present : mailbox = [])
    have row := changeActor_row present (Actor.accept (.deliver d))
    have both : (s.changeActor a (Actor.accept (.deliver d))).changeActor a (Actor.next (.deliver d) []) =
        s.withRouting { s.routing with actors := s.actors.modify a (Actor.next (.deliver d) [] ∘ Actor.accept (.deliver d)) } := by
      simp only [changeActor,Table.modify_modify]
      rfl
    rw [deliver_posted present rfl,post_idle present rfl rfl prompt,attend_row row,both]
    simp only [handleMessage,dispatch_withRouting,calm]
    exact ⟨_,rfl⟩

-- Otherwise it waits behind all that waits there.
theorem deliver_queued (reaches : s.Reaches b route) (later : s.attendance = .onDemand) (d : Delivery) :
    (s.deliver route d).queue route = s.queue route ++ [.deliver d] ∧ (s.deliver route d).Reaches b route ∧
      ∃ ρ, s.deliver route d = s.withRouting ρ := by
  cases reaches with
  | direct =>
    rw [deliver_onDemand later]
    refine ⟨?_,.direct,⟨s.attendance,s.binding,s.actors,s.transit ++ [d]⟩,rfl⟩
    simp only [queue,List.map_append]
    rfl
  | @actor a actor present running serves =>
    have posted : (s.post a (.deliver d)).2 = s.changeActor a (Actor.accept (.deliver d)) := by
      rw [post_running present running,later]
    rw [deliver_posted present running,posted]
    refine ⟨?_,.actor (changeActor_row present _) running serves,
      ⟨s.attendance,s.binding,s.actors.modify a (Actor.accept (.deliver d)),s.transit⟩,rfl⟩
    simp only [queue,mailbox,changeActor_row present,present,Actor.accept]

-- A request on a bridge, from its submission on. Where callbacks are dispatched as they come
-- it is resolved at once, and the registry is as it was; elsewhere its callback waits, and
-- resolves it when it is dispatched, provided that nobody has taken the operation by then
-- and somebody still has the promise.
structure Answered (s : State) (hands : List Slot) (b : Nat) (bridge : Bridge) (route : Route) (op : Operation)
    (decoder : Decoder) (d : Delivery) (result : Except CallError Datum) (t : State) : Prop where
  kept : t.slot? s.slots.size = some ⟨b,bridge.promise op decoder⟩
  prompt : s.attendance = .prompt →
    t.pendingIn = s.pendingIn ∧ s.Resolves hands b bridge.registry op decoder result t
  submitted : s.attendance = .onDemand →
    t.pendingIn = Function.update s.pendingIn bridge.registry (op :: s.pendingIn bridge.registry) ∧ t.statsOf = s.statsOf ∧
    t.queue route = s.queue route ++ [.deliver d]
  served : s.attendance = .onDemand → ∀ v others, Moves true ⟨t,hands⟩ ⟨v,others⟩ → op ∈ v.pendingIn bridge.registry →
    v.PromiseHeld others op decoder → ∀ u, v.Serves b d route u → v.Resolves others b bridge.registry op decoder result u

theorem Reaches.routing (reaches : s.Reaches b route) (routing : t.routing = s.routing) : t.Reaches b route := by
  cases reaches with
  | direct => exact .direct
  | actor present running serves => exact .actor ((actor?_routing routing _).trans present) running serves

theorem Takes.home (takes : s.Takes b bridge op decoder w) (listed : s.listed? b = some bridge) :
    w.registryOf b = some bridge.registry :=
  (takes.moves []).home (registryOf_bridge (Option.filter_eq_some_iff.mp listed).1)

theorem Takes.present (takes : s.Takes b bridge op decoder w) : op ∈ w.pendingIn bridge.registry := by
  rw [takes.pending,Function.update_self]
  exact List.mem_cons_self

theorem Takes.expects (takes : s.Takes b bridge op decoder w) (hands : List Slot) : w.PromiseHeld hands op decoder := by
  refine ⟨⟨b,bridge.promise op decoder⟩,List.mem_append_right _ ?_,rfl,rfl⟩
  rw [takes.slots,Table.full_push]
  exact List.mem_append_right _ (List.mem_singleton_self _)

theorem Takes.kept (takes : s.Takes b bridge op decoder w) (same : t.slots = w.slots) :
    t.slot? s.slots.size = some ⟨b,bridge.promise op decoder⟩ := by
  have row : t.slots.get? s.slots.size = some (some ⟨b,bridge.promise op decoder⟩) := by
    rw [same,takes.slots]
    exact Table.get?_push_new _ _
  rw [slot?,row]
  rfl

-- The operation comes and goes.
theorem Takes.emptied (takes : s.Takes b bridge op decoder w) :
    Function.update w.pendingIn bridge.registry ((w.pendingIn bridge.registry).filter (·.handle ≠ op.handle)) = s.pendingIn := by
  have left : (op :: s.pendingIn bridge.registry).filter (·.handle ≠ op.handle) = s.pendingIn bridge.registry := by
    rw [List.filter_cons_of_neg (by simp),List.filter_eq_self]
    intro other there
    exact decide_eq_true (takes.free other there)
  rw [takes.pending,Function.update_self,Function.update_idem,left,Function.update_eq_self]

theorem statsOf_unhold (s : State) (b : Nat) : (s.unhold b).statsOf = s.statsOf :=
  statsOf_changeBridge s b (fun bridge => { bridge with running := bridge.running - 1 }) fun _ => rfl

theorem Takes.answered_promptly (takes : s.Takes b bridge op decoder w) (sound : (s.books hands).Sound)
    (listed : s.listed? b = some bridge) (reaches : s.Reaches b route) (idle : s.Idle) (prompt : s.attendance = .prompt)
    (same : op.handle = d.handle) (verdict : (Departure.delivered b d).verdict op.handle decoder = .ready result)
    (answer : Result) :
    ∃ t, (w.deliver route d).finish b answer = (answer,t) ∧ s.Answered hands b bridge route op decoder d result t := by
  have here : (w.books hands).Sound := (takes.moves hands).changes.sound sound
  have calm : (w.dispatch b d).1 = .ok .resolved := by
    rw [dispatch_reaches here.ledger (takes.home listed) takes.present same,takes.channel]
    rfl
  obtain ⟨ρ,delivered⟩ := deliver_reached (d := d) (reaches.routing takes.routing) ((congrArg Routing.attendance takes.routing).trans prompt)
    (NoLibraryWork.idle_same takes.routing idle) calm
  obtain ⟨left,counted⟩ := dispatch_heard here (takes.home listed) takes.present same (takes.expects hands)
  have standing : ((w.dispatch b d).2.withRouting ρ).standing b = some (true,bridge.running + 1) :=
    (congrFun (dispatch_turnAndBridges w b d).2 b).trans takes.standing
  rw [delivered,finish_kept standing]
  have books : (((w.dispatch b d).2.withRouting ρ).unhold b).books hands = (w.dispatch b d).2.books hands :=
    books_changeBridge ((w.dispatch b d).2.withRouting ρ) hands b _ fun _ => ⟨rfl,rfl⟩
  have after : ((((w.dispatch b d).2.withRouting ρ).unhold b).books hands).Sound := by
    rw [books]
    exact dispatch_sound here b d
  have settles : w.Settles bridge.registry b d (((w.dispatch b d).2.withRouting ρ).unhold b) :=
    dispatch_settled here (takes.home listed) d
  have pending : (((w.dispatch b d).2.withRouting ρ).unhold b).pendingIn = s.pendingIn := left.trans takes.emptied
  refine ⟨_,rfl,takes.kept (ReadsNothing.dispatch w b d).slots,fun _ => ⟨pending,?_,?_,?_⟩,?_,?_⟩
  · rw [pending]
    exact takes.free
  · rw [statsOf_unhold,← takes.stats]
    exact counted
  · exact settles.gets after takes.present same verdict
  · intro later
    cases prompt.symm.trans later
  · intro later
    cases prompt.symm.trans later

theorem Takes.answered_later (takes : s.Takes b bridge op decoder w) (sound : (s.books hands).Sound)
    (listed : s.listed? b = some bridge) (bound : s.binding = some ⟨route,hook⟩) (reaches : s.Reaches b route)
    (later : s.attendance = .onDemand) (same : op.handle = d.handle)
    (verdict : (Departure.delivered b d).verdict op.handle decoder = .ready result) (answer : Result) :
    ∃ t, (w.deliver route d).finish b answer = (answer,t) ∧ s.Answered hands b bridge route op decoder d result t := by
  obtain ⟨queued,_,ρ,delivered⟩ := deliver_queued (reaches.routing takes.routing) ((congrArg Routing.attendance takes.routing).trans later) d
  have standing : (w.deliver route d).standing b = some (true,bridge.running + 1) := by
    rw [delivered]
    exact takes.standing
  have queue : w.queue route = s.queue route := by
    cases route with
    | direct => exact congrArg (fun ρ => ρ.transit.map Message.deliver) takes.routing
    | actor a =>
      simp only [State.queue,mailbox,actor?_routing takes.routing]
  have binding : (w.deliver route d).binding = s.binding :=
    (TransitExtends.deliver w route d).binding.trans (congrArg Routing.binding takes.routing)
  rw [finish_kept standing]
  refine ⟨_,rfl,takes.kept (ReadsNothing.deliver w route d).slots,?_,fun _ => ⟨?_,?_,?_⟩,?_⟩
  · intro prompt
    cases later.symm.trans prompt
  · rw [delivered]
    exact takes.pending
  · rw [statsOf_unhold,← takes.stats,delivered]
    rfl
  · rw [← queue]
    exact queued
  · intro _ v others moves pending expects u serves
    have set : w.binding ≠ none := by
      rw [show w.binding = s.binding from congrArg Routing.binding takes.routing,bound]
      exact Option.some_ne_none _
    have noted : Moves true ⟨w,hands⟩ ⟨w.deliver route d,hands⟩ := (deliver_motions w set route d : Motions .all _ _).all
    have whole : Moves true ⟨s,hands⟩ ⟨v,others⟩ := (((takes.moves hands).trans noted).tail (.unhold b)).trans moves
    have bound' : ((w.deliver route d).unhold b).binding = some ⟨route,hook⟩ := binding.trans bound
    have home : v.registryOf b = some bridge.registry :=
      whole.home (registryOf_bridge (Option.filter_eq_some_iff.mp listed).1)
    exact serves_resolves (whole.changes.sound sound) home pending same expects verdict (moves.bound bound') serves

-- A call that the library takes is answered by its callback, whether callbacks are
-- dispatched as they come or later.
theorem Takes.answered (takes : s.Takes b bridge op decoder w) (sound : (s.books hands).Sound)
    (listed : s.listed? b = some bridge) (bound : s.binding = some ⟨route,hook⟩) (reaches : s.Reaches b route) (idle : s.Idle)
    (same : op.handle = d.handle) (verdict : (Departure.delivered b d).verdict op.handle decoder = .ready result)
    (answer : Result) :
    ∃ t, (w.deliver route d).finish b answer = (answer,t) ∧ s.Answered hands b bridge route op decoder d result t := by
  cases attendance : s.attendance with
  | prompt => exact takes.answered_promptly sound listed reaches idle attendance same verdict answer
  | onDemand => exact takes.answered_later sound listed bound reaches attendance same verdict answer

-- Who waits for the promise of a request that is resolved at once gets its result.
theorem Answered.ends (answered : s.Answered hands b bridge route op decoder d result t) (prompt : s.attendance = .prompt) :
    t.Ends (bridge.promise op decoder) (.ok result) := by
  have there : ⟨b,bridge.promise op decoder⟩ ∈ t.slots.full := Table.mem_full.mpr ⟨_,answered.kept⟩
  exact ((answered.prompt prompt).2.gets t hands .refl _ (List.mem_append_right _ there) rfl rfl).2

-- A request on a bridge whose next handle is free, and whose callback comes.
def Replies (s : State) (hands : List Slot) (own : Handle) (b : Nat) (bridge : Bridge) (route : Route) (registry : Registry)
    (r : Request) (d : Delivery) (result : Except CallError Datum) : Prop :=
  ∃ t, (Action.request b r).run own s = (.submitted s.slots.size registry.allocate.1 false,t) ∧
    s.Answered hands b bridge route ⟨registry.allocate.1,s.channels.size⟩ r.decoder d result t

end State

-- What a request comes to is decided by the callback that its job makes, whatever has
-- happened in the session before.
theorem Opened.replies (path : Opened ⟨0⟩ (.start attendance firsts plans) steps n s)
    (reached : Motions .all ⟨.start attendance firsts plans,[]⟩ ⟨s,hands⟩) (listed : s.listed? b = some bridge)
    (bound : s.binding = some ⟨route,hook⟩) (reaches : s.Reaches b route) (row : s.registry? bridge.registry = some registry)
    (free : registry.contains registry.allocate.1 = false) {r : Request} (whole : r.nulPosition? = none)
    (taken : r.nativeCall.job? registry.allocate.1 = some job)
    (completes : ∀ w : State, w.binding = s.binding → w.library = s.library →
      ∃ library, w.complete job = State.deliver { w with library := library } route d)
    (same : registry.allocate.1 = d.handle)
    (verdict : (Departure.delivered b d).verdict registry.allocate.1 r.decoder = .ready result) (own : Handle) :
    s.Replies hands own b bridge route registry r d result := by
  obtain ⟨_,jobs,idle,_⟩ := path.housekept
  obtain ⟨w,takes,kept,ran⟩ := State.request_takes listed row free jobs whole taken own
  obtain ⟨library,completed⟩ := completes w (congrArg Routing.binding takes.routing) kept
  obtain ⟨t,ended,answered⟩ := (takes.restock library).answered (Motions.sound reached) listed bound reaches idle same verdict
    (.submitted s.slots.size registry.allocate.1 false)
  rw [completed] at ran
  exact ⟨t,ran.trans ended,answered⟩

end PendingCalls.Session
