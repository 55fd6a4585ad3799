import PendingCalls.Proofs.Bindings

-- Where the details of an error come from. They are told once, when a call is refused or
-- when a callback comes, and nothing that is told later reaches them.

namespace PendingCalls

def Event.misreading? : Event → Option Json.Error
  | .unreadableDetails e => some e
  | _ => none

namespace Session

-- What a hook tells: the details, or why its report is no document of an error.
def reading (hook : Option Hook) (errors : ThreadErrors) : Option ErrorDetails × Option Json.Error :=
  ErrorDetails.ofReport (hook.bind (·.report errors))

theorem reading_details :
    (reading hook errors).1 = some d ↔ ∃ own bytes, hook = some own ∧ own.report errors = some bytes ∧
      ErrorDetails.parse (String.ofList (Text.decodeLossy (Text.untilNul bytes))) = .ok d := by
  unfold reading ErrorDetails.ofReport
  constructor
  · intro told
    split at told
    · cases told
    · rename_i bytes reported
      obtain ⟨own,there,report⟩ := Option.bind_eq_some_iff.mp reported
      split at told
      · rename_i parsed
        cases told
        exact ⟨own,bytes,there,report,parsed⟩
      · cases told
  · rintro ⟨own,bytes,rfl,report,parsed⟩
    rw [Option.bind_some,report]
    dsimp only
    rw [parsed]

namespace State

variable {s t u : State}

-- The reports that could not be read, newest first.
def misreadings (s : State) : List Json.Error := s.journal.filterMap Event.misreading?

theorem readDetails_told (s : State) (hook : Option Hook) (errors : ThreadErrors) :
    (s.readDetails hook errors).1 = (reading hook errors).1 ∧
    (s.readDetails hook errors).2.misreadings = (reading hook errors).2.toList ++ s.misreadings := by
  cases hook with
  | none => exact ⟨rfl,rfl⟩
  | some own =>
    simp only [readDetails,reading,Option.bind_some]
    rcases ErrorDetails.ofReport (own.report errors) with ⟨details,_ | e⟩ <;> exact ⟨rfl,rfl⟩

theorem callbackDetails_told (s : State) (hook : Option Hook) (code : Int32) (errors : ThreadErrors) :
    (s.callbackDetails hook code errors).1 = (if code = Status.successRaw then none else (reading hook errors).1) ∧
    (s.callbackDetails hook code errors).2.misreadings =
      (if code = Status.successRaw then [] else (reading hook errors).2.toList) ++ s.misreadings := by
  unfold callbackDetails
  split
  · exact ⟨rfl,rfl⟩
  · exact readDetails_told s hook errors

-- No slot is touched, and no report is read.
structure ReadsNothing (s t : State) : Prop where
  slots : t.slots = s.slots
  misreadings : t.misreadings = s.misreadings

namespace ReadsNothing

theorem refl (s : State) : s.ReadsNothing s := ⟨rfl,rfl⟩

theorem trans (first : s.ReadsNothing t) (second : t.ReadsNothing u) : s.ReadsNothing u :=
  ⟨second.slots.trans first.slots,second.misreadings.trans first.misreadings⟩

theorem evict (s : State) (r : Nat) (h : Handle) (why : Departure) : s.ReadsNothing (s.evict r h why).2 := by
  rcases evict_cases s r h why with ⟨same,_⟩ | ⟨_,_,_,_,_,evicted⟩
  · rw [same]
    exact refl s
  · rw [evicted]
    exact ⟨rfl,rfl⟩

theorem dispatch (s : State) (b : Nat) (d : Delivery) : s.ReadsNothing (s.dispatch b d).2 := by
  cases known : s.bridge? b with
  | none =>
    rw [dispatch_unknown known]
    exact refl s
  | some bridge =>
    rcases dispatch_cases known d with ⟨_,ran⟩ | ⟨_,_,_,_,_,⟨_,_,ran⟩ | ⟨_,ran⟩⟩
    all_goals
      rw [ran]
      exact ⟨rfl,rfl⟩

theorem release (s : State) (r : Nat) : s.ReadsNothing (s.release r).2 := by
  cases owned : s.owned r with
  | true =>
    rw [release_owned owned]
    exact refl s
  | false =>
    rw [release_ended owned]
    refine ⟨rfl,?_⟩
    have left (ops : List Operation) (why : Departure) : (ops.map (Event.left r · why)).reverse.filterMap Event.misreading? = [] := by
      refine List.filterMap_eq_nil_iff.mpr fun e there => ?_
      obtain ⟨_,_,rfl⟩ := List.mem_map.mp (List.mem_reverse.mp there)
      rfl
    simp only [State.misreadings,ended,List.filterMap_append,left,List.nil_append]

theorem service : ComposableActor ReadsNothing where
  refl := refl
  trans := trans
  release := release
  dispatch := dispatch
  stopped _ _ := ⟨rfl,rfl⟩
  next _ _ _ _ _ := ⟨rfl,rfl⟩
  requesterGone _ := ⟨rfl,rfl⟩

theorem post (s : State) (a : Nat) (m : Message) : s.ReadsNothing (s.post a m).2 := service.post service.attend fun _ _ => ⟨rfl,rfl⟩

theorem deliver (s : State) (route : Route) (d : Delivery) : s.ReadsNothing (s.deliver route d) :=
  service.deliver (dispatch s · d) ⟨rfl,rfl⟩ (post s · _) (fun _ => ⟨rfl,rfl⟩) route

end ReadsNothing

end State

open State in
-- A result that is at hand is in its slot until it is taken, and afterwards no other is there.
theorem Moves.at_hand {s : State} (moves : Moves driving ⟨s,hands⟩ y) (there : s.slot? i = some x)
    (ready : x.promise.state = .ready (some result)) :
    ∀ z, y.state.slot? i = some z → z = x ∨ z.promise = x.promise.taken := by
  suffices kept : i < y.state.slots.size ∧ ∀ z, y.state.slot? i = some z → z = x ∨ z.promise = x.promise.taken from kept.2
  have readsNothing {v w : State} (kept : i < v.slots.size ∧ ∀ z, v.slot? i = some z → z = x ∨ z.promise = x.promise.taken)
      (same : w.slots = v.slots) : i < w.slots.size ∧ ∀ z, w.slot? i = some z → z = x ∨ z.promise = x.promise.taken := by
    rw [slot?,same]
    exact kept
  induction moves with
  | refl =>
    refine ⟨Table.lt_size_of_get? (Option.join_eq_some_iff.mp there),fun z same => .inl ?_⟩
    exact Option.some.inj (same.symm.trans there)
  | tail _ move ih =>
    cases move with
    | close | evict => exact readsNothing ih (ReadsNothing.evict _ _ _ _).slots
    | leave => exact readsNothing ih (EntriesOnly.withdraw _ _ _ _).slots
    | draw => exact readsNothing ih (EntriesOnly.draw _ _).slots
    | enter _ entered | collide entered => exact readsNothing ih (EntriesOnly.enter entered).slots
    | insert => exact readsNothing ih (EntriesOnly.insertFresh _ _ _ _).slots
    | dispatch => exact readsNothing ih (ReadsNothing.dispatch _ _ _).slots
    | serve => exact readsNothing ih (ReadsNothing.dispatch _ _ _).slots
    | refuse | forget => exact readsNothing ih (EntriesOnly.forget _ _).slots
    | look => exact readsNothing ih (slots_poll _ _ _)
    | receive => exact readsNothing ih (EntriesOnly.receive _ _).slots
    | keep other =>
      refine ⟨Nat.lt_of_lt_of_le ih.1 (by simp only [Table.size_push,Nat.le_succ]),fun z same => ih.2 z ?_⟩
      rw [slot?,Table.get?_push_old ih.1] at same
      exact same
    | @take j v w taken =>
      refine ⟨by simp only [clearSlot,Table.size_set]; exact ih.1,fun z same => ?_⟩
      simp only [slot?,clearSlot,Table.get?_set] at same
      split at same
      · cases row : v.slots.get? i <;> rw [row] at same <;> cases same
      · exact ih.2 z same
    | lookAt looked waker =>
      rw [pollSlot_state]
      refine ⟨by simp only [Table.size_set]; exact ih.1,fun z same => ?_⟩
      simp only [slot?,Table.get?_set] at same
      split at same
      · rename_i own
        subst own
        rw [Option.join_eq_some_iff.mp looked] at same
        cases same
        refine .inr ?_
        rcases ih.2 _ looked with rfl | taken
        · simp only [Slot.look,State.poll,ready]
        · simp only [Slot.look,State.poll,taken,Promise.taken]
      · exact ih.2 z same
    | _ => exact readsNothing ih rfl

-- What an actor was sent stays sent, and it serves the same bridge.
theorem RoutingStep.sent {s t : State} (routingStep : RoutingStep s t) (present : s.actor? a = some actor) :
    ∃ later newer, t.actor? a = some later ∧ later.bridge = actor.bridge ∧ later.accepted = newer ++ actor.accepted := by
  have changed (i) {f : Actor → Actor} (newer) (bridge : (f actor).bridge = actor.bridge)
      (accepted : (f actor).accepted = newer ++ actor.accepted) :
      ∃ later newer, (s.changeActor i f).actor? a = some later ∧ later.bridge = actor.bridge ∧
        later.accepted = newer ++ actor.accepted := by
    rw [State.actor?,State.changeActor,Table.get?_modify]
    split
    · exact ⟨f actor,newer,congrArg (Option.map f) present,bridge,accepted⟩
    · exact ⟨actor,[],present,rfl,rfl⟩
  cases routingStep with
  | kept same =>
    exact ⟨actor,[],(State.actor?_routing same a).trans present,rfl,rfl⟩
  | spawn =>
    refine ⟨actor,[],?_,rfl,rfl⟩
    exact (Table.get?_push_old (Table.lt_size_of_get? present) _).trans present
  | accept _ _ m => exact changed _ [m] rfl rfl
  | @serve _ rest _ i d =>
    obtain ⟨later,newer,row,bridge,accepted⟩ := changed i (f := Actor.next (.deliver d) rest) [] rfl rfl
    exact ⟨later,newer,(State.actor?_routing (State.dispatch_routing _ _ _) a).trans row,bridge,accepted⟩
  | reply | stop => exact changed _ [] rfl rfl
  | bind | transit => exact ⟨actor,[],present,rfl,rfl⟩

theorem Moves.sent {s : State} (moves : Moves driving ⟨s,hands⟩ y) (present : s.actor? a = some actor) :
    ∃ later newer, y.state.actor? a = some later ∧ later.bridge = actor.bridge ∧ later.accepted = newer ++ actor.accepted := by
  induction moves with
  | refl => exact ⟨actor,[],present,rfl,rfl⟩
  | tail _ move ih =>
    obtain ⟨middle,newer,row,bridge,accepted⟩ := ih
    obtain ⟨later,newest,row,bridge',accepted'⟩ := move.routingStep.sent row
    refine ⟨later,newest ++ newer,row,bridge'.trans bridge,?_⟩
    rw [accepted',accepted,List.append_assoc]

namespace State

variable {s t : State}

-- Whoever looks at a promise, or waits for it, gets a result.
def Gives (s : State) (p : Promise) (result : Except CallError Datum) : Prop :=
  (∀ waker, (s.poll p waker).1 = .ready result) ∧ ∀ limit, (s.awaitAtMost p limit).1 = .ok (some result)

theorem gives_of_poll (looks : ∀ waker, (s.poll p waker).1 = .ready result) : s.Gives p result := by
  refine ⟨looks,fun limit => ?_⟩
  have look := looks .quiet
  generalize polled : s.poll p .quiet = x at look
  obtain ⟨_,_,_⟩ := x
  cases look
  cases limit with
  | none => simp only [awaitAtMost,await,polled]
  | some after =>
    simp only [awaitAtMost,withTimeout,polled]
    rfl

-- Whoever waits for the operation that is pending under the handle of a delivery gets what
-- the delivery says, in every state that comes later, whatever was told meanwhile.
def Brings (s : State) (r : Nat) (d : Delivery) (t : State) (hands : List Slot) : Prop :=
  ∀ op ∈ s.pendingIn r, op.handle = d.handle → ∀ u others, Moves true ⟨t,hands⟩ ⟨u,others⟩ → u.exhausted = false →
    ∀ x ∈ others ++ u.slots.full, ∀ decoder, x.promise.handle = op.handle →
      x.promise.state = .waiting op.channel (some decoder) →
        (d.code ≠ Status.successRaw →
          u.Gives x.promise (.error (.failed op.handle (Status.lookup d.code) d.code d.details))) ∧
        (d.code = Status.successRaw → ∀ waker e, (u.poll x.promise waker).1 = .ready (.error e) → e.details = none)

theorem verdict_failed (failed : d.code ≠ Status.successRaw) :
    (Departure.delivered b d).verdict h decoder = .ready (.error (.failed h (Status.lookup d.code) d.code d.details)) := by
  simp only [Departure.verdict,if_neg failed]

theorem verdict_success (success : d.code = Status.successRaw)
    (wrong : (Departure.delivered b d).verdict h decoder = .ready (.error e)) : e.details = none := by
  simp only [Departure.verdict,if_pos success] at wrong
  split at wrong <;> cases wrong
  rfl

theorem Settles.brings (settles : s.Settles r b d t) (sound : (t.books hands).Sound) : s.Brings r d t hands := by
  intro op present same u others moves unhurried x there decoder handle waits
  have left : .delivered b d ∈ u.departures r ⟨x.promise.handle,op.channel⟩ := by
    rw [handle,settles.moves sound moves op present same]
    exact List.mem_singleton_self _
  have looks (waker) := poll_departed (moves.changes.sound sound) there waits left waker
  rw [unhurried,handle] at looks
  constructor
  · intro failed
    exact gives_of_poll fun waker => (looks waker).trans (verdict_failed (b := b) failed)
  · intro success waker e wrong
    exact verdict_success (b := b) success ((looks waker).symm.trans wrong)

end State

-- A call whose native side has returned a status in a state. If it was accepted, nothing is
-- read; if it was refused, the hook of its own bridge is read there and then.
structure Submission.Tells (sub : Submission α) (bridge : Bridge) (op : Operation) (decoder : Decoder) (status : Int32)
    (v : State) : Prop where
  accepted : status = Status.successRaw → sub.outcome = .ok (bridge.promise op decoder) ∧ sub.state = v
  refused : ∀ found, status ≠ Status.successRaw → (v.evict bridge.registry op.handle (.rejected status)).1 = .ok found →
    sub.outcome = .ok (.refused op.handle status (reading bridge.hook v.ownErrors).1) ∧
    sub.state.misreadings = (reading bridge.hook v.ownErrors).2.toList ++ v.misreadings
  panicked : ∀ p, status ≠ Status.successRaw → (v.evict bridge.registry op.handle (.rejected status)).1 = .error p →
    sub.outcome = .error p

-- A callback comes to whom the trampolines are bound to. Its details are told by the hook of
-- the binding when it comes, and they are what reaches the caller, however long the callback
-- waits on the way and the result for somebody to look.
structure Binding.Carries (β : Binding) (s : State) (hands : List Slot) (errors : ThreadErrors) (cb : Callback)
    (d : Delivery) : Prop where
  details : d.details = if cb.code = Status.successRaw then none else (reading β.hook errors).1
  misread : (s.callBack errors cb).misreadings =
    (if cb.code = Status.successRaw then [] else (reading β.hook errors).2.toList) ++ s.misreadings
  success : cb.code = Status.successRaw →
    s.callBack errors cb = s.deliver β.route ⟨cb.handle,cb.code,cb.arguments.payload,none⟩
  prompt : ∀ b r, β.route = .direct b → s.registryOf b = some r → s.attendance = .prompt →
    s.Brings r d (s.callBack errors cb) hands
  waiting : ∀ b r, β.route = .direct b → s.registryOf b = some r → s.attendance = .onDemand → ∀ own steps,
    d ∈ (runSteps own (s.callBack errors cb) steps).2.transit ∨
    ∃ v k others, Does own (s.callBack errors cb) steps v (.land k) ∧ v.transit[k]? = some d ∧
      v.Brings r d (v.land k) others
  sent : ∀ a actor, β.route = .actor a → s.actor? a = some actor → actor.running →
    ∀ t others, Moves true ⟨s.callBack errors cb,hands⟩ ⟨t,others⟩ →
      ∃ later newer, t.actor? a = some later ∧ later.accepted = newer ++ .deliver d :: actor.accepted ∧
        (later.running → later.handled = actor.accepted →
          later.mailbox.head? = some (.deliver d) ∧
          ∀ r, s.registryOf actor.bridge = some r → t.Brings r d (t.attend a).2 others)
  attended : ∀ a actor r, β.route = .actor a → s.actor? a = some actor → actor.running → actor.mailbox = [] →
    s.attendance = .prompt → s.registryOf actor.bridge = some r → s.Brings r d (s.callBack errors cb) hands

namespace State

variable {s t u v : State}

theorem evict_errors (s : State) (r : Nat) (h : Handle) (why : Departure) : (s.evict r h why).2.ownErrors = s.ownErrors := by
  rw [evict_rest]
  rfl

theorem submit_tells {native : Handle → State → NativeRun α} (registered : s.register b = (.ok (bridge,op),u))
    (ran : native op.handle u = ⟨.ok status,extra,v⟩) (decoder : Decoder) :
    (s.submit b native decoder).Tells bridge op decoder status v := by
  have evicted := ReadsNothing.evict v bridge.registry op.handle (.rejected status)
  have errors := evict_errors v bridge.registry op.handle (.rejected status)
  unfold submit
  rw [registered]
  dsimp only
  rw [ran]
  dsimp only [settle]
  generalize left : v.evict bridge.registry op.handle (.rejected status) = x at evicted errors
  obtain ⟨woken,w⟩ := x
  constructor
  · intro success
    rw [if_pos success]
    exact ⟨rfl,rfl⟩
  · intro found refused gone
    rw [left] at gone
    cases gone
    rw [if_neg refused,reject,left]
    dsimp only
    have told (y : State) (same : y.ownErrors = v.ownErrors) (silent : y.misreadings = v.misreadings) :
        (y.refusal bridge op status).1 = .refused op.handle status (reading bridge.hook v.ownErrors).1 ∧
        (y.refusal bridge op status).2.misreadings = (reading bridge.hook v.ownErrors).2.toList ++ v.misreadings := by
      have read := readDetails_told y bridge.hook y.ownErrors
      rw [same,silent] at read
      rw [← read.1,← read.2]
      simp only [refusal,same]
      exact ⟨rfl,rfl⟩
    cases found with
    | true => exact (told w errors evicted.misreadings).imp_left (congrArg _)
    | false =>
      exact (told (w.note (.lateRejection op.handle status)) errors evicted.misreadings).imp_left (congrArg _)
  · intro p refused gone
    rw [left] at gone
    cases gone
    rw [if_neg refused,reject,left]

-- A prompt actor that has nothing else to do handles a message at once.
theorem post_idle (present : s.actor? a = some actor) (running : actor.running) (idle : actor.mailbox = [])
    (prompt : s.attendance = .prompt) (m : Message) :
    (s.post a m).2 = ((s.changeActor a (Actor.accept m)).attend a).2 := by
  have one : ((s.changeActor a (Actor.accept m)).mailbox a).length = 1 := by
    rw [mailbox,changeActor_row present]
    simp only [Actor.accept,idle,List.nil_append,List.length_singleton]
  rw [post_running present running m,prompt]
  simp only [drain,one,attendMany]

theorem deliver_idle (sound : (s.books hands).Sound) (home : s.registryOf actor.bridge = some r)
    (present : s.actor? a = some actor) (running : actor.running) (idle : actor.mailbox = [])
    (prompt : s.attendance = .prompt) (d : Delivery) : s.Settles r actor.bridge d (s.deliver (.actor a) d) := by
  obtain ⟨reply,taken,_⟩ := sent_post present running (.deliver d)
  have posted := post_idle present running idle prompt (.deliver d)
  have row := changeActor_row present (Actor.accept (.deliver d))
  have desk : (s.changeActor a (Actor.accept (.deliver d))).registryOf (actor.accept (.deliver d)).bridge = some r := home
  have first : (actor.accept (.deliver d)).mailbox = [.deliver d] := by
    simp only [Actor.accept,idle,List.nil_append]
  have attended := attend_settles (s := s.changeActor a (Actor.accept (.deliver d))) sound desk row running first
  rw [← posted] at attended
  simp only [deliver]
  split
  · rename_i ran
    rw [ran] at attended
    exact attended
  · rename_i ran
    rw [ran] at taken
    cases taken

end State

theorem Moves.home {s t : State} (moves : Moves driving ⟨s,hands⟩ ⟨t,others⟩) (home : s.registryOf b = some r) :
    t.registryOf b = some r := (congrFun moves.changes.registryOf b).trans home

theorem Moves.bound (moves : Moves driving x y) (bound : x.state.binding = some β) : y.state.binding = some β := by
  induction moves with
  | refl => exact bound
  | tail _ move ih => exact move.routing.1 β ih

open State in
theorem Binding.carries {s : State} (sound : (s.books hands).Sound) (mailboxesKept : s.MailboxesKept) (bound : s.binding = some β)
    (errors : ThreadErrors) (cb : Callback) : β.Carries s hands errors cb (s.delivery β.hook errors cb) := by
  have told := callbackDetails_told s β.hook cb.code errors
  have routed := callBack_routed bound errors cb
  have moves : Moves true ⟨s,hands⟩ ⟨s.callBack errors cb,hands⟩ := (callBack_motions s errors cb : Motions .all _ _).all
  have after : ((s.callBack errors cb).books hands).Sound := moves.changes.sound sound
  have straight {b} (route : β.route = .direct b) : s.binding = some ⟨.direct b,β.hook⟩ := route ▸ bound
  refine ⟨told.1,?_,?_,?_,?_,?_,?_⟩
  · rw [routed,(ReadsNothing.deliver _ _ _).misreadings,told.2]
  · intro success
    rw [routed]
    simp only [State.delivery,callbackDetails,if_pos success]
  · intro b r route home prompt
    exact (callBack_settles sound home (straight route) prompt errors cb).brings after
  · intro b r route home later own steps
    have waits : s.delivery β.hook errors cb ∈ (s.callBack errors cb).transit := by
      rw [callBack_waits (straight route) later]
      exact List.mem_append_right _ (List.mem_singleton_self _)
    refine (runSteps_transit own _ steps waits).imp_right ?_
    rintro ⟨v,k,does,there⟩
    obtain ⟨more,came⟩ := does.visits.motions (driven_true steps).licensed hands
    have here : (v.books (more ++ hands)).Sound := came.all.changes.sound after
    have desk : v.registryOf b = some r := came.all.home (moves.home home)
    have still : v.binding = some ⟨.direct b,β.hook⟩ := came.all.bound (moves.bound (straight route))
    have landed : Moves true ⟨v,more ++ hands⟩ ⟨v.land k,more ++ hands⟩ := (land_motions v k : Motions .all _ _).all
    exact ⟨v,k,more ++ hands,does,there,(land_settles here desk still there).brings (landed.changes.sound here)⟩
  · intro a actor route present running t others came
    have served : s.binding = some ⟨.actor a,β.hook⟩ := route ▸ bound
    have there := sent_callBack served present running errors cb
    obtain ⟨middle,row,accepted⟩ := Option.map_eq_some_iff.mp there
    obtain ⟨same,_,row',serves,_⟩ := moves.sent present
    cases row.symm.trans row'
    obtain ⟨later,newer,row,bridge,grown⟩ := came.sent row
    rw [accepted] at grown
    refine ⟨later,newer,row,grown,fun runs past => ?_⟩
    have whole : Moves true ⟨s,hands⟩ ⟨t,others⟩ := moves.trans came
    have mailboxKept := whole.mailboxesKept mailboxesKept a later row
    have conserved := mailboxKept.conserved runs
    rw [grown,past] at conserved
    have box : later.mailbox = .deliver (s.delivery β.hook errors cb) :: newer.reverse := by
      have whole : later.mailbox.reverse ++ actor.accepted =
          (newer ++ [.deliver (s.delivery β.hook errors cb)]) ++ actor.accepted := by
        rw [← conserved,List.append_assoc]
        rfl
      rw [← List.reverse_reverse later.mailbox,List.append_cancel_right whole,List.reverse_append]
      rfl
    refine ⟨by rw [box]; rfl,fun r home => ?_⟩
    have here : (t.books others).Sound := came.changes.sound after
    have desk : t.registryOf later.bridge = some r := whole.home (by rw [bridge,serves]; exact home)
    have attended : Moves true ⟨t,others⟩ ⟨(t.attend a).2,others⟩ := (attend_motions t a : Motions .all _ _).all
    exact (attend_settles here desk row runs box).brings (attended.changes.sound here)
  · intro a actor r route present running idle prompt home
    refine Settles.brings (b := actor.bridge) ?_ after
    have books := callbackDetails_books s β.hook cb.code errors hands
    have routing := callbackDetails_routing s β.hook cb.code errors
    rw [routed,route]
    refine Settles.told (deliver_idle (books ▸ sound) ?_ ((actor?_routing routing a).trans present) running idle ?_ _)
    · exact (congrFun (congrArg Books.registryOf books) actor.bridge).trans home
    · exact (congrArg Routing.attendance routing).trans prompt

theorem Poll.turnedAway_waits (waker : Waker) (result : Except CallError Datum) : Poll.turnedAway waker ≠ .ready result := by
  intro given
  cases waker <;> cases given

namespace State

variable {s t u : State}

theorem refused_gives (s : State) (h : Handle) (status : Int32) (details : Option ErrorDetails) :
    s.Gives (.refused h status details) (.error (.rejected h (Status.lookup status) status details)) :=
  gives_of_poll fun _ => rfl

theorem registered_bridge (registered : s.register b = (.ok (bridge,op),u)) : s.bridge? b = some bridge := by
  unfold register at registered
  split at registered
  · cases registered
  · rename_i known
    repeat' split at registered
    all_goals cases registered
    exact known

-- A result that comes through a channel is what the one departure of the operation says.
theorem poll_ended (sound : (s.books hands).Sound) (there : x ∈ hands ++ s.slots.full)
    (waits : x.promise.state = .waiting c (some decoder)) (given : (s.poll x.promise waker).1 = .ready result) :
    ∃ r why, s.departures r ⟨x.promise.handle,c⟩ = [why] ∧ why.verdict x.promise.handle decoder = .ready result := by
  obtain ⟨r,_,entered,shows⟩ := sound.receipts.backed x there c decoder waits
  have nil := sound.ledger.departures_nil entered
  rw [← departures_books] at nil
  cases gone : s.departures r ⟨x.promise.handle,c⟩ with
  | nil =>
    obtain ⟨before,row⟩ := shows.waits (.inl (nil.mp gone))
    rw [(poll_open waits row waker).1] at given
    split at given
    · exact absurd given (Poll.turnedAway_waits _ _)
    · cases given
  | cons why rest =>
    have left : why ∈ (s.books hands).departures r ⟨x.promise.handle,c⟩ := by
      rw [← departures_books,gone]
      exact List.mem_cons_self
    have same : Changes ⟨true,true⟩ (s.books hands) (s.books hands) := .refl
    have once := sound.ledger.departures_stay same left
    rw [← departures_books] at once
    rw [poll_left waits shows (Books.mem_departures.mp left) waker] at given
    split at given
    · exact absurd given (Poll.turnedAway_waits _ _)
    · exact ⟨r,why,gone ▸ once,given⟩

-- A failure with details is one that a callback brought, with its own.
theorem poll_details (sound : (s.books hands).Sound) (there : x ∈ hands ++ s.slots.full)
    (waits : x.promise.state = .waiting c (some decoder)) (given : (s.poll x.promise waker).1 = .ready (.error e))
    (detailed : e.details = some details) :
    ∃ r b d, s.departures r ⟨x.promise.handle,c⟩ = [.delivered b d] ∧ d.code ≠ Status.successRaw ∧
      d.details = some details ∧ e = .failed x.promise.handle (Status.lookup d.code) d.code d.details := by
  obtain ⟨r,why,left,verdict⟩ := poll_ended sound there waits given
  cases why with
  | delivered b d =>
    by_cases success : d.code = Status.successRaw
    · rw [verdict_success success verdict] at detailed
      cases detailed
    · rw [verdict_failed success] at verdict
      cases verdict
      exact ⟨r,b,d,left,success,detailed,rfl⟩
  | leftBehind => cases verdict
  | abandoned | rejected _ | unwound | registryClosed =>
    cases verdict
    cases detailed

theorem settle_slots (s : State) (bridge : Bridge) (op : Operation) (decoder : Decoder) (ending : Except Panic Int32) :
    (s.settle bridge op decoder ending).2.slots = s.slots :=
  (Composable.same State.slots).settle (fun _ _ _ _ => (EntriesOnly.evict _ _ _ _).slots) (fun _ _ => rfl) (fun _ _ _ => rfl) s bridge op decoder ending

theorem callBack_slots (s : State) (errors : ThreadErrors) (cb : Callback) : (s.callBack errors cb).slots = s.slots := by
  unfold callBack
  split
  · rfl
  · rename_i binding _
    have told : (s.callbackDetails binding.hook cb.code errors).2.slots = s.slots := by
      rcases callbackDetails_state s binding.hook cb.code errors with same | ⟨e,same⟩
      · rw [same]
      · rw [same]
        rfl
    exact (ReadsNothing.deliver _ _ _).slots.trans told

theorem finish_slots (s : State) (b : Nat) (r : Result) : (s.finish b r).2.slots = s.slots :=
  (ReadsNothing.service.finish (b := b) ReadsNothing.release ⟨rfl,rfl⟩ r).slots

-- The promise of a refused call is kept in the next slot.
theorem submit_step_refused (own : Handle) (listed : s.listed? b = some bridge)
    (registered : (s.hold b).register b = (.ok (bridge',op),u))
    (refused : status ≠ Status.successRaw) (ended : (runSteps op.handle u during).2 = v)
    (calm : (v.evict bridge'.registry op.handle (.rejected status)).1 = .ok found) (decoder : Decoder) :
    (Step.run own s (.submit b decoder (.ok status) during)).2.slot? v.slots.size =
      some ⟨b,.refused op.handle status (reading bridge'.hook v.ownErrors).1⟩ := by
  have ran : scripted (.ok status) (runSteps op.handle u during) = ⟨.ok status,(runSteps op.handle u during).1,v⟩ := by
    rw [← ended]
    rfl
  have told : ((s.hold b).submit b (fun h t => scripted (.ok status) (runSteps h t during)) decoder).Tells bridge' op decoder
      status v := submit_tells registered ran decoder
  have outcome := (told.refused found refused calm).1
  have slots : ((s.hold b).submit b (fun h t => scripted (.ok status) (runSteps h t during)) decoder).state.slots = v.slots := by
    unfold submit
    rw [registered]
    dsimp only
    rw [ran]
    exact settle_slots v bridge' op decoder (.ok status)
  simp only [Step.run,submitScript,listed,outcome,keep,endCall,answer]
  rw [slot?,finish_slots,← slots]
  exact congrArg Option.join (Table.get?_push_new _ _)

end State

-- In every state of every session. What a hook tells is a document of an error or nothing.
-- The details of a refused call are what the hook of its own bridge tells right after the
-- native call, and its result keeps them for whoever takes it. The details of a failed call
-- are what its callback brought, told by the hook of the binding. No result has any other
-- details, and none are read where there is no failure.
theorem details_told_once (reached : Motions .all ⟨.start attendance firsts plans,[]⟩ ⟨s,hands⟩) :
    (∀ hook errors d, (reading hook errors).1 = some d ↔ ∃ own bytes, hook = some own ∧ own.report errors = some bytes ∧
      ErrorDetails.parse (String.ofList (Text.decodeLossy (Text.untilNul bytes))) = .ok d) ∧
    (∀ (α : Type) (native : Handle → State → NativeRun α) (decoder : Decoder) (t u v : State) (b : Nat) (bridge : Bridge)
      (op : Operation) (status : Int32) (extra : α), t.register b = (.ok (bridge,op),u) →
        native op.handle u = ⟨.ok status,extra,v⟩ →
          t.bridge? b = some bridge ∧ (t.submit b native decoder).Tells bridge op decoder status v) ∧
    (∀ (own : Handle) (t u v : State) (b : Nat) (bridge : Bridge) (op : Operation) (decoder : Decoder) (status : Int32)
      (during : List Step) (found : Bool), (t.listed? b).isSome → (t.hold b).register b = (.ok (bridge,op),u) →
        status ≠ Status.successRaw → (runSteps op.handle u during).2 = v →
          (v.evict bridge.registry op.handle (.rejected status)).1 = .ok found →
            (Step.run own t (.submit b decoder (.ok status) during)).2.slot? v.slots.size =
              some ⟨b,.refused op.handle status (reading bridge.hook v.ownErrors).1⟩) ∧
    (∀ i b h status details, s.slot? i = some ⟨b,.refused h status details⟩ →
      ∀ u others, Moves true ⟨s,hands⟩ ⟨u,others⟩ →
        u.Gives (.refused h status details) (.error (.rejected h (Status.lookup status) status details)) ∧
        ∀ y, u.slot? i = some y →
          y = ⟨b,.refused h status details⟩ ∨ y.promise = (Promise.refused h status details).taken) ∧
    (∀ β errors cb, s.binding = some β → β.Carries s hands errors cb (s.delivery β.hook errors cb)) ∧
    ∀ x ∈ hands ++ s.slots.full, ∀ c decoder, x.promise.state = .waiting c (some decoder) → ∀ waker e details,
      (s.poll x.promise waker).1 = .ready (.error e) → e.details = some details →
        ∃ r b d, s.departures r ⟨x.promise.handle,c⟩ = [.delivered b d] ∧ d.code ≠ Status.successRaw ∧
          d.details = some details ∧ e = .failed x.promise.handle (Status.lookup d.code) d.code d.details := by
  refine ⟨fun hook errors d => reading_details,?_,?_,?_,?_,?_⟩
  · intro α native decoder t u v b bridge op status extra registered ran
    exact ⟨State.registered_bridge registered,State.submit_tells registered ran decoder⟩
  · intro own t u v b bridge op decoder status during found listed registered refused ended calm
    obtain ⟨_,listed⟩ := Option.isSome_iff_exists.mp listed
    exact State.submit_step_refused own listed registered refused ended calm decoder
  · intro i b h status details there u others moves
    exact ⟨u.refused_gives h status details,moves.at_hand there rfl⟩
  · intro β errors cb bound
    exact Binding.carries reached.sound (reached.all.mailboxesKept (State.start_mailboxesKept _ _ _)) bound errors cb
  · intro x there c decoder waits waker e details given detailed
    exact State.poll_details reached.sound there waits given detailed

-- A call on one bridge fails through the binding of another one, whose hook has a document
-- to read. What is told next is noise, and the result does not have it.
def eavesdroppers : List BridgePlan := [⟨.standard,some 0,some .silent⟩,⟨.standard,some 0,some .told⟩]

-- The document with the message "gone".
def complaint : List UInt8 :=
  [0x7b,0x22,0x6d,0x65,0x73,0x73,0x61,0x67,0x65,0x22,0x3a,0x22,0x67,0x6f,0x6e,0x65,0x22,0x7d]

def complaining : List Step := [.submit 0 .int (.ok 0) [],.act (.bind 1),.act (.tell (some complaint))]

def complained : State := (run (.start .prompt [1] eavesdroppers) complaining).2

theorem complaint_told_once :
    Visited .prompt [1] eavesdroppers complaining complained ∧
      State.Gives { complained.callBack complained.ownErrors ⟨⟨1⟩,113,.empty⟩ with told := some [0x5b] }
        ⟨⟨1⟩,none,.waiting 0 (some .int)⟩
        (.error (.failed ⟨1⟩ (Status.lookup 113) 113 (some ⟨"gone",none⟩))) := by
  have path : Visited .prompt [1] eavesdroppers complaining complained := Visited.end .prompt [1] eavesdroppers complaining
  obtain ⟨hands,reached⟩ := path.motions (driven_true complaining).licensed
  have bound : complained.binding = some ⟨.direct 1,some .told⟩ := by decide +kernel
  have home : complained.registryOf 1 = some 0 := by decide +kernel
  have prompt : complained.attendance = .prompt := by decide +kernel
  have pending : complained.pendingIn 0 = [⟨⟨1⟩,0⟩] := by decide +kernel
  have slots : complained.slots = .ofList [some ⟨0,⟨⟨1⟩,none,.waiting 0 (some .int)⟩⟩] := by cbv
  have unhurried : (complained.callBack complained.ownErrors ⟨⟨1⟩,113,.empty⟩).exhausted = false := by decide +kernel
  have read : (reading (some .told) complained.ownErrors).1 = some ⟨"gone",none⟩ := by decide +kernel
  have carried := (details_told_once reached).2.2.2.2.1 _ complained.ownErrors ⟨⟨1⟩,113,.empty⟩ bound
  have failed : (113 : Int32) ≠ Status.successRaw := by decide
  have details := carried.details.trans ((if_neg failed).trans read)
  have told : Moves true ⟨complained.callBack complained.ownErrors ⟨⟨1⟩,113,.empty⟩,hands⟩
      ⟨{ complained.callBack complained.ownErrors ⟨⟨1⟩,113,.empty⟩ with told := some [0x5b] },hands⟩ := Move.moves (.tell _)
  have held : (⟨0,⟨⟨1⟩,none,.waiting 0 (some .int)⟩⟩ : Slot) ∈
      hands ++ (complained.callBack complained.ownErrors ⟨⟨1⟩,113,.empty⟩).slots.full := by
    rw [State.callBack_slots,slots]
    exact List.mem_append_right _ List.mem_cons_self
  have brings := carried.prompt 1 0 rfl home prompt
  have given := (brings ⟨⟨1⟩,0⟩ (by rw [pending]; exact List.mem_cons_self) rfl _ hands told unhurried _ held .int rfl rfl).1 failed
  rw [details] at given
  exact ⟨path,given⟩

end Session

end PendingCalls
