import PendingCalls.Proofs.Conservation

-- Mailboxes keep what they are sent, in order. What an actor was sent and has not
-- handled is in its mailbox, and what it handled was dispatched before it goes on.

namespace PendingCalls.Session

def Message.isDelivery : Message → Bool
  | .deliver _ => true
  | .report _ => false

theorem Moves.dispatched (moves : Moves driving x y) (b : Nat) : x.state.dispatches b ≤ y.state.dispatches b := by
  obtain ⟨exits,strays⟩ := moves.changes.grow
  rw [State.dispatches_books x.state x.hands,State.dispatches_books y.state y.hands]
  exact Nat.add_le_add exits.sublist.countP_le (strays.sublist.count_le b)

namespace State

variable {s t : State}

-- An actor whose messages are all accounted for, while it runs. Each delivery that
-- it handled is one of the callbacks that its bridge has seen.
structure MailboxKept (s : State) (actor : Actor) : Prop where
  conserved : actor.running → actor.accepted = actor.mailbox.reverse ++ actor.handled
  dispatched : actor.handled.countP Message.isDelivery ≤ s.dispatches actor.bridge
  served : (s.registryOf actor.bridge).isSome

def MailboxesKept (s : State) : Prop := ∀ a actor, s.actor? a = some actor → s.MailboxKept actor

theorem MailboxKept.later (mailboxKept : s.MailboxKept actor) (seen : ∀ b, s.dispatches b ≤ t.dispatches b)
    (desks : t.registryOf = s.registryOf) : t.MailboxKept actor :=
  ⟨mailboxKept.conserved,Nat.le_trans mailboxKept.dispatched (seen _),desks ▸ mailboxKept.served⟩

theorem MailboxesKept.same (mailboxesKept : s.MailboxesKept) (actors : t.actors = s.actors)
    (seen : ∀ b, s.dispatches b ≤ t.dispatches b) (desks : t.registryOf = s.registryOf) : t.MailboxesKept := by
  intro a actor present
  rw [actor?,actors] at present
  exact (mailboxesKept a actor present).later seen desks

theorem MailboxesKept.change {f : Actor → Actor} (mailboxesKept : s.MailboxesKept) (present : s.actor? a = some actor)
    (actors : t.actors = s.actors.modify a f) (seen : ∀ b, s.dispatches b ≤ t.dispatches b)
    (desks : t.registryOf = s.registryOf) (mailboxKept : t.MailboxKept (f actor)) : t.MailboxesKept := by
  intro i other there
  rw [actor?,actors,Table.get?_modify] at there
  split at there
  · rename_i same
    subst same
    obtain ⟨before,row,rfl⟩ := Option.map_eq_some_iff.mp there
    cases row.symm.trans present
    exact mailboxKept
  · exact (mailboxesKept i other there).later seen desks

theorem actor_spawned (present : (s.spawnActor b).2.actor? i = some actor) :
    actor = Actor.fresh b ∨ s.actor? i = some actor := by
  have rows : (s.spawnActor b).2.actor? i = if i = s.actors.size then some (Actor.fresh b) else s.actor? i :=
    Table.get?_push _ _ _
  rw [rows] at present
  split at present
  · exact .inl (Option.some.inj present).symm
  · exact .inr present

theorem start_routing (attendance : Attendance) (firsts : List Int32) (plans : List BridgePlan) :
    (State.start attendance firsts plans).routing = ⟨attendance,none,.empty,[]⟩ := by
  rw [State.start_rest]
  rfl

theorem start_mailboxesKept (attendance : Attendance) (firsts : List Int32) (plans : List BridgePlan) :
    (State.start attendance firsts plans).MailboxesKept := by
  intro a actor present
  rw [actor?,show (State.start attendance firsts plans).actors = .empty from congrArg Routing.actors (start_routing _ _ _)] at present
  cases present

end State

-- What a move does to the actors, their mailboxes and the way of the callbacks.
inductive RoutingStep : State → State → Prop where
  | kept (same : t.routing = s.routing) : RoutingStep s t
  | spawn (listed : s.listed? b = some bridge) : RoutingStep s (s.spawnActor b).2
  | accept (present : s.actor? a = some actor) (running : actor.running) (m) :
      RoutingStep s (s.changeActor a (Actor.accept m))
  | serve (present : s.actor? a = some actor) (running : actor.running) (first : actor.mailbox = .deliver d :: rest) :
      RoutingStep s ((s.changeActor a (Actor.next (.deliver d) rest)).dispatch actor.bridge d).2
  | reply (present : s.actor? a = some actor) (running : actor.running)
      (first : actor.mailbox = .report awaited :: rest) :
      RoutingStep s (s.changeActor a (Actor.next (.report awaited) rest))
  | stop (a) : RoutingStep s (s.changeActor a Actor.stopped)
  | bind (binding) : RoutingStep s { s with binding := some binding }
  | transit (bound : s.binding ≠ none) (waiting) : RoutingStep s { s with transit := waiting }

open State in
theorem Move.routingStep (move : Move driving x y) : RoutingStep x.state y.state := by
  cases move with
  | note | report | tell | library | turn | lose | keep | take | swap | hold | unhold | unlist => exact .kept rfl
  | close | evict => exact .kept (EntriesOnly.evict _ _ _ _).routing
  | leave => exact .kept (EntriesOnly.withdraw _ _ _ _).routing
  | draw => exact .kept (EntriesOnly.draw _ _).routing
  | enter _ entered | collide entered => exact .kept (EntriesOnly.enter entered).routing
  | insert => exact .kept (EntriesOnly.insertFresh _ _ _ _).routing
  | dispatch => exact .kept (dispatch_routing _ _ _)
  | refuse | forget => exact .kept (EntriesOnly.forget _ _).routing
  | look => exact .kept (poll_routing _ _ _)
  | lookAt =>
    rw [pollSlot_state]
    exact .kept (poll_routing _ _ _)
  | receive => exact .kept (EntriesOnly.receive _ _).routing
  | spawn listed => exact .spawn listed
  | accept present running m => exact .accept present running m
  | serve present running first => exact .serve present running first
  | reply present running first => exact .reply present running first
  | stop a => exact .stop a
  | bindDirect | bindActor => exact .bind _
  | transit bound waiting => exact .transit bound waiting

open State in
theorem RoutingStep.mailboxesKept (routingStep : RoutingStep s t) (mailboxesKept : s.MailboxesKept)
    (seen : ∀ b, s.dispatches b ≤ t.dispatches b)
    (desks : t.registryOf = s.registryOf) : t.MailboxesKept := by
  cases routingStep with
  | kept same => exact mailboxesKept.same (congrArg Routing.actors same) seen desks
  | bind | transit => exact mailboxesKept.same rfl seen desks
  | spawn listed =>
    intro i actor present
    rcases actor_spawned present with rfl | present
    · have known := (Option.filter_eq_some_iff.mp listed).1
      refine ⟨fun _ => rfl,Nat.zero_le _,?_⟩
      rw [desks]
      simp only [registryOf,Actor.fresh,known,Option.map_some,Option.isSome_some]
    · exact (mailboxesKept i actor present).later seen desks
  | @accept actor _ _ present running m =>
    have mailboxKept := mailboxesKept _ _ present
    refine mailboxesKept.change present rfl seen desks ⟨fun _ => ?_,mailboxKept.dispatched,mailboxKept.served⟩
    change m :: actor.accepted = (actor.mailbox ++ [m]).reverse ++ actor.handled
    rw [mailboxKept.conserved running,List.reverse_append]
    rfl
  | reply present running first =>
    have mailboxKept := mailboxesKept _ _ present
    have conserved := mailboxKept.conserved running
    rw [first,List.reverse_cons,List.append_assoc] at conserved
    refine mailboxesKept.change present rfl seen desks ⟨fun _ => conserved,?_,mailboxKept.served⟩
    exact Nat.le_trans (Nat.le_of_eq (List.countP_cons_of_neg (by simp [Message.isDelivery]))) mailboxKept.dispatched
  | @serve actor rest _ a d present running first =>
    have mailboxKept := mailboxesKept a actor present
    have conserved := mailboxKept.conserved running
    rw [first,List.reverse_cons,List.append_assoc] at conserved
    obtain ⟨registry,desk⟩ := Option.isSome_iff_exists.mp mailboxKept.served
    obtain ⟨bridge,known,_⟩ := Option.map_eq_some_iff.mp desk
    let t := s.changeActor a (Actor.next (.deliver d) rest)
    have actors : (t.dispatch actor.bridge d).2.actors = t.actors := congrArg Routing.actors (dispatch_routing t actor.bridge d)
    have counted : (t.dispatch actor.bridge d).2.dispatches actor.bridge = s.dispatches actor.bridge + 1 :=
      (dispatch_counted (s := t) known d).1
    refine mailboxesKept.change present actors seen desks ⟨fun _ => conserved,?_,?_⟩
    · have handled : (Message.deliver d :: actor.handled).countP Message.isDelivery =
          actor.handled.countP Message.isDelivery + 1 := List.countP_cons_of_pos rfl
      exact Nat.le_trans (Nat.le_of_eq handled) (counted ▸ Nat.succ_le_succ mailboxKept.dispatched)
    · rw [desks]
      exact mailboxKept.served
  | stop a =>
    cases present : s.actor? a with
    | none => exact mailboxesKept.same (Table.modify_none present _) seen desks
    | some actor =>
      have mailboxKept := mailboxesKept a actor present
      exact mailboxesKept.change present rfl seen desks
        ⟨fun running => absurd running Bool.false_ne_true,mailboxKept.dispatched,mailboxKept.served⟩

theorem Moves.mailboxesKept (moves : Moves driving x y) (mailboxesKept : x.state.MailboxesKept) : y.state.MailboxesKept := by
  induction moves with
  | refl => exact mailboxesKept
  | tail _ move ih =>
    exact move.routingStep.mailboxesKept ih move.moves.dispatched (Moves.changes move.moves).registryOf

inductive Routing.Change : Routing → Routing → Prop where
  | same : Routing.Change ρ ρ
  | spawn (b) : Routing.Change ρ { ρ with actors := ρ.actors.push (Actor.fresh b) }
  | actor (a f) (past : ∀ actor : Actor, actor.running = false → (f actor).running = false) :
      Routing.Change ρ { ρ with actors := ρ.actors.modify a f }
  | bind (binding) : Routing.Change ρ { ρ with binding := some binding }
  | transit (bound : ρ.binding ≠ none) (waiting) : Routing.Change ρ { ρ with transit := waiting }

theorem RoutingStep.routing (routingStep : RoutingStep s t) : Routing.Change s.routing t.routing := by
  cases routingStep with
  | kept same => exact same ▸ .same
  | spawn => exact .spawn _
  | accept | reply => exact .actor _ _ fun _ past => past
  | @serve _ rest _ a d =>
    rw [State.dispatch_routing]
    exact .actor a (Actor.next (.deliver d) rest) fun _ past => past
  | stop => exact .actor _ _ fun _ _ => rfl
  | bind => exact .bind _
  | transit bound => exact .transit bound _

-- Nothing waits before anybody is bound, and when callbacks are dispatched is chosen once
-- for all.
theorem Moves.unbound (moves : Moves driving x y) (none : x.state.binding = none → x.state.transit = [])
    (free : y.state.binding = .none) : y.state.transit = [] := by
  have changed {σ ρ : Routing} (change : Routing.Change σ ρ) (none : σ.binding = .none → σ.transit = [])
      (free : ρ.binding = .none) : ρ.transit = [] := by
    cases change with
    | same | spawn | actor => exact none free
    | bind => cases free
    | transit bound => exact absurd free bound
  induction moves with
  | refl => exact none free
  | tail _ move ih => exact changed move.routingStep.routing ih free

theorem Moves.attendance (moves : Moves driving x y) : y.state.attendance = x.state.attendance := by
  have changed {σ ρ : Routing} (change : Routing.Change σ ρ) : ρ.attendance = σ.attendance := by cases change <;> rfl
  induction moves with
  | refl => rfl
  | tail _ move ih => exact (changed move.routingStep.routing).trans ih

def State.halted (s : State) (a : Nat) : Prop := ∃ actor, s.actor? a = some actor ∧ actor.running = false

theorem State.halted.same {s t : State} (halted : s.halted a) (routing : t.routing = s.routing) : t.halted a := by
  obtain ⟨actor,present,past⟩ := halted
  exact ⟨actor,(actor?_routing routing a).trans present,past⟩

theorem Moves.halted (moves : Moves driving x y) (halted : x.state.halted a) : y.state.halted a := by
  have changed {σ ρ : Routing} (change : Routing.Change σ ρ)
      (halted : ∃ actor, σ.actors.get? a = some actor ∧ actor.running = false) :
      ∃ actor, ρ.actors.get? a = some actor ∧ actor.running = false := by
    obtain ⟨actor,present,stopped⟩ := halted
    cases change with
    | same | bind | transit => exact ⟨actor,present,stopped⟩
    | spawn b =>
      refine ⟨actor,?_,stopped⟩
      exact (Table.get?_push_old (Table.lt_size_of_get? present) _).trans present
    | actor i f past =>
      dsimp only
      rw [Table.get?_modify]
      split
      · exact ⟨f actor,congrArg (Option.map f) present,past actor stopped⟩
      · exact ⟨actor,present,stopped⟩
  induction moves with
  | refl => exact halted
  | tail _ move ih => exact changed move.routingStep.routing ih

-- So an actor that runs at the end ran before.
theorem Moves.alive (moves : Moves driving x y) (alive : ¬ y.state.halted a) : ¬ x.state.halted a :=
  fun halted => alive (moves.halted halted)

namespace State

variable {s : State}

-- All that an actor was ever sent while it ran, newest first.
def sent (s : State) (a : Nat) : Option (List Message) := (s.actor? a).map Actor.accepted

theorem sent_changeActor {f : Actor → Actor} (same : ∀ actor, (f actor).accepted = actor.accepted) (s : State) (x a : Nat) :
    (s.changeActor x f).sent a = s.sent a := by
  simp only [sent,actor?,changeActor,Table.get?_modify]
  split
  · cases s.actors.get? a with
    | none => rfl
    | some actor => exact congrArg some (same actor)
  · rfl

theorem sent_routing {t : State} (routing : t.routing = s.routing) (a : Nat) : t.sent a = s.sent a := by
  rw [sent,sent,actor?_routing routing]

theorem sent_service (a : Nat) : ComposableActor fun s t => t.sent a = s.sent a where
  refl _ := rfl
  trans first second := second.trans first
  release s r := sent_routing (release_routing s r) a
  dispatch s b d := sent_routing (dispatch_routing s b d) a
  stopped s x := sent_changeActor (f := Actor.stopped) (fun _ => rfl) s x a
  next s x m rest _ := sent_changeActor (f := Actor.next m rest) (fun _ => rfl) s x a
  requesterGone _ := rfl

theorem post_running (present : s.actor? a = some actor) (running : actor.running) (m : Message) :
    s.post a m = match s.attendance with
      | .prompt => (.sent ((s.changeActor a (Actor.accept m)).drain a).1,((s.changeActor a (Actor.accept m)).drain a).2)
      | .onDemand => (.sent none,s.changeActor a (Actor.accept m)) := by
  unfold post
  rw [present]
  dsimp only
  rw [if_pos running]
  rfl

theorem changeActor_row (present : s.actor? a = some actor) (f : Actor → Actor) :
    (s.changeActor a f).actor? a = some (f actor) := by
  rw [actor?,changeActor,Table.get?_modify,if_pos rfl]
  exact congrArg (Option.map f) present

theorem sent_post (present : s.actor? a = some actor) (running : actor.running) (m : Message) :
    ∃ reply, (s.post a m).1 = .sent reply ∧ (s.post a m).2.sent a = some (m :: actor.accepted) := by
  have accepted : (s.changeActor a (Actor.accept m)).sent a = some (m :: actor.accepted) := by
    rw [sent,changeActor_row present]
    rfl
  rw [post_running present running m]
  cases s.attendance with
  | prompt => exact ⟨_,rfl,((sent_service a).attendMany (sent_service a).attend _ _ _).trans accepted⟩
  | onDemand => exact ⟨_,rfl,accepted⟩

-- A callback is sent with its payload and the details of its error, as they are when it
-- comes.
theorem sent_callBack (routed : s.binding = some ⟨.actor a,hook⟩) (present : s.actor? a = some actor)
    (running : actor.running) (errors : ThreadErrors) (cb : Callback) :
    (s.callBack errors cb).sent a = some (.deliver ⟨cb.handle,cb.code,cb.arguments.payload,
      (s.callbackDetails hook cb.code errors).1⟩ :: actor.accepted) := by
  have there : (s.callbackDetails hook cb.code errors).2.actor? a = some actor :=
    (actor?_routing (callbackDetails_routing _ _ _ _) a).trans present
  obtain ⟨reply,taken,accepted⟩ := sent_post there running
    (.deliver ⟨cb.handle,cb.code,cb.arguments.payload,(s.callbackDetails hook cb.code errors).1⟩)
  unfold callBack
  rw [routed]
  dsimp only [deliver]
  split
  · rename_i ran
    rw [ran] at accepted
    exact accepted
  · rename_i ran
    rw [ran] at taken
    cases taken

theorem attend_report (present : s.actor? a = some ⟨b,.report awaited :: rest,true,accepted,handled⟩) :
    (s.attend a).1 = if awaited then some (s.statsOf b) else none := by
  unfold attend
  rw [present]
  cases awaited <;> rfl

end State

end PendingCalls.Session
