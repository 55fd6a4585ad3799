import PendingCalls.Proofs.Moves

-- Moves told more exactly. An operation that a call brings enters under the handle
-- that was drawn just before, and of every look it is known with which waker.

namespace PendingCalls

def Event.issues : Event → Bool
  | .drew .. | .entered .. => true
  | _ => false

theorem Event.plain_issues {e : Event} (plain : e.plain) : e.issues = false := by
  cases e <;> first | rfl | cases plain

def Channel.waker? : Channel → Option Waker
  | .waiting waker => waker
  | _ => none

namespace Session

-- What the steps of a session may do: drive the thread by calls, put operations of
-- their own into registries, look with wakers that panic.
structure License where
  driving : Bool
  inserting : Bool
  panicking : Bool

def License.all : License := ⟨true,true,true⟩

namespace State

variable {s t u : State}

-- No handle is drawn and no operation enters.
structure NothingIssued (s t : State) : Prop where
  counters : ∀ r, (State.registry? t r).map Registry.counter = (s.registry? r).map Registry.counter
  journal : ∃ more, t.journal = more ++ s.journal ∧ ∀ e ∈ more, e.issues = false

-- And no new waker waits.
structure NoNewWaker (s t : State) : Prop extends NothingIssued s t where
  wakers : ∀ c waker, (t.channel? c).bind Channel.waker? = some waker → (s.channel? c).bind Channel.waker? = some waker

namespace NothingIssued

theorem same (registries : t.registries = s.registries) (journal : t.journal = s.journal) : s.NothingIssued t := by
  refine ⟨fun r => ?_,[],journal,by simp⟩
  rw [State.registry?,State.registry?,registries]

theorem note (s : State) (silent : e.issues = false) : s.NothingIssued (s.note e) :=
  ⟨fun _ => rfl,[e],rfl,by simpa using silent⟩

theorem trans (first : s.NothingIssued t) (second : t.NothingIssued u) : s.NothingIssued u := by
  obtain ⟨newer,same,others⟩ := second.journal
  obtain ⟨more,before,rest⟩ := first.journal
  refine ⟨fun r => (second.counters r).trans (first.counters r),newer ++ more,?_,?_⟩
  · rw [same,before,List.append_assoc]
  · intro e member
    rcases List.mem_append.mp member with new | old
    · exact others e new
    · exact rest e old

end NothingIssued

namespace NoNewWaker

theorem same (registries : t.registries = s.registries) (journal : t.journal = s.journal) (channels : t.channels = s.channels) :
    s.NoNewWaker t := by
  refine ⟨.same registries journal,fun c waker => ?_⟩
  rw [channel?,channel?,channels]
  exact id

theorem refl (s : State) : s.NoNewWaker s := same rfl rfl rfl

theorem trans (first : s.NoNewWaker t) (second : t.NoNewWaker u) : s.NoNewWaker u :=
  ⟨first.toNothingIssued.trans second.toNothingIssued,fun c waker waits => first.wakers c waker (second.wakers c waker waits)⟩

theorem note (s : State) (silent : e.issues = false) : s.NoNewWaker (s.note e) := ⟨.note s silent,fun _ _ => id⟩

theorem modify (s : State) (c : Nat) (f : Channel → Channel)
    (calm : ∀ channel waker, (f channel).waker? = some waker → channel.waker? = some waker) :
    s.NoNewWaker { s with channels := s.channels.modify c f } := by
  refine ⟨.same rfl rfl,fun d waker => ?_⟩
  simp only [channel?,Table.get?_modify]
  split
  · cases s.channels.get? d with
    | none => exact id
    | some channel => exact calm channel waker
  · exact id

theorem hangUp (s : State) (c : Nat) : s.NoNewWaker (s.hangUp c).2 := by
  rw [hangUp_state]
  refine modify s c _ fun channel waker => ?_
  cases channel <;> simp [Channel.hangUp,Channel.waker?]

theorem send (s : State) (c : Nat) (o : Outcome) : s.NoNewWaker (s.send c o).2 := by
  rw [send_state]
  refine modify s c _ fun channel waker => ?_
  cases channel <;> simp [Channel.send,Channel.waker?]

theorem desert (s : State) (c : Nat) : s.NoNewWaker (s.desert c) :=
  modify s c _ fun channel waker => by simp [Channel.desert,Channel.waker?]

theorem withdraw (s : State) (r : Nat) (h : Handle) (why : Departure) : s.NoNewWaker (s.withdraw r h why).2 := by
  rcases withdraw_cases s r h why with ⟨kept,_⟩ | ⟨registry,op,row,_,_,left⟩
  · rw [kept]
    exact refl s
  · rw [left]
    have put : s.NoNewWaker (s.putRegistry r (registry.erase h)) := by
      refine ⟨⟨fun q => ?_,[],rfl,by simp⟩,fun _ _ => id⟩
      simp only [State.registry?,putRegistry,Table.get?_set]
      split
      · rename_i here
        subst here
        rw [show s.registries.get? r = some registry from row]
        rfl
      · rfl
    exact put.trans (note _ rfl)

theorem evict (s : State) (r : Nat) (h : Handle) (why : Departure) : s.NoNewWaker (s.evict r h why).2 := by
  have left := withdraw s r h why
  rw [evict_state]
  split
  all_goals
    rename_i ran
    rw [ran] at left
  · exact left
  · exact left.trans (hangUp _ _)

theorem dispatch (s : State) (b : Nat) (d : Delivery) : s.NoNewWaker (s.dispatch b d).2 := by
  have counted (t : State) (f : Stats → Stats) : t.NoNewWaker (t.changeStats b f) := same rfl rfl rfl
  unfold State.dispatch
  split
  · exact refl s
  · rename_i bridge _
    have left := withdraw s bridge.registry d.handle (.delivered b d)
    split
    · rename_i ran
      rw [ran] at left
      exact left.trans ((counted _ _).trans (note _ rfl))
    · rename_i op t ran
      rw [ran] at left
      have sent := send (t.changeStats b countResolved) op.channel d.outcome
      split
      all_goals
        rename_i ran
        rw [ran] at sent
      · exact left.trans ((counted _ _).trans sent)
      · exact left.trans ((counted _ _).trans (sent.trans ((counted _ _).trans (note _ rfl))))

theorem forget (s : State) (p : Promise) : s.NoNewWaker (s.forget p) := by
  unfold State.forget
  split
  · exact refl s
  · exact desert _ _

theorem receive (s : State) (i : Nat) : s.NoNewWaker (s.receive i).2 := by
  unfold State.receive
  split
  · exact refl s
  · rename_i c channel found
    obtain ⟨c',_,row⟩ := Option.bind_eq_some_iff.mp found
    obtain ⟨channel',row,same⟩ := Option.map_eq_some_iff.mp row
    cases same
    dsimp only
    rw [putChannel,← Table.modify_eq_set row fun channel => channel.tryReceive.1]
    refine modify s c _ fun channel waker => ?_
    cases channel <;> simp [Channel.tryReceive,Channel.waker?]

end NoNewWaker

end State

inductive Motion (license : License) : Scene → Scene → Prop where
  | noNewWaker (move : Move license.driving ⟨s,hands⟩ ⟨t,others⟩) (noNewWaker : s.NoNewWaker t) : Motion license ⟨s,hands⟩ ⟨t,others⟩
  | draw (r) : Motion license ⟨s,hands⟩ ⟨(s.draw r).2,hands⟩
  | register (registered : s.register b = (.ok (bridge,op),t)) (decoder) :
      Motion license ⟨s,hands⟩ ⟨t,⟨b,bridge.promise op decoder⟩ :: hands⟩
  | collide (failed : s.register b = (.error p,t)) : Motion license ⟨s,hands⟩ ⟨t,hands⟩
  | insert (allowed : license.inserting) (b h keep) : Motion license ⟨s,hands⟩ ⟨(s.insertFresh b h keep).2,hands⟩
  | look (x) (allowed : waker = .panicking → license.panicking) :
      Motion license ⟨s,x :: hands⟩ ⟨(s.poll x.promise waker).2.2,x.look s waker :: hands⟩
  | lookAt (there : s.slot? i = some x) (allowed : waker = .panicking → license.panicking) :
      Motion license ⟨s,hands⟩ ⟨(s.pollSlot i x waker).2,hands⟩

abbrev Motions (license : License) : Scene → Scene → Prop := Relation.ReflTransGen (Motion license)

theorem Motion.motions (motion : Motion license x y) : Motions license x y := .single motion

namespace Motion

open State

variable {s : State} {hands : List Slot} {license : License}

theorem note (plain : e.plain) : Motion license ⟨s,hands⟩ ⟨s.note e,hands⟩ :=
  .noNewWaker (.note plain) (.note s (Event.plain_issues plain))

theorem report (n) : Motion license ⟨s,hands⟩ ⟨{ s with reported := n },hands⟩ := .noNewWaker (.report n) (.same rfl rfl rfl)

theorem tell (told) : Motion license ⟨s,hands⟩ ⟨{ s with told := told },hands⟩ := .noNewWaker (.tell told) (.same rfl rfl rfl)

theorem library (library) : Motion license ⟨s,hands⟩ ⟨{ s with library := library },hands⟩ :=
  .noNewWaker (.library library) (.same rfl rfl rfl)

theorem turn (allowed : license.driving) (turn) : Motion license ⟨s,hands⟩ ⟨{ s with turn := turn },hands⟩ :=
  .noNewWaker (.turn allowed turn) (.same rfl rfl rfl)

theorem hold (listed : s.listed? b = some bridge) : Motion license ⟨s,hands⟩ ⟨s.hold b,hands⟩ :=
  .noNewWaker (.hold listed) (.same rfl rfl rfl)

theorem unhold (b) : Motion license ⟨s,hands⟩ ⟨s.unhold b,hands⟩ := .noNewWaker (.unhold b) (.same rfl rfl rfl)

theorem unlist (b) : Motion license ⟨s,hands⟩ ⟨s.unlist b,hands⟩ := .noNewWaker (.unlist b) (.same rfl rfl rfl)

theorem close (unowned : s.owned r = false) (h) :
    Motion license ⟨s,hands⟩ ⟨(s.evict r h .registryClosed).2,hands⟩ :=
  .noNewWaker (.close unowned h) (.evict _ _ _ _)

theorem leave (unowned : s.owned r = false) (h) :
    Motion license ⟨s,hands⟩ ⟨(s.withdraw r h .leftBehind).2,hands⟩ :=
  .noNewWaker (.leave unowned h) (.withdraw _ _ _ _)

theorem spawn (listed : s.listed? b = some bridge) : Motion license ⟨s,hands⟩ ⟨(s.spawnActor b).2,hands⟩ :=
  .noNewWaker (.spawn listed) (.trans (.note s (e := .actorStarted) rfl) (.same rfl rfl rfl))

theorem accept (present : s.actor? a = some actor) (running : actor.running) (m) :
    Motion license ⟨s,hands⟩ ⟨s.changeActor a (Actor.accept m),hands⟩ :=
  .noNewWaker (.accept present running m) (.same rfl rfl rfl)

theorem serve (present : s.actor? a = some actor) (running : actor.running) (first : actor.mailbox = .deliver d :: rest) :
    Motion license ⟨s,hands⟩ ⟨((s.changeActor a (Actor.next (.deliver d) rest)).dispatch actor.bridge d).2,hands⟩ :=
  .noNewWaker (.serve present running first)
    (.trans (t := s.changeActor a (Actor.next (.deliver d) rest)) (.same rfl rfl rfl) (.dispatch _ _ _))

theorem reply (present : s.actor? a = some actor) (running : actor.running)
    (first : actor.mailbox = .report awaited :: rest) :
    Motion license ⟨s,hands⟩ ⟨s.changeActor a (Actor.next (.report awaited) rest),hands⟩ :=
  .noNewWaker (.reply present running first) (.same rfl rfl rfl)

theorem stop (a) : Motion license ⟨s,hands⟩ ⟨s.changeActor a Actor.stopped,hands⟩ := .noNewWaker (.stop a) (.same rfl rfl rfl)

theorem bindDirect (listed : s.listed? b = some bridge) (free : s.binding = none) (hook) :
    Motion license ⟨s,hands⟩ ⟨{ s with binding := some ⟨.direct b,hook⟩ },hands⟩ :=
  .noNewWaker (.bindDirect listed free hook) (.same rfl rfl rfl)

theorem bindActor (free : s.binding = none) (a hook) :
    Motion license ⟨s,hands⟩ ⟨{ s with binding := some ⟨.actor a,hook⟩ },hands⟩ :=
  .noNewWaker (.bindActor free a hook) (.same rfl rfl rfl)

theorem transit (bound : s.binding ≠ none) (waiting) :
    Motion license ⟨s,hands⟩ ⟨{ s with transit := waiting },hands⟩ :=
  .noNewWaker (.transit bound waiting) (.same rfl rfl rfl)

theorem dispatch (b d) : Motion license ⟨s,hands⟩ ⟨(s.dispatch b d).2,hands⟩ := .noNewWaker (.dispatch b d) (.dispatch _ _ _)

theorem evict (cleanup : why.cleanup) (r h) : Motion license ⟨s,hands⟩ ⟨(s.evict r h why).2,hands⟩ :=
  .noNewWaker (.evict cleanup r h) (.evict _ _ _ _)

theorem refuse (x status details) : Motion license ⟨s,x :: hands⟩
    ⟨s.forget x.promise,⟨x.bridge,.refused x.promise.handle status details⟩ :: hands⟩ :=
  .noNewWaker (.refuse x status details) (.forget _ _)

theorem forget (x) : Motion license ⟨s,x :: hands⟩ ⟨s.forget x.promise,hands⟩ := .noNewWaker (.forget x) (.forget _ _)

theorem lose (x) : Motion license ⟨s,x :: hands⟩ ⟨s,hands⟩ := .noNewWaker (.lose x) (.refl s)

theorem keep (x) : Motion license ⟨s,x :: hands⟩ ⟨{ s with slots := s.slots.push (some x) },hands⟩ :=
  .noNewWaker (.keep x) (.same rfl rfl rfl)

theorem take (there : s.slot? i = some x) : Motion license ⟨s,hands⟩ ⟨s.clearSlot i,x :: hands⟩ :=
  .noNewWaker (.take there) (.same rfl rfl rfl)

theorem receive (i) : Motion license ⟨s,hands⟩ ⟨(s.receive i).2,hands⟩ := .noNewWaker (.receive i) (.receive _ _)

theorem swap (same : hands.Perm others) : Motion license ⟨s,hands⟩ ⟨s,others⟩ := .noNewWaker (.swap same) (.refl s)

end Motion

namespace State

variable {s t : State} {hands : List Slot}

theorem bridges_draw (s : State) (r : Nat) : (s.draw r).2.bridges = s.bridges := by
  unfold draw
  split <;> rfl

theorem register_error (failed : s.register b = (.error p,t)) : Moves driving ⟨s,hands⟩ ⟨t,hands⟩ := by
  unfold register at failed
  split at failed
  · cases failed; exact .refl
  · rename_i bridge known
    have drew : Move driving ⟨s,hands⟩ ⟨(s.draw bridge.registry).2,hands⟩ := .draw _
    split at failed
    · rename_i drawn
      rw [drawn] at drew
      cases failed
      exact drew.moves
    · rename_i drawn
      rw [drawn] at drew
      split at failed
      · rename_i refused
        cases failed
        exact .head drew (.single (.collide refused))
      · cases failed

theorem register_ok (registered : s.register b = (.ok (bridge,op),t)) (decoder : Decoder) :
    Moves driving ⟨s,hands⟩ ⟨t,⟨b,bridge.promise op decoder⟩ :: hands⟩ := by
  unfold register at registered
  split at registered
  · cases registered
  · rename_i bridge known
    have drew : Move driving ⟨s,hands⟩ ⟨(s.draw bridge.registry).2,hands⟩ := .draw _
    have still : (s.draw bridge.registry).2.bridge? b = some bridge := by
      rw [bridge?,bridges_draw]
      exact known
    split at registered
    · cases registered
    · rename_i drawn
      rw [drawn] at drew still
      split at registered
      · cases registered
      · rename_i entered
        cases registered
        exact .head drew (.single (.enter still entered decoder))

end State

namespace State

-- A registry without one of its entries, where it ends anyway.
theorem putRegistry_erased (s : State) (r : Nat) (registry : Registry) (h : Handle) :
    (s.putRegistry r (registry.erase h)).putRegistry r registry.clear = s.putRegistry r registry.clear := by
  simp only [putRegistry,Table.set_set]

theorem row_erased {s : State} (row : s.registry? r = some registry) (h : Handle) :
    State.registry? (s.putRegistry r (registry.erase h)) r = some (registry.erase h) := by
  rw [State.registry?,putRegistry,Table.get?_set,if_pos rfl]
  exact congrArg (Option.map _) row

theorem putRegistry_empty {s : State} (row : s.registry? r = some registry) (none : registry.pending = []) :
    s.putRegistry r registry.clear = s := by
  rw [Registry.clear_empty none,putRegistry,Table.set_same row]

-- Operations that are left behind go one after another, as if each was taken out by itself.
theorem leaveBehind_motions {s : State} (unowned : s.owned r = false) (row : s.registry? r = some registry)
    (all : registry.pending.Perm ops) :
    Motions license ⟨s,hands⟩ ⟨(s.putRegistry r registry.clear).leaveBehind r ops,hands⟩ := by
  induction ops generalizing s registry with
  | nil =>
    rw [putRegistry_empty row all.eq_nil]
    exact .refl
  | cons op rest ih =>
    have present : op ∈ registry.pending := all.symm.subset List.mem_cons_self
    have gone : Motion license ⟨s,hands⟩ ⟨(s.withdraw r op.handle .leftBehind).2,hands⟩ := .leave unowned op.handle
    rw [withdraw_present row present] at gone
    have others := ih (s := (s.putRegistry r (registry.erase op.handle)).note (.left r op .leftBehind)) unowned
      (row_erased row op.handle) ((Registry.pending_apart present).symm.trans all).cons_inv
    refine .head gone ?_
    rw [leaveBehind,List.foldl_cons,← putRegistry_erased s r registry op.handle]
    exact others

-- The end of a registry lets its operations go one after another, as if each was
-- evicted by itself.
theorem hangUpAll_motions {s : State} (unowned : s.owned r = false) (row : s.registry? r = some registry)
    (all : registry.pending.Perm ops) :
    Motions license ⟨s,hands⟩ ⟨(hangUpAll r ops (s.putRegistry r registry.clear)).2,hands⟩ := by
  induction ops generalizing s registry with
  | nil =>
    rw [putRegistry_empty row all.eq_nil]
    exact .refl
  | cons op rest ih =>
    have present : op ∈ registry.pending := all.symm.subset List.mem_cons_self
    have closed : Motion license ⟨s,hands⟩ ⟨(s.evict r op.handle .registryClosed).2,hands⟩ := .close unowned op.handle
    rw [evict_state,withdraw_present row present] at closed
    dsimp only at closed
    rw [hangUp_state] at closed
    let t : State := { (s.putRegistry r (registry.erase op.handle)).note (.left r op .registryClosed) with
      channels := s.channels.modify op.channel (·.hangUp.1) }
    have state : (((s.putRegistry r registry.clear).note (.left r op .registryClosed)).hangUp op.channel).2 =
        t.putRegistry r (registry.erase op.handle).clear := by
      rw [hangUp_state,← putRegistry_erased s r registry op.handle]
      rfl
    have rowAfter : t.registry? r = some (registry.erase op.handle) := row_erased row op.handle
    have left : (registry.erase op.handle).pending.Perm rest := ((Registry.pending_apart present).symm.trans all).cons_inv
    refine .head closed ?_
    unfold hangUpAll
    split
    all_goals
      rename_i ran
      rw [ran] at state
      dsimp only at state
      rw [state]
    · exact ih unowned rowAfter left
    · exact leaveBehind_motions unowned rowAfter left

theorem endRegistry_motions {s : State} (unowned : s.owned r = false) (all : (s.pendingIn r).Perm order) :
    Motions license ⟨s,hands⟩ ⟨(s.endRegistry r order).2,hands⟩ := by
  unfold endRegistry
  cases row : s.registry? r with
  | none => exact .refl
  | some registry =>
    rw [pendingIn,row] at all
    exact hangUpAll_motions unowned row all

theorem release_motions (s : State) (r : Nat) : Motions license ⟨s,hands⟩ ⟨(s.release r).2,hands⟩ := by
  unfold release
  split
  · exact .refl
  · rename_i unowned
    exact endRegistry_motions (by simpa using unowned) (.refl _)

end State

theorem Motion.moves (motion : Motion license x y) : Moves license.driving x y := by
  cases motion with
  | noNewWaker move => exact move.moves
  | draw r => exact .single (.draw r)
  | register registered decoder => exact State.register_ok registered decoder
  | collide failed => exact State.register_error failed
  | insert _ b h keep => exact .single (.insert b h keep)
  | look x => exact .single (.look x _)
  | lookAt there => exact .single (.lookAt there _)

theorem Motions.moves (motions : Motions license x y) : Moves license.driving x y := by
  induction motions with
  | refl => exact .refl
  | tail _ motion ih => exact ih.trans motion.moves

theorem Motions.all (motions : Motions .all x y) : Moves true x y := motions.moves

end Session

end PendingCalls
