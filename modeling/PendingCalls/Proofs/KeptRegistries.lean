import PendingCalls.Proofs.RegistryChannels
import PendingCalls.Proofs.DetailsOrigin

-- Whatever is done with the bridges, the actors and the promises of one registry keeps
-- every other registry, on every path: where it succeeds, is refused or panics.

namespace PendingCalls.Session

theorem Motions.registryOf (motions : Motions license ⟨s,hands⟩ ⟨t,others⟩) : t.registryOf = s.registryOf :=
  motions.moves.changes.registryOf

namespace State

variable {s t u : State}

-- The bridge that an actor serves.
def serving (s : State) (a : Nat) : Option Nat := (s.actor? a).map Actor.bridge

-- The registry of the bridge that an actor serves.
def actorRegistry (s : State) (a : Nat) : Option Nat := (s.serving a).bind s.registryOf

-- The registry that callbacks go to.
def destination (s : State) : Option Nat :=
  match s.binding with
  | some ⟨.direct b,_⟩ => s.registryOf b
  | some ⟨.actor a,_⟩ => s.actorRegistry a
  | none => none

theorem serving_changeActor (s : State) (x : Nat) (f : Actor → Actor) (same : ∀ actor, (f actor).bridge = actor.bridge) :
    (s.changeActor x f).serving = s.serving := by
  funext a
  simp only [serving,actor?,changeActor,Table.get?_modify]
  split
  · cases s.actors.get? a with
    | none => rfl
    | some actor => exact congrArg some (same actor)
  · rfl

theorem serving_routing (routing : t.routing = s.routing) : t.serving = s.serving := by
  funext a
  rw [serving,serving,actor?_routing routing]

theorem serving_service : ComposableActor fun s t => t.serving = s.serving where
  refl _ := rfl
  trans first second := second.trans first
  release s r := serving_routing (release_routing s r)
  dispatch s b d := serving_routing (dispatch_routing s b d)
  stopped s a := serving_changeActor s a _ fun _ => rfl
  next s a _ _ _ := serving_changeActor s a _ fun _ => rfl
  requesterGone _ := rfl

theorem serving_post (s : State) (a : Nat) (m : Message) : (s.post a m).2.serving = s.serving :=
  serving_service.post serving_service.attend fun _ _ => serving_changeActor s a _ fun _ => rfl

theorem actorRegistry_kept (serving : t.serving = s.serving) (registryOf : t.registryOf = s.registryOf) : t.actorRegistry = s.actorRegistry := by
  funext a
  rw [actorRegistry,actorRegistry,serving,registryOf]

theorem destination_kept (binding : t.binding = s.binding) (serving : t.serving = s.serving)
    (registryOf : t.registryOf = s.registryOf) : t.destination = s.destination := by
  rw [destination,destination,binding,registryOf,actorRegistry_kept serving registryOf]

theorem destination_routing (routing : t.routing = s.routing) (registryOf : t.registryOf = s.registryOf) :
    t.destination = s.destination :=
  destination_kept (congrArg Routing.binding routing) (serving_routing routing) registryOf

theorem callBack_destination (s : State) (errors : ThreadErrors) (cb : Callback) :
    (s.callBack errors cb).destination = s.destination := by
  have motions : Motions .all ⟨s,[]⟩ ⟨s.callBack errors cb,[]⟩ := callBack_motions s errors cb
  refine destination_kept (TransitExtends.callBack s errors cb).binding ?_ motions.registryOf
  unfold callBack
  split
  · rfl
  · rename_i binding _
    have read : (s.callbackDetails binding.hook cb.code errors).2.serving = s.serving := serving_routing (callbackDetails_routing _ _ _ _)
    refine .trans ?_ read
    unfold deliver
    dsimp only
    split
    · split
      · exact serving_routing (dispatch_routing _ _ _)
      · rfl
    · rename_i a _
      have posted := serving_post (s.callbackDetails binding.hook cb.code errors).2 a
        (.deliver ⟨cb.handle,cb.code,cb.arguments.payload,(s.callbackDetails binding.hook cb.code errors).1⟩)
      split
      all_goals
        rename_i ran
        rw [ran] at posted
        exact posted

namespace KeepsRegistry

variable {r : Nat} {hands : List Slot}

theorem changeActor (s : State) (a : Nat) (f : Actor → Actor) : s.KeepsRegistry r (s.changeActor a f) := same rfl rfl rfl rfl rfl

theorem stopActor (valid : BooksValid s hands) (away : s.actorRegistry a ≠ some r) : s.KeepsRegistry r (s.stopActor a).2 := by
  have stopped : Motion .all ⟨s,hands⟩ ⟨s.changeActor a Actor.stopped,hands⟩ := .stop a
  have after := (stopped.motions.keep_valid valid).sound.ledger
  unfold State.stopActor
  cases present : s.actor? a with
  | none => exact refl r s
  | some actor =>
    dsimp only
    split
    · exact changeActor s a _
    · rename_i bridge known
      have home : s.actorRegistry a = some bridge.registry := by
        simp only [actorRegistry,serving,present,Option.map_some,Option.bind_some]
        exact registryOf_bridge known
      refine (changeActor s a _).trans (release after ?_)
      rintro rfl
      exact away home

theorem handleMessage (valid : BooksValid s hands) (away : s.registryOf b ≠ some r) (actorRegistry : s.actorRegistry a ≠ some r)
    (m : Message) :
    s.KeepsRegistry r (s.handleMessage a b m).2 := by
  cases m with
  | deliver d =>
    have dispatched := dispatch valid.sound.ledger away d
    have dispatching : Motion .all ⟨s,hands⟩ ⟨(s.dispatch b d).2,hands⟩ := .dispatch b d
    have after := dispatching.motions.keep_valid valid
    have still : (s.dispatch b d).2.actorRegistry = s.actorRegistry :=
      actorRegistry_kept (serving_routing (dispatch_routing _ _ _)) dispatched.registryOf
    simp only [State.handleMessage]
    split
    all_goals
      rename_i ran
      rw [ran] at dispatched after still
    · exact dispatched
    · exact dispatched.trans (stopActor after (still ▸ actorRegistry))
  | report awaited =>
    cases awaited with
    | true => exact refl r s
    | false => exact remark s rfl

theorem attend (valid : BooksValid s hands) (actorRegistry : s.actorRegistry a ≠ some r) : s.KeepsRegistry r (s.attend a).2 := by
  unfold State.attend
  split
  · rename_i b m rest _ _ present
    have taken : s.KeepsRegistry r (s.changeActor a (Actor.next m rest)) := changeActor s a _
    have away : s.registryOf b ≠ some r := by
      simpa only [State.actorRegistry,serving,present,Option.map_some,Option.bind_some] using actorRegistry
    have still : (s.changeActor a (Actor.next m rest)).actorRegistry = s.actorRegistry :=
      actorRegistry_kept (serving_changeActor s a _ fun _ => rfl) taken.registryOf
    have after : BooksValid (s.changeActor a (Actor.next m rest)) hands := ⟨valid.sound,valid.promisesEntered⟩
    exact taken.trans (handleMessage after away (still ▸ actorRegistry) m)
  · exact refl r s

theorem attendMany (valid : BooksValid s hands) (actorRegistry : s.actorRegistry a ≠ some r) (turns : Nat) :
    s.KeepsRegistry r (s.attendMany a turns).2 := by
  induction turns generalizing s with
  | zero => exact refl r s
  | succ turns ih =>
    have first := attend valid actorRegistry
    have attending : Motions .all ⟨s,hands⟩ ⟨(s.attend a).2,hands⟩ := attend_motions s a
    have still := actorRegistry_kept (serving_service.attend s a) first.registryOf
    exact first.trans (ih (attending.keep_valid valid) (still ▸ actorRegistry))

theorem post (valid : BooksValid s hands) (actorRegistry : s.actorRegistry a ≠ some r) (m : Message) : s.KeepsRegistry r (s.post a m).2 := by
  unfold State.post
  split
  · exact refl r s
  · rename_i actor present
    split
    · have accepted : s.KeepsRegistry r (s.changeActor a (Actor.accept m)) := changeActor s a _
      have still : (s.changeActor a (Actor.accept m)).actorRegistry = s.actorRegistry :=
        actorRegistry_kept (serving_changeActor s a _ fun _ => rfl) accepted.registryOf
      have after : BooksValid (s.changeActor a (Actor.accept m)) hands := ⟨valid.sound,valid.promisesEntered⟩
      dsimp only
      split
      · exact accepted.trans (attendMany after (still ▸ actorRegistry) _)
      · exact accepted
    · exact refl r s

theorem readDetails (s : State) (hook : Option Hook) (errors : ThreadErrors) : s.KeepsRegistry r (s.readDetails hook errors).2 := by
  rcases s.readDetails_state hook errors with same | ⟨e,noted⟩
  · rw [same]
    exact refl r s
  · rw [noted]
    exact remark s rfl

theorem callbackDetails (s : State) (hook : Option Hook) (code : Int32) (errors : ThreadErrors) :
    s.KeepsRegistry r (s.callbackDetails hook code errors).2 := by
  unfold State.callbackDetails
  split
  · exact refl r s
  · exact readDetails s hook errors

theorem callBack (valid : BooksValid s hands) (away : s.destination ≠ some r) (errors : ThreadErrors) (cb : Callback) :
    s.KeepsRegistry r (s.callBack errors cb) := by
  cases bound : s.binding with
  | none =>
    unfold State.callBack
    rw [bound]
    exact remark s rfl
  | some binding =>
    obtain ⟨route,hook⟩ := binding
    have reading : Motions .all ⟨s,hands⟩ ⟨(s.callbackDetails hook cb.code errors).2,hands⟩ := callbackDetails_motions _ _ _ _
    have after := reading.keep_valid valid
    have read := callbackDetails (r := r) s hook cb.code errors
    have routing := callbackDetails_routing s hook cb.code errors
    unfold State.callBack
    rw [bound]
    dsimp only
    generalize told : s.callbackDetails hook cb.code errors = found at after read routing ⊢
    obtain ⟨details,t⟩ := found
    refine read.trans ?_
    cases route with
    | direct b =>
      have home : t.registryOf b ≠ some r := read.away (by simpa only [destination,bound] using away)
      simp only [State.deliver]
      split
      · exact dispatch after.sound.ledger home _
      · exact same rfl rfl rfl rfl rfl
    | actor a =>
      have actorRegistry : t.actorRegistry a ≠ some r := by
        rw [actorRegistry_kept (serving_routing routing) read.registryOf]
        simpa only [destination,bound] using away
      have posted := post after actorRegistry (.deliver ⟨cb.handle,cb.code,cb.arguments.payload,details⟩)
      simp only [State.deliver]
      split
      all_goals
        rename_i ran
        rw [ran] at posted
      · exact posted
      · exact posted.trans (remark _ rfl)

end KeepsRegistry

-- Whatever a promise waits on after a look, it waited on before.
theorem ForeignPromise.poll (foreign : s.ForeignPromise r p) (waker : Waker) : s.ForeignPromise r (s.poll p waker).2.1 := by
  rcases poll_promise s p waker with same | same | ⟨c,decoder,waits,same⟩
  all_goals rw [same]
  · exact foreign
  · rintro _ _ ⟨⟩
  · rintro _ _ ⟨⟩
    exact foreign c decoder waits

namespace KeepsRegistry

variable {r : Nat} {hands : List Slot}

theorem withTimeout (foreign : s.ForeignPromise r p) (after : Duration) : s.KeepsRegistry r (s.withTimeout p after).2 := by
  have looked := poll foreign .quiet
  have still := looked.foreign (foreign.poll .quiet)
  unfold State.withTimeout
  split
  all_goals
    rename_i q t ran
    rw [ran] at looked still
  · exact looked.trans (forget still)
  · exact looked.trans (forget still)
  · have noted : t.KeepsRegistry r (t.note (.timedOut q.handle after)) := remark t rfl
    exact looked.trans (noted.trans (forget (noted.foreign still)))

theorem await (foreign : s.ForeignPromise r p) : s.KeepsRegistry r (s.await p).2 := by
  have looked := poll foreign .quiet
  have still := looked.foreign (foreign.poll .quiet)
  unfold State.await
  split
  all_goals
    rename_i ran
    rw [ran] at looked still
  · exact looked.trans (forget still)
  · exact looked.trans (forget still)
  · exact looked

theorem awaitAtMost (foreign : s.ForeignPromise r p) (limit : Option Duration) : s.KeepsRegistry r (s.awaitAtMost p limit).2 := by
  cases limit with
  | none => exact await foreign
  | some after => exact withTimeout foreign after

theorem wait (foreign : s.ForeignPromise r p) : s.KeepsRegistry r (s.wait p).2 := by
  unfold State.wait
  split
  · exact forget foreign
  · exact awaitAtMost foreign _

theorem forgetAll (ps : List Promise) (foreign : ∀ p ∈ ps, s.ForeignPromise r p) : s.KeepsRegistry r (ps.foldl State.forget s) := by
  induction ps generalizing s with
  | nil => exact refl r s
  | cons p rest ih =>
    have first := forget (foreign p List.mem_cons_self)
    exact first.trans (ih fun q there => first.foreign (foreign q (List.mem_cons_of_mem _ there)))

theorem awaitAll (ps : List Promise) (foreign : ∀ p ∈ ps, s.ForeignPromise r p) : s.KeepsRegistry r (awaitAll ps s).2 := by
  induction ps generalizing s with
  | nil => exact refl r s
  | cons p rest ih =>
    have waited := wait (foreign p List.mem_cons_self)
    have others (q) (there : q ∈ rest) : (s.wait p).2.ForeignPromise r q := waited.foreign (foreign q (List.mem_cons_of_mem _ there))
    simp only [State.awaitAll]
    split
    all_goals
      rename_i ran
      rw [ran] at waited others
    · exact waited.trans (forgetAll rest others)
    · exact waited.trans (ih others)
    · exact waited.trans (ih others)

theorem clearSlot (there : s.slot? i = some x) (away : s.registryOf x.bridge ≠ some r) : s.KeepsRegistry r (s.clearSlot i) :=
  setSlot there away none (by rintro _ ⟨⟩)

theorem pollSlot (there : s.slot? i = some x) (away : s.registryOf x.bridge ≠ some r) (foreign : s.ForeignPromise r x.promise)
    (waker : Waker) : s.KeepsRegistry r (s.pollSlot i x waker).2 := by
  have looked := poll foreign waker
  have still : (s.poll x.promise waker).2.2.slot? i = some x := by rwa [slot?,slots_poll]
  have put := setSlot still (looked.away away) (some (x.look s waker)) (by rintro _ ⟨⟩; rfl)
  rw [slots_poll] at put
  rw [pollSlot_state]
  exact looked.trans put

theorem waitSlot (there : s.slot? i = some x) (away : s.registryOf x.bridge ≠ some r) (foreign : s.ForeignPromise r x.promise) :
    s.KeepsRegistry r (s.waitSlot i x).2 := by
  have taken := clearSlot there away
  rw [waitSlot_state]
  split
  · exact refl r s
  · exact taken.trans (wait (taken.foreign foreign))

theorem limitSlot (there : s.slot? i = some x) (away : s.registryOf x.bridge ≠ some r) (foreign : s.ForeignPromise r x.promise)
    (after : Duration) : s.KeepsRegistry r (s.limitSlot i x after).2 := by
  have taken := clearSlot there away
  rw [limitSlot_state]
  split
  · exact taken.trans (forget (taken.foreign foreign))
  · exact taken.trans (withTimeout (taken.foreign foreign) after)

theorem insertFresh (valid : BooksValid s hands) (away : s.registryOf b ≠ some r) (h : Handle) (keep : Bool) :
    s.KeepsRegistry r (s.insertFresh b h keep).2 := by
  have fresh : s.ForeignChannel r s.channels.size := fun op there =>
    Nat.ne_of_lt (valid.sound.ledger.bounded r op (mem_entries.mpr there))
  have ledger : ((if keep then s.addReceiver s.channels.size else s).books hands).EntriesValid := by
    cases keep with
    | true => exact valid.sound.ledger.keep (Nat.le_refl _) rfl rfl rfl rfl
    | false => exact valid.sound.ledger
  have added : s.KeepsRegistry r (if keep then s.addReceiver s.channels.size else s) := by
    cases keep with
    | true => exact same rfl rfl rfl rfl rfl
    | false => exact refl r s
  unfold State.insertFresh
  dsimp only
  cases listed : (if keep then s.addReceiver s.channels.size else s).listed? b with
  | none => exact added.trans (push ledger .closed)
  | some bridge =>
    have home := registryOf_bridge (Option.filter_eq_some_iff.mp listed).1
    have other : bridge.registry ≠ r := by
      rintro rfl
      exact added.away away home
    have entered := added.trans (enter ledger other h)
    dsimp only
    split
    all_goals
      rename_i t ran
      rw [ran] at entered
      cases keep with
      | true => exact entered
      | false => exact entered.trans (desert (entered.apart fresh))

theorem unwind (ledger : (s.books hands).EntriesValid) (other : q ≠ r) (apart : s.ForeignChannel r op.channel) (p : Panic) :
    s.KeepsRegistry r (s.unwind q op p).2 := by
  have evicted := evict ledger other op.handle .unwound
  unfold State.unwind
  split
  all_goals
    rename_i ran
    rw [ran] at evicted
    exact evicted.trans (desert (evicted.apart apart))

theorem refusal (s : State) (bridge : Bridge) (apart : s.ForeignChannel r op.channel) (status : Int32) :
    s.KeepsRegistry r (s.refusal bridge op status).2 := by
  have noted : s.KeepsRegistry r ((s.readDetails bridge.hook s.ownErrors).2.note (.rejected op.handle status)) :=
    (readDetails s bridge.hook s.ownErrors).trans (remark _ rfl)
  exact noted.trans (desert (noted.apart apart))

theorem reject {bridge : Bridge} (ledger : (s.books hands).EntriesValid) (other : bridge.registry ≠ r)
    (apart : s.ForeignChannel r op.channel)
    (status : Int32) : s.KeepsRegistry r (s.reject bridge op status).2 := by
  have evicted := evict ledger other op.handle (.rejected status)
  unfold State.reject
  split
  · rename_i ran
    rw [ran] at evicted
    exact evicted.trans (desert (evicted.apart apart))
  · rename_i found t ran
    rw [ran] at evicted
    have noted : t.KeepsRegistry r (if found then t else t.note (.lateRejection op.handle status)) := by
      cases found with
      | true => exact refl r t
      | false => exact remark t rfl
    exact evicted.trans (noted.trans (refusal _ bridge ((evicted.trans noted).apart apart) status))

theorem settle {bridge : Bridge} (ledger : (s.books hands).EntriesValid) (other : bridge.registry ≠ r)
    (apart : s.ForeignChannel r op.channel)
    (decoder : Decoder) (ending : Except Panic Int32) : s.KeepsRegistry r (s.settle bridge op decoder ending).2 := by
  cases ending with
  | error p => exact unwind ledger other apart p
  | ok status =>
    simp only [State.settle]
    split
    · exact refl r s
    · exact reject ledger other apart status

theorem keep (away : s.registryOf b ≠ some r) (outcome : Except Panic Promise) : s.KeepsRegistry r (s.keep b outcome).2 := by
  cases outcome with
  | error p => exact refl r s
  | ok p => exact pushSlot away

theorem letGo (ledger : (s.books hands).EntriesValid) (away : s.registryOf b ≠ some r) : s.KeepsRegistry r (s.letGo b).2 := by
  unfold State.letGo
  cases known : s.bridge? b with
  | none => exact refl r s
  | some bridge =>
    have gone : s.KeepsRegistry r (s.unhold b) := changeBridge away _ fun _ => rfl
    have books : (s.unhold b).books hands = s.books hands := books_changeBridge s hands b _ fun _ => ⟨rfl,rfl⟩
    refine gone.trans (release (books.symm ▸ ledger) ?_)
    rintro rfl
    exact away (registryOf_bridge known)

theorem dropBridge (ledger : (s.books hands).EntriesValid) (away : s.registryOf b ≠ some r) : s.KeepsRegistry r (s.dropBridge b).2 := by
  unfold State.dropBridge
  cases known : s.bridge? b with
  | none => exact refl r s
  | some bridge =>
    have gone : s.KeepsRegistry r (s.unlist b) := changeBridge away _ fun _ => rfl
    have books : (s.unlist b).books hands = s.books hands := books_changeBridge s hands b _ fun _ => ⟨rfl,rfl⟩
    refine gone.trans (release (books.symm ▸ ledger) ?_)
    rintro rfl
    exact away (registryOf_bridge known)

theorem finish (ledger : (s.books hands).EntriesValid) (away : s.registryOf b ≠ some r) (result : Result) :
    s.KeepsRegistry r (s.finish b result).2 := by
  rw [finish_state]
  exact letGo ledger away

end KeepsRegistry

end State

end PendingCalls.Session
