import PendingCalls.Proofs.DetailsOrigin

-- Waiting for a result only looks at it. Whoever waits long enough gets what became
-- of the operation, in whatever way he waits; whoever gives up leaves everything as
-- it is, and a delivery that comes later is counted as one that nobody waited for.

namespace PendingCalls.Session

def Poll.ended : Except Panic (Except CallError Datum) → Poll
  | .ok result => .ready result
  | .error p => .panicked p

namespace State

variable {s t : State}

-- Where promises come from. What a promise is at hand is the refusal of its call, and
-- one that waits has the limit of its bridge.
def configOf (s : State) (b : Nat) : Option Config := (s.bridge? b).map Bridge.config

theorem configOf_changeBridge (s : State) (b : Nat) (f : Bridge → Bridge) (keeps : ∀ bridge, (f bridge).config = bridge.config) :
    (s.changeBridge b f).configOf = s.configOf := by
  funext a
  simp only [configOf,bridge?,changeBridge,Table.get?_modify]
  split
  · cases s.bridges.get? a <;> simp [keeps]
  · rfl

theorem configOf_bridges (same : t.bridges = s.bridges) : t.configOf = s.configOf := by
  funext b
  rw [configOf,configOf,bridge?,bridge?,same]

theorem dispatch_configOf (s : State) (b : Nat) (d : Delivery) : (s.dispatch b d).2.configOf = s.configOf := by
  have counted (t : State) (f : Stats → Stats) : (t.changeStats b f).configOf = t.configOf :=
    configOf_changeBridge t b _ fun _ => rfl
  cases known : s.bridge? b with
  | none => rw [dispatch_unknown known]
  | some bridge =>
    rcases dispatch_cases known d with ⟨_,ran⟩ | ⟨_,_,_,_,_,⟨_,_,ran⟩ | ⟨_,ran⟩⟩
    · rw [ran]
      exact counted s _
    · rw [ran]
      exact counted _ _
    · rw [ran]
      exact (counted (changeStats _ _ _) _).trans (counted _ _)

end State

open State in
theorem Move.configOf (move : Move driving x y) : y.state.configOf = x.state.configOf := by
  have kept {s t : State} (entriesOnly : s.EntriesOnly t) : t.configOf = s.configOf := configOf_bridges (congrArg Prod.snd entriesOnly.turnAndBridges)
  cases move with
  | hold | unhold | unlist => exact configOf_changeBridge _ _ _ fun _ => rfl
  | close | evict => exact kept (.evict _ _ _ _)
  | leave => exact kept (.withdraw _ _ _ _)
  | draw => exact kept (.draw _ _)
  | enter _ entered | collide entered => exact kept (.enter entered)
  | insert => exact kept (.insertFresh _ _ _ _)
  | dispatch | serve => exact dispatch_configOf _ _ _
  | refuse | forget => exact kept (.forget _ _)
  | look => exact configOf_bridges (poll_turnAndBridges _ _ _).1
  | lookAt =>
    rw [pollSlot_state]
    exact configOf_bridges (poll_turnAndBridges _ _ _).1
  | receive => exact kept (.receive _ _)
  | _ => rfl

def Scene.held (x : Scene) : List Slot := x.hands ++ x.state.slots.full

-- What is held after a move was held before, or has just been promised or refused, or
-- was looked at.
inductive Scene.Brought (x : Scene) (z : Slot) : Prop where
  | kept (there : z ∈ x.held)
  | promised (known : x.state.bridge? z.bridge = some bridge) (same : z.promise = bridge.promise op decoder)
  | refused (h status details) (same : z.promise = .refused h status details)
  | looked (there : w ∈ x.held) (waker) (same : z = w.look x.state waker)

open State in
theorem Move.brought (move : Move driving x y) (there : z ∈ y.held) : x.Brought z := by
  have readsNothing {s t : State} {hands : List Slot} (same : t.slots = s.slots) (there : z ∈ hands ++ t.slots.full) :
      z ∈ hands ++ s.slots.full := same ▸ there
  cases move with
  | close | evict => exact .kept (readsNothing (ReadsNothing.evict _ _ _ _).slots there)
  | leave => exact .kept (readsNothing (EntriesOnly.withdraw _ _ _ _).slots there)
  | draw => exact .kept (readsNothing (EntriesOnly.draw _ _).slots there)
  | collide entered => exact .kept (readsNothing (EntriesOnly.enter entered).slots there)
  | insert => exact .kept (readsNothing (EntriesOnly.insertFresh _ _ _ _).slots there)
  | dispatch => exact .kept (readsNothing (ReadsNothing.dispatch _ _ _).slots there)
  | serve => exact .kept (readsNothing (ReadsNothing.dispatch (changeActor _ _ _) _ _).slots there)
  | receive => exact .kept (readsNothing (EntriesOnly.receive _ _).slots there)
  | forget => exact .kept (List.mem_cons_of_mem _ (readsNothing (EntriesOnly.forget _ _).slots there))
  | lose => exact .kept (List.mem_cons_of_mem _ there)
  | enter known entered =>
    rcases List.mem_cons.mp there with rfl | there
    · exact .promised known rfl
    · exact .kept (readsNothing (EntriesOnly.enter entered).slots there)
  | refuse =>
    rcases List.mem_cons.mp there with rfl | there
    · exact .refused _ _ _ rfl
    · exact .kept (List.mem_cons_of_mem _ (readsNothing (EntriesOnly.forget _ _).slots there))
  | keep x =>
    rw [Scene.held,Table.full_push,← List.append_assoc] at there
    exact .kept ((List.perm_append_singleton _ _).mem_iff.mp there)
  | take taken =>
    obtain ⟨rest,before,left,_⟩ := held_apart taken _
    rw [← left] at before
    exact .kept (before.mem_iff.mpr there)
  | look x waker =>
    rcases List.mem_cons.mp there with rfl | there
    · exact .looked List.mem_cons_self waker rfl
    · exact .kept (List.mem_cons_of_mem _ (readsNothing (slots_poll _ _ _) there))
  | @lookAt x v hands _ looked waker =>
    obtain ⟨rest,before,_,after⟩ := held_apart looked hands
    rw [pollSlot_state] at there
    rcases List.mem_cons.mp ((after _).mem_iff.mp there) with rfl | there
    · exact .looked (before.mem_iff.mpr List.mem_cons_self) waker rfl
    · exact .kept (before.mem_iff.mpr (List.mem_cons_of_mem _ there))
  | swap same => exact .kept ((same.append_right _).mem_iff.mpr there)
  | _ => exact .kept there

namespace State

variable {s t : State}

-- What is at hand is the refusal of a call. Whoever waits has the limit of the bridge.
structure OriginKnown (s : State) (x : Slot) : Prop where
  refused : ∀ result, x.promise.state = .ready (some result) → ∃ h status details, x.promise = .refused h status details
  limit : ∀ c decoder, x.promise.state = .waiting c decoder →
    (s.configOf x.bridge).map Config.defaultTimeout = some x.promise.timeout

theorem OriginKnown.look {x : Slot} (originKnown : s.OriginKnown x) (waker : Waker) : s.OriginKnown (x.look s waker) := by
  rcases poll_promise s x.promise waker with same | same | ⟨c,decoder,waits,same⟩
  · have still : x.look s waker = x := congrArg (Slot.mk x.bridge) same
    rw [still]
    exact originKnown
  · refine ⟨fun result ready => ?_,fun c decoder waits => ?_⟩
    · cases (congrArg Promise.state same).symm.trans ready
    · cases (congrArg Promise.state same).symm.trans waits
  · refine ⟨fun result ready => ?_,fun c' decoder' _ => ?_⟩
    · cases (congrArg Promise.state same).symm.trans ready
    · have limit : (x.look s waker).promise.timeout = x.promise.timeout := by simp only [Slot.look,same]
      rw [limit]
      exact originKnown.limit c decoder waits

end State

open State in
theorem Move.originKnown (move : Move driving x y) (originsKnown : ∀ z ∈ x.held, x.state.OriginKnown z) :
    ∀ z ∈ y.held, y.state.OriginKnown z := by
  intro z there
  suffices originKnown : x.state.OriginKnown z from ⟨originKnown.refused,move.configOf ▸ originKnown.limit⟩
  cases move.brought there with
  | kept there => exact originsKnown z there
  | promised known same =>
    refine ⟨fun result ready => ?_,fun c decoder waits => ?_⟩
    · cases (congrArg Promise.state same).symm.trans ready
    · rw [State.configOf,known,same]
      rfl
  | refused h status details same =>
    refine ⟨fun _ _ => ⟨h,status,details,same⟩,fun c decoder waits => ?_⟩
    cases (congrArg Promise.state same).symm.trans waits
  | looked there waker same => exact same ▸ (originsKnown _ there).look waker

theorem Motions.originKnown (reached : Motions .all ⟨.start attendance firsts plans,[]⟩ ⟨s,hands⟩)
    (there : x ∈ hands ++ s.slots.full) :
    s.OriginKnown x := by
  suffices held : ∀ y, Moves true ⟨.start attendance firsts plans,[]⟩ y → ∀ z ∈ y.held, y.state.OriginKnown z from held _ reached.all x there
  intro y moves
  induction moves with
  | refl =>
    intro z there
    have none : Scene.held ⟨.start attendance firsts plans,[]⟩ = [] := (State.start_blank attendance firsts plans).held
    rw [none] at there
    cases there
  | tail _ move ih => exact move.originKnown ih

namespace State

variable {s t : State}

-- Whoever waits for a promise, without a limit or with any, gets the same ending. It never is
-- that he gave up. Only what comes through a channel is put off when the turn is over, and a
-- thread that a call drives waits for nothing that has a limit.
structure Ends (s : State) (p : Promise) (ending : Except Panic (Except CallError Datum)) : Prop where
  awaited : ∀ turn, turn ≠ some 0 ∨ p.isResolved → (await { s with turn := turn } p).1 = ending.map some
  limited : ∀ turn after, turn ≠ some 0 ∨ p.isResolved → (withTimeout { s with turn := turn } p after).1 = ending
  waited : ∀ turn, turn ≠ some 0 ∨ p.isResolved → turn = none ∨ p.timeout = none →
    (wait { s with turn := turn } p).1 = ending.map some
  timely : ∀ h after, ending ≠ .ok (.error (.timedOut h after))

theorem await_ended (looks : (s.poll p .quiet).1 = .ended ending) : (s.await p).1 = ending.map some := by
  generalize polled : s.poll p .quiet = x at looks
  obtain ⟨_,_,_⟩ := x
  cases looks
  cases ending <;> simp only [await,polled] <;> rfl

theorem withTimeout_ended (looks : (s.poll p .quiet).1 = .ended ending) (after : Duration) :
    (s.withTimeout p after).1 = ending := by
  generalize polled : s.poll p .quiet = x at looks
  obtain ⟨_,_,_⟩ := x
  cases looks
  cases ending <;> simp only [withTimeout,polled]

theorem awaitAtMost_ended (looks : (s.poll p .quiet).1 = .ended ending) (limit : Option Duration) :
    (s.awaitAtMost p limit).1 = ending.map some := by
  cases limit with
  | none => exact await_ended looks
  | some after => exact congrArg (Except.map some) (withTimeout_ended looks after)

theorem ends_of_looks (looks : ∀ turn, turn ≠ some 0 ∨ p.isResolved → (poll { s with turn := turn } p .quiet).1 = .ended ending)
    (timely : ∀ h after, ending ≠ .ok (.error (.timedOut h after))) : s.Ends p ending := by
  refine ⟨fun turn going => await_ended (looks turn going),fun turn after going => withTimeout_ended (looks turn going) after,?_,timely⟩
  intro turn going free
  have runs : ((turn.isSome && p.timeout.isSome) : Bool) = false := by
    rcases free with rfl | unlimited
    · rfl
    · rw [unlimited,Bool.and_comm]
      rfl
  simp only [wait,driven,runs]
  exact awaitAtMost_ended (looks turn going) p.timeout

theorem Ends.atMost (ends : s.Ends p ending) (going : s.turn ≠ some 0) (limit : Option Duration) :
    (s.awaitAtMost p limit).1 = ending.map some := by
  cases limit with
  | none => exact ends.awaited s.turn (.inl going)
  | some after => exact congrArg (Except.map some) (ends.limited s.turn after (.inl going))

-- A thread that a call drives has no timer to wait with.
theorem wait_driven {turn : Option Nat} {p : Promise} (driven : turn.isSome) (limit : p.timeout.isSome) :
    (wait { s with turn := turn } p).1 = .error .nestedRuntime := by
  simp only [wait,State.driven,driven,limit,Bool.and_self,if_true]

-- Where the turn is over, whoever waits there without a limit waits for ever: he keeps the
-- next turn from coming.
theorem wait_exhausted {p : Promise} (waits : p.state = .waiting op.channel decoder) (shows : (s.books hands).Shows r op)
    (ledger : (s.books hands).EntriesValid) (entered : (r,op) ∈ (s.books hands).entries) (unlimited : p.timeout = none) :
    (wait { s with turn := some 0 } p).1 = .ok none := by
  have late : exhausted { s with turn := some 0 } = true := rfl
  simp only [wait,unlimited,Option.isSome_none,Bool.and_false,Bool.false_eq_true,if_false,awaitAtMost,await]
  rcases shows.row ledger entered with ⟨waker,row⟩ | ⟨why,_,_,row⟩
  · rw [poll_waiting (s := { s with turn := some 0 }) waits row,late]
    rfl
  · rw [poll_waiting (s := { s with turn := some 0 }) waits row,late]
    cases why <;> rfl

theorem refused_ends (s : State) (h : Handle) (status : Int32) (details : Option ErrorDetails) :
    s.Ends (.refused h status details) (.ok (.error (.rejected h (Status.lookup status) status details))) := by
  refine ends_of_looks (fun _ _ => rfl) ?_
  rintro _ _ ⟨⟩

-- What took an operation out says how it ends, unless it was left behind.
theorem verdict_ended {why : Departure} (settled : why ≠ .leftBehind) (h : Handle) (decoder : Decoder) :
    ∃ ending, why.verdict h decoder = .ended ending ∧ ∀ h' after, ending ≠ .ok (.error (.timedOut h' after)) := by
  cases why with
  | delivered b d =>
    by_cases success : d.code = Status.successRaw
    · simp only [Departure.verdict,if_pos success]
      cases decoder d.payload with
      | value v => exact ⟨.ok (.ok v),rfl,by rintro _ _ ⟨⟩⟩
      | failed e => exact ⟨.ok (.error (.undecodable h e)),rfl,by rintro _ _ ⟨⟩⟩
      | panicked text => exact ⟨.error (.raised text),rfl,by rintro _ _ ⟨⟩⟩
    · exact ⟨.ok (.error (.failed h (Status.lookup d.code) d.code d.details)),verdict_failed success,by rintro _ _ ⟨⟩⟩
  | leftBehind => exact absurd rfl settled
  | abandoned | rejected _ | unwound | registryClosed => exact ⟨.ok (.error (.abandoned h)),rfl,by rintro _ _ ⟨⟩⟩

theorem departed_ends (sound : (s.books hands).Sound) (there : x ∈ hands ++ s.slots.full)
    (waits : x.promise.state = .waiting c (some decoder)) (left : why ∈ s.departures r ⟨x.promise.handle,c⟩) (settled : why ≠ .leftBehind) :
    ∃ ending, why.verdict x.promise.handle decoder = .ended ending ∧ s.Ends x.promise ending := by
  obtain ⟨ending,ended,timely⟩ := verdict_ended settled x.promise.handle decoder
  refine ⟨ending,ended,ends_of_looks (fun turn going => ?_) timely⟩
  have going : turn ≠ some 0 := by
    refine going.resolve_right ?_
    rw [Promise.isResolved,waits]
    rintro ⟨⟩
  have look := poll_departed (s := { s with turn := turn }) sound there waits left .quiet
  rw [look,ended,exhausted]
  simp only [decide_eq_false going,Bool.false_eq_true,if_false]

-- Somebody stops to wait. Nothing happens but that his end of the channel is gone.
def givenUp (s : State) (h : Handle) (c : Nat) (after : Duration) : State := (s.note (.timedOut h after)).desert c

theorem withTimeout_open {p : Promise} (waits : p.state = .waiting c (some decoder)) (row : s.channel? c = some (.waiting before))
    (after : Duration) :
    s.withTimeout p after = (.ok (.error (.timedOut p.handle after)),s.givenUp p.handle c after) := by
  have rewoken (channel : Channel) : (s.channels.set c channel).modify c Channel.desert = s.channels.modify c Channel.desert := by
    have put : (s.channels.set c channel).get? c = some channel := by
      rw [Table.get?_set,if_pos rfl,show s.channels.get? c = _ from row]
      rfl
    rw [Table.modify_eq_set put,Table.modify_eq_set row,Table.set_set]
    rfl
  unfold withTimeout
  rw [poll_waiting waits row]
  cases s.exhausted with
  | true =>
    dsimp only [Poll.turnedAway,wake]
    simp only [forget,waits]
    rfl
  | false =>
    dsimp only
    simp only [forget,waits,givenUp,desert,note,putChannel,rewoken]

theorem wait_open {p : Promise} (waits : p.state = .waiting c (some decoder)) (row : s.channel? c = some (.waiting before))
    (free : s.turn = none) (limit : p.timeout = some after) :
    s.wait p = (.ok (some (.error (.timedOut p.handle after))),s.givenUp p.handle c after) := by
  have undriven : s.driven = false := by
    rw [driven,free]
    rfl
  simp only [wait,undriven,Bool.false_and,Bool.false_eq_true,if_false,limit,awaitAtMost,withTimeout_open waits row]
  rfl

-- What everybody else sees of it: nothing.
theorem givenUp_apart (sound : (s.books hands).Sound) (there : (s.books hands).held.Perm (x :: rest)) (waits : x.channel? = some c)
    (h : Handle) (after : Duration) (other : y ∈ rest) (waker : Waker) :
    ((s.givenUp h c after).poll y.promise waker).1 = (s.poll y.promise waker).1 := by
  refine (poll_alike (s := s) (t := s.givenUp h c after) (fun c' decoder waiting => ?_) rfl waker).1
  have apart := sound.receipts.apart there waits other (Slot.channel_waiting waiting)
  exact (Table.get?_modify _ _ _ _).trans (if_neg apart.symm)

end State

-- A channel that nobody receives from any more stays so.
theorem Change.deserted {k l : Books} (change : Change scope k l) (row : k.channels.get? c = some .deserted) :
    l.channels.get? c = some .deserted := by
  have modified (i : Nat) (f : Channel → Channel) (keeps : f .deserted = .deserted) :
      (k.channels.modify i f).get? c = some .deserted := by
    rw [Table.get?_modify]
    split
    · rw [row,Option.map_some,keeps]
    · exact row
  have put {i : Nat} {before : Channel} (full : k.channels.get? i = some before) (alive : before ≠ .deserted) (channel : Channel) :
      (k.channels.set i channel).get? c = some .deserted := by
    rw [Table.get?_set,if_neg]
    · exact row
    · rintro rfl
      exact alive (Option.some.inj (full.symm.trans row))
  have pushed (channel : Channel) : (k.channels.push channel).get? c = some .deserted :=
    (Table.get?_push_old (Table.lt_size_of_get? row) channel).trans row
  cases change with
  | enter | stillborn | stillbornKept => exact pushed _
  | evict | close | leave => exact modified _ _ rfl
  | resolve => exact modified _ (fun channel => (channel.send _).1) rfl
  | desert | tryReceive => exact modified _ _ rfl
  | rewake _ _ before => exact put before (by rintro ⟨⟩) _
  | receive _ _ before => exact put before (by rintro ⟨⟩) _
  | _ => exact row

theorem Changes.deserted {k l : Books} (changes : Changes scope k l) (row : k.channels.get? c = some .deserted) :
    l.channels.get? c = some .deserted := by
  induction changes with
  | refl => exact row
  | tail _ change ih => exact change.deserted ih

namespace State

variable {s t : State}

def countCallerGone (st : Stats) : Stats := { st with callerGone := st.callerGone + 1 }

-- A delivery takes an operation out that nobody waits for.
def unheard (s : State) (r : Nat) (op : Operation) (b : Nat) (d : Delivery) : State :=
  { s.changeStats b countCallerGone with
    registries := s.registries.modify r (·.erase op.handle)
    journal := .callerGone b op.handle :: .left r op (.delivered b d) :: s.journal }

theorem dispatch_unheard (ledger : (s.books hands).EntriesValid) (desk : s.registryOf b = some r) (present : op ∈ s.pendingIn r)
    (same : op.handle = d.handle) (row : s.channel? op.channel = some .deserted) :
    s.dispatch b d = (.ok .callerGone,s.unheard r op b d) := by
  obtain ⟨bridge,known,rfl⟩ := Option.map_eq_some_iff.mp desk
  rcases dispatch_cases known d with ⟨missing,_⟩ | ⟨registry,other,there,pending,handle,reached⟩
  · exact absurd same (missing op present)
  · rw [← pendingIn_row there] at pending
    cases ledger.same_handle present pending (same.trans handle.symm)
    rcases reached with ⟨_,waits,_⟩ | ⟨_,ran⟩
    · cases row.symm.trans waits
    · rw [ran,← same]
      have still : s.channels.modify op.channel (fun channel => (channel.send d.outcome).1) = s.channels := by
        rw [Table.modify_eq_set row]
        exact Table.set_same row
      have erased : s.registries.modify bridge.registry (·.erase op.handle) = s.registries.set bridge.registry (registry.erase op.handle) :=
        Table.modify_eq_set there _
      have counted : (s.bridges.modify b (fun bridge => { bridge with stats := countResolved bridge.stats })).modify b
          (fun bridge => { bridge with stats := recountCallerGone bridge.stats }) =
          s.bridges.modify b (fun bridge => { bridge with stats := countCallerGone bridge.stats }) := by
        rw [Table.modify_modify]
        rfl
      simp only [depart,changeStats,changeBridge,putRegistry,note,unheard,still,erased,counted]

-- Nobody waits for an operation any more. Whenever its first delivery comes, if nothing
-- else took it out before, it takes it out and counts as one that nobody waited for.
def Unawaited (s : State) (hands : List Slot) (r : Nat) (op : Operation) : Prop :=
  ∀ t others, Motions .all ⟨s,hands⟩ ⟨t,others⟩ → t.departures r op = [] → ∀ b d, t.registryOf b = some r → op.handle = d.handle →
    t.dispatch b d = (.ok .callerGone,t.unheard r op b d) ∧ op ∉ (t.unheard r op b d).pendingIn r ∧
    (t.unheard r op b d).departures r op = [.delivered b d] ∧
    (t.unheard r op b d).statsOf = Function.update t.statsOf b { t.statsOf b with callerGone := (t.statsOf b).callerGone + 1 }

theorem unawaited (sound : (s.books hands).Sound) (entered : (r,op) ∈ (s.books hands).entries)
    (row : s.channel? op.channel = some .deserted) : s.Unawaited hands r op := by
  intro t others later stayed b d desk same
  have changes : Changes _ (s.books hands) (t.books others) := later.all.changes
  have sound := changes.sound sound
  obtain ⟨_,newer,entries,_⟩ := changes.newer
  have there : (r,op) ∈ (t.books others).entries := entries ▸ List.mem_append_right _ entered
  have present : op ∈ t.pendingIn r := (sound.ledger.departures_nil there).mp ((departures_books t others r op).symm.trans stayed)
  have ran := dispatch_unheard sound.ledger desk present same (changes.deserted row)
  have left := dispatch_departures sound.ledger b d r op
  rw [if_pos ⟨present,desk,same⟩,stayed,ran] at left
  obtain ⟨bridge,known,_⟩ := Option.map_eq_some_iff.mp desk
  refine ⟨ran,?_,left,statsOf_changeStats known countCallerGone⟩
  rw [pendingIn_erased (h := op.handle) rfl,if_pos rfl,List.mem_filter]
  rintro ⟨_,handles⟩
  simp at handles

-- The books of whoever else is there are not touched.
structure Keeps (s t : State) (others : List Slot) : Prop where
  registries : t.registries = s.registries
  bridges : t.bridges = s.bridges
  slots : t.slots = s.slots
  departures : ∀ r op, t.departures r op = s.departures r op
  looks : ∀ y ∈ others, ∀ waker, (t.poll y.promise waker).1 = (s.poll y.promise waker).1

-- Nothing comes for a promise. Whoever waits for it with a limit learns that he gave up
-- after as long, and so does whoever waits as long as the bridge of the promise would.
-- Nobody else learns of it, and a delivery that comes later finds nobody.
structure TimesOut (s : State) (x : Slot) (c r : Nat) (hands : List Slot) : Prop where
  limited : ∀ turn after, withTimeout { s with turn := turn } x.promise after =
    (.ok (.error (.timedOut x.promise.handle after)),givenUp { s with turn := turn } x.promise.handle c after)
  waited : ∀ after, (s.configOf x.bridge).map Config.defaultTimeout = some (some after) →
    wait { s with turn := none } x.promise =
      (.ok (some (.error (.timedOut x.promise.handle after))),givenUp { s with turn := none } x.promise.handle c after)
  kept : ∀ turn after, Keeps { s with turn := turn } (givenUp { s with turn := turn } x.promise.handle c after)
    (hands ++ s.slots.full)
  late : ∀ turn after, (givenUp { s with turn := turn } x.promise.handle c after).Unawaited hands r ⟨x.promise.handle,c⟩
  dropped : (s.forget x.promise).Unawaited hands r ⟨x.promise.handle,c⟩

end State

theorem Motions.timesOut (reached : Motions .all ⟨.start attendance firsts plans,[]⟩ ⟨s,x :: hands⟩)
    (waits : x.promise.state = .waiting c (some decoder)) (entered : (r,⟨x.promise.handle,c⟩) ∈ (s.books hands).entries)
    (row : s.channel? c = some (.waiting before)) : s.TimesOut x c r hands := by
  have sound := Motions.sound reached
  have limit := (Motions.originKnown reached List.mem_cons_self).limit c (some decoder) waits
  have gone (u : State) (channels : u.channels = s.channels) : (u.desert c).channel? c = some .deserted := by
    rw [State.channel?,State.desert,Table.get?_modify,if_pos rfl,channels,show s.channels.get? c = _ from row]
    rfl
  have turned (turn after) :
      Motions .all ⟨s,x :: hands⟩ ⟨State.givenUp { s with turn := turn } x.promise.handle c after,hands⟩ := by
    refine .head (.turn rfl turn) (.head (.note (e := .timedOut x.promise.handle after) rfl) ?_)
    have forgotten : Motions .all ⟨_,x :: hands⟩ ⟨_,hands⟩ :=
      (Motion.forget (s := State.note { s with turn := turn } (.timedOut x.promise.handle after)) x).motions
    simp only [State.forget,waits] at forgotten
    exact forgotten
  have dropped : Motions .all ⟨s,x :: hands⟩ ⟨s.forget x.promise,hands⟩ := (Motion.forget x).motions
  refine ⟨fun turn after => ?_,fun after given => ?_,fun turn after => ⟨rfl,rfl,rfl,fun _ _ => rfl,fun y there waker => ?_⟩,
    fun turn after => ?_,?_⟩
  · exact State.withTimeout_open (s := { s with turn := turn }) waits row after
  · exact State.wait_open (s := { s with turn := none }) waits row rfl (Option.some.inj (limit.symm.trans given))
  · exact State.givenUp_apart (s := { s with turn := turn }) sound (.refl _) (Slot.channel_waiting waits) _ after there waker
  · exact State.unawaited (Motions.sound (reached.trans (turned turn after))) entered (gone _ rfl)
  · have sound := Motions.sound (reached.trans dropped)
    simp only [State.forget,waits] at sound ⊢
    exact State.unawaited sound entered (gone _ rfl)

namespace State

variable {s t : State}

theorem turn_same {turn : Option Nat} (still : s.turn = turn) : { s with turn := turn } = s := by rw [← still]

theorem settle_turn (s : State) (bridge : Bridge) (op : Operation) (decoder : Decoder) (ending : Except Panic Int32) :
    (s.settle bridge op decoder ending).2.turn = s.turn := by
  have evicted (t : State) (r : Nat) (h : Handle) (why : Departure) : (t.evict r h why).2.turn = t.turn :=
    congrArg Prod.fst (EntriesOnly.evict t r h why).turnAndBridges
  exact (Composable.same State.turn).settle evicted (fun _ _ => rfl) (fun _ _ _ => rfl) s bridge op decoder ending

-- The turn of a call is over when its native side has returned.
theorem submit_turn (native : Handle → State → NativeRun α) (promised : (s.submit b (inTurn native) decoder).outcome = .ok p) :
    (s.submit b (inTurn native) decoder).state.turn = none := by
  unfold submit at promised ⊢
  generalize s.register b = registered at promised ⊢
  obtain ⟨_ | ⟨bridge,op⟩,u⟩ := registered
  · cases promised
  · exact settle_turn _ _ _ _ _

-- A call that is over changes nothing else while somebody owns the registry.
theorem endCall_owned (home : s.registryOf b = some r) (owned : (s.unhold b).owned r) (result : Result)
    (extra : Option (List Answer)) :
    s.endCall b result extra = (s.unhold b).answer result (extra.bind (fun answers => if answers.isEmpty then none else some answers)) := by
  obtain ⟨bridge,row,rfl⟩ := Option.map_eq_some_iff.mp home
  simp only [endCall,finish,letGo,row,release_owned owned]

end State

-- In every state of every session, of a promise that was not taken. If its call was refused
-- or its operation has left, everybody who waits for it, however he does, gets the same and
-- never gives up. While its operation is pending, or where it was left behind, whoever waits
-- with a limit gives up after it and changes nothing, and the first delivery after that, or
-- after the promise was dropped, finds nobody. A call waits in the same way, as long as its
-- bridge would. There is no such waiting on a thread that a call drives: with a limit it
-- panics, and without one it lasts for ever in a turn that is over.
theorem waiting_never_cancels (reached : Motions .all ⟨.start attendance firsts plans,[]⟩ ⟨s,hands⟩) :
    (∀ x rest, hands = x :: rest →
      (∀ result, x.promise.state = .ready (some result) → ∃ h status details, x.promise = .refused h status details ∧
        s.Ends x.promise (.ok (.error (.rejected h (Status.lookup status) status details)))) ∧
      (∀ turn, turn.isSome → x.promise.timeout.isSome → (State.wait { s with turn := turn } x.promise).1 = .error .nestedRuntime) ∧
      ∀ c decoder, x.promise.state = .waiting c (some decoder) →
        (x.promise.timeout = none → (State.wait { s with turn := some 0 } x.promise).1 = .ok none) ∧
        ∃ r, s.registryOf x.bridge = some r ∧
          (s.departures r ⟨x.promise.handle,c⟩ = [] ↔ ⟨x.promise.handle,c⟩ ∈ s.pendingIn r) ∧
          (∀ why ∈ s.departures r ⟨x.promise.handle,c⟩, why ≠ .leftBehind → ∃ ending,
            why.verdict x.promise.handle decoder = .ended ending ∧ s.Ends x.promise ending) ∧
          (⟨x.promise.handle,c⟩ ∈ s.pendingIn r ∨ .leftBehind ∈ s.departures r ⟨x.promise.handle,c⟩ → s.TimesOut x c r rest)) ∧
    ∀ own b bridge decoder ending during sub p, s.listed? b = some bridge → s.driven = false →
      (s.hold b).submit b (State.inTurn fun h t => State.scripted ending (runSteps h t during)) decoder = sub →
        sub.outcome = .ok p →
          Motions .all ⟨.start attendance firsts plans,[]⟩ ⟨sub.state,⟨b,p⟩ :: hands⟩ ∧
          (∀ result, sub.state.Ends p result →
            ∃ t : State, Step.run own s (.call b decoder ending during) = t.endCall b (.ofWait (result.map some)) sub.extra) ∧
          ∀ c r after, sub.state.TimesOut ⟨b,p⟩ c r hands → bridge.config.defaultTimeout = some after →
            Step.run own s (.call b decoder ending during) =
              (sub.state.givenUp p.handle c after).endCall b (.settled (.error (.timedOut p.handle after))) sub.extra ∧
            ∀ t, (sub.state.givenUp p.handle c after).unhold b = t → t.owned bridge.registry →
              (Step.run own s (.call b decoder ending during)).2 = { t with reported := t.journal.length } := by
  constructor
  · rintro x rest rfl
    have sound := Motions.sound reached
    constructor
    · intro result ready
      obtain ⟨h,status,details,same⟩ := (Motions.originKnown reached List.mem_cons_self).refused result ready
      exact ⟨h,status,details,same,same ▸ State.refused_ends s h status details⟩
    · refine ⟨fun turn driven limit => State.wait_driven driven limit,fun c decoder waits => ?_⟩
      obtain ⟨r,desk,entered,shows⟩ := sound.receipts.backed x List.mem_cons_self c decoder waits
      have nil := sound.ledger.departures_nil entered
      have left (why) : why ∈ s.departures r ⟨x.promise.handle,c⟩ → (r,⟨x.promise.handle,c⟩,why) ∈ (s.books (x :: rest)).exits := by
        rw [State.departures_books s (x :: rest)]
        exact Books.mem_departures.mp
      rw [← State.departures_books] at nil
      refine ⟨fun unlimited => ?_,r,desk,nil,fun why gone => State.departed_ends sound List.mem_cons_self waits gone,fun unsettled => ?_⟩
      · exact State.wait_exhausted waits shows sound.ledger entered unlimited
      · obtain ⟨before,row⟩ := shows.waits (unsettled.imp_right (left _))
        exact reached.timesOut waits entered row
  · intro own b bridge decoder ending during sub p listed free submitted promised
    have turn : sub.state.turn = none := by
      rw [← submitted] at promised ⊢
      exact State.submit_turn _ promised
    have ran := State.callScript_waits listed free submitted promised
    have held : Motions .all ⟨s,hands⟩ ⟨s.hold b,hands⟩ := (Motion.hold listed).motions
    have came : Motions .all ⟨s.hold b,hands⟩ ⟨sub.state,⟨b,p⟩ :: hands⟩ := by
      have runs (h : Handle) (t : State) (hands : List Slot) :
          Motions .all ⟨t,hands⟩ ⟨(State.scripted ending (runSteps h t during)).state,hands⟩ := by
        rw [State.scripted_state]
        exact runSteps_motions during h t hands (driven_true during).licensed
      have given : Motions .all ⟨s.hold b,hands⟩ ⟨_,_⟩ :=
        State.submit_motions _ (State.inTurn_motions rfl _ runs) (s.hold b) b decoder
      rw [submitted,promised] at given
      exact given
    refine ⟨(reached.trans held).trans came,fun result ends => ?_,fun c r after timesOut given => ?_⟩
    · have ended := ends.atMost (by rw [turn]; rintro ⟨⟩) bridge.config.defaultTimeout
      rw [ended] at ran
      exact ⟨_,ran⟩
    · have waited := timesOut.limited none after
      rw [State.turn_same turn] at waited
      simp only [given,State.awaitAtMost,waited] at ran
      have run : Step.run own s (.call b decoder ending during) = (sub.state.givenUp p.handle c after).endCall b
          (.settled (.error (.timedOut p.handle after))) sub.extra := ran
      refine ⟨run,?_⟩
      rintro _ rfl owned
      have home : (sub.state.givenUp p.handle c after).registryOf b = some bridge.registry :=
        (Motions.all (held.trans came)).home (State.registryOf_bridge (Option.filter_eq_some_iff.mp listed).1)
      rw [run,State.endCall_owned home owned]
      rfl

-- Somebody asks, looks once and goes away; then the answer comes.
def asking : List Step := [.submit 0 .int (.ok 0) []]

def asked : State := (run (.start .prompt [] [⟨⟨1,some 50⟩,none,none⟩]) asking).2.clearSlot 0

def answer : Promise := ⟨⟨1⟩,some ⟨50000000⟩,.waiting 0 (some .int)⟩

theorem gone_too_soon :
    ∃ t, asked.withTimeout answer ⟨0⟩ = (.ok (.error (.timedOut ⟨1⟩ ⟨0⟩)),t) ∧ t.pendingIn 0 = [⟨⟨1⟩,0⟩] ∧
      (t.dispatch 0 ⟨⟨1⟩,0,[.i32 7],none⟩).1 = .ok .callerGone ∧
      (t.dispatch 0 ⟨⟨1⟩,0,[.i32 7],none⟩).2.statsOf 0 = ⟨0,0,1⟩ := by
  let start := State.start .prompt [] [⟨⟨1,some 50⟩,none,none⟩]
  have there : (run start asking).2.slot? 0 = some ⟨0,answer⟩ := by
    have row : (run start asking).2.slots.get? 0 = some (some ⟨0,answer⟩) := by cbv
    exact congrArg Option.join row
  have ran : Motions .all ⟨start,[]⟩ ⟨(run start asking).2,[]⟩ := runSteps_motions asking ⟨0⟩ start [] (driven_true asking).licensed
  have reached : Motions .all ⟨start,[]⟩ ⟨asked,[⟨0,answer⟩]⟩ := ran.tail (.take there)
  have home : asked.registryOf 0 = some 0 := by cbv
  have pending : asked.pendingIn 0 = [⟨⟨1⟩,0⟩] := by cbv
  have stats : asked.statsOf 0 = .none := by cbv
  have still : asked.turn = none := by cbv
  obtain ⟨waiting,_⟩ := waiting_never_cancels reached
  obtain ⟨_,r,desk,_,_,timesOut⟩ := (waiting ⟨0,answer⟩ [] rfl).2.2 0 .int rfl
  cases home.symm.trans desk
  have timesOut := timesOut (.inl (by rw [pending]; exact List.mem_singleton_self _))
  have limited := timesOut.limited none ⟨0⟩
  have late := timesOut.late none ⟨0⟩ _ _ .refl
  rw [State.turn_same still] at limited late
  obtain ⟨unheard,_,_,counted⟩ := late (by cbv) 0 ⟨⟨1⟩,0,[.i32 7],none⟩ home rfl
  refine ⟨_,limited,pending,by rw [unheard],?_⟩
  rw [unheard,counted,Function.update_self]
  exact congrArg State.countCallerGone stats

-- A call is answered at once, and inside of another one somebody waits for its result.
def answeringOnce : Step := .submit 0 .int (.ok 0) [.act (.dispatch 0 .own ⟨0,[.i32 7],none⟩)]

def waitingInside : List Step := [answeringOnce,.call 0 .int (.ok 5) [.act (.wait 0)]]

def onceAnswered : State := (answeringOnce.run ⟨0⟩ (.start .prompt [] [⟨⟨1,some 50⟩,none,none⟩])).2

-- Of one result nothing comes although its operation has left its registry. The other one is
-- there, and nobody can wait for it there.
theorem waited_in_vain :
    (∃ s, Visited .prompt [] [⟨.standard,none,none⟩] cutShort s ∧ s.departures 0 ⟨⟨1⟩,0⟩ = [.leftBehind] ∧
      (s.withTimeout ⟨⟨1⟩,none,.waiting 0 (some .int)⟩ ⟨0⟩).1 = .ok (.error (.timedOut ⟨1⟩ ⟨0⟩))) ∧
    ∃ s, Visited .prompt [] [⟨⟨1,some 50⟩,none,none⟩] waitingInside s ∧ s.slot? 0 = some ⟨0,answer⟩ ∧
      s.departures 0 ⟨⟨1⟩,0⟩ = [.delivered 0 ⟨⟨1⟩,0,[.i32 7],none⟩] ∧ (s.wait answer).1 = .error .nestedRuntime := by
  have outcome : ((onceAnswered.hold 0).register 0).1 = .ok (⟨⟨1,some 50⟩,0,none,⟨1,0,0⟩,true,1⟩,⟨⟨2⟩,1⟩) := by cbv
  have registered : (onceAnswered.hold 0).register 0 = (.ok (⟨⟨1,some 50⟩,0,none,⟨1,0,0⟩,true,1⟩,⟨⟨2⟩,1⟩),((onceAnswered.hold 0).register 0).2) :=
    Prod.ext outcome rfl
  have listed : (onceAnswered.listed? 0).isSome := by decide +kernel
  have free : onceAnswered.driven = false := by decide +kernel
  have inside : Visited .prompt [] [⟨⟨1,some 50⟩,none,none⟩] waitingInside _ := .later (.calling 0 _ _ .int listed free registered .here)
  have path : Visited .prompt [] [⟨.standard,none,none⟩] cutShort _ := Visited.end _ _ _ _
  rw [run_cutShort] at path
  have row : (((onceAnswered.hold 0).register 0).2.slots.get? 0) = some (some ⟨0,answer⟩) := by cbv
  have left : ((onceAnswered.hold 0).register 0).2.departures 0 ⟨⟨1⟩,0⟩ = [.delivered 0 ⟨⟨1⟩,0,[.i32 7],none⟩] := by cbv
  refine ⟨⟨cut,path,?_,?_⟩,_,inside,congrArg Option.join row,left,State.wait_driven rfl rfl⟩
  all_goals cbv

end PendingCalls.Session
