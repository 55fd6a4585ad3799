import Mathlib.Logic.Function.Basic
import PendingCalls.Proofs.Runs

-- The books of a session: which operations came into which registry and how they
-- left it, what their channels hold, who holds the receivers, and the counters.
-- A move of the session is a few changes of its books, or none.

namespace PendingCalls

namespace Event

def entry? : Event → Option (Nat × Operation)
  | .entered r op => some (r,op)
  | _ => none

def exit? : Event → Option (Nat × Operation × Departure)
  | .left r op why => some (r,op,why)
  | _ => none

def stray? : Event → Option Nat
  | .orphan b _ _ => some b
  | _ => none

end Event

def Channel.accepts : Channel → Bool
  | .waiting _ => true
  | _ => false

namespace Session

def Slot.channel? (x : Slot) : Option Nat :=
  match x.promise.state with
  | .ready _ => none
  | .waiting c _ => some c

def Stats.deliver (reached : Bool) (st : Stats) : Stats :=
  if reached then { st with resolved := st.resolved + 1 } else { st with callerGone := st.callerGone + 1 }

structure Books where
  channels : Table Channel
  pending : Nat → List Operation
  entries : List (Nat × Operation)
  exits : List (Nat × Operation × Departure)
  strays : List Nat
  registryOf : Nat → Option Nat
  stats : Nat → Stats
  -- the promises that somebody holds, and the channels of the other receivers
  held : List Slot
  receivers : List Nat

namespace Books

def reaches (k : Books) (c : Nat) : Bool := (k.channels.get? c).any Channel.accepts

-- An operation leaves its registry, and its end of the channel is used up.
def leave (k : Books) (r : Nat) (op : Operation) (why : Departure) (last : Channel → Channel) : Books :=
  { k with
    channels := k.channels.modify op.channel last
    pending := Function.update k.pending r ((k.pending r).filter (·.handle ≠ op.handle))
    exits := (r,op,why) :: k.exits }

-- An operation enters a registry through a bridge, which gives a promise for it.
def enter (k : Books) (r b : Nat) (h : Handle) (timeout : Option Duration) (decoder : Decoder) : Books :=
  { k with
    channels := k.channels.push .fresh
    pending := Function.update k.pending r (⟨h,k.channels.size⟩ :: k.pending r)
    entries := (r,⟨h,k.channels.size⟩) :: k.entries
    held := ⟨b,⟨h,timeout,.waiting k.channels.size (some decoder)⟩⟩ :: k.held }

def count (k : Books) (b : Nat) (f : Stats → Stats) : Books :=
  { k with stats := Function.update k.stats b (f (k.stats b)) }

-- A callback takes an operation out through a bridge: it has the outcome if its
-- receiver is there.
def resolve (k : Books) (b r : Nat) (op : Operation) (d : Delivery) : Books :=
  (k.leave r op (.delivered b d) (fun channel => (channel.send d.outcome).1)).count b
    (Stats.deliver (k.reaches op.channel))

def orphan (k : Books) (b : Nat) : Books := { k.count b State.countOrphan with strays := b :: k.strays }

theorem count_count (k : Books) (b : Nat) (f g : Stats → Stats) :
    (k.count b f).count b g = k.count b (g ∘ f) := by
  simp [count]

end Books

-- What may happen: the end of a registry, and callbacks.
structure Scope where
  closing : Bool
  delivering : Bool

inductive Change (scope : Scope) : Books → Books → Prop where
  | enter (known : k.registryOf b = some r) (free : ∀ op ∈ k.pending r, op.handle ≠ h) (timeout decoder) :
      Change scope k (k.enter r b h timeout decoder)
  -- an operation that could not enter is lost
  | stillborn (lost : channel = .closed ∨ channel = .deserted) :
      Change scope k { k with channels := k.channels.push channel }
  | stillbornKept :
      Change scope k { k with channels := k.channels.push .closed, receivers := k.receivers ++ [k.channels.size] }
  | evict (present : op ∈ k.pending r) (cleanup : why.cleanup) : Change scope k (k.leave r op why (·.hangUp.1))
  | close (allowed : scope.closing) (present : op ∈ k.pending r) : Change scope k (k.leave r op .registryClosed (·.hangUp.1))
  | leave (allowed : scope.closing) (present : op ∈ k.pending r) : Change scope k (k.leave r op .leftBehind id)
  | resolve (allowed : scope.delivering) (known : k.registryOf b = some r) (present : op ∈ k.pending r) (same : op.handle = d.handle) :
      Change scope k (k.resolve b r op d)
  | orphan (allowed : scope.delivering) (known : k.registryOf b = some r)
      (unknown : ∀ op ∈ k.pending r, op.handle ≠ h) : Change scope k (k.orphan b)
  -- a promise is given up, with its receiver or without
  | desert (there : k.held.Perm (x :: rest)) (waits : x.channel? = some c) :
      Change scope k { k with channels := k.channels.modify c Channel.desert, held := rest }
  | drop (there : k.held.Perm (x :: rest)) : Change scope k { k with held := rest }
  | give (ready : x.channel? = none) : Change scope k { k with held := x :: k.held }
  | arrange (same : k.held.Perm others) : Change scope k { k with held := others }
  -- a promise is looked at: the waker stays behind, it is over, or an outcome comes
  | rewake (there : x ∈ k.held) (waits : x.channel? = some c)
      (row : k.channels.get? c = some (.waiting before)) (waker) :
      Change scope k { k with channels := k.channels.set c (.waiting waker) }
  | finish (there : k.held.Perm (x :: rest)) :
      Change scope k { k with held := { x with promise := x.promise.taken } :: rest }
  | receive (there : k.held.Perm (⟨b,p⟩ :: rest)) (waits : p.state = .waiting c decoder)
      (row : k.channels.get? c = some (.full o)) (state) (past : state = .ready none ∨ state = .waiting c none) :
      Change scope k { k with
        channels := k.channels.set c .spent
        held := ⟨b,{ p with state := state }⟩ :: rest }
  -- other receivers
  | keepReceiver (there : k.held.Perm (x :: rest)) (waits : x.channel? = some c) :
      Change scope k { k with held := rest, receivers := k.receivers ++ [c] }
  | tryReceive (there : c ∈ k.receivers) :
      Change scope k { k with channels := k.channels.modify c (·.tryReceive.1) }

abbrev Changes (scope : Scope) : Books → Books → Prop := Relation.ReflTransGen (Change scope)

variable {scope : Scope}

theorem Changes.same (same : l = k) : Changes scope k l := same ▸ .refl

namespace State

def registryOf (s : State) (b : Nat) : Option Nat := (s.bridge? b).map Bridge.registry

-- The books, with promises in hand besides those in the slots.
def books (s : State) (hands : List Slot) : Books :=
  { channels := s.channels
    pending := s.pendingIn
    entries := s.journal.filterMap Event.entry?
    exits := s.journal.filterMap Event.exit?
    strays := s.journal.filterMap Event.stray?
    registryOf := s.registryOf
    stats := s.statsOf
    held := hands ++ s.slots.toList.filterMap id
    receivers := s.receivers.toList }

variable {s t : State}

@[simp] theorem pendingIn_note (s : State) (e : Event) : (s.note e).pendingIn = s.pendingIn := rfl

theorem pendingIn_row (row : s.registry? r = some registry) : s.pendingIn r = registry.pending := by
  simp [pendingIn,row]

theorem pendingIn_putRegistry (row : s.registry? r = some registry) (after : Registry) :
    (s.putRegistry r after).pendingIn = Function.update s.pendingIn r after.pending := by
  funext q
  by_cases same : q = r
  · subst same
    have there : (s.registries.get? q).isSome := by rw [show s.registries.get? q = some registry from row]; rfl
    obtain ⟨old,row⟩ := Option.isSome_iff_exists.mp there
    simp [pendingIn, registry?,putRegistry,Table.get?_set,row]
  · rw [Function.update_of_ne same]
    simp [pendingIn, registry?,putRegistry,Table.get?_set,Ne.symm same]

theorem registryOf_changeBridge (s : State) (b : Nat) (f : Bridge → Bridge)
    (keeps : ∀ bridge, (f bridge).registry = bridge.registry) :
    (s.changeBridge b f).registryOf = s.registryOf := by
  funext a
  simp only [registryOf,bridge?,changeBridge,Table.get?_modify]
  split
  · cases s.bridges.get? a <;> simp [keeps]
  · rfl

theorem statsOf_changeBridge (s : State) (b : Nat) (f : Bridge → Bridge)
    (keeps : ∀ bridge, (f bridge).stats = bridge.stats) : (s.changeBridge b f).statsOf = s.statsOf := by
  funext a
  by_cases same : b = a
  · simp only [statsOf,bridge?,changeBridge,Table.get?_modify,if_pos same]
    cases s.bridges.get? a <;> simp [keeps]
  · simp only [statsOf,bridge?,changeBridge,Table.get?_modify,if_neg same]

theorem registryOf_changeStats (s : State) (b : Nat) (f : Stats → Stats) :
    (s.changeStats b f).registryOf = s.registryOf := registryOf_changeBridge s b _ fun _ => rfl

theorem statsOf_changeStats (known : s.bridge? b = some bridge) (f : Stats → Stats) :
    (s.changeStats b f).statsOf = Function.update s.statsOf b (f (s.statsOf b)) := by
  funext a
  have row : s.bridges.get? b = some bridge := known
  by_cases same : a = b
  · subst same
    simp [statsOf,bridge?,changeStats,changeBridge,Table.get?_modify,row]
  · rw [Function.update_of_ne same]
    simp [statsOf,bridge?,changeStats,changeBridge,Table.get?_modify,Ne.symm same]

theorem books_changeBridge (s : State) (hands : List Slot) (b : Nat) (f : Bridge → Bridge)
    (keeps : ∀ bridge, (f bridge).registry = bridge.registry ∧ (f bridge).stats = bridge.stats) :
    (s.changeBridge b f).books hands = s.books hands := by
  have registries := registryOf_changeBridge s b f fun bridge => (keeps bridge).1
  have stats := statsOf_changeBridge s b f fun bridge => (keeps bridge).2
  unfold books
  rw [registries,stats]
  rfl

theorem books_note (s : State) (hands : List Slot) (plain : e.plain) :
    (s.note e).books hands = s.books hands := by
  cases e <;> first | rfl | cases plain

def entering (s : State) (r : Nat) (after : Registry) (op : Operation) : State :=
  ({ s with channels := s.channels.push .fresh }.putRegistry r after).note (.entered r op)

theorem enter_eq (s : State) (r : Nat) (h : Handle) :
    s.enter r h = match (s.registry? r).bind (·.insert? ⟨h,s.channels.size⟩) with
      | some after => (.ok ⟨h,s.channels.size⟩,s.entering r after ⟨h,s.channels.size⟩)
      | none => (.error (.collision h),{ s with channels := s.channels.push .closed }) := by
  have lost : ({ s with channels := s.channels.push .fresh }.hangUp s.channels.size).2 =
      { s with channels := s.channels.push .closed } := by
    rw [hangUp_state]
    simp only [Table.modify_push]
    rfl
  unfold enter
  dsimp only
  rw [lost]
  rfl

theorem enter_ok (entered : s.enter r h = (.ok op,t)) :
    ∃ registry after, s.registry? r = some registry ∧ registry.insert? op = some after ∧
      op = ⟨h,s.channels.size⟩ ∧
      t = s.entering r after op := by
  rw [enter_eq] at entered
  split at entered
  · rename_i after inserted
    cases entered
    obtain ⟨registry,row,inserted⟩ := Option.bind_eq_some_iff.mp inserted
    exact ⟨registry,after,row,inserted,rfl,rfl⟩
  · cases entered

theorem enter_error (refused : s.enter r h = (.error p,t)) :
    p = .collision h ∧ t = { s with channels := s.channels.push .closed } := by
  rw [enter_eq] at refused
  split at refused
  · cases refused
  · cases refused
    exact ⟨rfl,rfl⟩

theorem entering_change (known : s.registryOf b = some r) (row : s.registry? r = some registry)
    (inserted : registry.insert? ⟨h,s.channels.size⟩ = some after)
    (timeout : Option Duration) (decoder : Decoder) (hands : List Slot) :
    Change scope (s.books hands) ((s.entering r after ⟨h,s.channels.size⟩).books
      (⟨b,⟨h,timeout,.waiting s.channels.size (some decoder)⟩⟩ :: hands)) := by
  obtain ⟨pending,_,missing⟩ := Registry.insert?_some inserted
  have free : ∀ op ∈ s.pendingIn r, op.handle ≠ h := by
    intro op member same
    rw [pendingIn_row row] at member
    have found := Registry.find?_of_mem member
    rw [same] at found
    cases found.symm.trans missing
  have change : Change scope (s.books hands) _ := .enter known free timeout decoder
  have rows : ({ s with channels := s.channels.push .fresh }.putRegistry r after).pendingIn =
      Function.update s.pendingIn r (⟨h,s.channels.size⟩ :: s.pendingIn r) := by
    rw [pendingIn_row row,← pending]
    exact pendingIn_putRegistry (s := { s with channels := s.channels.push .fresh }) row after
  unfold entering books
  rw [pendingIn_note,rows]
  exact change

-- Where a handle is taken out of one registry, nothing else goes.
theorem pendingIn_erased (rows : t.registries = s.registries.modify r (·.erase h)) (q : Nat) :
    t.pendingIn q = if r = q then (s.pendingIn q).filter (·.handle ≠ h) else s.pendingIn q := by
  simp only [pendingIn, registry?,rows,Table.get?_modify]
  split
  · cases s.registries.get? q <;> rfl
  · rfl

def depart (s : State) (r : Nat) (registry : Registry) (op : Operation) (why : Departure)
    (last : Channel → Channel) : State :=
  { (s.putRegistry r (registry.erase op.handle)).note (.left r op why) with
    channels := s.channels.modify op.channel last }

theorem books_depart (row : s.registry? r = some registry) (op : Operation) (why : Departure)
    (last : Channel → Channel) (hands : List Slot) :
    (s.depart r registry op why last).books hands = (s.books hands).leave r op why last := by
  have rows : (s.putRegistry r (registry.erase op.handle)).pendingIn =
      Function.update s.pendingIn r ((s.pendingIn r).filter (·.handle ≠ op.handle)) := by
    rw [pendingIn_putRegistry row,pendingIn_row row]
    rfl
  exact congrArg (fun pending => { (s.books hands).leave r op why last with pending := pending }) rows

theorem pendingIn_missing (missing : ∀ registry, s.registry? r = some registry → ∀ op ∈ registry.pending, op.handle ≠ h) :
    ∀ op ∈ s.pendingIn r, op.handle ≠ h := by
  intro op member
  cases row : s.registry? r with
  | none =>
    rw [pendingIn,row] at member
    cases member
  | some registry =>
    rw [pendingIn_row row] at member
    exact missing registry row op member

theorem evict_cases (s : State) (r : Nat) (h : Handle) (why : Departure) :
    ((s.evict r h why).2 = s ∧ ∀ op ∈ s.pendingIn r, op.handle ≠ h) ∨
    ∃ registry op, s.registry? r = some registry ∧ op ∈ registry.pending ∧ op.handle = h ∧
      (s.evict r h why).2 = s.depart r registry op why (·.hangUp.1) := by
  rw [evict_state]
  rcases withdraw_cases s r h why with ⟨withdrawn,missing⟩ | ⟨registry,op,row,present,rfl,withdrawn⟩
  · exact .inl ⟨by rw [withdrawn],pendingIn_missing missing⟩
  · refine .inr ⟨registry,op,row,present,rfl,?_⟩
    simp only [withdrawn,hangUp_state]
    rfl

theorem evict_changes (s : State) (r : Nat) (h : Handle) (cleanup : why.cleanup) (hands : List Slot) :
    Changes scope (s.books hands) ((s.evict r h why).2.books hands) := by
  rcases evict_cases s r h why with ⟨same,_⟩ | ⟨registry,op,row,present,_,evicted⟩
  · rw [same]
  · rw [evicted,books_depart row]
    exact .single (.evict (by rw [← pendingIn_row row] at present; exact present) cleanup)

theorem close_changes (allowed : scope.closing) (s : State) (r : Nat) (h : Handle) (hands : List Slot) :
    Changes scope (s.books hands) ((s.evict r h .registryClosed).2.books hands) := by
  rcases evict_cases s r h .registryClosed with ⟨same,_⟩ | ⟨registry,op,row,present,_,evicted⟩
  · rw [same]
  · rw [evicted,books_depart row]
    exact .single (.close allowed (by rw [← pendingIn_row row] at present; exact present))

-- An operation that is left behind goes with its channel as it is.
theorem withdraw_left (s : State) (r : Nat) (h : Handle) :
    ((s.withdraw r h .leftBehind).2 = s ∧ ∀ op ∈ s.pendingIn r, op.handle ≠ h) ∨
    ∃ registry op, s.registry? r = some registry ∧ op ∈ registry.pending ∧ op.handle = h ∧
      (s.withdraw r h .leftBehind).2 = s.depart r registry op .leftBehind id := by
  rcases withdraw_cases s r h .leftBehind with ⟨withdrawn,missing⟩ | ⟨registry,op,row,present,rfl,withdrawn⟩
  · exact .inl ⟨by rw [withdrawn],pendingIn_missing missing⟩
  · refine .inr ⟨registry,op,row,present,rfl,?_⟩
    rw [withdrawn,depart,Table.modify_id]
    rfl

theorem leave_changes (allowed : scope.closing) (s : State) (r : Nat) (h : Handle) (hands : List Slot) :
    Changes scope (s.books hands) ((s.withdraw r h .leftBehind).2.books hands) := by
  rcases withdraw_left s r h with ⟨same,_⟩ | ⟨registry,op,row,present,_,left⟩
  · rw [same]
  · rw [left,books_depart row]
    exact .single (.leave allowed (by rw [← pendingIn_row row] at present; exact present))

theorem send_cases (s : State) (c : Nat) (o : Outcome) :
    (∃ waker, s.channel? c = some (.waiting waker) ∧
      s.send c o = (.delivered waker,{ s with channels := s.channels.modify c (fun channel => (channel.send o).1) })) ∨
    ((s.channels.get? c).any Channel.accepts = false ∧
      s.send c o = (.returned,{ s with channels := s.channels.modify c (fun channel => (channel.send o).1) })) := by
  rw [← send_state]
  cases row : s.channel? c with
  | none =>
    refine .inr ⟨by rw [show s.channels.get? c = none from row]; rfl,?_⟩
    simp only [send,row]
  | some channel =>
    have there : s.channels.get? c = some channel := row
    rw [there]
    cases channel with
    | waiting waker =>
      refine .inl ⟨waker,rfl,?_⟩
      simp only [send,row,Channel.send]
    | _ =>
      refine .inr ⟨rfl,?_⟩
      simp only [send,row,Channel.send]

-- All that a callback can do. Either no operation is pending under its handle, or
-- the operation leaves and its channel has the outcome if the receiver is there.
theorem dispatch_cases (known : s.bridge? b = some bridge) (d : Delivery) :
    ((∀ op ∈ s.pendingIn bridge.registry, op.handle ≠ d.handle) ∧
      s.dispatch b d = (.ok .orphan,(s.changeStats b countOrphan).note (.orphan b d.handle d.code))) ∨
    ∃ registry op, s.registry? bridge.registry = some registry ∧ op ∈ registry.pending ∧
      op.handle = d.handle ∧
      let left := s.depart bridge.registry registry op (.delivered b d) (fun channel => (channel.send d.outcome).1)
      ((∃ waker, s.channel? op.channel = some (.waiting waker) ∧
        s.dispatch b d = ((wake waker).map (fun _ => .resolved),left.changeStats b countResolved)) ∨
      ((s.channels.get? op.channel).any Channel.accepts = false ∧
        s.dispatch b d = (.ok .callerGone,
          ((left.changeStats b countResolved).changeStats b recountCallerGone).note (.callerGone b d.handle)))) := by
  unfold dispatch
  simp only [known]
  rcases withdraw_cases s bridge.registry d.handle (.delivered b d) with
    ⟨withdrawn,missing⟩ | ⟨registry,op,row,present,same,withdrawn⟩
  · exact .inl ⟨pendingIn_missing missing,by simp only [withdrawn]⟩
  · refine .inr ⟨registry,op,row,present,same,?_⟩
    rw [← same] at withdrawn
    rw [← same]
    simp only [withdrawn]
    rcases send_cases (((s.putRegistry bridge.registry (registry.erase op.handle)).note
      (.left bridge.registry op (.delivered b d))).changeStats b countResolved) op.channel d.outcome with
      ⟨waker,waits,sent⟩ | ⟨deaf,sent⟩
    · refine .inl ⟨waker,waits,?_⟩
      simp only [sent]
      rfl
    · refine .inr ⟨deaf,?_⟩
      simp only [sent]
      rfl

theorem books_changeStats (known : s.bridge? b = some bridge) (f : Stats → Stats) (hands : List Slot) :
    (s.changeStats b f).books hands = (s.books hands).count b f := by
  unfold books Books.count
  rw [registryOf_changeStats,statsOf_changeStats known]
  rfl

theorem recount_resolved : recountCallerGone ∘ countResolved = Stats.deliver false := by
  funext st
  simp [recountCallerGone,countResolved,Stats.deliver]

theorem dispatch_books (known : s.bridge? b = some bridge) (d : Delivery) (hands : List Slot) :
    ((∀ op ∈ s.pendingIn bridge.registry, op.handle ≠ d.handle) ∧
      (s.dispatch b d).2.books hands = (s.books hands).orphan b) ∨
    ∃ op ∈ s.pendingIn bridge.registry, op.handle = d.handle ∧
      (s.dispatch b d).2.books hands = (s.books hands).resolve b bridge.registry op d := by
  rcases dispatch_cases known d with ⟨unknown,ran⟩ | ⟨registry,op,row,present,same,reached⟩
  · refine .inl ⟨unknown,?_⟩
    rw [ran,Books.orphan,← books_changeStats known]
    rfl
  · refine .inr ⟨op,by rwa [pendingIn_row row],same,?_⟩
    rw [Books.resolve,← books_depart row]
    dsimp only at reached
    generalize departed : s.depart bridge.registry registry op (.delivered b d)
      (fun channel => (channel.send d.outcome).1) = left at reached ⊢
    have still : left.bridge? b = some bridge := by rw [← departed]; exact known
    rcases reached with ⟨waker,waits,ran⟩ | ⟨deaf,ran⟩
    · have reaches : (s.books hands).reaches op.channel = true := by
        simp only [Books.reaches,books]
        rw [show s.channels.get? op.channel = _ from waits]
        rfl
      rw [reaches,ran]
      exact books_changeStats still _ _
    · have reaches : (s.books hands).reaches op.channel = false := deaf
      have twice : (left.changeStats b countResolved).bridge? b =
          some { bridge with stats := countResolved bridge.stats } := by
        have row : left.bridges.get? b = some bridge := still
        simp [bridge?,changeStats,changeBridge,Table.get?_modify,row]
      rw [reaches,ran,← recount_resolved,← Books.count_count,← books_changeStats still,
        ← books_changeStats twice]
      rfl

theorem dispatch_unknown (unknown : s.bridge? b = none) (d : Delivery) : (s.dispatch b d).2 = s := by
  simp only [dispatch,unknown]

theorem registryOf_bridge (known : s.bridge? b = some bridge) : s.registryOf b = some bridge.registry := by
  simp only [registryOf,known,Option.map_some]

theorem dispatch_changes (allowed : scope.delivering) (s : State) (b : Nat) (d : Delivery) (hands : List Slot) :
    Changes scope (s.books hands) ((s.dispatch b d).2.books hands) := by
  cases known : s.bridge? b with
  | none => exact .same (by rw [dispatch_unknown known])
  | some bridge =>
    rcases dispatch_books known d hands with ⟨unknown,after⟩ | ⟨op,present,same,after⟩
    · rw [after]
      exact .single (.orphan allowed (registryOf_bridge known) unknown)
    · rw [after]
      exact .single (.resolve allowed (registryOf_bridge known) present same)

theorem poll_waiting {p : Promise} (waits : p.state = .waiting c decoder) (row : s.channel? c = some channel)
    (waker : Waker) : s.poll p waker = match channel, s.exhausted with
      | .spent, _ => (.panicked .calledAfterComplete,p,s)
      | _, true => (.turnedAway waker,p,s)
      | .waiting _, false => (.pending,p,s.putChannel c (.waiting (some waker)))
      | .full o, false => (s.putChannel c .spent).spend.take p c decoder o
      | .closed, false => (.ready (.error (.abandoned p.handle)),p.taken,s.spend)
      | .deserted, false => (.ready (.error (.abandoned p.handle)),p.taken,s.spend) := by
  have kept : s.putChannel c channel = s := by rw [putChannel,Table.set_same row]
  unfold poll
  rw [waits]
  simp only [row,Option.map_some]
  cases channel <;> cases s.exhausted <;> first | rfl | simp only [Channel.poll,kept]

theorem take_promise (s : State) (p : Promise) (c : Nat) (decoder : Option Decoder) (o : Outcome)
    (waits : p.state = .waiting c decoder) :
    (s.take p c decoder o).2.1 = p.taken ∨ (s.take p c decoder o).2.1 = { p with state := .waiting c none } := by
  unfold take interpret
  cases decoder with
  | none =>
    obtain ⟨handle,timeout,state⟩ := p
    cases waits
    exact .inr rfl
  | some decode =>
    dsimp only
    split
    · exact .inl rfl
    · exact .inl rfl
    · exact .inr rfl

theorem poll_promise (s : State) (p : Promise) (waker : Waker) :
    (s.poll p waker).2.1 = p ∨ (s.poll p waker).2.1 = p.taken ∨
      ∃ c decoder, p.state = .waiting c decoder ∧ (s.poll p waker).2.1 = { p with state := .waiting c none } := by
  have took (t : State) {c decoder} (o : Outcome) (waits : p.state = .waiting c decoder) :
      (t.take p c decoder o).2.1 = p.taken ∨
        ∃ c' decoder', p.state = .waiting c' decoder' ∧ (t.take p c decoder o).2.1 = { p with state := .waiting c' none } :=
    (take_promise t p c decoder o waits).imp_right fun same => ⟨c,decoder,waits,same⟩
  unfold poll
  repeat' split
  all_goals first
    | exact .inl rfl
    | exact .inr (.inl rfl)
    | exact .inr (took _ _ ‹_›)

theorem take_state (s : State) (p : Promise) (c : Nat) (decoder : Option Decoder) (o : Outcome) :
    (s.take p c decoder o).2.2 = s ∨ (s.take p c decoder o).2.2 = s.note (.decoding c o.payload) := by
  cases decoder with
  | none => exact .inl rfl
  | some decode =>
    have interpreted : (s.interpret c o decode).2 = s ∨ (s.interpret c o decode).2 = s.note (.decoding c o.payload) := by
      unfold interpret
      dsimp only
      split
      · exact .inr rfl
      · exact .inl rfl
    unfold take
    dsimp only
    split
    all_goals
      rename_i ran
      rw [ran] at interpreted
      exact interpreted

-- At most the channel of the promise, the turn and the journal have changed.
def ChangedByLook (s : State) (p : Promise) (t : State) : Prop := ∃ channels turn journal,
  t = { s with channels := channels, turn := turn, journal := journal } ∧
  ∀ c, (∀ decoder, p.state ≠ .waiting c decoder) → channels.get? c = s.channels.get? c

theorem poll_changedByLook (s : State) (p : Promise) (waker : Waker) : s.ChangedByLook p (s.poll p waker).2.2 := by
  have still : s.ChangedByLook p s := ⟨_,_,_,rfl,fun _ _ => rfl⟩
  cases state : p.state with
  | ready result =>
    unfold poll
    rw [state]
    cases result <;> exact still
  | waiting c decoder =>
    have elsewhere (channel : Channel) (d : Nat) (other : ∀ decoder, p.state ≠ .waiting d decoder) :
        (s.channels.set c channel).get? d = s.channels.get? d := by
      rw [Table.get?_set,if_neg]
      rintro rfl
      exact other decoder state
    cases row : s.channel? c with
    | none =>
      unfold poll
      rw [state]
      simp only [row,Option.map_none]
      exact still
    | some channel =>
      rw [poll_waiting state row]
      cases s.exhausted with
      | true => cases channel <;> exact still
      | false =>
        cases channel with
        | spent => exact still
        | waiting before => exact ⟨_,_,_,rfl,elsewhere (.waiting (some waker))⟩
        | full o =>
          rcases take_state (s.putChannel c .spent).spend p c decoder o with same | noted
          · exact ⟨_,_,_,same,elsewhere .spent⟩
          · exact ⟨_,_,_,noted,elsewhere .spent⟩
        | closed | deserted => exact ⟨_,_,_,rfl,fun _ _ => rfl⟩

theorem books_take (s : State) (p : Promise) (c : Nat) (decoder : Option Decoder) (o : Outcome) (hands : List Slot) :
    (s.take p c decoder o).2.2.books hands = s.books hands := by
  rcases take_state s p c decoder o with same | noted
  · rw [same]
  · rw [noted]
    rfl

-- A look changes nothing but the channel and the promise.
theorem poll_changes (s : State) (x : Slot) (waker : Waker) (hands rest : List Slot)
    (there : (s.books hands).held.Perm (x :: rest)) :
    Changes scope (s.books hands) { (s.poll x.promise waker).2.2.books hands with held := x.look s waker :: rest } := by
  obtain ⟨b,p⟩ := x
  have still (same : (s.poll p waker).2 = (p,s)) :
      Changes scope (s.books hands) { (s.poll p waker).2.2.books hands with held := Slot.look ⟨b,p⟩ s waker :: rest } := by
    unfold Slot.look
    rw [same]
    exact .single (.arrange there)
  cases state : p.state with
  | ready result =>
    cases result with
    | none => exact still (by unfold poll; rw [state])
    | some result =>
      have done : (s.poll p waker).2 = (p.taken,s) := by unfold poll; rw [state]
      unfold Slot.look
      rw [done]
      exact .single (.finish there)
  | waiting c decoder =>
    cases row : s.channel? c with
    | none => exact still (by unfold poll; rw [state]; simp only [row,Option.map_none])
    | some channel =>
      have polled := poll_waiting state row waker
      have waits : Slot.channel? ⟨b,p⟩ = some c := by simp only [Slot.channel?,state]
      cases out : s.exhausted with
      | true =>
        rw [out] at polled
        exact still (by rw [polled]; cases channel <;> rfl)
      | false =>
        rw [out] at polled
        cases channel with
        | spent => exact still (by rw [polled])
        | waiting before =>
          unfold Slot.look
          rw [polled]
          have member : (⟨b,p⟩ : Slot) ∈ (s.books hands).held := there.symm.subset List.mem_cons_self
          exact .tail (.single (.rewake member waits row (some waker))) (.arrange there)
        | full o =>
          have books : (s.poll p waker).2.2.books hands =
              { s.books hands with channels := s.channels.set c .spent } := by
            rw [polled]
            exact books_take _ _ _ _ _ _
          rw [books]
          have received (state) (past : state = .ready none ∨ state = .waiting c none) :
              Change scope (s.books hands) { s.books hands with
                channels := s.channels.set c .spent
                held := ⟨b,{ p with state := state }⟩ :: rest } := .receive there ‹_› row state past
          unfold Slot.look
          rw [polled]
          rcases take_promise (s.putChannel c .spent).spend p c decoder o ‹_› with promise | promise
          · simp only [promise]
            exact .single (received _ (.inl rfl))
          · simp only [promise]
            exact .single (received _ (.inr rfl))
        | closed =>
          unfold Slot.look
          rw [polled]
          exact .single (.finish there)
        | deserted =>
          unfold Slot.look
          rw [polled]
          exact .single (.finish there)

theorem forget_changes (s : State) (x : Slot) (hands rest : List Slot)
    (there : (s.books hands).held.Perm (x :: rest)) :
    Changes scope (s.books hands) { (s.forget x.promise).books hands with held := rest } := by
  cases state : x.promise.state with
  | ready result =>
    simp only [forget,state]
    exact .single (.drop there)
  | waiting c decoder =>
    simp only [forget,state]
    exact .single (.desert there (by simp only [Slot.channel?,state]))

theorem slots_take (s : State) (p : Promise) (c : Nat) (decoder : Option Decoder) (o : Outcome) :
    (s.take p c decoder o).2.2.slots = s.slots := by
  rcases take_state s p c decoder o with same | noted
  · rw [same]
  · rw [noted]
    rfl

theorem slots_poll (s : State) (p : Promise) (waker : Waker) : (s.poll p waker).2.2.slots = s.slots := by
  unfold poll
  repeat' split
  all_goals first | rfl | exact slots_take _ _ _ _ _

theorem forget_hand (s : State) (x : Slot) (hands : List Slot) :
    Changes scope (s.books (x :: hands)) ((s.forget x.promise).books hands) := by
  have changes : Changes scope _ _ := forget_changes s x (x :: hands) _ (.refl _)
  have slots : (s.forget x.promise).slots = s.slots := by
    unfold forget
    split <;> rfl
  rw [← slots] at changes
  exact changes

theorem look_hand (s : State) (x : Slot) (waker : Waker) (hands : List Slot) :
    Changes scope (s.books (x :: hands)) ((s.poll x.promise waker).2.2.books (x.look s waker :: hands)) := by
  have changes : Changes scope _ _ := poll_changes s x waker (x :: hands) _ (.refl _)
  rw [← slots_poll s x.promise waker] at changes
  exact changes

theorem keep_hand (s : State) (x : Slot) (hands : List Slot) :
    Changes scope (s.books (x :: hands)) ({ s with slots := s.slots.push (some x) }.books hands) := by
  refine .single (.arrange ?_)
  rw [Table.toList_push,List.filterMap_append,← List.append_assoc]
  exact (List.perm_append_singleton _ _).symm

theorem draw_changes (s : State) (r : Nat) (hands : List Slot) :
    Changes scope (s.books hands) ((s.draw r).2.books hands) := by
  unfold draw
  cases row : s.registry? r with
  | none => exact .refl
  | some registry =>
    refine .same ?_
    have rows : (s.putRegistry r registry.allocate.2).pendingIn = s.pendingIn := by
      rw [pendingIn_putRegistry row,Function.update_eq_self_iff,pendingIn_row row]
      rfl
    exact congrArg (fun pending => { s.books hands with pending := pending }) rows

theorem receive_changes (s : State) (i : Nat) (hands : List Slot) :
    Changes scope (s.books hands) ((s.receive i).2.books hands) := by
  unfold receive
  split
  · exact .refl
  · rename_i c channel found
    obtain ⟨c',there,row⟩ := Option.bind_eq_some_iff.mp found
    obtain ⟨channel',row,same⟩ := Option.map_eq_some_iff.mp row
    cases same
    have member : c ∈ (s.books hands).receivers := by
      rw [← Table.getElem?_toList] at there
      exact List.mem_of_getElem? there
    have change : Change scope _ _ := .tryReceive member
    rw [show (s.books hands).channels.modify c (·.tryReceive.1) = s.channels.set c channel.tryReceive.1 from
      Table.modify_eq_set row _] at change
    exact .single change

theorem books_addReceiver (s : State) (c : Nat) (hands : List Slot) :
    (s.addReceiver c).books hands = { s.books hands with receivers := s.receivers.toList ++ [c] } := by
  unfold books addReceiver
  rw [Table.toList_push]
  rfl

theorem insertFresh_changes (s : State) (b : Nat) (h : Handle) (keep : Bool) (hands : List Slot) :
    Changes scope (s.books hands) ((s.insertFresh b h keep).2.books hands) := by
  have desk (bridge) (listed : s.listed? b = some bridge) : s.registryOf b = some bridge.registry := by
    simp only [registryOf,(Option.filter_eq_some_iff.mp listed).1,Option.map_some]
  cases keep with
  | true =>
    simp only [insertFresh,if_true]
    split
    · have books := books_addReceiver { s with channels := s.channels.push .closed } s.channels.size hands
      exact .single (books ▸ .stillbornKept)
    · rename_i bridge listed
      split
      · rename_i refused
        obtain ⟨_,rfl⟩ := enter_error refused
        have books := books_addReceiver { s with channels := s.channels.push .closed } s.channels.size hands
        exact .single (books ▸ .stillbornKept)
      · rename_i entered
        obtain ⟨registry,after,row,inserted,rfl,rfl⟩ := enter_ok entered
        have change : Change scope _ _ := entering_change (desk bridge listed) row inserted none .unit hands
        have books := books_addReceiver (s.entering bridge.registry after ⟨h,s.channels.size⟩) s.channels.size hands
        refine .head change (.single ?_)
        exact books ▸ .keepReceiver (.refl _) rfl
  | false =>
    simp only [insertFresh,Bool.false_eq_true,if_false]
    split
    · exact .single (.stillborn (.inl rfl))
    · rename_i bridge listed
      split
      · rename_i refused
        obtain ⟨_,rfl⟩ := enter_error refused
        have lost : (s.channels.push .closed).modify s.channels.size Channel.desert = s.channels.push .deserted :=
          Table.modify_push _ _ _
        simp only [desert,lost]
        exact .single (.stillborn (.inr rfl))
      · rename_i entered
        obtain ⟨registry,after,row,inserted,rfl,rfl⟩ := enter_ok entered
        have change : Change scope _ _ := entering_change (desk bridge listed) row inserted none .unit hands
        exact .head change (.single (.desert (.refl _) rfl))

-- What is held beside the promise of a slot, which may be taken out or replaced.
theorem held_apart (there : s.slot? i = some x) (hands : List Slot) :
    ∃ rest, (s.books hands).held.Perm (x :: rest) ∧ hands ++ (s.slots.set i none).full = rest ∧
      ∀ y, (hands ++ (s.slots.set i (some y)).full).Perm (y :: rest) := by
  obtain ⟨others,before,left,after⟩ := Table.full_apart there
  have front (y : Slot) : (hands ++ y :: others).Perm (y :: (hands ++ others)) := List.perm_middle
  refine ⟨hands ++ others,(before.append_left hands).trans (front x),congrArg (hands ++ ·) left,fun y => ?_⟩
  exact ((after y).append_left hands).trans (front y)

theorem pollSlot_state (s : State) (i : Nat) (x : Slot) (waker : Waker) :
    (s.pollSlot i x waker).2 =
      { (s.poll x.promise waker).2.2 with slots := s.slots.set i (some (x.look s waker)) } := by
  rw [← slots_poll s x.promise waker]
  unfold pollSlot
  dsimp only
  split <;> rfl

theorem lookAt_changes (there : s.slot? i = some x) (waker : Waker) (hands : List Slot) :
    Changes scope (s.books hands) ((s.pollSlot i x waker).2.books hands) := by
  obtain ⟨rest,before,_,after⟩ := held_apart there hands
  refine .tail (poll_changes s x waker hands _ before) ?_
  have arranged : Change scope _ _ := .arrange
    (k := { (s.poll x.promise waker).2.2.books hands with held := x.look s waker :: rest }) (after (x.look s waker)).symm
  rw [pollSlot_state]
  exact arranged

end State

-- Only the end of a registry that nobody owns closes operations, and only callbacks
-- that are dispatched deliver.
open State in
theorem Move.changes (move : Move driving x y)
    (closes : ∀ r h, x.state.owned r = false →
      (y = ⟨(x.state.evict r h .registryClosed).2,x.hands⟩ ∨ y = ⟨(x.state.withdraw r h .leftBehind).2,x.hands⟩) → scope.closing)
    (delivers : ∀ (s : State) (b : Nat) (d : Delivery), s.books [] = x.state.books [] → y = ⟨(s.dispatch b d).2,x.hands⟩ → scope.delivering) :
    Changes scope (x.state.books x.hands) (y.state.books y.hands) := by
  cases move with
  | note plain => rw [books_note _ _ plain]
  | report | tell | library | turn | accept | reply | stop | bindDirect | bindActor | transit => exact .refl
  | spawn => exact .refl
  | hold => exact .same (books_changeBridge _ _ _ _ fun _ => ⟨rfl,rfl⟩)
  | unhold => exact .same (books_changeBridge _ _ _ _ fun _ => ⟨rfl,rfl⟩)
  | unlist => exact .same (books_changeBridge _ _ _ _ fun _ => ⟨rfl,rfl⟩)
  | close unowned h => exact close_changes (closes _ h unowned (.inl rfl)) _ _ _ _
  | leave unowned h => exact leave_changes (closes _ h unowned (.inr rfl)) _ _ _ _
  | draw r => exact draw_changes _ _ _
  | enter known entered decoder =>
    obtain ⟨registry,after,row,inserted,rfl,rfl⟩ := enter_ok entered
    exact .single (entering_change (by simp only [registryOf,known,Option.map_some]) row inserted _ decoder _)
  | collide refused =>
    obtain ⟨_,rfl⟩ := enter_error refused
    exact .single (.stillborn (.inl rfl))
  | insert => exact insertFresh_changes _ _ _ _ _
  | dispatch b d => exact dispatch_changes (delivers _ b d rfl rfl) _ _ _ _
  | @serve actor rest s hands a d =>
    let t := s.changeActor a (Actor.next (.deliver d) rest)
    exact dispatch_changes (delivers t actor.bridge d rfl rfl) t actor.bridge d hands
  | evict cleanup => exact evict_changes _ _ _ cleanup _
  | refuse x status details =>
    exact .trans (forget_hand _ _ _) (.single (.give rfl))
  | forget x => exact forget_hand _ _ _
  | lose x => exact .single (.drop (.refl _))
  | keep x => exact keep_hand _ _ _
  | take there =>
    obtain ⟨rest,before,left,_⟩ := held_apart there _
    exact .single (.arrange (before.trans (.of_eq (congrArg _ left.symm))))
  | look x waker => exact look_hand _ _ _ _
  | lookAt there waker => exact lookAt_changes there waker _
  | receive i => exact receive_changes _ _ _
  | swap same => exact .single (.arrange (same.append_right _))

theorem Moves.changes (moves : Moves driving x y) : Changes ⟨true,true⟩ (x.state.books x.hands) (y.state.books y.hands) := by
  induction moves with
  | refl => exact .refl
  | tail _ move ih => exact ih.trans (move.changes (fun _ _ _ _ => rfl) fun _ _ _ _ _ => rfl)

structure Books.Blank (k : Books) : Prop where
  pending : ∀ r, k.pending r = []
  entries : k.entries = []
  exits : k.exits = []
  strays : k.strays = []
  stats : ∀ b, k.stats b = .none
  held : k.held = []
  receivers : k.receivers = []

theorem State.addBridge_blank {s : State} (blank : (s.books []).Blank) (plan : BridgePlan) :
    ((s.addBridge plan).books []).Blank := by
  have stats (bridge : Bridge) (none : bridge.stats = .none) (b : Nat) :
      { s with bridges := s.bridges.push bridge }.statsOf b = .none := by
    have before : s.statsOf b = .none := blank.stats b
    by_cases last : b = s.bridges.size
    · simp only [statsOf,bridge?,Table.get?_push,if_pos last,none]
    · simp only [statsOf,bridge?,Table.get?_push,if_neg last]
      exact before
  unfold addBridge
  cases plan.registry with
  | some r => exact ⟨blank.pending,blank.entries,blank.exits,blank.strays,stats _ rfl,blank.held,blank.receivers⟩
  | none =>
    refine ⟨?_,blank.entries,blank.exits,blank.strays,stats _ rfl,blank.held,blank.receivers⟩
    intro r
    have before := blank.pending r
    simp only [books,pendingIn, registry?] at before
    simp only [books,pendingIn, registry?,Table.get?_push]
    split
    · rfl
    · exact before

theorem State.start_blank (attendance : Attendance) (firsts : List Int32) (plans : List BridgePlan) :
    ((State.start attendance firsts plans).books []).Blank := by
  have composable : Composable fun s t => (s.books []).Blank → (t.books []).Blank := ⟨fun _ => id,fun first second => second ∘ first⟩
  refine composable.start (fun _ plan blank => addBridge_blank blank plan) attendance firsts plans ⟨?_,rfl,rfl,rfl,fun _ => rfl,rfl,rfl⟩
  intro r
  simp only [books,pendingIn, registry?,empty,Table.get?_ofList,List.getElem?_map]
  cases firsts[r]? <;> rfl

end Session

end PendingCalls
