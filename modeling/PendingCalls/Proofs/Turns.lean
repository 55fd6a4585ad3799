import PendingCalls.Proofs.OpenCalls
import PendingCalls.Proofs.Polls

-- A turn of a call lets through only so many results. Whoever looks after them is turned
-- away until the next turn, however long his own result has been there.

namespace PendingCalls.Session

-- A call that is answered before it returns, and whose result is taken at once.
def answered (i : Nat) : List Step :=
  [.submit 0 .int (.ok 0) [.act (.dispatch 0 .own ⟨0,[.i32 7],none⟩)],.act (.poll i .quiet)]

namespace State

variable {s t u : State}

-- Nothing is pending on the first bridge, and so many results can be taken in the turn.
structure Vacant (s : State) (n k : Nat) : Prop where
  desk : ∃ bridge registry, s.listed? 0 = some bridge ∧ s.registry? bridge.registry = some registry ∧ registry.pending = []
  size : s.slots.size = n
  turn : s.turn = some k

-- A slot waits for a call that is pending on the first bridge, and such a waker was left.
structure Awaiting (s : State) (i : Nat) (x : Slot) (r : Nat) (op : Operation) (waker : Option Waker) : Prop where
  there : s.slot? i = some x
  waits : x.promise.state = .waiting op.channel (some .int)
  row : s.channel? op.channel = some (.waiting waker)
  desk : s.registryOf 0 = some r
  present : op ∈ s.pendingIn r

-- A call that its native side accepted is over when its promise is kept.
theorem accepted_run (listed : s.listed? b = some bridge) (registered : (s.hold b).register b = (.ok (held,op),u))
    (still : (runSteps op.handle u during).2.standing b = some (true,n)) (own : Handle) (decoder : Decoder) :
    ∃ m, ((Step.submit b decoder (.ok Status.successRaw) during).run own s).2 = { unhold { (runSteps op.handle u during).2 with
      slots := (runSteps op.handle u during).2.slots.push (some ⟨b,held.promise op decoder⟩) } b with reported := m } := by
  have finished (result : Result) := finish_kept (s := { (runSteps op.handle u during).2 with
      slots := (runSteps op.handle u during).2.slots.push (some ⟨b,held.promise op decoder⟩) }) still result
  simp only [Step.run,submitScript,listed,submit,registered,scripted,settle,if_true,keep,endCall,finished,answer]
  exact ⟨_,rfl⟩

theorem poll_spends {p : Promise} (waits : p.state = .waiting c decoder) (row : s.channel? c = some (.full o))
    (going : s.turn = some (k + 1)) (waker : Waker) : (s.poll p waker).2.2.turn = some k := by
  have out : s.exhausted = false := by
    rw [exhausted,going]
    rfl
  have spent : (s.putChannel c .spent).spend.turn = some k := congrArg (Option.map (· - 1)) going
  rw [poll_waiting waits row,out]
  rcases take_state (s.putChannel c .spent).spend p c decoder o with same | noted
  · exact (congrArg State.turn same).trans spent
  · exact (congrArg State.turn noted).trans spent

-- The next call finds its handle free, and is the only one that is pending then.
theorem Vacant.registers (vacant : s.Vacant n k) : ∃ bridge held op u, s.listed? 0 = some bridge ∧
    (s.hold 0).register 0 = (.ok (held,op),u) ∧ held.listed = true ∧ u.bridge? 0 = some held ∧
    (∃ after, u.registry? held.registry = some after ∧ after.pending = [op]) ∧ op.channel = s.channels.size ∧
    u.channels = s.channels.push .fresh ∧ u.slots = s.slots ∧ u.turn = some k := by
  obtain ⟨⟨bridge,registry,listed,row,none⟩,size,turn⟩ := vacant
  have free : registry.contains registry.allocate.1 = false := by simp [Registry.contains,Registry.find?,none]
  obtain ⟨u,registered⟩ := register_free (hold_row listed) row free
  obtain ⟨known,only,_,slots,still⟩ := registered_free registered ((pendingIn_row (s := s.hold 0) row).trans none)
  have channels : u.channels = s.channels.push .fresh := by
    obtain ⟨_,_,_,_,_,_,rfl⟩ := register_some registered
    rfl
  exact ⟨bridge,_,_,u,listed,registered,(Option.filter_eq_some_iff.mp listed).2,known,only,rfl,channels,slots,still.trans turn⟩

-- It is answered before it returns.
theorem Vacant.answers (vacant : s.Vacant n k) (own : Handle) : ∃ w x c o,
    ((Step.submit 0 .int (.ok 0) [.act (.dispatch 0 .own ⟨0,[.i32 7],none⟩)]).run own s).2 = w ∧ w.Vacant (n + 1) k ∧
    w.slot? n = some x ∧ x.promise.state = .waiting c (some .int) ∧ w.channel? c = some (.full o) := by
  obtain ⟨bridge,held,op,u,listed,registered,here,known,⟨after,row,only⟩,new,channels,kept,turn⟩ := vacant.registers
  have fresh : u.channel? op.channel = some .fresh := by
    rw [channel?,channels,new]
    exact Table.get?_push_new _ _
  have shown : u.listed? 0 = some held := Option.filter_eq_some_iff.mpr ⟨known,here⟩
  generalize brings : (⟨op.handle,0,[.i32 7],Option.none⟩ : Delivery) = d
  obtain ⟨desk,⟨left,empty,nobody⟩,full,slots,still⟩ := dispatch_only (d := d) known row only fresh (by rw [← brings])
  have inside : ∃ m, (runSteps op.handle u [.act (.dispatch 0 .own ⟨0,[.i32 7],Option.none⟩)]).2 = { (u.dispatch 0 d).2 with reported := m } := by
    simp only [runSteps,Step.run,Action.run,onBridge,shown,HandleRef.resolve,brings,answer]
    exact ⟨_,rfl⟩
  obtain ⟨m,inside⟩ := inside
  have standing : (runSteps op.handle u [.act (.dispatch 0 .own ⟨0,[.i32 7],Option.none⟩)]).2.standing 0 = some (true,held.running) := by
    rw [inside,← here]
    exact congrArg (Option.map fun bridge => (bridge.listed,bridge.running)) desk
  obtain ⟨m',ran⟩ := accepted_run listed registered standing own .int
  rw [inside] at ran
  generalize (u.dispatch 0 d).2 = v at *
  have count : v.slots.size = n := (congrArg Table.size (slots.trans kept)).trans vacant.size
  refine ⟨_,⟨0,held.promise op .int⟩,op.channel,d.outcome,ran,⟨?_,?_,still.trans turn⟩,?_,rfl,full⟩
  · refine ⟨{ held with stats := countResolved held.stats, running := held.running - 1 },left,?_,empty,nobody⟩
    have still : (v.unhold 0).bridge? 0 = some _ := changeBridge_row desk _
    exact Option.filter_eq_some_iff.mpr ⟨still,here⟩
  · exact (Table.size_push _ _).trans (congrArg (· + 1) count)
  · rw [← count]
    exact congrArg Option.join (Table.get?_push_new _ _)

-- It is not answered yet, and all others are as before.
theorem Vacant.asks (vacant : s.Vacant n k) (own : Handle) : ∃ w x r op,
    ((Step.submit 0 .int (.ok 0) []).run own s).2 = w ∧ w.Awaiting n x r op none ∧ w.turn = some k ∧
    (∀ i < n, w.slot? i = s.slot? i) ∧ ∀ c channel, s.channel? c = some channel → c ≠ op.channel ∧ w.channel? c = some channel := by
  obtain ⟨bridge,held,op,u,listed,registered,here,known,⟨after,row,only⟩,new,channels,kept,turn⟩ := vacant.registers
  have standing : (runSteps op.handle u []).2.standing 0 = some (true,held.running) := by
    rw [runSteps, State.standing,known,Option.map_some,here]
  obtain ⟨m,ran⟩ := accepted_run listed registered standing own .int
  rw [runSteps] at ran
  have count : u.slots.size = n := (congrArg Table.size kept).trans vacant.size
  have desk : (u.unhold 0).bridge? 0 = some _ := changeBridge_row known _
  refine ⟨_,⟨0,held.promise op .int⟩,held.registry,op,ran,⟨?_,rfl,?_,?_,?_⟩,turn,fun i old => ?_,fun c channel there => ?_⟩
  · rw [← count]
    exact congrArg Option.join (Table.get?_push_new _ _)
  · refine (congrArg (Table.get? · op.channel) channels).trans ?_
    rw [new]
    exact Table.get?_push_new _ _
  · exact congrArg (Option.map Bridge.registry) desk
  · have pending : op ∈ u.pendingIn held.registry := by
      rw [pendingIn_row row,only]
      exact List.mem_singleton_self op
    exact pending
  · refine (slot_push (s := u) (count ▸ old) _).trans ?_
    rw [slot?,kept,slot?]
  · have old : c < s.channels.size := Table.lt_size_of_get? there
    refine ⟨Nat.ne_of_lt (new ▸ old),(congrArg (Table.get? · c) channels).trans ?_⟩
    rw [Table.get?_push_old old]
    exact there

-- Somebody looks at a slot.
theorem polled (there : s.slot? i = some x) (waker : Waker) (own : Handle) :
    (Step.act (.poll i waker)).looks s = [⟨i,x.promise,waker,s⟩] ∧
    ∃ m, ((Step.act (.poll i waker)).run own s).2 = { (s.pollSlot i x waker).2 with reported := m } := by
  constructor
  · simp only [Step.looks,Action.looks,there,Option.toList_some,List.map_cons,List.map_nil]
  · simp only [Step.run,Action.run,onSlot,there,answer]
    exact ⟨_,rfl⟩

theorem answered_spends (vacant : s.Vacant n (k + 1)) (own : Handle) : (runSteps own s (answered n)).2.Vacant (n + 1) k := by
  obtain ⟨w,x,c,o,ran,⟨⟨bridge,registry,listed,row,none⟩,size,turn⟩,there,waits,full⟩ := vacant.answers own
  obtain ⟨_,m,looked⟩ := polled there .quiet own
  obtain ⟨channels,left,journal,rest,_⟩ := w.poll_changedByLook x.promise .quiet
  have spent := poll_spends waits full turn .quiet
  simp only [answered,runSteps]
  rw [ran,looked,pollSlot_state]
  refine ⟨⟨bridge,registry,?_,?_,none⟩,(Table.size_set _ _ _).trans size,spent⟩
  · rw [rest]
    exact listed
  · rw [rest]
    exact row

end State

theorem looksOf_append (own : Handle) (s : State) (first second : List Step) :
    looksOf own s (first ++ second) = looksOf own s first ++ looksOf own (runSteps own s first).2 second := by
  induction first generalizing s with
  | nil => rw [List.nil_append,looksOf,runSteps,List.nil_append]
  | cons step rest ih =>
    simp only [List.cons_append,looksOf,runSteps,List.append_assoc]
    rw [ih]

-- Many calls, one after another, that are answered and taken at once.
def crowd (n : Nat) : List Step := (List.range n).flatMap answered

theorem crowd_succ (n : Nat) : crowd (n + 1) = crowd n ++ answered n := by
  simp only [crowd,List.range_succ,List.flatMap_append,List.flatMap_singleton]

theorem crowd_spends (own : Handle) (vacant : s.Vacant 0 (n + k)) : (runSteps own s (crowd n)).2.Vacant n k := by
  induction n generalizing k with
  | zero => exact Nat.zero_add k ▸ vacant
  | succ n ih =>
    rw [crowd_succ,runSteps_append]
    refine State.answered_spends (ih ?_) own
    rwa [Nat.add_right_comm] at vacant

theorem State.looksDuring_nil (s : State) (b : Nat) : s.looksDuring b (fun _ _ => []) = [] := by
  unfold State.looksDuring
  split <;> rfl

theorem answered_looks (own : Handle) (s : State) (n : Nat) : ∀ l ∈ looksOf own s (answered n), l.slot = n := by
  simp only [answered,looksOf,Step.looks,State.looksDuring_nil,ite_self,List.nil_append,List.append_nil,Action.looks,List.mem_map]
  rintro l ⟨x,_,rfl⟩
  rfl

theorem crowd_looks (own : Handle) (s : State) (n : Nat) : ∀ l ∈ looksOf own s (crowd n), l.slot < n := by
  induction n with
  | zero => exact List.forall_mem_nil _
  | succ n ih =>
    rw [crowd_succ,looksOf_append]
    refine List.forall_mem_append.mpr ⟨fun l there => Nat.lt_succ_of_lt (ih l there),fun l there => ?_⟩
    exact Nat.lt_succ_of_le (Nat.le_of_eq (answered_looks _ _ n l there))

namespace State.Awaiting

variable {s : State}

-- Who looks when the turn is over is turned away, and all is as before.
theorem turned_away (awaiting : s.Awaiting i x r op before) (finished : s.turn = some 0) (waker : Waker) (own : Handle) :
    ∃ l t, Step.looks s (.act (.poll i waker)) = [l] ∧ l.slot = i ∧ l.promise = x.promise ∧ l.waker = waker ∧
      l.answer = .turnedAway waker ∧ ((Step.act (.poll i waker)).run own s).2 = t ∧ t.Awaiting i x r op before ∧ t.turn = some 0 := by
  obtain ⟨there,waits,row,desk,present⟩ := awaiting
  have out : s.exhausted = true := by
    rw [exhausted,finished]
    rfl
  have away : s.poll x.promise waker = (.turnedAway waker,x.promise,s) := by rw [poll_waiting waits row,out]
  have same : s.slots.set i (some x) = s.slots := Table.set_same (slot_row there)
  obtain ⟨looks,m,ran⟩ := polled there waker own
  rw [pollSlot_state,Slot.look,away] at ran
  simp only [same] at ran
  exact ⟨_,_,looks,rfl,rfl,rfl,congrArg Prod.fst away,ran,⟨there,waits,row,desk,present⟩,finished⟩

-- Who looks in time leaves his waker.
theorem in_time (awaiting : s.Awaiting i x r op before) (going : s.turn = some (k + 1)) (waker : Waker) (own : Handle) :
    ∃ t, ((Step.act (.poll i waker)).run own s).2 = t ∧ t.Awaiting i x r op (some waker) ∧ t.turn = some (k + 1) ∧
      t.slots = s.slots ∧ ∀ c, op.channel ≠ c → t.channel? c = s.channel? c := by
  obtain ⟨there,waits,row,desk,present⟩ := awaiting
  have inTime : s.exhausted = false := by
    rw [exhausted,going]
    rfl
  have left : s.poll x.promise waker = (.pending,x.promise,s.putChannel op.channel (.waiting (some waker))) := by
    rw [poll_waiting waits row,inTime]
  have same : s.slots.set i (some x) = s.slots := Table.set_same (slot_row there)
  have put (c : Nat) := Table.get?_set s.channels op.channel c (.waiting (some waker))
  obtain ⟨_,m,ran⟩ := polled there waker own
  rw [pollSlot_state,Slot.look,left] at ran
  simp only [same] at ran
  refine ⟨_,ran,⟨there,waits,?_,desk,present⟩,going,rfl,fun c other => (put c).trans (if_neg other)⟩
  refine (put op.channel).trans ?_
  rw [if_pos rfl,show s.channels.get? op.channel = _ from row]
  rfl

-- Who looks elsewhere leaves it alone.
theorem aside (awaiting : s.Awaiting i x r op before) (found : s.slot? j = some y) (apart : j ≠ i)
    (other : ∀ decoder, y.promise.state ≠ .waiting op.channel decoder) (waker : Waker) (own : Handle) :
    State.Awaiting ((Step.act (.poll j waker)).run own s).2 i x r op before := by
  obtain ⟨there,waits,row,desk,present⟩ := awaiting
  obtain ⟨_,m,ran⟩ := polled found waker own
  obtain ⟨channels,turn,journal,rest,elsewhere⟩ := s.poll_changedByLook y.promise waker
  rw [ran,pollSlot_state,rest]
  exact ⟨(slot_set (s := s) rfl apart).trans there,waits,(elsewhere op.channel other).trans row,desk,present⟩

end State.Awaiting

-- Whoever comes next has to wait, and if his waker panics he learns that first.
theorem State.Vacant.looks (vacant : s.Vacant n 0) (own : Handle) :
    (looksOf own s [.submit 0 .int (.ok 0) [],.act (.poll n .panicking),.act (.poll n .quiet)]).map (fun l => (l.slot,l.answer)) =
      [(n,.panicked .wakerBlewUp),(n,.pending)] := by
  obtain ⟨w,x,r,op,ran,awaiting,turn,_⟩ := vacant.asks own
  obtain ⟨first,u,looked,place,_,_,panicked,still,awaiting,turn⟩ := awaiting.turned_away turn .panicking own
  obtain ⟨second,_,again,place',_,_,pending,_⟩ := awaiting.turned_away turn .quiet own
  simp only [looksOf,Step.looks, State.looksDuring_nil,ite_self,List.nil_append,List.append_nil] at looked again ⊢
  rw [ran,still,looked,again]
  simp only [List.map_append,List.map_cons,List.map_nil,place,place',panicked,pending]
  rfl

end PendingCalls.Session
